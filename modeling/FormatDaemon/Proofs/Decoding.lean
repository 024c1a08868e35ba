import FormatDaemon.Json.Decoder

/-!
# Decoding documents without faults

What a decoder makes of a part without faults depends on the plain document of that
part alone, not on its places.

* `Node.Shape`: the shape of a part whose document is known; `shape_of_document`.
* `document_ofJson`: a plain document is its own document.
* `skip_of_document`: nothing stops a reader that passes over it.
* `Decoder.Yields`: what a decoder makes of every part with a document.
* `Decoder.Inverts`: a decoder that reads exactly what is written in some way.
* `Record.ofMembers_cons`, `Tagged.yields_split`: records and choices.
* `Says`: what a text says; `Says.ofText`: a text is read as what it says.
-/

namespace FormatDaemon.Json

variable {α β σ : Type}

/-! ### The shape of a part -/

/-- The shape of a part without faults, by its document. -/
def Node.Shape (node : Node) : Json → Prop
  | .null => ∃ span, node = .null span
  | .bool b => ∃ span, node = .bool span b
  | .number n => ∃ span, node = .number span (.ok n)
  | .string s => ∃ span, node = .string span (.ok s)
  | .array js => ∃ span items, node = .array span none items ∧ items.documents = .ok js
  | .object ms => ∃ span members, node = .object span none members ∧ members.documents = .ok ms

/-- A part with a document has its shape. -/
theorem shape_of_document {node : Node} {j : Json} (h : node.document = .ok j) : node.Shape j := by
  match node with
  | .null span => cases h; exact ⟨span, rfl⟩
  | .bool span b => cases h; exact ⟨span, rfl⟩
  | .number span (.ok n) => cases h; exact ⟨span, rfl⟩
  | .string span (.ok s) => cases h; exact ⟨span, rfl⟩
  | .array span none items =>
    rw [Node.document] at h
    cases hi : items.documents with
    | error => rw [hi] at h; cases h
    | ok js => rw [hi] at h; cases h; exact ⟨span, items, rfl, hi⟩
  | .object span none members =>
    rw [Node.document] at h
    cases hm : members.documents with
    | error => rw [hm] at h; cases h
    | ok ms => rw [hm] at h; cases h; exact ⟨span, members, rfl, hm⟩
  | .number _ (.error _) | .string _ (.error _) | .array _ (some _) _ | .object _ (some _) _
  | .broken .. => cases h

theorem members_nil {members : Members} (h : members.documents = .ok []) :
    ∃ here stop, members = .close here stop := by
  cases members with
  | close here stop => exact ⟨here, stop, rfl⟩
  | misnamed | stuck => cases h
  | member here span name behind node rest =>
    rw [Members.documents] at h
    cases name with
    | error => cases h
    | ok =>
      cases hn : node.document with
      | error => rw [hn] at h; cases h
      | ok => cases hr : rest.documents <;> (rw [hn, hr] at h; cases h)

theorem members_cons {members : Members} {name : String} {j : Json} {ms : List (String × Json)}
    (h : members.documents = .ok ((name, j) :: ms)) :
    ∃ here span behind node rest, members = .member here span (.ok name) behind node rest ∧
      node.document = .ok j ∧ rest.documents = .ok ms := by
  cases members with
  | close | misnamed | stuck => cases h
  | member here span name? behind node rest =>
    rw [Members.documents] at h
    cases name? with
    | error => cases h
    | ok found =>
      cases hn : node.document with
      | error => rw [hn] at h; cases h
      | ok head =>
        cases hr : rest.documents with
        | error => rw [hn, hr] at h; cases h
        | ok tail =>
          rw [hn, hr] at h
          cases h
          exact ⟨here, span, behind, node, rest, rfl, hn, hr⟩

theorem items_nil {items : Items} (h : items.documents = .ok []) :
    ∃ stop, items = .close stop := by
  cases items with
  | close stop => exact ⟨stop, rfl⟩
  | stuck => cases h
  | item surplus node rest =>
    rw [Items.documents] at h
    cases hn : node.document with
    | error => rw [hn] at h; cases h
    | ok => cases hr : rest.documents <;> (rw [hn, hr] at h; cases h)

theorem items_cons {items : Items} {j : Json} {js : List Json}
    (h : items.documents = .ok (j :: js)) :
    ∃ surplus node rest, items = .item surplus node rest ∧ node.document = .ok j ∧
      rest.documents = .ok js := by
  cases items with
  | close | stuck => cases h
  | item surplus node rest =>
    rw [Items.documents] at h
    cases hn : node.document with
    | error => rw [hn] at h; cases h
    | ok head =>
      cases hr : rest.documents with
      | error => rw [hn, hr] at h; cases h
      | ok tail =>
        rw [hn, hr] at h
        cases h
        exact ⟨surplus, node, rest, rfl, hn, hr⟩

mutual

/-- Nothing stops a reader that passes over a part without faults. -/
theorem skip_of_document {node : Node} {j : Json} (h : node.document = .ok j) :
    node.skip = none := by
  match node with
  | .null _ | .bool _ _ | .number _ _ | .string _ _ => rfl
  | .array _ none items =>
    rw [Node.document] at h
    cases hi : items.documents with
    | error => rw [hi] at h; cases h
    | ok js => exact skip_of_items hi
  | .object _ none members =>
    rw [Node.document] at h
    cases hm : members.documents with
    | error => rw [hm] at h; cases h
    | ok ms => exact skip_of_members hm
  | .array _ (some _) _ | .object _ (some _) _ | .broken .. => cases h

theorem skip_of_items {items : Items} {js : List Json} (h : items.documents = .ok js) :
    items.skip = none := by
  match items, js with
  | .close _, _ => rfl
  | .stuck .., _ => cases h
  | .item surplus node rest, [] => obtain ⟨stop, he⟩ := items_nil h; cases he
  | .item surplus node rest, j :: js =>
    obtain ⟨_, _, _, he, hn, hr⟩ := items_cons h
    cases he
    rw [Items.skip, skip_of_document hn, skip_of_items hr, Option.or_none]

theorem skip_of_members {members : Members} {ms : List (String × Json)}
    (h : members.documents = .ok ms) : members.skip = none := by
  match members, ms with
  | .close .., _ => rfl
  | .misnamed .., _ | .stuck .., _ => cases h
  | .member .., [] => obtain ⟨here, stop, he⟩ := members_nil h; cases he
  | .member here span name behind node rest, (_, j) :: ms =>
    obtain ⟨_, _, _, _, _, he, hn, hr⟩ := members_cons h
    cases he
    rw [Members.skip, skip_of_document hn, skip_of_members hr, Option.or_none]

end

/-! ### Plain documents -/

section Plain

variable (surplus : Nat → Nat → Fault)

mutual

/-- A plain document is its own document. -/
@[simp] theorem document_ofJson (j : Json) : (Node.ofJson surplus j).document = .ok j := by
  match j with
  | .null | .bool _ | .number _ | .string _ => rfl
  | .array items =>
    rw [Node.ofJson, Node.document, documents_ofItems]
    rfl
  | .object members =>
    rw [Node.ofJson, Node.document, documents_ofMembers]
    rfl

theorem documents_ofItems (total taken : Nat) (items : List Json) :
    (Items.ofJson surplus total taken items).documents = .ok items := by
  match items with
  | [] => rfl
  | item :: rest =>
    rw [Items.ofJson, Items.documents, document_ofJson, documents_ofItems]
    rfl

theorem documents_ofMembers (members : List (String × Json)) :
    (Members.ofJson surplus members).documents = .ok members := by
  match members with
  | [] => rfl
  | (name, value) :: rest =>
    rw [Members.ofJson, Members.documents, document_ofJson, documents_ofMembers]
    rfl

end

end Plain

theorem document_ofValue (j : Json) : (Node.ofValue j).document = .ok j := document_ofJson _ j

theorem document_ofPart (j : Json) : (Node.ofPart j).document = .ok j := document_ofJson _ j

namespace Decoder

/-- A decoder makes the same of every part with a document, wherever that stands. -/
def Yields (d : Decoder α) (j : Json) (a : α) : Prop :=
  ∀ node : Node, node.document = .ok j → d node = .ok a

theorem Yields.ofPart {d : Decoder α} {j : Json} {a : α} (h : d.Yields j a) :
    ofPart d j = .ok a := h _ (document_ofPart j)

theorem Yields.ofValue {d : Decoder α} {j : Json} {a : α} (h : d.Yields j a) :
    ofValue d j = .ok a := h _ (document_ofValue j)

/-! ### Basic decoders -/

theorem yields_textual (expected s : String) : (textual expected).Yields (.string s) s := by
  intro node h
  obtain ⟨span, rfl⟩ := shape_of_document h
  rfl

theorem yields_string (s : String) : string.Yields (.string s) s := yields_textual _ s

theorem yields_boolean (b : Bool) : boolean.Yields (.bool b) b := by
  intro node h
  obtain ⟨span, rfl⟩ := shape_of_document h
  rfl

theorem yields_none (d : Decoder α) : (option d).Yields .null none := by
  intro node h
  obtain ⟨span, rfl⟩ := shape_of_document h
  rfl

theorem Yields.some {d : Decoder α} {j : Json} {a : α} (h : d.Yields j a) (hj : j ≠ .null) :
    (option d).Yields j (some a) := by
  intro node hn
  unfold option
  split
  -- only a null is read as none
  case h_1 span => cases hn; exact absurd rfl hj
  case h_2 => rw [h node hn]; rfl

theorem yields_value (j : Json) : value.Yields j j.normal := by
  intro node h
  rw [value, h]
  rfl

variable {members : Members} {name : String} {j : Json} {ms : List (String × Json)}

theorem membersOf_value (h : members.documents = .ok ms) :
    membersOf value members = .ok (normalMembers ms) := by
  induction ms generalizing members with
  | nil =>
    obtain ⟨here, stop, rfl⟩ := members_nil h
    rfl
  | cons m rest ih =>
    obtain ⟨here, span, behind, node, tail, rfl, hn, ht⟩ := members_cons h
    rw [membersOf, yields_value m.2 node hn, ih ht]
    rfl

theorem yields_freeform (ms : List (String × Json)) :
    freeform.Yields (.object ms) (Table.ofList (normalMembers ms)) := by
  intro node h
  obtain ⟨span, members, rfl, hm⟩ := shape_of_document h
  rw [freeform, table, membersOf_value hm]
  rfl

/-! ### Decoders that undo a way of writing -/

/-- A decoder reads exactly what is written in some way, as what was written. -/
def Inverts (d : Decoder α) (write : α → Json) : Prop :=
  ∀ (node : Node) (j : Json), node.document = .ok j → ∀ a, d node = .ok a ↔ j = write a

theorem Inverts.yields {d : Decoder α} {write : α → Json} (h : d.Inverts write) (a : α) :
    d.Yields (write a) a := fun node hn => (h node _ hn a).2 rfl

theorem inverts_textual (expected : String) : (textual expected).Inverts .string := by
  intro node j h s
  cases j with
  | string t =>
    obtain ⟨span, rfl⟩ := shape_of_document h
    change Except.ok t = Except.ok s ↔ Json.string t = .string s
    rw [Except.ok.injEq, Json.string.injEq]
  | null | bool | number =>
    obtain ⟨span, rfl⟩ := shape_of_document h
    exact ⟨nofun, nofun⟩
  | array | object =>
    obtain ⟨span, parts, rfl, -⟩ := shape_of_document h
    exact ⟨nofun, nofun⟩

theorem inverts_string : string.Inverts .string := inverts_textual _

theorem Inverts.option {d : Decoder α} {write : α → Json} (h : d.Inverts write)
    (hn : ∀ a, write a ≠ .null) : (option d).Inverts (.ofOption write) := by
  intro node j hd a?
  by_cases hj : j = .null
  · subst hj
    obtain ⟨span, rfl⟩ := shape_of_document hd
    cases a? with
    | none => exact ⟨fun _ => rfl, fun _ => rfl⟩
    | some a => exact ⟨nofun, fun e => absurd e.symm (hn a)⟩
  · have read : Decoder.option d node = (d node).map Option.some := by
      unfold Decoder.option
      split
      case h_1 => cases hd; exact absurd rfl hj
      case h_2 => rfl
    rw [read]
    cases a? with
    | none =>
      refine ⟨fun e => ?_, fun e => absurd e hj⟩
      cases hr : d node <;> (rw [hr] at e; cases e)
    | some a =>
      rw [show Json.ofOption write (some a) = write a from rfl, ← h node j hd a]
      cases d node with
      | error => exact ⟨nofun, nofun⟩
      | ok b => simp [Except.map]

theorem itemsOf_eq_ok_iff {d : Decoder α} {write : α → Json} (h : d.Inverts write)
    {items : Items} {js : List Json} (hd : items.documents = .ok js) (as : List α) :
    itemsOf d items = .ok as ↔ js = as.map write := by
  induction js generalizing items as with
  | nil =>
    obtain ⟨stop, rfl⟩ := items_nil hd
    cases as with
    | nil => exact ⟨fun _ => rfl, fun _ => rfl⟩
    | cons => exact ⟨nofun, nofun⟩
  | cons j rest ih =>
    obtain ⟨surplus, node, tail, rfl, hn, ht⟩ := items_cons hd
    cases as with
    | nil =>
      refine ⟨fun e => ?_, nofun⟩
      rw [itemsOf] at e
      cases hh : d node with
      | error => rw [hh] at e; cases e
      | ok => cases hr : itemsOf d tail <;> (rw [hh, hr] at e; cases e)
    | cons a as =>
      rw [List.map_cons, List.cons.injEq, ← h node j hn a, ← ih ht as, itemsOf]
      cases d node with
      | error => exact ⟨nofun, nofun⟩
      | ok b =>
        cases itemsOf d tail with
        | error => exact ⟨nofun, nofun⟩
        | ok bs => simp [bind, Except.bind, pure, Except.pure]

theorem Inverts.list {d : Decoder α} {write : α → Json} (h : d.Inverts write) :
    (list d).Inverts fun as => .array (as.map write) := by
  intro node j hd as
  cases j with
  | array js =>
    obtain ⟨span, items, rfl, hi⟩ := shape_of_document hd
    rw [Json.array.injEq]
    exact itemsOf_eq_ok_iff h hi as
  | null | bool | number | string =>
    obtain ⟨span, rfl⟩ := shape_of_document hd
    exact ⟨nofun, nofun⟩
  | object =>
    obtain ⟨span, members, rfl, -⟩ := shape_of_document hd
    exact ⟨nofun, nofun⟩

theorem membersOf_eq_ok_iff {d : Decoder α} {write : α → Json} (h : d.Inverts write)
    {members : Members} {ms : List (String × Json)} (hd : members.documents = .ok ms)
    (entries : List (String × α)) :
    membersOf d members = .ok entries ↔ ms = entries.map fun e => (e.1, write e.2) := by
  induction ms generalizing members entries with
  | nil =>
    obtain ⟨here, stop, rfl⟩ := members_nil hd
    cases entries with
    | nil => exact ⟨fun _ => rfl, fun _ => rfl⟩
    | cons => exact ⟨nofun, nofun⟩
  | cons m rest ih =>
    obtain ⟨name, j⟩ := m
    obtain ⟨here, span, behind, node, tail, rfl, hn, ht⟩ := members_cons hd
    cases entries with
    | nil =>
      refine ⟨fun e => ?_, nofun⟩
      rw [membersOf] at e
      cases hh : d node with
      | error => rw [hh] at e; cases e
      | ok => cases hr : membersOf d tail <;> (rw [hh, hr] at e; cases e)
    | cons e entries =>
      obtain ⟨name', a⟩ := e
      rw [List.map_cons, List.cons.injEq, Prod.mk.injEq, ← h node j hn a, ← ih ht entries,
        membersOf]
      cases d node with
      | error => exact ⟨nofun, fun e => nomatch e.1.2⟩
      | ok b =>
        cases membersOf d tail with
        | error => exact ⟨nofun, fun e => nomatch e.2⟩
        | ok bs => simp [bind, Except.bind, pure, Except.pure]

/-- A table is read off any object of its values; of members with one name the last stays. -/
theorem table_eq_ok_iff {d : Decoder α} {write : α → Json} (h : d.Inverts write) {node : Node}
    {j : Json} (hd : node.document = .ok j) (t : Table α) :
    table d node = .ok t ↔
      ∃ entries, j = .object (entries.map fun e => (e.1, write e.2)) ∧ t = .ofList entries := by
  cases j with
  | object ms =>
    obtain ⟨span, members, rfl, hm⟩ := shape_of_document hd
    have read := membersOf_eq_ok_iff h hm
    rw [table]
    constructor
    · intro e
      cases hr : membersOf d members with
      | error => rw [hr] at e; cases e
      | ok entries =>
        rw [hr] at e
        cases e
        exact ⟨entries, congrArg Json.object ((read entries).1 hr), rfl⟩
    · rintro ⟨entries, he, rfl⟩
      rw [(read entries).2 (Json.object.inj he)]
      rfl
  | null | bool | number | string =>
    obtain ⟨span, rfl⟩ := shape_of_document hd
    exact ⟨nofun, nofun⟩
  | array =>
    obtain ⟨span, items, rfl, -⟩ := shape_of_document hd
    exact ⟨nofun, nofun⟩

/-! ### Members of a record -/

namespace Record

variable {r : Record σ α} {s s' : σ}

theorem close_eq_ok_iff {mark : Mark} {a : α} : r.close s mark = .ok a ↔ r.finish s = .ok a := by
  unfold close
  cases r.finish s <;> simp

theorem ofMembers_nil {a : α} (hf : r.finish s = .ok a) (h : members.documents = .ok []) :
    r.ofMembers s members = .ok a := by
  obtain ⟨here, stop, rfl⟩ := members_nil h
  rw [ofMembers, close, hf]

/-- A member with the name of a field is read for it, unless the field is filled. -/
theorem ofMembers_known {slot : Slot σ} (hs : r.slots.find? (·.name == name) = some slot)
    (h : members.documents = .ok ((name, j) :: ms)) :
    ∃ behind node rest, node.document = .ok j ∧ rest.documents = .ok ms ∧
      r.ofMembers s members =
        if slot.filled s then .error ⟨.repeatedField name, behind⟩
        else (slot.read node s).bind (r.ofMembers · rest) := by
  obtain ⟨here, span, behind, node, rest, rfl, hn, ht⟩ := members_cons h
  refine ⟨behind, node, rest, hn, ht, ?_⟩
  rw [ofMembers]
  simp only [bind, Except.bind, hs]

/-- The same for a field that keeps what it reads: a second member of its name is refused. -/
theorem ofMembers_field {get : σ → Option β} {set : β → σ → σ} {d : Decoder β}
    {absent? : Option (σ → σ)} {R : β → Prop}
    (hs : r.slots.find? (·.name == name) = some { field name get set d with absent? := absent? })
    (read : ∀ node : Node, node.document = .ok j → ∀ b, d node = .ok b ↔ R b)
    (h : members.documents = .ok ((name, j) :: ms)) :
    ∃ rest, rest.documents = .ok ms ∧ ∀ a, r.ofMembers s members = .ok a ↔
      get s = none ∧ ∃ b, R b ∧ r.ofMembers (set b s) rest = .ok a := by
  obtain ⟨behind, node, rest, hn, ht, step⟩ := ofMembers_known (s := s) hs h
  refine ⟨rest, ht, fun a => ?_⟩
  have step : r.ofMembers s members =
      if (get s).isSome then .error ⟨.repeatedField name, behind⟩
      else ((d node).map (set · s)).bind (r.ofMembers · rest) := step
  rw [step]
  cases get s with
  | some => exact ⟨nofun, fun e => nomatch e.1⟩
  | none =>
    rw [Option.isSome_none, if_neg Bool.false_ne_true]
    simp only [← read node hn, true_and]
    cases d node with
    | error => exact ⟨nofun, fun ⟨_, e, _⟩ => nomatch e⟩
    | ok b => simp [Except.map, Except.bind]

/-- A member with any other name is passed over. -/
theorem ofMembers_unknown (hs : r.slots.find? (·.name == name) = none)
    (h : members.documents = .ok ((name, j) :: ms)) :
    ∃ rest, rest.documents = .ok ms ∧ r.ofMembers s members = r.ofMembers s rest := by
  obtain ⟨here, span, behind, node, rest, rfl, hn, ht⟩ := members_cons h
  refine ⟨rest, ht, ?_⟩
  rw [ofMembers]
  simp only [bind, Except.bind, hs, skip_of_document hn]

/-- Unknown members in front of a plain document are passed over. -/
theorem ofMembers_passed {surplus : Nat → Nat → Fault} {before : List (String × Json)}
    (unknown : ∀ m ∈ before, r.slots.find? (·.name == m.1) = none) :
    r.ofMembers s (.ofJson surplus (before ++ ms)) = r.ofMembers s (.ofJson surplus ms) := by
  induction before with
  | nil => rfl
  | cons m more ih =>
    have passed : (Node.ofJson surplus m.2).skip = none :=
      skip_of_document (document_ofJson surplus m.2)
    rw [List.cons_append, Members.ofJson, ofMembers]
    simp only [bind, Except.bind, unknown m List.mem_cons_self, passed]
    exact ih fun m hm => unknown m (List.mem_cons_of_mem _ hm)

/-- A member with the name of an empty field fills it. -/
theorem ofMembers_cons {slot : Slot σ} (hs : r.slots.find? (·.name == name) = some slot)
    (hf : slot.filled s = false) (hr : Yields (slot.read · s) j s') {a : α}
    (next : ∀ rest : Members, rest.documents = .ok ms → r.ofMembers s' rest = .ok a)
    (h : members.documents = .ok ((name, j) :: ms)) : r.ofMembers s members = .ok a := by
  obtain ⟨behind, node, rest, hn, ht, step⟩ := ofMembers_known (s := s) hs h
  have read : slot.read node s = .ok s' := hr node hn
  rw [step, hf, if_neg Bool.false_ne_true, read]
  exact next rest ht

/-- An item is read for the field at its place. -/
theorem ofItems_field {items : Items} {js : List Json} {get : σ → Option β} {set : β → σ → σ}
    {d : Decoder β} {absent? : Option (σ → σ)} {R : β → Prop}
    (read : ∀ node : Node, node.document = .ok j → ∀ b, d node = .ok b ↔ R b)
    {slots : List (Slot σ)} {taken : Nat} (h : items.documents = .ok (j :: js)) :
    ∃ rest, rest.documents = .ok js ∧ ∀ s a,
      r.ofItems ({ field name get set d with absent? := absent? } :: slots) taken s items = .ok a ↔
        ∃ b, R b ∧ r.ofItems slots (taken + 1) (set b s) rest = .ok a := by
  obtain ⟨surplus, node, rest, rfl, hn, ht⟩ := items_cons h
  refine ⟨rest, ht, fun s a => ?_⟩
  have step : r.ofItems ({ field name get set d with absent? := absent? } :: slots) taken s
      (.item surplus node rest) =
      ((d node).map (set · s)).bind (r.ofItems slots (taken + 1) · rest) := by
    rw [ofItems]
    rfl
  rw [step]
  simp only [← read node hn]
  cases d node with
  | error => exact ⟨nofun, fun ⟨_, e, _⟩ => nomatch e⟩
  | ok b => simp [Except.map, Except.bind]

theorem yields_decode {a : α}
    (h : ∀ members : Members, members.documents = .ok ms → r.ofMembers r.blank members = .ok a) :
    r.decode.Yields (.object ms) a := by
  intro node hn
  obtain ⟨span, members, rfl, hm⟩ := shape_of_document hn
  exact h members hm

end Record

theorem Yields.map {d : Decoder α} {a : α} (h : d.Yields j a) (f : α → β) :
    Yields (fun node => (d node).map f) j (f a) := by
  intro node hn
  change (d node).map f = .ok (f a)
  rw [h node hn]
  rfl

/-! ### Members of a choice -/

namespace Tagged

variable {t : Tagged} {found? : Option Nat} {index : Nat} {label : String}

/-- Once the mark is read, all other members are set aside. -/
theorem ofMembers_rest (hn : ∀ m ∈ ms, m.1 ≠ t.tag) (h : members.documents = .ok ms) :
    t.ofMembers (some index) members = .ok (index, ms) := by
  induction ms generalizing members with
  | nil =>
    obtain ⟨here, stop, rfl⟩ := members_nil h
    rfl
  | cons m rest ih =>
    obtain ⟨here, span, behind, node, tail, rfl, hd, ht⟩ := members_cons h
    have others := ih (fun m hm => hn m (List.mem_cons_of_mem _ hm)) ht
    unfold ofMembers
    simp only [bind, Except.bind, if_neg (hn m List.mem_cons_self), hd, others]
    rfl

/-- A marked object whose mark comes first. -/
theorem yields_split (hl : t.known.idxOf? label = some index) (hn : ∀ m ∈ ms, m.1 ≠ t.tag) :
    Yields t.split (.object ((t.tag, .string label) :: ms)) (index, .object ms) := by
  intro node h
  obtain ⟨span, members, rfl, hm⟩ := shape_of_document h
  -- the mark comes first, so no member has to be kept for later
  obtain ⟨here, span, behind, mark, rest, rfl, hd, ht⟩ := members_cons hm
  obtain ⟨place, rfl⟩ := shape_of_document hd
  have known : variant t.known t.numbered (.string place (.ok label)) = .ok index := by
    simp only [variant, bind, Except.bind, variantIndex, hl]
  unfold split ofMembers
  simp only [bind, Except.bind, if_true, known, ofMembers_rest hn ht]
  rfl

end Tagged

end Decoder

/-! ### Texts -/

/-- What a text says, if there is nothing wrong with it. -/
def Says (text : String) (j : Json) : Prop :=
  let document := Document.ofText (some Reader.depthLimit) text
  document.root.document = .ok j ∧ document.surplus? = none

/-- A decoder of a text reads a part with the document of the text. -/
theorem Says.ofText {text : String} {j : Json} (h : Says text j) :
    ∃ node : Node, node.document = .ok j ∧
      ∀ {α : Type} (d : Decoder α), Decoder.ofText d text = d node := by
  obtain ⟨said, whole⟩ := h
  refine ⟨_, said, fun d => ?_⟩
  unfold Decoder.ofText
  simp only [whole]
  cases d (Document.ofText (some Reader.depthLimit) text).root <;> rfl

end FormatDaemon.Json

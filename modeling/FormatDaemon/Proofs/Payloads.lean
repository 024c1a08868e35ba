import FormatDaemon.Proofs.Decoding
import FormatDaemon.Wire.Payload

/-!
# The grammar of payloads and calls

Which values are read as a payload, and which as a call.

* `IsPayload`, `IsListed`: the two forms of a payload, by names and by places.
* `payload_eq_ok_iff`: **what is read as a payload has one of the two forms**.
* `Calls`, `callShape_eq_ok_iff`: **what is read as a call is a payload, alone or behind
  an argument**.
* `isPayload_ofPayload`: a payload reads as it was written.
-/

namespace FormatDaemon

/-- What stands under a name in an object. -/
def Json.under (name : String) (members : List (String × Json)) : List Json :=
  (members.filter (·.1 == name)).map (·.2)

namespace Wire

open Json (under)
open Json.Decoder

/-! ### Payloads -/

/-- A list of texts. -/
def IsTexts (j : Json) (texts : List String) : Prop := j = .array (texts.map .string)

/-- An object of texts and nulls; of members with one name the last stays. -/
def IsChanges (j : Json) (changes : Table (Option String)) : Prop :=
  ∃ entries, j = .object (entries.map fun e => (e.1, .ofOption .string e.2)) ∧
    changes = .ofList entries

/-- **A payload**: an object with a list of texts under `args`, and with changes under
`clientEnv` unless there are none. Its other members do not matter. -/
inductive IsPayload : Json → Payload → Prop
  | unchanged {members : List (String × Json)} {j : Json} {args : List String}
      (named : under "args" members = [j]) (texts : IsTexts j args)
      (absent : under "clientEnv" members = []) :
    IsPayload (.object members) ⟨args, .empty⟩
  | changed {members : List (String × Json)} {j k : Json} {args : List String}
      {changes : Table (Option String)}
      (named : under "args" members = [j]) (texts : IsTexts j args)
      (present : under "clientEnv" members = [k]) (changed : IsChanges k changes) :
    IsPayload (.object members) ⟨args, changes⟩

/-- The parts of a payload by their places. -/
inductive IsListed : Json → Payload → Prop
  | unchanged {j : Json} {args : List String} (texts : IsTexts j args) :
    IsListed (.array [j]) ⟨args, .empty⟩
  | changed {j k : Json} {args : List String} {changes : Table (Option String)}
      (texts : IsTexts j args) (changed : IsChanges k changes) :
    IsListed (.array [j, k]) ⟨args, changes⟩

/-! ### Fields -/

/-- How a field is filled from what stands under its name: it is read from the only value
there, or stays as it was. -/
def Fills {α : Type} (R : Json → α → Prop) (before? : Option α) (js : List Json)
    (after? : Option α) : Prop :=
  (js = [] ∧ after? = before?) ∨
    (before? = none ∧ ∃ j a, js = [j] ∧ R j a ∧ after? = some a)

variable {α : Type} {R : Json → α → Prop} {before? after? : Option α} {j : Json} {js : List Json}

theorem fills_nil : Fills R before? [] after? ↔ after? = before? := by
  simp [Fills]

/-- What stands there first is read, and then nothing more may follow. -/
theorem fills_cons : Fills R before? (j :: js) after? ↔
    before? = none ∧ ∃ a, R j a ∧ Fills R (some a) js after? := by
  constructor
  · rintro (⟨e, -⟩ | ⟨hb, _, a, e, hr, ha⟩)
    · cases e
    · cases e
      exact ⟨hb, a, hr, .inl ⟨rfl, ha⟩⟩
  · rintro ⟨hb, a, hr, ⟨rfl, ha⟩ | ⟨e, -⟩⟩
    · exact .inr ⟨hb, j, a, rfl, hr, ha⟩
    · cases e

theorem texts_eq_ok_iff {node : Json.Node} (h : node.document = .ok j) (texts : List String) :
    list string node = .ok texts ↔ IsTexts j texts := inverts_string.list node j h texts

theorem changes_eq_ok_iff {node : Json.Node} (h : node.document = .ok j)
    (changes : Table (Option String)) :
    table (option string) node = .ok changes ↔ IsChanges j changes :=
  table_eq_ok_iff (inverts_string.option (by simp)) h changes

theorem under_cons_self (name : String) (j : Json) (ms : List (String × Json)) :
    under name ((name, j) :: ms) = j :: under name ms := by
  simp [under]

theorem under_cons_ne {name name' : String} (hn : name' ≠ name) (j : Json)
    (ms : List (String × Json)) : under name ((name', j) :: ms) = under name ms := by
  simp [under, hn]

theorem under_append (name : String) (ms ms' : List (String × Json)) :
    under name (ms ++ ms') = under name ms ++ under name ms' := by
  simp [under]

/-- The fields of a payload are filled independently, each from what stands under its name. -/
theorem ofMembers_payload {members : Json.Members} {ms : List (String × Json)}
    (h : members.documents = .ok ms) (s : PayloadDraft) (p : Payload) :
    payloadRecord.ofMembers s members = .ok p ↔ ∃ d : PayloadDraft,
      Fills IsTexts s.args? (under "args" ms) d.args? ∧
      Fills IsChanges s.clientEnv? (under "clientEnv" ms) d.clientEnv? ∧
      payloadRecord.finish d = .ok p := by
  -- any draft can be the start, for a member is read into what those before it filled
  induction ms generalizing members s with
  | nil =>
    obtain ⟨here, stop, rfl⟩ := Json.members_nil h
    rw [Record.ofMembers, Record.close_eq_ok_iff]
    constructor
    · intro e
      exact ⟨s, fills_nil.2 rfl, fills_nil.2 rfl, e⟩
    · rintro ⟨⟨args?, changes?⟩, ha, hc, e⟩
      obtain rfl : args? = s.args? := fills_nil.1 ha
      obtain rfl : changes? = s.clientEnv? := fills_nil.1 hc
      exact e
  | cons m rest ih =>
    obtain ⟨name, j⟩ := m
    by_cases ha : name = "args"
    · subst ha
      obtain ⟨tail, ht, step⟩ := Record.ofMembers_field (r := payloadRecord) (s := s) rfl
        (fun node hn => texts_eq_ok_iff hn) h
      rw [step, under_cons_self, under_cons_ne (by decide)]
      simp only [fills_cons, ih ht]
      constructor
      · rintro ⟨hs, a, hj, d, hd, hc, e⟩
        exact ⟨d, ⟨hs, a, hj, hd⟩, hc, e⟩
      · rintro ⟨d, ⟨hs, a, hj, hd⟩, hc, e⟩
        exact ⟨hs, a, hj, d, hd, hc, e⟩
    by_cases hc : name = "clientEnv"
    · subst hc
      obtain ⟨tail, ht, step⟩ := Record.ofMembers_field (r := payloadRecord) (s := s) rfl
        (fun node hn => changes_eq_ok_iff hn) h
      rw [step, under_cons_self, under_cons_ne (by decide)]
      simp only [fills_cons, ih ht]
      constructor
      · rintro ⟨hs, a, hj, d, hd, hc, e⟩
        exact ⟨d, hd, ⟨hs, a, hj, hc⟩, e⟩
      · rintro ⟨d, hd, ⟨hs, a, hj, hc⟩, e⟩
        exact ⟨hs, a, hj, d, hd, hc, e⟩
    · have unknown : payloadRecord.slots.find? (·.name == name) = none := by
        simp [payloadRecord, field, trailing, Ne.symm ha, Ne.symm hc]
      obtain ⟨tail, ht, step⟩ := Record.ofMembers_unknown (s := s) unknown h
      rw [step, under_cons_ne ha, under_cons_ne hc]
      exact ih ht s

theorem finish_payload (d : PayloadDraft) (p : Payload) :
    payloadRecord.finish d = .ok p ↔
      d.args? = some p.args ∧ p.clientEnv = d.clientEnv?.getD .empty := by
  obtain ⟨args?, changes?⟩ := d
  obtain ⟨args, changes⟩ := p
  cases args? with
  | none => exact ⟨nofun, fun e => nomatch e.1⟩
  | some args' =>
    change Except.ok (Payload.mk args' (changes?.getD .empty)) = .ok ⟨args, changes⟩ ↔ _
    rw [Except.ok.injEq, Payload.mk.injEq, Option.some.injEq]
    exact and_congr_right fun _ => eq_comm

theorem isPayload_object {ms : List (String × Json)} {p : Payload} :
    IsPayload (.object ms) p ↔ ∃ d : PayloadDraft,
      Fills IsTexts none (under "args" ms) d.args? ∧
      Fills IsChanges none (under "clientEnv" ms) d.clientEnv? ∧
      payloadRecord.finish d = .ok p := by
  simp only [finish_payload]
  constructor
  · intro h
    cases h with
    | @unchanged _ j args named texts absent =>
      exact ⟨⟨some args, none⟩, .inr ⟨rfl, j, args, named, texts, rfl⟩, .inl ⟨absent, rfl⟩,
        rfl, rfl⟩
    | @changed _ j k args changes named texts present changed =>
      exact ⟨⟨some args, some changes⟩, .inr ⟨rfl, j, args, named, texts, rfl⟩,
        .inr ⟨rfl, k, changes, present, changed, rfl⟩, rfl, rfl⟩
  · rintro ⟨⟨args?, changes?⟩, ha, hc, hargs, hchanges⟩
    obtain ⟨args, changes⟩ := p
    dsimp only at ha hc hargs hchanges
    subst hargs hchanges
    rcases ha with ⟨-, e⟩ | ⟨-, j, _, named, texts, e⟩
    · cases e
    · cases e
      rcases hc with ⟨absent, rfl⟩ | ⟨-, k, changes, present, changed, rfl⟩
      · exact .unchanged named texts absent
      · exact .changed named texts present changed

theorem isListed_one {p : Payload} :
    IsListed (.array [j]) p ↔ IsTexts j p.args ∧ p.clientEnv = .empty := by
  obtain ⟨args, changes⟩ := p
  constructor
  · rintro ⟨texts⟩
    exact ⟨texts, rfl⟩
  · rintro ⟨texts, rfl⟩
    exact .unchanged texts

theorem isListed_two {k : Json} {p : Payload} :
    IsListed (.array [j, k]) p ↔ IsTexts j p.args ∧ IsChanges k p.clientEnv := by
  constructor
  · intro h
    cases h with
    | changed texts changed => exact ⟨texts, changed⟩
  · rintro ⟨texts, changed⟩
    exact .changed texts changed

/-- The items of a list are read for the fields of a payload in their order. -/
theorem ofItems_payload {span : Json.Span} {items : Json.Items}
    (h : items.documents = .ok js) (p : Payload) :
    payload (.array span none items) = .ok p ↔ IsListed (.array js) p := by
  cases js with
  | nil =>
    obtain ⟨stop, rfl⟩ := Json.items_nil h
    constructor
    · intro e
      cases e
    · intro e
      cases e
  | cons j js =>
    have first : ∃ rest, rest.documents = .ok js ∧ ∀ s p,
        payloadRecord.ofItems payloadRecord.slots 0 s items = .ok p ↔ ∃ args, IsTexts j args ∧
          payloadRecord.ofItems payloadRecord.slots.tail 1 { s with args? := some args } rest =
            .ok p := Record.ofItems_field (fun node hn => texts_eq_ok_iff hn) h
    obtain ⟨rest, ht, first⟩ := first
    refine (first {} p).trans ?_
    cases js with
    | nil =>
      -- the changes may be left out
      obtain ⟨stop, rfl⟩ := Json.items_nil ht
      have closed (d : PayloadDraft) : payloadRecord.ofItems payloadRecord.slots.tail 1 d
          (.close stop) = payloadRecord.close d stop := rfl
      simp only [closed, Record.close_eq_ok_iff, finish_payload, isListed_one]
      constructor
      · rintro ⟨args, texts, e, unchanged⟩
        cases e
        exact ⟨texts, unchanged⟩
      · rintro ⟨texts, unchanged⟩
        exact ⟨p.args, texts, rfl, unchanged⟩
    | cons k js =>
      have second : ∃ last, last.documents = .ok js ∧ ∀ s p,
          payloadRecord.ofItems payloadRecord.slots.tail 1 s rest = .ok p ↔
            ∃ changes, IsChanges k changes ∧
              payloadRecord.ofItems [] 2 { s with clientEnv? := some changes } last = .ok p :=
        Record.ofItems_field (fun node hn => changes_eq_ok_iff hn) ht
      obtain ⟨last, hl, second⟩ := second
      simp only [second]
      cases js with
      | nil =>
        obtain ⟨stop, rfl⟩ := Json.items_nil hl
        simp only [Record.ofItems, Record.close_eq_ok_iff, finish_payload, isListed_two]
        constructor
        · rintro ⟨args, texts, changes, changed, e, f⟩
          cases e
          exact ⟨texts, f ▸ changed⟩
        · rintro ⟨texts, changed⟩
          exact ⟨p.args, texts, p.clientEnv, changed, rfl, rfl⟩
      | cons l js =>
        obtain ⟨surplus, node, more, rfl, -, -⟩ := Json.items_cons hl
        constructor
        · rintro ⟨args, texts, changes, changed, e⟩
          cases e
        · intro e
          cases e

/-- **What is read as a payload**: an object of its parts, or their list. -/
theorem payload_eq_ok_iff {node : Json.Node} (h : node.document = .ok j) (p : Payload) :
    payload node = .ok p ↔ IsPayload j p ∨ IsListed j p := by
  cases j with
  | object ms =>
    obtain ⟨span, members, rfl, hm⟩ := Json.shape_of_document h
    have unlisted : ¬ IsListed (.object ms) p := nofun
    rw [isPayload_object, or_iff_left unlisted]
    exact ofMembers_payload hm {} p
  | array js =>
    obtain ⟨span, items, rfl, hi⟩ := Json.shape_of_document h
    have unnamed : ¬ IsPayload (.array js) p := nofun
    rw [or_iff_right unnamed]
    exact ofItems_payload hi p
  | null | bool | number | string =>
    obtain ⟨span, rfl⟩ := Json.shape_of_document h
    exact ⟨nofun, nofun⟩

/-! ### Calls -/

/-- A call around a payload in some form: the payload alone, or behind one more argument. -/
inductive Calls (form : Json → Payload → Prop) : Json → CallShape → Prop
  | plain {j : Json} {p : Payload} (h : form j p) : Calls form j (.plain p)
  | extended {first : String} {j : Json} {p : Payload} (h : form j p) :
    Calls form (.array [.string first, j]) (.extended first p)

theorem extended_eq_ok_iff {node : Json.Node} (h : node.document = .ok j) (shape : CallShape) :
    extended node = .ok shape ↔ ∃ first k p, j = .array [.string first, k] ∧
      (IsPayload k p ∨ IsListed k p) ∧ shape = .extended first p := by
  cases j with
  | array js =>
    obtain ⟨span, items, rfl, hi⟩ := Json.shape_of_document h
    match js, hi with
    | [], hi =>
      obtain ⟨stop, rfl⟩ := Json.items_nil hi
      exact ⟨nofun, nofun⟩
    | [x], hi =>
      obtain ⟨_, node, rest, rfl, -, ht⟩ := Json.items_cons hi
      obtain ⟨stop, rfl⟩ := Json.items_nil ht
      exact ⟨nofun, nofun⟩
    | x :: y :: more, hi =>
      obtain ⟨_, node₁, rest, rfl, hx, ht⟩ := Json.items_cons hi
      obtain ⟨_, node₂, last, rfl, hy, hl⟩ := Json.items_cons ht
      constructor
      · intro e
        rw [extended] at e
        cases hf : string node₁ with
        | error => rw [hf] at e; cases e
        | ok first =>
          cases hp : payload node₂ with
          | error => rw [hf, hp] at e; cases e
          | ok p =>
            rw [hf, hp] at e
            have named : x = .string first := (inverts_string node₁ x hx first).1 hf
            cases more with
            | nil =>
              obtain ⟨stop, rfl⟩ := Json.items_nil hl
              cases e
              exact ⟨first, y, p, by rw [named], (payload_eq_ok_iff hy p).1 hp, rfl⟩
            | cons =>
              obtain ⟨_, _, _, rfl, -, -⟩ := Json.items_cons hl
              cases e
      · rintro ⟨first, k, p, e, hk, rfl⟩
        cases e
        obtain ⟨stop, rfl⟩ := Json.items_nil hl
        rw [extended, inverts_string.yields first node₁ hx, (payload_eq_ok_iff hy p).2 hk]
        rfl
  | null | bool | number | string =>
    obtain ⟨span, rfl⟩ := Json.shape_of_document h
    exact ⟨nofun, nofun⟩
  | object =>
    obtain ⟨span, members, rfl, -⟩ := Json.shape_of_document h
    exact ⟨nofun, nofun⟩

/-- A value has the parts of one payload at most. -/
theorem payload_unique {p p' : Payload} (h : IsPayload j p ∨ IsListed j p)
    (h' : IsPayload j p' ∨ IsListed j p') : p' = p := by
  have read := (payload_eq_ok_iff (Json.document_ofPart j) p).2 h
  have read' := (payload_eq_ok_iff (Json.document_ofPart j) p').2 h'
  exact Except.ok.inj (read'.symm.trans read)

/-- An array that starts with a text is no payload. -/
theorem not_payload_text {first : String} {p : Payload} :
    ¬ (IsPayload (.array (.string first :: js)) p ∨ IsListed (.array (.string first :: js)) p) := by
  rintro (h | h)
  · cases h
  · cases h with
    | unchanged texts | changed texts => cases texts

/-- An array that starts with an array is no call with a payload by name. -/
theorem not_calls_array {ks : List Json} {shape : CallShape} :
    ¬ Calls IsPayload (.array (.array js :: ks)) shape := by
  rintro ⟨h⟩
  cases h

theorem calls_or {form form' : Json → Payload → Prop} {shape : CallShape} :
    Calls (fun j p => form j p ∨ form' j p) j shape ↔ Calls form j shape ∨ Calls form' j shape := by
  constructor
  · intro h
    cases h with
    | plain h => exact h.imp .plain .plain
    | extended h => exact h.imp .extended .extended
  · rintro (h | h)
    · cases h with
      | plain h => exact .plain (.inl h)
      | extended h => exact .extended (.inl h)
    · cases h with
      | plain h => exact .plain (.inr h)
      | extended h => exact .extended (.inr h)

/-- **What is read as a call**: a payload in one of two forms, alone or behind an argument. -/
theorem callShape_eq_ok_iff (j : Json) (shape : CallShape) :
    callShape j = .ok shape ↔ Calls IsPayload j shape ∨ Calls IsListed j shape := by
  have first := extended_eq_ok_iff (Json.document_ofPart j)
  have second := payload_eq_ok_iff (Json.document_ofPart j)
  rw [← calls_or]
  unfold callShape ofPart
  cases he : extended (Json.Node.ofPart j) with
  | ok found =>
    obtain ⟨name, k, p, rfl, hk, rfl⟩ := (first found).1 he
    constructor
    · intro e
      cases e
      exact .extended hk
    · intro h
      cases h with
      | plain h => exact absurd h not_payload_text
      | extended h => rw [payload_unique hk h]
  | error =>
    constructor
    · intro e
      cases hp : payload (Json.Node.ofPart j) with
      | error => simp only [hp] at e; cases e
      | ok p =>
        simp only [hp] at e
        cases e
        exact .plain ((second p).1 hp)
    · intro h
      cases h with
      | plain h => simp only [(second _).2 h]
      | extended h =>
        -- the other shape is read first, and would have been read
        have read := (first _).2 ⟨_, _, _, rfl, h, rfl⟩
        rw [read] at he
        cases he

/-- An object is called alone. -/
theorem callShape_object {ms : List (String × Json)} {shape : CallShape} :
    callShape (.object ms) = .ok shape ↔ ∃ p, IsPayload (.object ms) p ∧ shape = .plain p := by
  rw [callShape_eq_ok_iff]
  constructor
  · rintro (h | h)
    · cases h with
      | plain h => exact ⟨_, h, rfl⟩
    · cases h with
      | plain h => cases h
  · rintro ⟨p, h, rfl⟩
    exact .inl (.plain h)

/-- What stands behind a text is called with it. -/
theorem callShape_pair {first : String} {shape : CallShape} :
    callShape (.array [.string first, j]) = .ok shape ↔
      ∃ p, (IsPayload j p ∨ IsListed j p) ∧ shape = .extended first p := by
  rw [callShape_eq_ok_iff, ← calls_or]
  constructor
  · intro h
    cases h with
    | plain h => exact absurd h not_payload_text
    | extended h => exact ⟨_, h, rfl⟩
  · rintro ⟨p, h, rfl⟩
    exact .extended h

/-- What starts with a text is never called alone. -/
theorem callShape_text {first : String} {p : Payload} :
    callShape (.array (.string first :: js)) ≠ .ok (.plain p) := by
  intro h
  rw [callShape_eq_ok_iff, ← calls_or] at h
  cases h with
  | plain h => exact not_payload_text h

/-- A payload reads as it was written. -/
theorem isPayload_ofPayload (p : Payload) : IsPayload (ofPayload p) p := by
  have changed : IsChanges (.ofTable (p.clientEnv.map (.ofOption .string))) p.clientEnv :=
    ⟨p.clientEnv.entries, rfl, p.clientEnv.ofList_entries.symm⟩
  exact .changed rfl rfl rfl changed

/-- So does one without changes when they are not mentioned. -/
theorem isPayload_args (args : List String) :
    IsPayload (.object [("args", .array (args.map .string))]) ⟨args, .empty⟩ :=
  .unchanged rfl rfl rfl

/-- Changes that are there but empty count as none. -/
theorem isPayload_noChanges {ms ms' : List (String × Json)}
    (absent : under "clientEnv" (ms ++ ms') = []) (p : Payload) :
    IsPayload (.object (ms ++ ("clientEnv", .object []) :: ms')) p ↔
      IsPayload (.object (ms ++ ms')) p := by
  have args : under "args" (ms ++ ("clientEnv", .object []) :: ms') =
      under "args" (ms ++ ms') := by
    rw [under_append, under_append, under_cons_ne (by decide)]
  have changes : under "clientEnv" (ms ++ ("clientEnv", .object []) :: ms') = [.object []] := by
    rw [under_append, List.append_eq_nil_iff] at absent
    rw [under_append, under_cons_self, absent.1, absent.2]
    rfl
  constructor
  · intro h
    cases h with
    | unchanged named texts missing =>
      rw [changes] at missing
      cases missing
    | changed named texts present changed =>
      rw [changes] at present
      cases present
      obtain ⟨entries, e, rfl⟩ := changed
      obtain rfl : entries = [] := List.map_eq_nil_iff.1 (Json.object.inj e).symm
      exact .unchanged (args ▸ named) texts absent
  · intro h
    cases h with
    | unchanged named texts _ =>
      exact .changed (args ▸ named) texts changes ⟨[], rfl, rfl⟩
    | changed named texts present changed =>
      rw [absent] at present
      cases present

theorem callShape_error {fault : Json.Fault} (h : callShape j = .error fault) :
    fault = ⟨.noVariant "InvocationShape", none⟩ := by
  unfold callShape at h
  split at h
  · cases h
  · split at h <;> cases h
    rfl

/-- The fault does not depend on the value, so the shapes that are read decide everything. -/
theorem callShape_congr {j k : Json}
    (h : ∀ shape, callShape j = .ok shape ↔ callShape k = .ok shape) :
    callShape j = callShape k := by
  cases hj : callShape j with
  | ok shape => exact ((h shape).1 hj).symm
  | error fault =>
    cases hk : callShape k with
    | ok shape => exact absurd ((h shape).2 hk) (by rw [hj]; exact nofun)
    | error fault' => rw [callShape_error hj, callShape_error hk]

/-- A call with changes that are empty is the call without them, in either shape. -/
theorem callShape_noChanges {ms ms' : List (String × Json)}
    (absent : under "clientEnv" (ms ++ ms') = []) (first : String) :
    callShape (.object (ms ++ ms')) =
        callShape (.object (ms ++ ("clientEnv", .object []) :: ms')) ∧
      callShape (.array [.string first, .object (ms ++ ms')]) =
        callShape (.array [.string first, .object (ms ++ ("clientEnv", .object []) :: ms')]) := by
  have same := isPayload_noChanges absent
  have unlisted (ms : List (String × Json)) (p : Payload) : ¬ IsListed (.object ms) p := nofun
  constructor
  · refine callShape_congr fun shape => ?_
    simp only [callShape_object, same]
  · refine callShape_congr fun shape => ?_
    simp only [callShape_pair, same, unlisted, or_false]

end Wire

end FormatDaemon

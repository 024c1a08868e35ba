import FormatDaemon.Proofs.Payloads
import FormatDaemon.Settings.Basic
import FormatDaemon.Settings.Layer

/-!
# The grammar of settings documents

Which objects are read as settings, and as which. Every setting is read by itself, from the only
value under its name, and keeps its default if there is none; names that are no setting do not
matter.

* `LogFormat.IsFormat`, `LogFormat.decode_eq_ok_iff`: what is read as a log format.
* `Field`, `Filled`: the settings one by one, and how they are filled from an object.
* `decode_eq_ok_iff`: **what is read as settings**.
* `decode_format`: **a document with a log format is one without it, and the format**.
-/

namespace FormatDaemon

open Json (under)
open Json.Decoder
open Wire (Fills fills_nil fills_cons under_cons_self under_cons_ne under_append)

/-! ### Log formats -/

namespace LogFormat

variable {text : String} {format : LogFormat}

/-- A log format in a document: its name, or an object with its name and `null`. -/
def IsFormat (j : Json) (format : LogFormat) : Prop :=
  j = .string format.name ∨ j = .object [(format.name, .null)]

theorem name_injective {other : LogFormat} (h : format.name = other.name) : format = other := by
  cases format <;> cases other <;> first | rfl | exact absurd h (by decide)

theorem isFormat_string : IsFormat (.string text) format ↔ text = format.name := by
  rw [IsFormat, Json.string.injEq]
  simp only [reduceCtorEq, or_false]

/-- A text is found among the names if it is one, letter by letter. -/
theorem variantIndex_names (text : String) (mark : Json.Mark) :
    (∃ format : LogFormat, text = format.name ∧ ∃ index,
      variantIndex (all.map name) text mark = .ok index ∧
        (if index = 0 then json else compact) = format) ∨
    (∀ format : LogFormat, text ≠ format.name) ∧
      variantIndex (all.map name) text mark =
        .error ⟨.unknownVariant text (all.map name), mark⟩ := by
  by_cases first : text = "json"
  · subst first
    exact .inl ⟨.json, rfl, 0, rfl, rfl⟩
  by_cases second : text = "compact"
  · subst second
    exact .inl ⟨.compact, rfl, 1, rfl, rfl⟩
  refine .inr ⟨fun format => ?_, ?_⟩
  · cases format
    · exact first
    · exact second
  · have missing : (all.map name).idxOf? text = none := by
      rw [List.idxOf?_eq_none_iff]
      simp [all, name, first, second]
    rw [variantIndex, missing]

theorem decode_string (span : Json.Span) (text : String) (format : LogFormat) :
    decode (.string span (.ok text)) = .ok format ↔ text = format.name := by
  have step : decode (.string span (.ok text)) =
      (variantIndex (all.map name) text span.stop).bind
        fun index => .ok (if index = 0 then json else compact) := rfl
  rw [step]
  rcases variantIndex_names text span.stop with ⟨own, rfl, index, found, rfl⟩ | ⟨other, missing⟩
  · rw [found]
    exact ⟨fun e => congrArg name (Except.ok.inj e), fun e => congrArg _ (name_injective e)⟩
  · rw [missing]
    exact ⟨nofun, fun e => absurd e (other format)⟩

theorem unit_eq_ok_iff {node : Json.Node} {j : Json} (h : node.document = .ok j) :
    unit node = .ok () ↔ j = .null := by
  cases j with
  | null =>
    obtain ⟨span, rfl⟩ := Json.shape_of_document h
    exact ⟨fun _ => rfl, fun _ => rfl⟩
  | bool | number | string =>
    obtain ⟨span, rfl⟩ := Json.shape_of_document h
    exact ⟨nofun, nofun⟩
  | array | object =>
    obtain ⟨span, parts, rfl, -⟩ := Json.shape_of_document h
    exact ⟨nofun, nofun⟩

/-- In an object there is one name, over nothing. -/
theorem decode_object {span : Json.Span} {members : Json.Members} {ms : List (String × Json)}
    (h : members.documents = .ok ms) (format : LogFormat) :
    decode (.object span none members) = .ok format ↔ ms = [(format.name, .null)] := by
  cases ms with
  | nil =>
    obtain ⟨here, stop, rfl⟩ := Json.members_nil h
    exact ⟨nofun, nofun⟩
  | cons m rest =>
    obtain ⟨text, j⟩ := m
    obtain ⟨here, place, behind, node, tail, rfl, hn, ht⟩ := Json.members_cons h
    have nothing := unit_eq_ok_iff hn
    rw [List.cons.injEq, Prod.mk.injEq]
    unfold decode bare
    rcases variantIndex_names text place.stop with ⟨own, rfl, index, found, rfl⟩ | ⟨other, missing⟩
    · simp only [bind, Except.bind, found]
      cases empty : unit node with
      | error fault =>
        rw [empty] at nothing
        exact ⟨nofun, fun e => nomatch nothing.2 e.1.2⟩
      | ok u =>
        obtain rfl : j = .null := nothing.1 empty
        -- behind a name and its null the object has to end
        cases rest with
        | nil =>
          obtain ⟨last, stop, rfl⟩ := Json.members_nil ht
          exact ⟨fun e => ⟨⟨congrArg name (Except.ok.inj e), rfl⟩, rfl⟩,
            fun e => congrArg Except.ok (name_injective e.1.1)⟩
        | cons more rest =>
          obtain ⟨here', place', behind', node', tail', rfl, -, -⟩ := Json.members_cons ht
          exact ⟨nofun, nofun⟩
    · simp only [bind, Except.bind, missing]
      exact ⟨nofun, fun e => absurd e.1.1 (other format)⟩

/-- **What is read as a log format.** -/
theorem decode_eq_ok_iff {node : Json.Node} {j : Json} (h : node.document = .ok j)
    (format : LogFormat) : decode node = .ok format ↔ IsFormat j format := by
  cases j with
  | string text =>
    obtain ⟨span, rfl⟩ := Json.shape_of_document h
    rw [decode_string, isFormat_string]
  | object ms =>
    obtain ⟨span, members, rfl, hm⟩ := Json.shape_of_document h
    rw [decode_object hm, IsFormat, Json.object.injEq]
    simp only [reduceCtorEq, false_or]
  | null | bool | number =>
    obtain ⟨span, rfl⟩ := Json.shape_of_document h
    exact ⟨nofun, nofun⟩
  | array =>
    obtain ⟨span, items, rfl, -⟩ := Json.shape_of_document h
    exact ⟨nofun, nofun⟩

end LogFormat

/-! ### Settings -/

namespace Settings

/-- The settings, one by one. -/
inductive Field where
  | logFilter
  | logFormat
  | nodeBinary
  | globalEnginePath
  deriving DecidableEq

variable {d e : Draft} {j : Json} {ms : List (String × Json)}

namespace Field

/-- What a setting is. -/
def Value : Field → Type
  | .logFilter | .nodeBinary => String
  | .logFormat => LogFormat
  | .globalEnginePath => Option String

/-- The name of a setting. -/
def name : Field → String
  | .logFilter => "log_filter"
  | .logFormat => "log_format"
  | .nodeBinary => "node_binary"
  | .globalEnginePath => "global_engine_path"

/-- What a setting is in a document. -/
def Reads : (f : Field) → Json → f.Value → Prop
  | .logFilter, j, text | .nodeBinary, j, text => j = .string text
  | .logFormat, j, format => LogFormat.IsFormat j format
  | .globalEnginePath, j, path? => j = .ofOption .string path?

/-- How a setting is read. -/
def read : (f : Field) → Json.Decoder f.Value
  | .logFilter | .nodeBinary => string
  | .logFormat => LogFormat.decode
  | .globalEnginePath => option (textual "a UTF-8 path string")

/-- The setting of a draft, if it is there. -/
def get? : (f : Field) → Draft → Option f.Value
  | .logFilter, d => d.logFilter?
  | .logFormat, d => d.logFormat?
  | .nodeBinary, d => d.nodeBinary?
  | .globalEnginePath, d => d.globalEnginePath?

/-- A draft with another setting, or without it. -/
def put : (f : Field) → Option f.Value → Draft → Draft
  | .logFilter, a?, d => { d with logFilter? := a? }
  | .logFormat, a?, d => { d with logFormat? := a? }
  | .nodeBinary, a?, d => { d with nodeBinary? := a? }
  | .globalEnginePath, a?, d => { d with globalEnginePath? := a? }

variable {f g : Field}

theorem name_injective (h : f.name = g.name) : f = g := by
  cases f <;> cases g <;> first | rfl | exact absurd h (by decide)

@[simp] theorem get?_blank (f : Field) : f.get? {} = none := by
  cases f <;> rfl

@[simp] theorem get?_put (a? : Option f.Value) (d : Draft) : f.get? (f.put a? d) = a? := by
  cases f <;> rfl

theorem under_cons_of_ne (h : g ≠ f) : under g.name ((f.name, j) :: ms) = under g.name ms :=
  under_cons_ne (fun alike => h (name_injective alike.symm)) j ms

/-- A setting does not touch the others. -/
theorem get?_put_of_ne (h : g ≠ f) (a? : Option f.Value) (d : Draft) :
    g.get? (f.put a? d) = g.get? d := by
  cases f <;> cases g <;> first | rfl | exact absurd rfl h

/-- A draft is its settings. -/
theorem ext_get? (same : ∀ f : Field, f.get? e = f.get? d) : e = d := by
  obtain ⟨filter, format, binary, path⟩ := e
  obtain rfl : filter = _ := same .logFilter
  obtain rfl : format = _ := same .logFormat
  obtain rfl : binary = _ := same .nodeBinary
  obtain rfl : path = _ := same .globalEnginePath
  rfl

/-- The record has a field for the setting. -/
theorem find?_slots (f : Field) : record.slots.find? (·.name == f.name) =
    some (trailing f.name f.get? (fun a => f.put (some a)) f.read) := by
  cases f <;> rfl

theorem read_eq_ok_iff (f : Field) {node : Json.Node} (h : node.document = .ok j) (a : f.Value) :
    f.read node = .ok a ↔ f.Reads j a := by
  cases f with
  | logFilter | nodeBinary => exact inverts_string node j h a
  | logFormat => exact LogFormat.decode_eq_ok_iff h a
  | globalEnginePath =>
    have written : ∀ text, Json.string text ≠ .null := nofun
    exact (inverts_textual "a UTF-8 path string").option written node j h a

end Field

/-- How a draft is filled from the members of an object: every setting from what stands under
its name. -/
def Filled (before : Draft) (members : List (String × Json)) (after : Draft) : Prop :=
  ∀ f : Field, Fills f.Reads (f.get? before) (under f.name members) (f.get? after)

variable {f : Field} {name : String}

theorem filled_nil : Filled d [] e ↔ e = d := by
  constructor
  · intro filled
    exact Field.ext_get? fun f => fills_nil.1 (filled f)
  · rintro rfl f
    exact fills_nil.2 rfl

/-- A setting that comes first is read if there was none, and the others are as without it. -/
theorem filled_cons : Filled d ((f.name, j) :: ms) e ↔
    f.get? d = none ∧ ∃ a, f.Reads j a ∧ Filled (f.put (some a) d) ms e := by
  constructor
  · intro filled
    have own := filled f
    rw [under_cons_self, fills_cons] at own
    obtain ⟨free, a, read, own⟩ := own
    refine ⟨free, a, read, fun g => ?_⟩
    by_cases same : g = f
    · subst same
      rwa [Field.get?_put]
    · have others := filled g
      rw [Field.under_cons_of_ne same] at others
      rwa [Field.get?_put_of_ne same]
  · rintro ⟨free, a, read, filled⟩ g
    have rest := filled g
    by_cases same : g = f
    · subst same
      rw [Field.get?_put] at rest
      rw [under_cons_self, fills_cons]
      exact ⟨free, a, read, rest⟩
    · rw [Field.get?_put_of_ne same] at rest
      rwa [Field.under_cons_of_ne same]

/-- The names of the settings. -/
def names : List String := record.slots.map (·.name)

theorem mem_names : name ∈ names ↔ ∃ f : Field, f.name = name := by
  constructor
  · intro known
    simp only [names, record, trailing, field, List.map_cons, List.map_nil, List.mem_cons,
      List.not_mem_nil, or_false] at known
    rcases known with rfl | rfl | rfl | rfl
    · exact ⟨.logFilter, rfl⟩
    · exact ⟨.logFormat, rfl⟩
    · exact ⟨.nodeBinary, rfl⟩
    · exact ⟨.globalEnginePath, rfl⟩
  · rintro ⟨f, rfl⟩
    exact List.mem_map.2 ⟨_, List.mem_of_find?_eq_some f.find?_slots, rfl⟩

/-- A name that is no setting does not matter. -/
theorem filled_unknown (unknown : name ∉ names) :
    Filled d ((name, j) :: ms) e ↔ Filled d ms e := by
  refine forall_congr' fun f => ?_
  rw [under_cons_ne fun same => unknown (mem_names.2 ⟨f, same.symm⟩)]

/-- No field takes a name that is no setting. -/
theorem find?_slots_eq_none (unknown : name ∉ names) :
    record.slots.find? (·.name == name) = none := by
  rw [List.find?_eq_none]
  intro slot known same
  exact unknown (eq_of_beq same ▸ List.mem_map_of_mem known)

/-- **The settings of an object are read independently**, each from what stands under its name. -/
theorem ofMembers_eq_ok_iff {members : Json.Members} (h : members.documents = .ok ms) (d : Draft)
    (s : Settings) : record.ofMembers d members = .ok s ↔ ∃ e, Filled d ms e ∧ e.finish = s := by
  induction ms generalizing members d with
  | nil =>
    obtain ⟨here, stop, rfl⟩ := Json.members_nil h
    rw [Record.ofMembers, Record.close_eq_ok_iff]
    simp only [filled_nil, exists_eq_left]
    show Except.ok d.finish = .ok s ↔ d.finish = s
    rw [Except.ok.injEq]
  | cons m rest ih =>
    obtain ⟨name, j⟩ := m
    -- a setting goes through its field, and any other name is passed over
    by_cases known : name ∈ names
    · obtain ⟨f, rfl⟩ := mem_names.1 known
      obtain ⟨tail, ht, step⟩ := Record.ofMembers_field (s := d) f.find?_slots
        (fun node hn => f.read_eq_ok_iff hn) h
      rw [step]
      simp only [ih ht, filled_cons]
      constructor
      · rintro ⟨free, a, read, e, filled, finished⟩
        exact ⟨e, ⟨free, a, read, filled⟩, finished⟩
      · rintro ⟨e, ⟨free, a, read, filled⟩, finished⟩
        exact ⟨free, a, read, e, filled, finished⟩
    · obtain ⟨tail, ht, step⟩ := Record.ofMembers_unknown (s := d) (find?_slots_eq_none known) h
      rw [step, ih ht]
      simp only [filled_unknown known]

/-- **What is read as settings.** -/
theorem decode_eq_ok_iff {node : Json.Node} (h : node.document = .ok (.object ms)) (s : Settings) :
    decode node = .ok s ↔ ∃ e, Filled {} ms e ∧ e.finish = s := by
  obtain ⟨span, members, rfl, hm⟩ := Json.shape_of_document h
  exact ofMembers_eq_ok_iff hm {} s

/-! ### The log format among the others -/

variable {before after : List (String × Json)}

/-- A field that is filled stays so, and nothing more may stand under its name. -/
theorem fills_some {α : Type} {R : Json → α → Prop} {a : α} {js : List Json} {after? : Option α} :
    Fills R (some a) js after? ↔ js = [] ∧ after? = some a := by
  simp [Fills]

/-- A value among others is read if there are no others. -/
theorem fills_middle {α : Type} {R : Json → α → Prop} {us vs : List Json} {after? : Option α} :
    Fills R none (us ++ j :: vs) after? ↔ us ++ vs = [] ∧ ∃ a, R j a ∧ after? = some a := by
  cases us with
  | nil =>
    simp only [List.nil_append, fills_cons, fills_some, true_and]
    exact ⟨fun ⟨a, read, only, filled⟩ => ⟨only, a, read, filled⟩,
      fun ⟨only, a, read, filled⟩ => ⟨a, read, only, filled⟩⟩
  | cons u us =>
    -- a value in front fills the field, so this one would find it taken
    simp only [List.cons_append, fills_cons, fills_some]
    constructor
    · rintro ⟨-, a, -, nothing, -⟩
      exact absurd nothing (List.append_ne_nil_of_right_ne_nil us (List.cons_ne_nil j vs))
    · rintro ⟨nothing, -⟩
      cases nothing

/-- A setting is read apart from the others. -/
theorem filled_middle : Filled {} (before ++ (f.name, j) :: after) e ↔
    under f.name (before ++ after) = [] ∧ ∃ a, f.Reads j a ∧
      f.get? e = some a ∧ Filled {} (before ++ after) (f.put none e) := by
  constructor
  · intro filled
    have own := filled f
    rw [under_append, under_cons_self, Field.get?_blank, fills_middle, ← under_append] at own
    obtain ⟨only, a, read, there⟩ := own
    refine ⟨only, a, read, there, fun g => ?_⟩
    by_cases same : g = f
    · subst same
      rw [only, fills_nil, Field.get?_put, Field.get?_blank]
    · have others := filled g
      rw [under_append, Field.under_cons_of_ne same] at others
      rwa [Field.get?_put_of_ne same, under_append]
  · rintro ⟨only, a, read, there, filled⟩ g
    have rest := filled g
    rw [under_append] at rest only ⊢
    by_cases same : g = f
    · subst same
      rw [under_cons_self, Field.get?_blank, fills_middle]
      exact ⟨only, a, read, there⟩
    · rw [Field.get?_put_of_ne same] at rest
      rwa [Field.under_cons_of_ne same]

/-- **A document with a log format is one without it, and the format.** -/
theorem decode_format {node : Json.Node}
    (h : node.document = .ok (.object (before ++ ("log_format", j) :: after))) (s : Settings) :
    decode node = .ok s ↔ under "log_format" (before ++ after) = [] ∧
      ∃ format base, LogFormat.IsFormat j format ∧
        ofValue decode (.object (before ++ after)) = .ok base ∧
        s = { base with logFormat := format } := by
  have others (base : Settings) : ofValue decode (.object (before ++ after)) = .ok base ↔
      ∃ e, Filled {} (before ++ after) e ∧ e.finish = base :=
    decode_eq_ok_iff (Json.document_ofValue _) base
  have apart (e : Draft) : Filled {} (before ++ ("log_format", j) :: after) e ↔
      under "log_format" (before ++ after) = [] ∧ ∃ format, LogFormat.IsFormat j format ∧
        e.logFormat? = some format ∧ Filled {} (before ++ after) { e with logFormat? := none } :=
    filled_middle (f := .logFormat)
  rw [decode_eq_ok_iff h]
  simp only [apart, others]
  constructor
  · rintro ⟨e, ⟨only, format, read, filled, rest⟩, rfl⟩
    refine ⟨only, format, _, read, ⟨_, rest, rfl⟩, ?_⟩
    simp only [Draft.finish, filled, Option.getD_some]
  · rintro ⟨only, format, _, read, ⟨e, filled, rfl⟩, rfl⟩
    -- the others leave room for a format: none of them is one
    have blank : e.logFormat? = none := by
      have own : Fills LogFormat.IsFormat none (under "log_format" (before ++ after))
          e.logFormat? := filled .logFormat
      rwa [only, fills_nil] at own
    obtain ⟨filter, _, binary, path⟩ := e
    obtain rfl := blank
    exact ⟨⟨filter, some format, binary, path⟩, ⟨only, format, read, rfl, filled⟩, rfl⟩

/-- Without a setting, a layer has the entries around it. -/
theorem exists_entries_eq {all : Layer} (there : all.get? name = some j) :
    ∃ before after, all.entries = before ++ (name, j) :: after ∧
      (all.erase name).entries = before ++ after ∧ under name (before ++ after) = [] := by
  obtain ⟨before, after, split, other⟩ := Table.entries_around there
  refine ⟨before, after, split, ?_, ?_⟩
  · have kept : all.entries.filter (·.1 != name) = before ++ after := by
      rw [split, List.filter_append, List.filter_cons_of_neg (by simp), ← List.filter_append]
      exact List.filter_eq_self.2 fun e he => bne_iff_ne.2 (other e he)
    exact kept
  · have none_left : (before ++ after).filter (·.1 == name) = [] :=
      List.filter_eq_nil_iff.2 fun e he => by simpa using other e he
    rw [under, none_left, List.map_nil]

/-- The same for settings in a layer. -/
theorem decode_format_layer {all : Layer} (there : all.get? "log_format" = some j) (s : Settings) :
    ofValue decode (.ofTable all) = .ok s ↔ ∃ format base, LogFormat.IsFormat j format ∧
      ofValue decode (.ofTable (all.erase "log_format")) = .ok base ∧
      s = { base with logFormat := format } := by
  obtain ⟨before, after, whole, rest, only⟩ := exists_entries_eq there
  have document : (Json.Node.ofValue (.ofTable all)).document =
      .ok (.object (before ++ ("log_format", j) :: after)) := by
    rw [← whole]
    exact Json.document_ofValue _
  have erased : Json.ofTable (all.erase "log_format") = .object (before ++ after) :=
    congrArg Json.object rest
  rw [erased]
  exact (decode_format document s).trans (and_iff_right only)

end Settings

end FormatDaemon

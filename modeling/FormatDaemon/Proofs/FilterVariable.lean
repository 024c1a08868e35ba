import FormatDaemon.Program
import FormatDaemon.Proofs.Decoding
import FormatDaemon.Proofs.FilterDirectives
import FormatDaemon.Proofs.SettingLayers
import FormatDaemon.Proofs.SettingsDocuments
import FormatDaemon.Proofs.VariableValue

/-!
# A log filter in the environment

A log filter is a text, but a variable is given a type by its looks before it is read as one.

* `decode_filter`: settings of which only the log filter is there.
* `SetsFilter`: an environment that sets a log filter and no other setting.
* `load_filter`: **such settings can be had just if the typed value is a text**.
* `filter_from_environment`: **a filter of one directive can be set by a variable, a filter of
  several cannot**, although it is a filter and a settings file may hold it.
-/

namespace FormatDaemon

open Json.Decoder

namespace Settings

/-! ### Documents -/

/-- The settings besides the log filter. -/
def otherNames : List String := ["log_format", "node_binary", "global_engine_path"]

/-- The log filter is read if it comes first. -/
theorem ofMembers_filter {surplus : Nat → Nat → Json.Fault} (j : Json)
    (rest : List (String × Json)) :
    record.ofMembers {} (.ofJson surplus (("log_filter", j) :: rest)) =
      (string (.ofJson surplus j)).bind fun text =>
        record.ofMembers { logFilter? := some text } (.ofJson surplus rest) := by
  rw [Json.Members.ofJson, Record.ofMembers]
  cases h : string (Json.Node.ofJson surplus j) with
  | error fault => simp [record, trailing, field, h, bind, Except.bind, Except.map]
  | ok text => simp [record, trailing, field, h, bind, Except.bind, Except.map]

/-- **Settings of which only the log filter is there** are the defaults with that filter, if it
is a text. -/
theorem decode_filter {all : Layer} {j : Json} (there : all.get? "log_filter" = some j)
    (alone : ∀ name ∈ otherNames, all.get? name = none) :
    ofValue decode (.ofTable all) =
      (string (.ofValue j)).map fun text => { default with logFilter := text } := by
  obtain ⟨before, after, split, other⟩ := Table.entries_around there
  have foreign : ∀ e ∈ all.entries, e.1 ∉ otherNames := by
    intro e he known
    have gone := alone e.1 known
    rw [all.get?_of_mem he] at gone
    cases gone
  have passed : ∀ e ∈ all.entries, e.1 ≠ "log_filter" →
      record.slots.find? (·.name == e.1) = none := fun e he apart =>
    find?_slots_eq_none fun known => (List.mem_cons.1 known).elim apart (foreign e he)
  have unknown_before : ∀ e ∈ before, record.slots.find? (·.name == e.1) = none := fun e he =>
    passed e (split ▸ List.mem_append_left _ he) (other e (List.mem_append_left _ he))
  have unknown_after : ∀ e ∈ after, record.slots.find? (·.name == e.1) = none := fun e he =>
    passed e (split ▸ List.mem_append_right _ (List.mem_cons_of_mem _ he))
      (other e (List.mem_append_right _ he))
  have read : ofValue decode (.ofTable all) = record.ofMembers {} (.ofJson _ all.entries) := rfl
  rw [read, split, Record.ofMembers_passed unknown_before, ofMembers_filter]
  have closed (text : String) : record.ofMembers { logFilter? := some text }
      (.ofJson (fun total _ => ⟨.wrongLength total "fewer elements in array", none⟩) after) =
        .ok { default with logFilter := text } := by
    rw [← List.append_nil after, Record.ofMembers_passed unknown_after]
    rfl
  simp only [closed]
  show (string (Json.Node.ofValue j)).bind _ = _
  cases string (Json.Node.ofValue j) <;> rfl

/-! ### Variables -/

/-- A variable that sets neither the log filter nor another setting. -/
def Foreign (entry : List UInt8 × List UInt8) : Prop :=
  ∀ name ∈ "log_filter" :: otherNames, ∀ rest,
    Variable.names? (Utf8.decodeLossy entry.1) ≠ some (name :: rest)

/-- An environment that sets a log filter, and no other setting. -/
def SetsFilter (filter : String) (vars : List (List UInt8 × List UInt8)) : Prop :=
  ∃ before after, vars =
      before ++ (Utf8.encode "PRETTIERD_LOG_FILTER", Utf8.encode filter) :: after ∧
    (∀ entry ∈ before, Foreign entry) ∧ ∀ entry ∈ after, Foreign entry

theorem Foreign.apart {entry : List UInt8 × List UInt8} (foreign : Foreign entry) {name : String}
    (known : name ∈ "log_filter" :: otherNames) : Variable.Apart name entry := foreign name known

/-- The settings of such an environment. -/
theorem SetsFilter.get?_layer {filter : String} {vars : List (List UInt8 × List UInt8)}
    (h : SetsFilter filter vars) {name : String} (known : name ∈ "log_filter" :: otherNames) :
    (Variable.layer vars).get? name =
      if name = "log_filter" then some (Variable.value filter) else none := by
  obtain ⟨before, after, rfl, hb, ha⟩ := h
  have named : Variable.names? "PRETTIERD_LOG_FILTER" = some ["log_filter"] := by
    decide +kernel
  have key : Variable.names? (Utf8.decodeLossy (Utf8.encode "PRETTIERD_LOG_FILTER")) =
      some ["log_filter"] := by
    rw [Utf8.decodeLossy_encode, named]
  rw [Variable.layer, List.foldl_append, List.foldl_cons,
    Variable.get?_foldl_apply fun e he => (ha e he).apart known, Variable.apply_named key,
    Table.get?_insert, Variable.get?_foldl_apply fun e he => (hb e he).apart known,
    Table.get?_empty]

/-- **A log filter alone can be had just if its typed value is a text.** -/
theorem load_filter {tree : FileTree} {filter : String} {vars : List (List UInt8 × List UInt8)}
    (h : SetsFilter filter vars) (nofile : File.firstLayer tree (File.candidates vars) = .ok none) :
    load tree vars = ((string (.ofValue (valueOver none (Variable.value filter)))).map fun text =>
      { default with logFilter := text }).mapError .field := by
  have there : ((Variable.layer vars).over .empty).get? "log_filter" =
      some (valueOver none (Variable.value filter)) := by
    rw [get?_over, h.get?_layer List.mem_cons_self, if_pos rfl]
    rfl
  have alone : ∀ name ∈ otherNames, ((Variable.layer vars).over .empty).get? name = none := by
    intro name other
    have apart : name ≠ "log_filter" := by
      rintro rfl
      exact absurd other (by decide)
    rw [get?_over, h.get?_layer (List.mem_cons_of_mem _ other), if_neg apart]
    rfl
  rw [load, nofile]
  show (ofValue decode (.ofTable ((Variable.layer vars).over .empty))).mapError _ = _
  rw [decode_filter there alone]

/-- A log filter alone in a settings file. -/
theorem load_file {tree : FileTree} {filter : String} {vars : List (List UInt8 × List UInt8)}
    {file : Layer} (foreign : ∀ entry ∈ vars, Foreign entry)
    (found : File.firstLayer tree (File.candidates vars) = .ok (some file))
    (there : file.get? "log_filter" = some (.string filter))
    (alone : ∀ name ∈ otherNames, file.get? name = none) :
    load tree vars = .ok { default with logFilter := filter } := by
  have below {name : String} (known : name ∈ "log_filter" :: otherNames) :
      ((Variable.layer vars).over file).get? name = file.get? name := by
    rw [get?_over, Variable.layer,
      Variable.get?_foldl_apply fun e he => (foreign e he).apart known, Table.get?_empty]
  rw [load, found]
  show (ofValue decode (.ofTable ((Variable.layer vars).over file))).mapError _ = _
  rw [decode_filter ((below List.mem_cons_self).trans there) fun name other =>
    (below (List.mem_cons_of_mem _ other)).trans (alone name other)]
  rfl

end Settings

/-! ### Filters -/

namespace Log

variable {text : List Char} {d : Directive}

/-- A directive has no mark that gives a variable another type. -/
theorem Spells.bare (h : Spells text d) :
    ∀ c ∈ text, c ∉ Settings.Variable.marks := by
  intro c hc mark
  have punctuation : Settings.Variable.marks.all (fun m => m != '=' && m != ':' && m != '_' &&
      !m.isAlphanum && m.toNat < 128) = true := by decide
  have marked := List.all_eq_true.1 punctuation c mark
  simp only [Bool.and_eq_true, bne_iff_ne, Bool.not_eq_true', decide_eq_true_eq] at marked
  obtain ⟨⟨⟨⟨equals, colon⟩, line⟩, sign⟩, ascii⟩ := marked
  exact h.ne equals colon line sign ascii c hc rfl

/-- A text with an equals sign is no truth value. -/
theorem truth?_eq_none {cs : List Char} (equals : '=' ∈ cs) :
    Settings.Variable.truth? cs = none := by
  have kept : '=' ∈ cs.map Char.toLower := List.mem_map.2 ⟨'=', equals, rfl⟩
  unfold Settings.Variable.truth?
  split
  next yes => rw [yes] at kept; exact absurd kept (by decide)
  next no => rw [no] at kept; exact absurd kept (by decide)
  next => rfl

/-- **A directive by itself is a text**: it is no number and no truth value. -/
theorem Spells.value (h : Spells text d) :
    Settings.Variable.value (.ofList text) = .string (.ofList text) := by
  apply Settings.Variable.value_text h.shown h.bare
  · cases h with
    | everywhere level =>
      cases level <;> exact ⟨_, List.mem_cons_self, by decide, by decide, by decide⟩
    | within named level =>
      exact ⟨'=', List.mem_append_right _ List.mem_cons_self, by decide, by decide, by decide⟩
  · cases h with
    | everywhere level => cases level <;> rfl
    | within named level => exact truth?_eq_none (List.mem_append_right _ List.mem_cons_self)

end Log

namespace Settings

variable {texts : List (List Char)} {ds : List Log.Directive} {tree : FileTree}
  {vars : List (List UInt8 × List UInt8)}

/-- A filter of one directive can be had from a variable. -/
theorem load_one (spelled : List.Forall₂ Log.Spells texts ds) (one : texts.length = 1)
    (set : SetsFilter (.ofList ([','].intercalate texts)) vars)
    (nofile : File.firstLayer tree (File.candidates vars) = .ok none) :
    load tree vars = .ok { default with logFilter := .ofList ([','].intercalate texts) } := by
  obtain ⟨text, rfl⟩ := List.length_eq_one_iff.1 one
  obtain ⟨d, hd⟩ := Log.exists_spells spelled List.mem_cons_self
  rw [List.intercalate_singleton] at set ⊢
  rw [load_filter set nofile, hd.value]
  rfl

/-- A filter of several directives cannot. -/
theorem load_several (spelled : List.Forall₂ Log.Spells texts ds) (several : 1 < texts.length)
    (set : SetsFilter (.ofList ([','].intercalate texts)) vars)
    (nofile : File.firstLayer tree (File.candidates vars) = .ok none) :
    load tree vars = .error (.field ⟨.wrongType .sequence "a string", none⟩) := by
  have list : Variable.value (.ofList ([','].intercalate texts)) =
      .array (texts.map fun t => .string (.ofList t)) := by
    refine Variable.value_list several (fun t ht => ?_) fun t ht => ?_
    · obtain ⟨d, hd⟩ := Log.exists_spells spelled ht
      exact hd.shown
    · obtain ⟨d, hd⟩ := Log.exists_spells spelled ht
      exact hd.bare
  rw [load_filter set nofile, list]
  rfl

end Settings

namespace Program

/-- **A filter of one directive can be set by a variable, a filter of several cannot.** Either is
a filter, and either may be in a settings file; but what has a comma is typed as a list, and
the process ends before it does anything. -/
theorem filter_from_environment {texts : List (List Char)} {ds : List Log.Directive}
    (some_text : texts ≠ []) (spelled : List.Forall₂ Log.Spells texts ds) {tree : FileTree}
    {vars : List (List UInt8 × List UInt8)}
    (set : Settings.SetsFilter (.ofList ([','].intercalate texts)) vars)
    (nofile : Settings.File.firstLayer tree (Settings.File.candidates vars) = .ok none) :
    let filter := String.ofList ([','].intercalate texts)
    let wanted : Settings := { Settings.default with logFilter := filter }
    Log.Filter.parse filter = .ok (.ofDirectives ds) ∧
    (texts.length = 1 → Settings.load tree vars = .ok wanted ∧
      ∀ {σ : Type} (system : Helper.System σ) state p, p.vars = vars →
        run system state tree p = runWith system state tree wanted p ∧ filterNotes wanted = []) ∧
    (1 < texts.length →
      Settings.load tree vars = .error (.field ⟨.wrongType .sequence "a string", none⟩) ∧
      ∀ {σ : Type} (system : Helper.System σ) state p, p.vars = vars →
        (run system state tree p).exit = 1 ∧ (run system state tree p).written = [] ∧
          (run system state tree p).launches = []) ∧
    ∀ tree' vars' (file : Settings.Layer), (∀ entry ∈ vars', Settings.Foreign entry) →
      Settings.File.firstLayer tree' (Settings.File.candidates vars') = .ok (some file) →
      file.get? "log_filter" = some (.string filter) →
      (∀ name ∈ Settings.otherNames, file.get? name = none) →
      Settings.load tree' vars' = .ok wanted := by
  intro filter wanted
  have parsed : Log.Filter.parse filter = .ok (.ofDirectives ds) :=
    Log.Filter.parse_spells some_text spelled
  refine ⟨parsed, fun one => ?_, fun several => ?_,
    fun tree' vars' file foreign found there alone =>
      Settings.load_file foreign found there alone⟩
  · have loaded : Settings.load tree vars = .ok wanted := Settings.load_one spelled one set nofile
    refine ⟨loaded, fun system state p same => ⟨?_, ?_⟩⟩
    · rw [run, same, loaded]
    · rw [filterNotes, parsed]
  · have refused := Settings.load_several spelled several set nofile
    refine ⟨refused, fun system state p same => ?_⟩
    rw [run, same, refused]
    exact ⟨rfl, rfl, rfl⟩

/-- The module of the log's own events, and a level for it. -/
theorem spelled_prettierd : List.Forall₂ Log.Spells ["info".toList, "prettierd=debug".toList]
    [{ verbosity := some .info },
      { target? := some "prettierd".toList, verbosity := some .debug }] := by
  have named : Log.ModulePath "prettierd".toList := by
    refine ⟨["prettierd".toList], List.cons_ne_nil _ _, ?_, (List.intercalate_singleton).symm⟩
    intro s hs
    rw [List.mem_singleton.1 hs]
    have letters : "prettierd".toList.all Char.isAlphanum = true := by decide
    exact ⟨⟨'p', rfl, .inr (by decide)⟩, fun c hc =>
      .inr (.inl (List.all_eq_true.1 letters c hc))⟩
  exact .cons (.everywhere .info) (.cons (.within named .debug) .nil)

/-- A home directory and a variable for the log filter. -/
def filterVars (filter : String) : List (List UInt8 × List UInt8) :=
  [(Utf8.encode "HOME", Utf8.encode "/home/me"),
    (Utf8.encode "PRETTIERD_LOG_FILTER", Utf8.encode filter)]

theorem setsFilter_filterVars (filter : String) :
    Settings.SetsFilter filter (filterVars filter) := by
  refine ⟨[(Utf8.encode "HOME", Utf8.encode "/home/me")], [], rfl, ?_, nofun⟩
  intro entry he name known rest
  have unnamed : Settings.Variable.names? "HOME" = none := by decide +kernel
  rw [List.mem_singleton.1 he, Utf8.decodeLossy_encode, unnamed]
  exact nofun

/-- Without a settings file a level can be set, and not with a module's level behind it. -/
theorem filter_from_environment_info :
    Settings.load ⟨[], []⟩ (filterVars "info") = .ok Settings.default ∧
      Settings.load ⟨[], []⟩ (filterVars "info,prettierd=debug") =
        .error (.field ⟨.wrongType .sequence "a string", none⟩) := by
  obtain ⟨-, one, -, -⟩ := @filter_from_environment ["info".toList] _ (List.cons_ne_nil _ _)
    (.cons (.everywhere .info) .nil) ⟨[], []⟩ _ (setsFilter_filterVars "info") rfl
  obtain ⟨-, -, several, -⟩ := @filter_from_environment _ _ (List.cons_ne_nil _ _)
    spelled_prettierd ⟨[], []⟩ _ (setsFilter_filterVars "info,prettierd=debug") rfl
  exact ⟨(one rfl).1, (several (by decide)).1⟩

/-- A filter of two directives that a variable cannot hold. -/
theorem filter_pair_refused :
    (∃ ds, List.Forall₂ Log.Spells ["info".toList, "prettierd=debug".toList] ds) ∧
      Settings.SetsFilter "info,prettierd=debug" (filterVars "info,prettierd=debug") ∧
      ∀ s, Settings.load ⟨[], []⟩ (filterVars "info,prettierd=debug") ≠ .ok s := by
  refine ⟨⟨_, spelled_prettierd⟩, setsFilter_filterVars _, fun s loaded => ?_⟩
  rw [Settings.load_several spelled_prettierd (by decide)
    (setsFilter_filterVars "info,prettierd=debug") rfl] at loaded
  cases loaded

end Program

end FormatDaemon

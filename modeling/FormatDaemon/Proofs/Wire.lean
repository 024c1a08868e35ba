import FormatDaemon.Proofs.Decoding
import FormatDaemon.Proofs.Portable
import FormatDaemon.Wire.Message

/-!
# Messages between writing and reading

* `ofRequest_portable`: **a portable request is written as an object that is read as
  that request**.
* `yields_success`, `yields_failure`: a response is read as it was written.
* `ofAnswer`: the result a helper gives; `yields_answer`: it is read as the answer.
-/

namespace FormatDaemon.Wire

open Json (Exact ExactMembers nestMembers)
open Json.Decoder

/-! ### Paths and queries -/

theorem ofPath_ofText (text : String) : ofPath (.ofText text) = .ok (.string text) := by
  rw [ofPath, Path.text?_ofText]

theorem yields_path (text : String) : path.Yields (.string text) (.ofText text) :=
  (yields_textual _ text).map Path.ofText

/-- An optional text as an optional path. -/
theorem yields_path? (text? : Option String) :
    (option path).Yields (.ofOption .string text?) (text?.map .ofText) := by
  cases text? with
  | none => exact yields_none path
  | some text => exact (yields_path text).some (by simp)

theorem exists_ofText? {p? : Option Path} (h : ∀ p ∈ p?.toList, p.IsText) :
    ∃ text? : Option String, p? = text?.map .ofText := by
  cases p? with
  | none => exact ⟨none, rfl⟩
  | some p =>
    obtain ⟨text, rfl⟩ := (h p List.mem_cons_self).eq_ofText
    exact ⟨some text, rfl⟩

theorem ofPath?_ofText (text? : Option String) :
    ofPath? (text?.map .ofText) = .ok (.ofOption .string text?) := by
  cases text? with
  | none => rfl
  | some text => exact ofPath_ofText text

/-- A configuration query, written. -/
def configQueryMembers (config? : Option String) (editorconfig useCache : Bool) :
    List (String × Json) :=
  [("config", .ofOption .string config?), ("editorconfig", .bool editorconfig),
    ("useCache", .bool useCache)]

theorem ofConfigQuery_ofText (config? : Option String) (editorconfig useCache : Bool) :
    ofConfigQuery ⟨config?.map .ofText, editorconfig, useCache⟩ =
      .ok (.object (configQueryMembers config? editorconfig useCache)) := by
  rw [ofConfigQuery, ofPath?_ofText]
  rfl

theorem yields_configQuery (config? : Option String) (editorconfig useCache : Bool) :
    configQuery.Yields (.object (configQueryMembers config? editorconfig useCache))
      ⟨config?.map .ofText, editorconfig, useCache⟩ := by
  refine Record.yields_decode fun members h => ?_
  refine Record.ofMembers_cons rfl rfl ((yields_path? config?).map _) (fun members h => ?_) h
  refine Record.ofMembers_cons rfl rfl ((yields_boolean editorconfig).map _) (fun members h => ?_) h
  refine Record.ofMembers_cons rfl rfl ((yields_boolean useCache).map _) (fun members h => ?_) h
  exact Record.ofMembers_nil rfl h

theorem ofFileInfoQuery_ofText (ignore : String) :
    ofFileInfoQuery ⟨.ofText ignore⟩ = .ok (.object [("ignorePath", .string ignore)]) := by
  rw [ofFileInfoQuery, ofPath_ofText]
  rfl

theorem yields_fileInfoQuery (ignore : String) :
    fileInfoQuery.Yields (.object [("ignorePath", .string ignore)]) ⟨.ofText ignore⟩ := by
  refine Record.yields_decode fun members h => ?_
  refine Record.ofMembers_cons rfl rfl ((yields_path ignore).map _) (fun members h => ?_) h
  exact Record.ofMembers_nil rfl h

theorem yields_pair {α β γ : Type} {title first second : String} {readFirst : Json.Decoder α}
    {readSecond : Json.Decoder β} {make : α → β → γ} {j k : Json} {a : α} {b : β}
    (hn : first ≠ second) (hj : readFirst.Yields j a) (hk : readSecond.Yields k b) :
    (pairRecord title first second readFirst readSecond make).decode.Yields
      (.object [(first, j), (second, k)]) (make a b) := by
  have one : (pairRecord title first second readFirst readSecond make).slots.find?
      (·.name == first) = some (field first (·.first?) (fun a s => { s with first? := some a })
        readFirst) := by simp [pairRecord, field]
  have two : (pairRecord title first second readFirst readSecond make).slots.find?
      (·.name == second) = some (field second (·.second?) (fun b s => { s with second? := some b })
        readSecond) := by simp [pairRecord, field, hn]
  refine Record.yields_decode fun members h => ?_
  refine Record.ofMembers_cons one rfl (hj.map _) (fun members h => ?_) h
  refine Record.ofMembers_cons two rfl (hk.map _) (fun members h => ?_) h
  exact Record.ofMembers_nil rfl h

/-! ### Requests -/

/-- How a question that can cross a line is written, and read again. -/
structure Crossing (operation : Operation) (content : List (String × Json)) : Prop where
  written : ofOperation operation = .ok content
  read : ∃ index, operationNames.idxOf? operation.name = some index ∧
    (operationContent index).Yields (.object content) operation
  exact : ExactMembers content
  nest_le : nestMembers content + 1 ≤ Json.Reader.depthLimit
  others : ∀ m ∈ content, m.1 ≠ "module" ∧ m.1 ≠ operationTag.tag

theorem crossing_resolveConfig (path : String) (config? : Option String)
    (editorconfig useCache : Bool) :
    Crossing (.resolveConfig (.ofText path) ⟨config?.map .ofText, editorconfig, useCache⟩)
      [("path", .string path),
        ("query", .object (configQueryMembers config? editorconfig useCache))] where
  written := by
    rw [ofOperation, ofPath_ofText, ofConfigQuery_ofText]
    rfl
  read := ⟨0, rfl, by
    unfold operationContent
    exact yields_pair (by decide) (yields_path path)
      (yields_configQuery config? editorconfig useCache)⟩
  exact := by cases config? <;> simp [configQueryMembers, ExactMembers, Exact, Json.ofOption]
  nest_le := by
    cases config? <;>
      simp [configQueryMembers, nestMembers, Json.nest, Json.ofOption, Json.Reader.depthLimit]
  others := by simp [operationTag]

theorem crossing_fileInfo (path ignore : String) :
    Crossing (.fileInfo (.ofText path) ⟨.ofText ignore⟩)
      [("path", .string path), ("query", .object [("ignorePath", .string ignore)])] where
  written := by
    rw [ofOperation, ofPath_ofText, ofFileInfoQuery_ofText]
    rfl
  read := ⟨1, rfl, by
    unfold operationContent
    exact yields_pair (by decide) (yields_path path) (yields_fileInfoQuery ignore)⟩
  exact := by simp [ExactMembers, Exact]
  nest_le := by simp [nestMembers, Json.nest, Json.Reader.depthLimit]
  others := by simp [operationTag]

/-- Options in normal form are read as they were written. -/
theorem yields_ofTable {o : Options} (h : ∀ m ∈ o.entries, m.2.normal = m.2) :
    freeform.Yields (.ofTable o) o := by
  have hy := yields_freeform o.entries
  rwa [Json.normalMembers_eq h, Table.ofList_entries] at hy

theorem yields_options {o : Options} (h : Options.Portable o) :
    freeform.Yields (.ofTable o) o :=
  yields_ofTable fun m hm => (h.of_mem m hm).normal

theorem exactMembers_text {o : Options} (h : Options.Portable o) (text : String) :
    ExactMembers [("text", .string text), ("options", .ofTable o)] :=
  ⟨trivial, h.exact, trivial⟩

theorem nestMembers_text {o : Options} (h : Options.Portable o) (text : String) :
    nestMembers [("text", .string text), ("options", .ofTable o)] + 1 ≤ Json.Reader.depthLimit := by
  have := h.nest_le
  simp only [nestMembers, Json.nest]
  omega

theorem crossing_format (text : String) {o : Options} (h : Options.Portable o) :
    Crossing (.format text o) [("text", .string text), ("options", .ofTable o)] where
  written := rfl
  read := ⟨2, rfl, by
    unfold operationContent
    exact yields_pair (by decide) (yields_string text) (yields_options h)⟩
  exact := exactMembers_text h text
  nest_le := nestMembers_text h text
  others := by simp [operationTag]

theorem crossing_check (text : String) {o : Options} (h : Options.Portable o) :
    Crossing (.check text o) [("text", .string text), ("options", .ofTable o)] where
  written := rfl
  read := ⟨3, rfl, by
    unfold operationContent
    exact yields_pair (by decide) (yields_string text) (yields_options h)⟩
  exact := exactMembers_text h text
  nest_le := nestMembers_text h text
  others := by simp [operationTag]

/-- Every portable question crosses. -/
theorem crossing_of_portable {operation : Operation} (h : operation.Portable) :
    ∃ content, Crossing operation content := by
  cases operation with
  | resolveConfig path query =>
    obtain ⟨text, rfl⟩ := (h.paths path List.mem_cons_self).eq_ofText
    obtain ⟨config?, editorconfig, useCache⟩ := query
    obtain ⟨name?, rfl⟩ := exists_ofText? fun p hp => h.paths p (List.mem_cons_of_mem _ hp)
    exact ⟨_, crossing_resolveConfig text name? editorconfig useCache⟩
  | fileInfo path query =>
    obtain ⟨text, rfl⟩ := (h.paths path List.mem_cons_self).eq_ofText
    obtain ⟨ignore⟩ := query
    obtain ⟨name, rfl⟩ := (h.paths ignore (by simp [Operation.paths])).eq_ofText
    exact ⟨_, crossing_fileInfo text name⟩
  | format text o => exact ⟨_, crossing_format text (h.options o rfl)⟩
  | check text o => exact ⟨_, crossing_check text (h.options o rfl)⟩

theorem requestMembers_others {module : Path} {members : Json.Members}
    {ms : List (String × Json)} (hn : ∀ m ∈ ms, m.1 ≠ "module") (h : members.documents = .ok ms) :
    ∃ stop, requestMembers (some module) members = .ok (some module, ms, stop) := by
  induction ms generalizing members with
  | nil =>
    obtain ⟨here, stop, rfl⟩ := Json.members_nil h
    exact ⟨stop, rfl⟩
  | cons m rest ih =>
    obtain ⟨here, span, behind, node, tail, rfl, hd, ht⟩ := Json.members_cons h
    obtain ⟨stop, others⟩ := ih (fun m hm => hn m (List.mem_cons_of_mem _ hm)) ht
    refine ⟨stop, ?_⟩
    unfold requestMembers
    simp only [bind, Except.bind, if_neg (hn m List.mem_cons_self), hd, others]
    rfl

/-- The operation among the members of a request. -/
theorem Crossing.operationOf {operation : Operation} {content : List (String × Json)}
    (h : Crossing operation content) :
    operationOf (("operation", .string operation.name) :: content) = .ok operation := by
  obtain ⟨index, hi, read⟩ := h.read
  have split := (Tagged.yields_split (t := operationTag) hi fun m hm => (h.others m hm).2).ofPart
  unfold Wire.operationOf
  rw [show ("operation", Json.string operation.name) = (operationTag.tag, .string operation.name)
    from rfl, split]
  exact read.ofPart

/-- **A portable request is written as an object that is read as that request.** -/
theorem ofRequest_portable {module : Path} {operation : Operation} (hm : module.IsText)
    (ho : operation.Portable) :
    ∃ ms, ofRequest ⟨module, operation⟩ = .ok (.object ms) ∧ (Json.object ms).Exact ∧
      (Json.object ms).nest ≤ Json.Reader.depthLimit ∧
      request.Yields (.object ms) ⟨module, operation⟩ := by
  obtain ⟨text, rfl⟩ := hm.eq_ofText
  obtain ⟨content, hc⟩ := crossing_of_portable ho
  refine ⟨("module", .string text) :: ("operation", .string operation.name) :: content,
    ?_, ⟨trivial, trivial, hc.exact⟩, ?_, fun node h => ?_⟩
  · rw [ofRequest, ofPath_ofText, hc.written]
    rfl
  · have := hc.nest_le
    simp only [Json.nest, nestMembers]
    omega
  · obtain ⟨span, members, rfl, hms⟩ := Json.shape_of_document h
    obtain ⟨here, span', behind, first, rest, rfl, hd, ht⟩ := Json.members_cons hms
    -- the module is taken out, and the mark and the content are left
    have hn : ∀ m ∈ ("operation", Json.string operation.name) :: content, m.1 ≠ "module" := by
      intro m hm
      rcases List.mem_cons.1 hm with rfl | hm
      · exact fun e : "operation" = "module" => absurd e (by decide)
      · exact (hc.others m hm).1
    obtain ⟨stop, others⟩ := @requestMembers_others (.ofText text) rest _ hn ht
    unfold request requestMembers
    simp only [bind, Except.bind, if_true, yields_path text first hd, others, hc.operationOf]

/-! ### Responses -/

theorem yields_success {result : Json} (h : result.normal = result) :
    response.Yields (ofResponse (.ok result)) (.ok result) := by
  intro node hn
  have split := @Tagged.yields_split [("result", result)] statusTag 0 "ok" rfl
    (by simp [statusTag]) node hn
  have read : successRecord.decode.Yields (.object [("result", result)]) (.ok result) := by
    have hv := yields_value result
    rw [h] at hv
    refine Record.yields_decode fun members hm => ?_
    refine Record.ofMembers_cons rfl rfl (hv.map _) (fun members hm => ?_) hm
    exact Record.ofMembers_nil rfl hm
  unfold response
  simp only [bind, Except.bind, split, if_true, read.ofPart]

theorem yields_failure (message : String) :
    response.Yields (ofResponse (.error message)) (.error message) := by
  intro node hn
  have split := @Tagged.yields_split [("message", .string message)] statusTag 1 "error" rfl
    (by simp [statusTag]) node hn
  have read : failureRecord.decode.Yields (.object [("message", .string message)])
      (.error message) := by
    refine Record.yields_decode fun members hm => ?_
    refine Record.ofMembers_cons rfl rfl ((yields_string message).map _) (fun members hm => ?_) hm
    exact Record.ofMembers_nil rfl hm
  unfold response
  simp only [bind, Except.bind, split, Nat.one_ne_zero, if_false, read.ofPart]

/-! ### Answers -/

theorem yields_fileInfo (info : FileInfo) : fileInfo.Yields (ofFileInfo info) info := by
  obtain ⟨ignored, parser?⟩ := info
  have parser : (option string).Yields (.ofOption .string parser?) parser? :=
    (inverts_string.option (by simp)).yields parser?
  refine Record.yields_decode fun members hm => ?_
  refine Record.ofMembers_cons rfl rfl ((yields_boolean ignored).map _) (fun members hm => ?_) hm
  refine Record.ofMembers_cons rfl rfl (parser.map _) (fun members hm => ?_) hm
  exact Record.ofMembers_nil rfl hm

/-- The result of a helper that gives an answer. -/
def ofAnswer : (operation : Operation) → operation.Answer → Json
  | .resolveConfig .., found? => .ofOption .ofTable found?
  | .fileInfo .., info => ofFileInfo info
  | .format .., text => .string text
  | .check .., formatted => .bool formatted

theorem normal_ofAnswer {operation : Operation} {a : operation.Answer}
    (h : operation.PortableAnswer a) : (ofAnswer operation a).normal = ofAnswer operation a := by
  match operation, a, h with
  | .resolveConfig .., none, _ => rfl
  | .resolveConfig .., some o, h => exact (h o rfl).normal
  | .fileInfo .., ⟨ignored, parser?⟩, _ =>
    refine Json.normal_object
      (List.pairwise_pair.2 (by decide : "ignored" < "inferredParser")) ?_
    cases parser? <;> simp [Json.ofOption, Json.normal]
  | .format .., _, _ => rfl
  | .check .., _, _ => rfl

theorem exact_ofAnswer {operation : Operation} {a : operation.Answer}
    (h : operation.PortableAnswer a) : (ofAnswer operation a).Exact := by
  match operation, a, h with
  | .resolveConfig .., none, _ => trivial
  | .resolveConfig .., some o, h => exact (h o rfl).exact
  | .fileInfo .., ⟨ignored, parser?⟩, _ =>
    cases parser? <;> exact ⟨trivial, trivial, trivial⟩
  | .format .., _, _ => trivial
  | .check .., _, _ => trivial

theorem nest_ofAnswer {operation : Operation} {a : operation.Answer}
    (h : operation.PortableAnswer a) :
    (ofAnswer operation a).nest + 1 ≤ Json.Reader.depthLimit := by
  match operation, a, h with
  | .resolveConfig .., none, _ => exact (by decide : 0 + 1 ≤ 127)
  | .resolveConfig .., some o, h => exact (h o rfl).nest_le
  | .fileInfo .., ⟨ignored, parser?⟩, _ =>
    cases parser? <;> exact (by decide : 1 + 1 ≤ 127)
  | .format .., _, _ => exact (by decide : 0 + 1 ≤ 127)
  | .check .., _, _ => exact (by decide : 0 + 1 ≤ 127)

/-- A portable answer is read as it was written. -/
theorem yields_answer {operation : Operation} {a : operation.Answer}
    (h : operation.PortableAnswer a) : (answer operation).Yields (ofAnswer operation a) a := by
  match operation, a, h with
  | .resolveConfig .., none, _ => exact yields_none freeform
  | .resolveConfig .., some o, h => exact (yields_options (h o rfl)).some (by simp [Json.ofTable])
  | .fileInfo .., info, _ => exact yields_fileInfo info
  | .format .., text, _ => exact yields_string text
  | .check .., formatted, _ => exact yields_boolean formatted

end FormatDaemon.Wire

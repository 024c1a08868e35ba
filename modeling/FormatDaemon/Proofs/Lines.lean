import FormatDaemon.Helper.Exchange
import FormatDaemon.Proofs.PathText
import FormatDaemon.Proofs.PrintedLine

/-!
# Lines to and from helpers

* `Exchange.Textual`: exchanges whose paths are text; `line_eq`, `line_error`: **just
  these have a line to send**.
* `input_eq`: what is sent is one line.
* `firstLine_append`: what is read of a line.
-/

namespace FormatDaemon

/-- The paths in a question. -/
def Operation.paths : Operation → List Path
  | .resolveConfig path query => path :: query.config?.toList
  | .fileInfo path query => [path, query.ignorePath]
  | .format .. | .check .. => []

namespace Wire

/-! ### What can be written -/

theorem ofPath_isText {p : Path} (h : p.IsText) : ∃ j, ofPath p = .ok j := by
  obtain ⟨text, rfl⟩ := h.eq_ofText
  exact ⟨.string text, by rw [ofPath, Path.text?_ofText]⟩

theorem ofPath_error {p : Path} (h : ¬ p.IsText) : ofPath p = .error ⟨.pathNotText, none⟩ := by
  have hd : p.text? = none := Utf8.decode?_eq_none_iff.2 h
  rw [ofPath, hd]

theorem ofOperation_isText {operation : Operation} (h : ∀ p ∈ operation.paths, p.IsText) :
    ∃ content, ofOperation operation = .ok content := by
  cases operation with
  | resolveConfig path query =>
    obtain ⟨config?, editorconfig, useCache⟩ := query
    obtain ⟨j, hj⟩ := ofPath_isText (h path List.mem_cons_self)
    obtain ⟨k, hk⟩ : ∃ k, ofPath? config? = .ok k := by
      cases config? with
      | none => exact ⟨.null, rfl⟩
      | some p => exact ofPath_isText (h p (by simp [Operation.paths]))
    rw [ofOperation, ofConfigQuery, hj, hk]
    exact ⟨_, rfl⟩
  | fileInfo path query =>
    obtain ⟨j, hj⟩ := ofPath_isText (h path List.mem_cons_self)
    obtain ⟨k, hk⟩ := ofPath_isText (h query.ignorePath (by simp [Operation.paths]))
    rw [ofOperation, ofFileInfoQuery, hj, hk]
    exact ⟨_, rfl⟩
  | format text options => exact ⟨_, rfl⟩
  | check text options => exact ⟨_, rfl⟩

theorem ofOperation_error {operation : Operation} (h : ¬ ∀ p ∈ operation.paths, p.IsText) :
    ofOperation operation = .error ⟨.pathNotText, none⟩ := by
  cases operation with
  | resolveConfig path query =>
    obtain ⟨config?, editorconfig, useCache⟩ := query
    rw [ofOperation]
    by_cases hp : path.IsText
    -- a query without a path of its own can be written
    · obtain ⟨j, hj⟩ := ofPath_isText hp
      cases config? with
      | none => exact absurd (by simpa [Operation.paths] using hp) h
      | some p =>
        have hc : ¬ p.IsText := fun hc => h (by simpa [Operation.paths] using ⟨hp, hc⟩)
        rw [ofConfigQuery, hj, ofPath?, ofPath_error hc]
        rfl
    · rw [ofPath_error hp]
      rfl
  | fileInfo path query =>
    rw [ofOperation]
    by_cases hp : path.IsText
    · obtain ⟨j, hj⟩ := ofPath_isText hp
      have hc : ¬ query.ignorePath.IsText := fun hc =>
        h (by simpa [Operation.paths] using ⟨hp, hc⟩)
      rw [ofFileInfoQuery, hj, ofPath_error hc]
      rfl
    · rw [ofPath_error hp]
      rfl
  | format text options => exact absurd (by simp [Operation.paths]) h
  | check text options => exact absurd (by simp [Operation.paths]) h

end Wire

namespace Helper.Exchange

variable {engine : Engine} {operation : Operation}

/-- An exchange whose paths are text. -/
def Textual (engine : Engine) (operation : Operation) : Prop :=
  ∀ p ∈ engine.module :: operation.paths, p.IsText

/-- An exchange whose paths are text has a line to send, a printed object. -/
theorem line_eq (h : Textual engine operation) :
    ∃ ms, Wire.ofRequest ⟨engine.module, operation⟩ = .ok (.object ms) ∧
      line engine operation = .ok (Json.object ms).print := by
  obtain ⟨j, hj⟩ := Wire.ofPath_isText (h _ List.mem_cons_self)
  obtain ⟨content, hc⟩ :=
    Wire.ofOperation_isText fun p hp => h p (List.mem_cons_of_mem _ hp)
  have written : Wire.ofRequest ⟨engine.module, operation⟩ =
      .ok (.object (("module", j) :: ("operation", .string operation.name) :: content)) := by
    rw [Wire.ofRequest, hj, hc]
    rfl
  refine ⟨_, written, ?_⟩
  rw [line, written]
  rfl

/-- Any other exchange has none. -/
theorem line_error (h : ¬ Textual engine operation) :
    line engine operation = .error ⟨.pathNotText, none⟩ := by
  rw [line, Wire.ofRequest]
  by_cases hm : engine.module.IsText
  · obtain ⟨j, hj⟩ := Wire.ofPath_isText hm
    have ho : ¬ ∀ p ∈ operation.paths, p.IsText := fun ho =>
      h fun p hp => (List.mem_cons.1 hp).elim (fun e => e ▸ hm) (ho p)
    rw [hj, Wire.ofOperation_error ho]
    rfl
  · rw [Wire.ofPath_error hm]
    rfl

/-! ### Single lines -/

theorem newline_not_mem_encode {text : String} (h : '\n' ∉ text.toList) :
    (10 : UInt8) ∉ Utf8.encode text := fun hm =>
  h (Utf8.mem_of_mem_encode (by decide) hm)

theorem newline_not_mem_print (j : Json) : (10 : UInt8) ∉ Utf8.encode j.print :=
  newline_not_mem_encode (by rw [Json.print, String.toList_ofList]; exact j.newline_not_mem_chars)

/-- **What a helper gets is one line**, whatever the text and the options are. -/
theorem input_eq (h : Textual engine operation) :
    ∃ bytes, input (line engine operation) = bytes ++ [10] ∧ (10 : UInt8) ∉ bytes := by
  obtain ⟨ms, -, hl⟩ := line_eq h
  refine ⟨Utf8.encode (Json.object ms).print, ?_, newline_not_mem_print _⟩
  rw [hl, input, Utf8.encode_append]
  rfl

theorem bne_newline {bytes : List UInt8} (h : (10 : UInt8) ∉ bytes) :
    ∀ b ∈ bytes, (b != 10) = true := fun b hb => by
  simpa using fun e : b = 10 => h (e ▸ hb)

/-- The first line ends with the first newline. -/
theorem firstLine_append {bytes : List UInt8} (h : (10 : UInt8) ∉ bytes) (rest : List UInt8) :
    firstLine (bytes ++ 10 :: rest) = bytes ++ [10] := by
  have keep := bne_newline h
  rw [firstLine, List.takeWhile_append_of_pos keep, List.dropWhile_append_of_pos keep]
  simp

/-- What comes behind the first newline does not count. -/
theorem firstLine_append_of_mem {bytes : List UInt8} (h : (10 : UInt8) ∈ bytes)
    (rest : List UInt8) : firstLine (bytes ++ rest) = firstLine bytes := by
  obtain ⟨line, more, rfl, hl⟩ := List.eq_append_cons_of_mem h
  rw [List.append_assoc, List.cons_append, firstLine_append hl, firstLine_append hl]

/-- Without a newline there is only one line. -/
theorem firstLine_eq_self {bytes : List UInt8} (h : (10 : UInt8) ∉ bytes) :
    firstLine bytes = bytes := by
  have keep := bne_newline h
  have all : (bytes ++ []).takeWhile (· != 10) = bytes ++ [].takeWhile (· != 10) :=
    List.takeWhile_append_of_pos keep
  have none : (bytes ++ []).dropWhile (· != 10) = [].dropWhile (· != 10) :=
    List.dropWhile_append_of_pos keep
  rw [List.append_nil] at all none
  rw [firstLine, all, none]
  simp

end Helper.Exchange

end FormatDaemon

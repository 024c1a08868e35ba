import FormatDaemon.Proofs.Payloads
import FormatDaemon.Proofs.Wire
import FormatDaemon.Settings.Basic

/-!
# Round trips over the wire

Whatever goes over the wire is printed as a JSON text and read from one. What comes
back is what was sent, if its paths are text, its numbers integers of 64 bits, and its
document not too deep.

* `Codec`: how the values of a type are written and read; `Codec.encode`, `Codec.decode`.
* `Codec.Portable`: values that can go over the wire.
* `Codec.RoundTrip`: what is read is what was written.
* `Codec.roundTrip_of_written`: it is enough that the document of a value reads as the
  value.
* `roundTrip_wire`: **round trips of all that goes over the wire**.
-/

namespace FormatDaemon

/-- The free-form values among options. -/
def Options.values (o : Options) : List Json := o.entries.map (·.2)

namespace Wire

/-- How the values of a type are written and read, and which paths and free-form values
there are in one. -/
structure Codec (α : Type) where
  document : α → Except Json.Fault Json
  decoder : Json.Decoder α
  paths : α → List Path := fun _ => []
  values : α → List Json := fun _ => []

namespace Codec

section RoundTrip

variable {α : Type} (k : Codec α)

/-- A value as a text. -/
def encode (v : α) : Except Json.Fault String := (k.document v).map Json.print

/-- The value of a text. -/
def decode (text : String) : Except Json.Fault α := Json.Decoder.ofText k.decoder text

/-- A value that can go over the wire: its paths are text, its free-form values are values,
with integers of 64 bits, and its document is not too deep for a reader. -/
structure Portable (v : α) : Prop where
  paths : ∀ p ∈ k.paths v, p.IsText
  values : ∀ j ∈ k.values v, j.Exact ∧ j.normal = j
  shallow : ∀ j, k.document v = .ok j → j.nest ≤ Json.Reader.depthLimit

/-- What is read is what was written. So no two values are written alike, and what is read
and written once does not change any more. -/
structure RoundTrip : Prop where
  reads : ∀ v, k.Portable v → ∃ text, k.encode v = .ok text ∧ k.decode text = .ok v
  injective : ∀ v w, k.Portable v → k.Portable w → k.encode v = k.encode w → v = w
  settles : ∀ text v, k.decode text = .ok v → k.Portable v →
    ∃ written, (k.decode text).bind k.encode = .ok written ∧
      (k.decode written).bind k.encode = .ok written

/-- A value whose document reads as that value, wherever it stands. -/
def Written (v : α) : Prop := ∃ j, k.document v = .ok j ∧ j.Exact ∧ k.decoder.Yields j v

variable {k}

theorem Written.reads {v : α} (h : k.Written v) (hv : k.Portable v) :
    ∃ text, k.encode v = .ok text ∧ k.decode text = .ok v := by
  obtain ⟨j, hj, exact, read⟩ := h
  obtain ⟨node, hn, hd⟩ := @Json.ofText_print _ exact (hv.shallow j hj) [] (by simp)
  have decoded : k.decode (j.print ++ String.ofList []) = .ok v :=
    (hd k.decoder).trans (read node hn)
  rw [String.ofList_nil, String.append_empty] at decoded
  refine ⟨j.print, ?_, decoded⟩
  rw [encode, hj]
  rfl

/-- **If the documents of values read as the values, so do their texts.** -/
theorem roundTrip_of_written (h : ∀ v, k.Portable v → k.Written v) : k.RoundTrip where
  reads v hv := (h v hv).reads hv
  injective v w hv hw same := by
    obtain ⟨text, he, hd⟩ := (h v hv).reads hv
    obtain ⟨text', he', hd'⟩ := (h w hw).reads hw
    obtain rfl : text = text' := by
      rw [he, he'] at same
      exact Except.ok.inj same
    exact Except.ok.inj (hd.symm.trans hd')
  settles text v read hv := by
    obtain ⟨written, he, hd⟩ := (h v hv).reads hv
    refine ⟨written, ?_, ?_⟩
    · rw [read]
      exact he
    · rw [hd]
      exact he

end RoundTrip

/-! ### What goes over the wire -/

/-- Requests to helpers. -/
def request : Codec HelperRequest where
  document := ofRequest
  decoder := Wire.request
  paths r := r.module :: r.operation.paths
  values r := r.operation.options?.elim [] Options.values

/-- Responses of helpers. -/
def response : Codec HelperResponse where
  document r := .ok (ofResponse r)
  decoder := Wire.response
  values
    | .ok result => [result]
    | .error _ => []

/-- Configuration queries. -/
def configQuery : Codec ConfigQuery where
  document := ofConfigQuery
  decoder := Wire.configQuery
  paths q := q.config?.toList

/-- Queries on a file. -/
def fileInfoQuery : Codec FileInfoQuery where
  document := ofFileInfoQuery
  decoder := Wire.fileInfoQuery
  paths q := [q.ignorePath]

/-- What is known about a file. -/
def fileInfo : Codec FileInfo where
  document info := .ok (ofFileInfo info)
  decoder := Wire.fileInfo

/-- Configuration that was found. -/
def discovered : Codec Options where
  document o := .ok (.ofTable o)
  decoder := Json.Decoder.freeform
  values := Options.values

/-- Payloads of clients. -/
def payload : Codec Payload where
  document p := .ok (ofPayload p)
  decoder := Wire.payload

/-- Settings of the process. -/
def settings : Codec Settings where
  document s := .ok s.toJson
  decoder := Settings.decode

/-! ### Requests -/

/-- Options in a portable request can cross a line. -/
theorem portable_options {r : HelperRequest} (h : request.Portable r) {o : Options}
    (ho : r.operation.options? = some o) : Options.Portable o := by
  obtain ⟨module, operation⟩ := r
  obtain ⟨name, rfl⟩ := (h.paths module List.mem_cons_self).eq_ofText
  have written : ∃ text, ofRequest ⟨.ofText name, operation⟩ = .ok (.object
      [("module", .string name), ("operation", .string operation.name), ("text", .string text),
        ("options", .ofTable o)]) := by
    cases operation with
    | resolveConfig | fileInfo => cases ho
    | format text | check text =>
      cases ho
      refine ⟨text, ?_⟩
      rw [ofRequest, ofPath_ofText]
      rfl
  obtain ⟨text, written⟩ := written
  have shallow := h.shallow _ written
  intro key j hj
  have hm := Table.mem_of_get? hj
  have listed : j ∈ request.values ⟨.ofText name, operation⟩ := by
    change j ∈ operation.options?.elim [] Options.values
    rw [ho]
    exact List.mem_map_of_mem hm
  obtain ⟨exact, normal⟩ := h.values j listed
  refine ⟨exact, normal, ?_⟩
  have deep : j.nest ≤ Json.nestMembers o.entries := Json.nest_le_nestMembers hm
  simp only [Json.nest, Json.nestMembers, Json.ofTable] at shallow
  omega

/-- A portable request is one that can cross a line. -/
theorem portable_request_iff {r : HelperRequest} :
    request.Portable r ↔ r.module.IsText ∧ r.operation.Portable := by
  constructor
  · intro h
    have operation : r.operation.Portable :=
      ⟨fun p hp => h.paths p (List.mem_cons_of_mem _ hp), fun o ho => portable_options h ho⟩
    exact ⟨h.paths r.module List.mem_cons_self, operation⟩
  · rintro ⟨module, operation⟩
    obtain ⟨ms, written, -, shallow, -⟩ := ofRequest_portable module operation
    refine ⟨List.forall_mem_cons.2 ⟨module, operation.paths⟩, fun j hj => ?_, fun j hj => ?_⟩
    · change j ∈ r.operation.options?.elim [] Options.values at hj
      cases ho : r.operation.options? with
      | none => rw [ho] at hj; cases hj
      | some o =>
        rw [ho] at hj
        obtain ⟨m, hm, rfl⟩ := List.mem_map.1 hj
        have value := (operation.options o ho).of_mem m hm
        exact ⟨value.exact, value.normal⟩
    · obtain rfl : Json.object ms = j := Except.ok.inj (written.symm.trans hj)
      exact shallow

theorem written_request {r : HelperRequest} (h : request.Portable r) : request.Written r := by
  obtain ⟨module, operation⟩ := portable_request_iff.1 h
  obtain ⟨ms, written, exact, -, read⟩ := ofRequest_portable module operation
  exact ⟨.object ms, written, exact, read⟩

/-! ### Responses, queries and answers -/

theorem written_response {r : HelperResponse} (h : response.Portable r) : response.Written r := by
  refine ⟨ofResponse r, rfl, ?_⟩
  cases r with
  | ok result =>
    obtain ⟨exact, normal⟩ := h.values result List.mem_cons_self
    exact ⟨⟨trivial, exact, trivial⟩, yields_success normal⟩
  | error message => exact ⟨⟨trivial, trivial, trivial⟩, yields_failure message⟩

theorem exact_ofOption (text? : Option String) : (Json.ofOption .string text?).Exact := by
  cases text? <;> trivial

theorem written_configQuery {q : ConfigQuery} (h : configQuery.Portable q) :
    configQuery.Written q := by
  obtain ⟨config?, editorconfig, useCache⟩ := q
  obtain ⟨text?, rfl⟩ := exists_ofText? h.paths
  exact ⟨_, ofConfigQuery_ofText text? editorconfig useCache,
    ⟨exact_ofOption text?, trivial, trivial, trivial⟩,
    yields_configQuery text? editorconfig useCache⟩

theorem written_fileInfoQuery {q : FileInfoQuery} (h : fileInfoQuery.Portable q) :
    fileInfoQuery.Written q := by
  obtain ⟨ignorePath⟩ := q
  obtain ⟨text, rfl⟩ := (h.paths ignorePath List.mem_cons_self).eq_ofText
  exact ⟨_, ofFileInfoQuery_ofText text, ⟨trivial, trivial⟩, yields_fileInfoQuery text⟩

theorem written_fileInfo (info : FileInfo) : fileInfo.Written info :=
  ⟨ofFileInfo info, rfl, ⟨trivial, exact_ofOption info.inferredParser?, trivial⟩,
    yields_fileInfo info⟩

theorem written_discovered {o : Options} (h : discovered.Portable o) : discovered.Written o := by
  have values : ∀ m ∈ o.entries, m.2.Exact ∧ m.2.normal = m.2 :=
    fun m hm => h.values m.2 (List.mem_map_of_mem hm)
  exact ⟨.ofTable o, rfl, Json.exactMembers fun m hm => (values m hm).1,
    yields_ofTable fun m hm => (values m hm).2⟩

/-! ### Payloads and settings -/

theorem exact_texts (texts : List String) : Json.ExactItems (texts.map .string) := by
  induction texts with
  | nil => trivial
  | cons text rest ih => exact ⟨trivial, ih⟩

theorem written_payload (p : Payload) : payload.Written p := by
  have changes : (Json.ofTable (p.clientEnv.map (.ofOption .string))).Exact := by
    refine Json.exactMembers fun m hm => ?_
    obtain ⟨e, -, rfl⟩ := List.mem_map.1 hm
    exact exact_ofOption e.2
  exact ⟨ofPayload p, rfl, ⟨exact_texts p.args, changes, trivial⟩,
    fun node hn => (payload_eq_ok_iff hn p).2 (.inl (isPayload_ofPayload p))⟩

theorem yields_logFormat (format : LogFormat) : LogFormat.decode.Yields format.toJson format := by
  intro node h
  obtain ⟨span, rfl⟩ := Json.shape_of_document h
  cases format <;> rfl

theorem yields_settings (s : Settings) : Settings.decode.Yields s.toJson s := by
  obtain ⟨logFilter, logFormat, nodeBinary, globalEnginePath?⟩ := s
  have path := ((Json.Decoder.inverts_textual "a UTF-8 path string").option (by simp)).yields
    globalEnginePath?
  refine Json.Decoder.Record.yields_decode fun members hm => ?_
  refine Json.Decoder.Record.ofMembers_cons rfl rfl
    ((Json.Decoder.yields_string logFilter).map _) (fun members hm => ?_) hm
  refine Json.Decoder.Record.ofMembers_cons rfl rfl
    ((yields_logFormat logFormat).map _) (fun members hm => ?_) hm
  refine Json.Decoder.Record.ofMembers_cons rfl rfl
    ((Json.Decoder.yields_string nodeBinary).map _) (fun members hm => ?_) hm
  refine Json.Decoder.Record.ofMembers_cons rfl rfl (path.map _) (fun members hm => ?_) hm
  exact Json.Decoder.Record.ofMembers_nil rfl hm

theorem written_settings (s : Settings) : settings.Written s :=
  ⟨s.toJson, rfl, ⟨trivial, trivial, trivial, exact_ofOption s.globalEnginePath?, trivial⟩,
    yields_settings s⟩

end Codec

/-- **Round trips of all that goes over the wire.** -/
theorem roundTrip_wire :
    Codec.request.RoundTrip ∧ Codec.response.RoundTrip ∧ Codec.configQuery.RoundTrip ∧
      Codec.fileInfoQuery.RoundTrip ∧ Codec.fileInfo.RoundTrip ∧ Codec.discovered.RoundTrip ∧
      Codec.payload.RoundTrip ∧ Codec.settings.RoundTrip :=
  ⟨Codec.roundTrip_of_written fun _ => Codec.written_request,
    Codec.roundTrip_of_written fun _ => Codec.written_response,
    Codec.roundTrip_of_written fun _ => Codec.written_configQuery,
    Codec.roundTrip_of_written fun _ => Codec.written_fileInfoQuery,
    Codec.roundTrip_of_written fun info _ => Codec.written_fileInfo info,
    Codec.roundTrip_of_written fun _ => Codec.written_discovered,
    Codec.roundTrip_of_written fun p _ => Codec.written_payload p,
    Codec.roundTrip_of_written fun s _ => Codec.written_settings s⟩

/-- Options with the names that requests and responses use themselves. -/
def envelopeOptions : Options where
  entries := [("message", .array [.string "m"]), ("module", .null),
    ("operation", .string "check"), ("result", .number (.integer 7)), ("status", .string "error")]
  sorted := by decide

/-- They come back in a request, and as a result. -/
theorem roundTrip_envelopeOptions :
    (∃ text, Codec.request.encode ⟨.ofText "/p/engine.js", .format "x" envelopeOptions⟩ =
        .ok text ∧
      Codec.request.decode text = .ok ⟨.ofText "/p/engine.js", .format "x" envelopeOptions⟩) ∧
    ∃ text, Codec.response.encode (.ok (.ofTable envelopeOptions)) = .ok text ∧
      Codec.response.decode text = .ok (.ok (.ofTable envelopeOptions)) := by
  have portable : Options.Portable envelopeOptions := by
    refine Options.portable_of_mem ?_
    simp only [envelopeOptions, List.forall_mem_cons]
    have seven : (Json.number (.integer 7)).Exact := ⟨by decide, by decide⟩
    refine ⟨⟨⟨trivial, trivial⟩, rfl, by decide⟩, ⟨trivial, rfl, by decide⟩,
      ⟨trivial, rfl, by decide⟩, ⟨seven, rfl, by decide⟩, ⟨trivial, rfl, by decide⟩, ?_⟩
    intro m hm
    cases hm
  constructor
  · refine roundTrip_wire.1.reads _ (Codec.portable_request_iff.2 ⟨Path.isText_ofText _, ?_⟩)
    refine ⟨by simp [Operation.paths], fun o ho => ?_⟩
    cases ho
    exact portable
  · refine roundTrip_wire.2.1.reads _ ⟨fun p hp => ?_, fun j hj => ?_, fun j hj => ?_⟩
    · cases hp
    · obtain rfl := List.mem_singleton.1 hj
      exact ⟨portable.exact, portable.normal⟩
    · cases hj
      have := portable.nest_le
      simp only [ofResponse, Json.nest, Json.nestMembers]
      omega

end Wire

end FormatDaemon

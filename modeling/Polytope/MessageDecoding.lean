import Polytope.ByteReader
import Polytope.EventNormalizing

/-! DecodePipeline: the payload of one packet becomes a batch of at most 64 normalized events. JsonDecoder tells
control text from JSON first; what the JSON library makes of the trimmed payload is a parameter. -/
namespace Polytope.MessageDecoding
open ByteReader (Bytes)
open EventNormalizing

structure DecodeInput extends DecodeInputView where
  connectionId : UInt64 := 0
  codec : UInt16 := 0
  flags : UInt32 := 0
  payload : Bytes := []

inductive DecodeErrorCode where
  | none | nonJsonControl | unsupportedCodec | malformedJson | unsupportedJson | emptyPayload | internalError
  deriving DecidableEq, Repr
inductive DecodeErrorSeverity where | info | warning | error | fatal
  deriving DecidableEq, Repr
structure DecodeError where
  code : DecodeErrorCode := .none
  severity : DecodeErrorSeverity := .info
  message : String := ""
  deriving DecidableEq, Repr
def DecodeError.ok (error : DecodeError) : Bool := error.code = .none || error.code = .nonJsonControl

/-! JsonDecoder. -/

inductive JsonDecodeKind where | jsonObject | jsonArray | nonJsonControl | unsupportedJson | malformedJson
  deriving DecidableEq, Repr
structure JsonDecodeResult where
  kind : JsonDecodeKind := .malformedJson
  json : Json := .null
  controlPayload : String := ""
  error : DecodeErrorCode := .malformedJson
  message : String := ""
  diagnostics : List String := []
namespace JsonDecodeResult

def ok (result : JsonDecodeResult) : Bool :=
  result.kind = .jsonObject || result.kind = .jsonArray || result.kind = .nonJsonControl
def hasJsonEventPayload (result : JsonDecodeResult) : Bool := result.kind = .jsonObject || result.kind = .jsonArray
def hasControlPayload (result : JsonDecodeResult) : Bool := result.kind = .nonJsonControl

end JsonDecodeResult

def utf8 (text : String) : Bytes := text.toUTF8.data.toList
-- Only the bytes of a control word are read as text: they are ASCII.
def textOf (bytes : Bytes) : String := String.ofList (bytes.map fun byte => Char.ofNat byte.toNat)
def isSpace (byte : UInt8) : Bool := byte = 32 || (9 ≤ byte && byte ≤ 13)
def toLower (byte : UInt8) : UInt8 := if 65 ≤ byte ∧ byte ≤ 90 then byte + 32 else byte
def trimCopy (input : Bytes) : Bytes := ((input.dropWhile isSpace).reverse.dropWhile isSpace).reverse
def isControlPayload (payload : Bytes) : Bool :=
  let lower := (trimCopy payload).map toLower
  lower = utf8 "pong" || lower = utf8 "ping"
def isControlStringJson : Json → Bool
  | .string text => isControlPayload (utf8 text)
  | _ => false
def jsonKind : Json → String
  | .null => "null"
  | .bool _ => "boolean"
  | .int64 _ | .uint64 _ | .double _ => "number"
  | .string _ => "string"
  | .object _ => "object"
  | .array _ => "array"
def stringOf : Json → String
  | .string text => text
  | _ => ""
def decodeJson (json : Json) : JsonDecodeResult :=
  match json with
  | .object _ => {kind := .jsonObject, error := .none, json}
  | .array _ => {kind := .jsonArray, error := .none, json}
  | other =>
    if isControlStringJson other = true then
      {kind := .nonJsonControl, error := .nonJsonControl, controlPayload := stringOf other}
    else
      let message := "unsupported JSON kind: " ++ jsonKind other
      {kind := .unsupportedJson, error := .unsupportedJson, json := other, message, diagnostics := [message]}

section
variable (parse : Bytes → Option Json)

def decodePayload (payload : Bytes) : JsonDecodeResult :=
  let trimmed := trimCopy payload
  if trimmed = [] then {error := .emptyPayload, message := "payload is empty", diagnostics := ["payload is empty"]}
  else if isControlPayload trimmed = true then
    {kind := .nonJsonControl, error := .nonJsonControl, controlPayload := textOf trimmed}
  else
    match parse trimmed with
    | none =>
      let message := "payload is neither valid JSON nor known control message"
      {message, diagnostics := [message]}
    | some json => decodeJson json

/-! The batch and the pipeline. -/

def kMaxEvents : Nat := 64
structure NormalizedEventBatch where
  events : List NormalizedEvent := []
  warnings : List String := []
  overflowed : Bool := false
  deriving DecidableEq, Repr
def NormalizedEventBatch.pushBack (batch : NormalizedEventBatch) (event : NormalizedEvent) :
    NormalizedEventBatch × Bool :=
  if kMaxEvents ≤ batch.events.length then ({batch with overflowed := true},false)
  else ({batch with events := batch.events ++ [event]},true)
def NormalizedEventBatch.pushAll (batch : NormalizedEventBatch) : List NormalizedEvent →
    NormalizedEventBatch × Bool
  | [] => (batch,true)
  | event::rest =>
    match batch.pushBack event with
    | (full,false) => (full,false)
    | (more,true) => more.pushAll rest

structure DecodePipelineResult where
  error : DecodeError := {}
  payloadKind : JsonDecodeKind := .malformedJson
  eventsEmitted : Nat := 0
  deriving DecidableEq, Repr
def DecodePipelineResult.ok (result : DecodePipelineResult) : Bool := result.error.ok

def normalizeDecoded (input : DecodeInput) (decoded : JsonDecodeResult) : NormalizationResult :=
  if decoded.hasJsonEventPayload = true then normalizeJson input.toDecodeInputView decoded.json
  else if decoded.hasControlPayload = true then normalizeControl input.toDecodeInputView decoded.controlPayload
  else {}
def controlError (decoded : JsonDecodeResult) : DecodeError :=
  if decoded.hasJsonEventPayload = false ∧ decoded.hasControlPayload = true then {code := .nonJsonControl} else {}
def decode (input : DecodeInput) : DecodePipelineResult × NormalizedEventBatch :=
  if input.codec ≠ 0 then ({error := ⟨.unsupportedCodec,.error,"unsupported payload codec"⟩},{})
  else
    let decoded := decodePayload parse input.payload
    if decoded.ok = false then ({error := ⟨decoded.error,.error,decoded.message⟩, payloadKind := decoded.kind},{})
    else
      let normalized := normalizeDecoded input decoded
      let batch : NormalizedEventBatch := {warnings := normalized.warnings}
      if normalized.error ≠ "" then
        ({error := ⟨.internalError,.error,normalized.error⟩, payloadKind := decoded.kind},batch)
      else
        match batch.pushAll normalized.events with
        | (batch,false) =>
          ({error := ⟨.internalError,.error,"too many normalized events in packet"⟩,
            payloadKind := decoded.kind},batch)
        | (batch,true) =>
          ({ error := controlError decoded
             payloadKind := decoded.kind
             eventsEmitted := batch.events.length },batch)

end

example : isControlPayload (utf8 " PONG\n") = true := by decide +kernel

/-! What a batch holds. -/

theorem pushedAll {batch out : NormalizedEventBatch} {events : List NormalizedEvent}
    (ok : batch.pushAll events = (out,true)) :
    out.events = batch.events ++ events ∧ (batch.events.length ≤ kMaxEvents → out.events.length ≤ kMaxEvents) := by
  induction events generalizing batch with
  | nil =>
    cases ok
    exact ⟨(List.append_nil _).symm,id⟩
  | cons event rest ih =>
    rw [NormalizedEventBatch.pushAll,NormalizedEventBatch.pushBack] at ok
    by_cases full : kMaxEvents ≤ batch.events.length
    · rw [if_pos full] at ok
      cases ok
    · rw [if_neg full] at ok
      obtain ⟨all,bound⟩ := ih ok
      constructor
      · rw [all,List.append_assoc]
        rfl
      · intro _
        refine bound ?_
        rw [List.length_append,List.length_singleton]
        omega

/-! Every event carries the id and the receive times of its packet. -/

def stampOf (event : NormalizedEvent) : UInt64 × UInt64 × UInt64 × SourceId :=
  (event.packetId,event.recvWallNs,event.recvMonotonicNs,event.sourceId)
def stampFrom (input : DecodeInputView) : UInt64 × UInt64 × UInt64 × SourceId :=
  (input.packetId,input.recvWallNs,input.recvMonotonicNs,input.sourceId)

@[simp] theorem warnStamp (event : NormalizedEvent) (condition : Bool) (text : String) :
    stampOf (warn event condition text) = stampOf event := by
  unfold warn
  split <;> rfl
theorem objectStamp (input : DecodeInputView) (object : Json) :
    stampOf (normalizeOneObject input object) = stampFrom input := by
  have base (eventType : EntityBooks.NormalizedEventType) (rawType : String) :
    stampOf (baseOf input object eventType rawType) = stampFrom input := rfl
  have priceChange (rawType : String) : stampOf (normalizePriceChange input object rawType) = stampFrom input := by
    unfold normalizePriceChange
    dsimp only
    rw [warnStamp,warnStamp]
    cases firstPriceChangeAssetId object with
    | none => exact base .delta rawType
    | some assetId => exact base .delta rawType
  unfold normalizeOneObject
  dsimp only
  split
  · exact (warnStamp _ _ _).trans ((warnStamp _ _ _).trans (base .snapshot (extractRawType object)))
  split
  · exact priceChange (extractRawType object)
  split
  · exact (warnStamp _ _ _).trans ((warnStamp _ _ _).trans (base .statusChange (extractRawType object)))
  split
  · exact (warnStamp _ _ _).trans (base .statusChange (extractRawType object))
  split
  · exact (warnStamp _ _ _).trans (base .lifecycleEvent (extractRawType object))
  split
  · exact (warnStamp _ _ _).trans (base .tradeEvent (extractRawType object))
  · unfold normalizeUnknown
    split
    · exact (warnStamp _ _ _).trans (base .unknown (extractRawType object))
    · exact (warnStamp _ _ _).trans (base .unknown (extractRawType object))

-- The control text of a payload: the payload itself, or the JSON string it parses to.
inductive ControlText (parse : Bytes → Option Json) (payload : Bytes) : String → Prop where
  | bare (word : isControlPayload (trimCopy payload) = true) :
    ControlText parse payload (textOf (trimCopy payload))
  | quoted {text : String} (other : isControlPayload (trimCopy payload) = false)
      (reads : parse (trimCopy payload) = some (.string text)) (word : isControlPayload (utf8 text) = true) :
      ControlText parse payload text
def holdsMessages : Json → Bool
  | .object _ | .array _ => true
  | _ => false
-- Control text gives one event, an object one, an array wrapper one for each object in it.
inductive Decodes (parse : Bytes → Option Json) (input : DecodeInput) : List NormalizedEvent → Prop where
  | control {text : String} (own : ControlText parse input.payload text) :
      Decodes parse input (normalizeControl input.toDecodeInputView text).events
  | json {json : Json} (other : isControlPayload (trimCopy input.payload) = false)
      (reads : parse (trimCopy input.payload) = some json) (holds : holdsMessages json = true) :
      Decodes parse input ((messages json).map (normalizeOneObject input.toDecodeInputView))

section
variable {parse : Bytes → Option Json} {input : DecodeInput}

theorem decodesStamp {events : List NormalizedEvent} (decodes : Decodes parse input events) :
    ∀ event ∈ events, stampOf event = stampFrom input.toDecodeInputView := by
  cases decodes with
  | control own =>
    unfold normalizeControl
    split <;> exact List.forall_mem_singleton.mpr rfl
  | json other reads holds =>
    intro event mem
    obtain ⟨message,-,rfl⟩ := List.mem_map.mp mem
    exact objectStamp _ message
-- What decodePayload comes to: a refusal, control text, or the object or array the payload parses to.
inductive PayloadDecoded (parse : Bytes → Option Json) (payload : Bytes) (decoded : JsonDecodeResult) : Prop where
  | refused (bad : decoded.ok = false) (error : DecodeError.ok {code := decoded.error} = false)
  | control (good : decoded.ok = true) (other : decoded.hasJsonEventPayload = false)
    (own : decoded.hasControlPayload = true)
      (text : ControlText parse payload decoded.controlPayload)
  | json (good : decoded.ok = true) (own : decoded.hasJsonEventPayload = true)
      (bare : isControlPayload (trimCopy payload) = false) (reads : parse (trimCopy payload) = some decoded.json)
      (holds : holdsMessages decoded.json = true)

theorem payloadDecoded (parse : Bytes → Option Json) (payload : Bytes) :
    PayloadDecoded parse payload (decodePayload parse payload) := by
  unfold decodePayload
  dsimp only
  split
  · exact .refused rfl rfl
  split
  · next word => exact .control rfl rfl rfl (.bare word)
  next word =>
    rw [Bool.not_eq_true] at word
    cases parsed : parse (trimCopy payload) with
    | none => exact .refused rfl rfl
    | some json =>
      have other (json : Json) (parsed : parse (trimCopy payload) = some json) : PayloadDecoded parse payload
          (if isControlStringJson json = true then
            {kind := .nonJsonControl, error := .nonJsonControl, controlPayload := stringOf json}
          else
            {kind := .unsupportedJson, error := .unsupportedJson, json
             message := "unsupported JSON kind: " ++ jsonKind json,
               diagnostics := ["unsupported JSON kind: " ++ jsonKind json]}) := by
        split
        · next control =>
          cases json with
          | string text => exact .control rfl rfl rfl (.quoted word parsed control)
          | null => cases control
          | bool value => cases control
          | int64 value => cases control
          | uint64 value => cases control
          | double value => cases control
          | object members => cases control
          | array elements => cases control
        · exact .refused rfl rfl
      cases json with
      | object members => exact .json rfl rfl word parsed rfl
      | array elements => exact .json rfl rfl word parsed rfl
      | null => exact other _ parsed
      | bool value => exact other _ parsed
      | int64 value => exact other _ parsed
      | uint64 value => exact other _ parsed
      | double value => exact other _ parsed
      | string value => exact other _ parsed
theorem normalizedDecodes (decoded : PayloadDecoded parse input.payload (decodePayload parse input.payload))
    (ok : (decodePayload parse input.payload).ok = true) :
    Decodes parse input (normalizeDecoded input (decodePayload parse input.payload)).events := by
  unfold normalizeDecoded
  cases decoded with
  | refused bad error => exact Bool.noConfusion (bad.symm.trans ok)
  | control good other own text =>
    rw [if_neg (by simp [other]),if_pos own]
    exact .control text
  | json good own bare reads holds =>
    rw [if_pos own,oneEventEach]
    exact .json bare reads holds
theorem decodedEvents (ok : (decode parse input).1.ok = true) :
    input.codec = 0 ∧ (decode parse input).2.events.length ≤ kMaxEvents ∧
      Decodes parse input (decode parse input).2.events := by
  have decoded := payloadDecoded parse input.payload
  unfold decode at ok ⊢
  split at ok
  · cases ok
  next plain =>
    rw [if_neg plain]
    refine ⟨not_not.mp plain,?_⟩
    dsimp only at ok ⊢
    split at ok
    · next refused =>
      cases decoded with
      | refused bad error => exact Bool.noConfusion (error.symm.trans ok)
      | control good other own text => exact Bool.noConfusion (refused.symm.trans good)
      | json good own bare reads holds => exact Bool.noConfusion (refused.symm.trans good)
    next accepted =>
      have good : (decodePayload parse input.payload).ok = true := by simpa using accepted
      have events := normalizedDecodes decoded good
      rw [if_neg accepted]
      split at ok
      · cases ok
      next clean =>
        rw [if_neg clean]
        split at ok
        · cases ok
        next batch pushed =>
          obtain ⟨all,bound⟩ := pushedAll pushed
          have same : batch.events = (normalizeDecoded input (decodePayload parse input.payload)).events := all
          refine ⟨bound (Nat.zero_le _),?_⟩
          dsimp only
          rw [same]
          exact events
end

end Polytope.MessageDecoding

-- The schemas of a dialogue session with an Omni or a Qwen-Audio model, from
-- `audio/bailian_dialogue.rs`: what the client may send, and what the
-- provider's echo of it may say.
import Mathlib.Data.Finset.Basic
import OmniTranslate.LiveTranslateSession

namespace omni_translate.bailian_dialogue

open calls json
open bailian_protocol (Codec Direction)

def MAX_TEXT_BYTES : Nat := 256 * 1024

def MAX_ACTIVE_RESPONSES : Nat := 32

def MAX_INPUT_ITEMS : Nat := 512

/-! ## Authority -/

inductive ModelProtocolFrameKind where
  | json
  | json_base64
  | binary
deriving DecidableEq

structure AuthorizedModelProtocolProfile extends bailian_protocol.AuthorizedModelProtocolProfile where
  profile_id : String
  profile_version : Nat
  region : String
  endpoint_host : String
  operation : String

def OMNI_DIALECT_ID : String := "bailian-omni-realtime-ws-v2"

def QWEN_AUDIO_DIALECT_ID : String := "bailian-qwen-audio-chat-realtime-ws-v1"

/-- The event types of the registry's two dialogue dialects. -/
def event_types (dialect : String) : Direction → List String
  | .client =>
    let shared := ["session.update", "input_audio_buffer.append", "input_audio_buffer.commit",
      "input_audio_buffer.clear", "conversation.item.create", "response.create", "response.cancel"]
    if dialect = OMNI_DIALECT_ID then "input_image_buffer.append" :: shared
    else if dialect = QWEN_AUDIO_DIALECT_ID then
      ["conversation.item.retrieve", "conversation.item.delete"] ++ shared
    else []
  | .server =>
    let shared := ["session.created", "session.updated", "input_audio_buffer.speech_started",
      "input_audio_buffer.speech_stopped", "input_audio_buffer.committed",
      "input_audio_buffer.cleared", "conversation.item.created",
      "conversation.item.input_audio_transcription.delta",
      "conversation.item.input_audio_transcription.completed",
      "conversation.item.input_audio_transcription.failed", "response.created",
      "response.text.delta", "response.text.done", "response.audio_transcript.delta",
      "response.audio_transcript.done", "response.audio.delta", "response.audio.done",
      "response.function_call_arguments.delta", "response.function_call_arguments.done",
      "response.output_item.added", "response.output_item.done", "response.content_part.added",
      "response.content_part.done", "response.done", "error"]
    if dialect = OMNI_DIALECT_ID then shared
    else if dialect = QWEN_AUDIO_DIALECT_ID then
      ["conversation.item.deleted", "conversation.item.retrieved",
        "conversation.item.ambient_audio_transcription.delta",
        "conversation.item.ambient_audio_transcription.completed",
        "voiceprint_audio_list.in_progress", "voiceprint_audio_list.completed",
        "voiceprint_audio_list.failed"] ++ shared
    else []

def json_base64_event_types (dialect : String) : Direction → List String
  | .client =>
    if dialect = OMNI_DIALECT_ID then ["input_audio_buffer.append", "input_image_buffer.append"]
    else ["input_audio_buffer.append"]
  | .server => ["response.audio.delta"]

def expected_frame_kind (dialect : String) (direction : Direction) (event_type : String) :
    ModelProtocolFrameKind :=
  if event_type ∈ json_base64_event_types dialect direction then .json_base64 else .json

def invalid (message : String) : String := "model_protocol.payload_invalid: " ++ message

def identity_error (message : String) : String := "model_protocol.identity_mismatch: " ++ message

variable (codec : Codec) (a : AuthorizedModelProtocolProfile)

def is_omni : Bool :=
  a.adapter_id == "desktop-omni-session-v2" && a.wire_dialect == OMNI_DIALECT_ID
    && a.wire_dialect_version == 2

def is_supported_authority : Bool :=
  is_omni a || (a.adapter_id == "desktop-qwen-audio-session-v1"
    && a.wire_dialect == QWEN_AUDIO_DIALECT_ID && a.wire_dialect_version == 1)

def admit_model_protocol_event (direction : Direction) (event_type : String)
    (frame_kind : ModelProtocolFrameKind) : Except String Unit := do
  require (a.registered = true) "model_protocol.authorization_identity_mismatch"
  require (event_type ∈ event_types a.wire_dialect direction) "model_protocol.event_not_allowed"
  require (expected_frame_kind a.wire_dialect direction event_type = frame_kind)
    "model_protocol.frame_kind_mismatch"

/-! ## Fields -/

def string (value : Value) (key : String) : Except String String :=
  expect (value.get_str key) (invalid (key ++ " must be a string"))

variable (value : Value)

/-- The text of a field that is not blank, as it stands. -/
def text (key : String) : Except String String := do
  let v ← string value key
  require (blank v = false) (invalid (key ++ " must be nonempty"))
  pure v

def index (value : Value) (key : String) : Except String Nat :=
  expect ((do (← value.get key).as_u64).filter (· < 32))
    (invalid (key ++ " must be an index in the implemented [0,31] subset"))

def fields (allowed : List String) : Except String Unit := do
  let object ← expect value.as_object (invalid "object required")
  match object.find? fun field => field.1 ∉ allowed with
  | some field => .error (invalid ("unsupported field " ++ field.1))
  | none => pure ()

variable (event : Value)

def optional_event_id : Except String (Option String) :=
  match event.get "event_id" with
  | none => pure none
  | some _ => do
    let id ← text event "event_id"
    pure (some id)

def pcm (key : String) : Except String Unit := do
  let encoded ← text value key
  let bytes ← expect (codec.base64_decode encoded) (invalid "invalid PCM Base64")
  require (bytes ≠ [] ∧ bytes.length % 2 = 0) (invalid "PCM must contain complete nonempty s16le samples")

/-! ## Sessions -/

def turn (value : Value) (omni : Bool) : Except String Unit := do
  if value.is_null then pure ()
  else
    fields value ["type", "threshold", "silence_duration_ms"]
    let kind ← text value "type"
    require (kind = "server_vad") (invalid "unsupported dialogue turn detection")
    let minimum : ℚ := if omni then -1 else 0
    require (∀ v ∈ value.get "threshold", v.as_f64.any (fun n => minimum ≤ n ∧ n ≤ 1) = true)
      (invalid "VAD threshold outside documented range")
    require (∀ v ∈ value.get "silence_duration_ms",
        v.as_u64.any (fun n => if omni then 200 ≤ n ∧ n ≤ 6000 else 0 < n) = true)
      (invalid "invalid VAD silence duration")

def add_modality (result : Finset String) (v : Value) : Except String (Finset String) := do
  let kind ← expect v.as_str (invalid "modality must be string")
  require (kind ∈ ["text", "audio"] ∧ kind ∉ result) (invalid "unknown or duplicate modality")
  pure (insert kind result)

def modalities (value : Value) : Except String (Finset String) := do
  let array ← expect value.as_array (invalid "modalities must be an array")
  let result ← array.foldlM add_modality ∅
  require ("text" ∈ result) (invalid "the typed dialogue subset requires text output")
  pure result

def audio_format (rate : Nat) (input : Bool) : Except String Unit := do
  fields value (if input then ["type", "sample_rate", "sample_format", "channels", "packing", "channel_layout"]
    else ["type", "sample_rate"])
  require (value.get_str "type" = some "pcm" ∧ (value.index "sample_rate").as_u64 = some rate)
    (invalid "unsupported Omni PCM format/rate")
  -- capture is mono, and the layouts of more channels are refused
  if input then
    require (∀ layout ∈ [("sample_format", Value.string "s16le"), ("channels", .number (.pos 1)),
        ("packing", .string "interleaved"), ("channel_layout", .string "mono")],
        ∀ actual ∈ value.get layout.1, actual = layout.2)
      (invalid "unsupported Omni input layout")

def COMMON_VOICES : List String :=
  ["longanqian", "longanlingxin", "longanlingxi", "longanxiaoxin", "longanlufeng"]

def V31_VOICES : List String :=
  ["longanqian_v3.1", "longanhuan_v3.1", "longanlingxin_v3.1", "longanfengyue_v3.1", "xunanchuan_v3.1",
    "beth_v3.1", "betty_v3.1", "cally_v3.1"]

def qwen_voice : Except String Unit := do
  let voice ← expect value.as_str (invalid "voice must be string")
  require (voice ∈ COMMON_VOICES ∨
      (a.exact_model_id = "qwen-audio-3.1-realtime-plus" ∧ voice ∈ V31_VOICES))
    (invalid "voice unsupported by exact Qwen-Audio model")

def validate_omni_session (session : Value) : Except String Unit := do
  let audio := session.index "audio"
  fields session ["modalities", "instructions", "turn_detection", "audio", "input_audio_transcription"]
  fields audio ["input", "output"]
  fields (audio.index "input") ["format"]
  fields (audio.index "output") ["format", "voice"]
  audio_format ((audio.index "input").index "format") 16000 true
  audio_format ((audio.index "output").index "format") 24000 false
  require (∀ voice ∈ (audio.index "output").get "voice", voice.as_str.any (!blank ·) = true)
    (invalid "Omni voice must be nonempty string")
  let transcription := session.index "input_audio_transcription"
  if transcription.is_null = false then
    fields transcription ["model"]
    require (transcription.get_str "model" = some "qwen3-asr-flash-realtime")
      (invalid "unsupported Omni transcription model")

def validate_qwen_session (session : Value) : Except String Unit := do
  fields session ["modalities", "instructions", "turn_detection", "input_audio_format",
    "output_audio_format", "voice"]
  require (session.get_str "input_audio_format" = some "pcm" ∧
      ∀ format ∈ session.get "output_audio_format", format = .string "pcm")
    (invalid "Qwen-Audio requires flat PCM formats")
  match session.get "voice" with
  | some voice => qwen_voice a voice
  | none => pure ()

def validate_session (session : Value) : Except String Unit := do
  if is_omni a then validate_omni_session session else validate_qwen_session a session
  let _ ← modalities (session.index "modalities")
  require (∀ value ∈ session.get "instructions", value.is_string = true)
    (invalid "instructions must be string (empty is legal)")
  match session.get "turn_detection" with
  | some value => turn value (is_omni a)
  | none => pure ()

/-! ## Client events -/

def validate_response_create : Except String Unit := do
  fields event ["type", "event_id", "response"]
  match event.get "response" with
  | none => pure ()
  | some response =>
    fields response ["modalities", "instructions"]
    match response.get "modalities" with
    | some value =>
      let _ ← modalities value
    | none => pure ()
    require (∀ value ∈ response.get "instructions", value.is_string = true)
      (invalid "response instructions must be string")

def validate_response_cancel : Except String Unit := do
  fields event ["type", "event_id", "response_id"]
  if (event.get "response_id").isSome then
    let _ ← text event "response_id"

def validate_client_event (kind : String) (event : Value) : Except String Unit :=
  if kind = "session.update" then do
    fields event ["type", "event_id", "session"]
    validate_session a (event.index "session")
  else if kind = "input_audio_buffer.append" then do
    fields event ["type", "event_id", "audio"]
    pcm codec event "audio"
  else if kind = "input_audio_buffer.commit" ∨ kind = "input_audio_buffer.clear" then
    fields event ["type", "event_id"]
  else if kind = "response.create" then validate_response_create event
  else if kind = "response.cancel" then validate_response_cancel event
  else .error (invalid "client event outside implemented dialogue subset")

def admit_client_event : Except String Unit := do
  require (is_supported_authority a = true) "model_protocol.adapter_unavailable: no typed dialogue adapter"
  let kind ← text event "type"
  let frame := if kind = "input_audio_buffer.append" then ModelProtocolFrameKind.json_base64 else .json
  admit_model_protocol_event a .client kind frame
  let _ ← optional_event_id event
  validate_client_event codec a kind event

/-! ## The echo -/

/-- Two values that are both there are the same. -/
def Agree (sent received : Option Value) : Prop := ∀ s ∈ sent, ∀ r ∈ received, s = r

instance (sent received : Option Value) : Decidable (Agree sent received) :=
  inferInstanceAs (Decidable (∀ s ∈ sent, ∀ r ∈ received, s = r))

def check_turn_echo (sent received : Value) : Except String Unit := do
  require (sent.is_null = received.is_null) (identity_error "echoed turn mode differs")
  if sent.is_null = false then
    require (sent.index "type" = received.index "type") (identity_error "echoed turn type differs")
    require (∀ v ∈ received.get "create_response", v = .bool true)
      (identity_error "echo disabled automatic response creation")
    require (∀ key ∈ ["threshold", "silence_duration_ms"], Agree (sent.get key) (received.get key))
      (identity_error "echoed VAD parameter differs")

def check_nested_echo (expected observed : Value) (side : String × Nat) : Except String Unit := do
  let received := (observed.index "audio").index side.1
  audio_format (received.index "format") side.2 (side.1 = "input")
  require (Agree (((expected.index "audio").index side.1).get "voice") (received.get "voice"))
    (identity_error "echoed nested voice differs")

def check_omni_echo (expected observed : Value) : Except String Unit := do
  [("input", 16000), ("output", 24000)].forM (check_nested_echo expected observed)
  require ((((observed.index "audio").index "input").get "turn_detection").isSome = false)
    (identity_error "LiveTranslate nested turn detection is not Omni")
  require (Agree (((expected.index "audio").index "output").get "voice") (observed.get "voice"))
    (identity_error "echoed voice differs")
  require (∀ key ∈ ["input_audio_format", "output_audio_format"],
      ∀ value ∈ observed.get key, value.as_str.any (fun v => v ∈ ["pcm", "pcm16"]) = true)
    (identity_error "echoed incompatible legacy audio format")

def check_echo (expected observed : Value) : Except String Unit := do
  require (observed.is_object = true) (invalid "session echo must be object")
  require (∀ model ∈ observed.get "model", model = .string a.exact_model_id)
    (identity_error "echoed model differs")
  match observed.get "modalities" with
  | none => pure ()
  | some value =>
    let received ← modalities value
    let sent ← modalities (expected.index "modalities")
    require (received = sent) (identity_error "echoed modalities differ")
  ["instructions", "voice", "input_audio_format", "output_audio_format"].forM fun key =>
    require (Agree (expected.get key) (observed.get key)) (identity_error ("echoed " ++ key ++ " differs"))
  require (∀ sent ∈ expected.get "input_audio_transcription",
      ∀ received ∈ observed.get "input_audio_transcription", sent.is_null = received.is_null ∧
        (sent.is_null = false → sent.index "model" = received.index "model"))
    (identity_error "echoed transcription model differs")
  match expected.get "turn_detection", observed.get "turn_detection" with
  | some sent, some received => check_turn_echo sent received
  | _, _ => pure ()
  if is_omni a then check_omni_echo expected observed
  require ((∀ v ∈ observed.get "enable_search", v = .bool false) ∧
      ∀ v ∈ observed.get "tools", v.as_array = some [])
    (invalid "echo unexpectedly enabled tools/search")

end omni_translate.bailian_dialogue

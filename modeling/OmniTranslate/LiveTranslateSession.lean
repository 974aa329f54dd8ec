-- The configuration of a live-translation session, from
-- `audio/bailian_protocol/client_event.rs`, `v2.rs` and `session_state.rs`:
-- what the client may send, and what the provider has to echo of it.
import OmniTranslate.LiveTranslateEvents

namespace omni_translate.bailian_protocol

open calls json

abbrev Fields := List (String × Value)

def PAYLOAD_INVALID : String := "model_protocol.payload_invalid"

/-! ## Client events -/

variable (object : Fields)

def reject_unknown_fields (allowed : List String) (context : String) : Except String Unit :=
  match object.find? fun field => field.1 ∉ allowed with
  | some field =>
    .error (PAYLOAD_INVALID ++ ": " ++ context ++ " contains unsupported field " ++ field.1)
  | none => .ok ()

def field_str (field : String) : Option String := do (← object.lookup field).as_str

def require_non_empty_string (field context : String) : Except String String :=
  expect ((field_str object field).filter (!blank ·))
    (PAYLOAD_INVALID ++ ": " ++ context ++ "." ++ field ++ " must be a non-empty string")

def validate_optional_event_id (context : String) : Except String Unit :=
  match object.lookup "event_id" with
  | none => .ok ()
  | some _ => do
    let _ ← require_non_empty_string object "event_id" context

variable (session : Fields)

/-- Tells whether sound is asked for. -/
def validate_modalities : Except String Bool := do
  let modalities ← expect (do (← session.lookup "modalities").as_array)
    (PAYLOAD_INVALID ++ ": session.modalities must be an array")
  let text_and_audio := modalities = [.string "text", .string "audio"]
  require (modalities = [.string "text"] ∨ text_and_audio)
    (PAYLOAD_INVALID ++ ": session.modalities must be exactly [text] or [text,audio]")
  pure (decide text_and_audio)

def validate_turn_detection : Except String Unit := do
  let turn_detection ← expect (session.lookup "turn_detection")
    (PAYLOAD_INVALID ++ ": session.turn_detection is required")
  if turn_detection.is_null then pure ()
  else
    let object ← expect turn_detection.as_object
      (PAYLOAD_INVALID ++ ": session.turn_detection must be null or an object")
    reject_unknown_fields object ["type", "threshold", "silence_duration_ms"] "session.turn_detection"
    require (field_str object "type" = some "server_vad")
      (PAYLOAD_INVALID ++ ": session.turn_detection.type must be server_vad")
    let _ ← expect ((do (← object.lookup "threshold").as_f64).filter fun v => -1 ≤ v ∧ v ≤ 1)
      (PAYLOAD_INVALID ++ ": session.turn_detection.threshold must be within [-1,1]")
    let _ ← expect ((do (← object.lookup "silence_duration_ms").as_u64).filter fun v => 200 ≤ v ∧ v ≤ 6000)
      (PAYLOAD_INVALID ++ ": session.turn_detection.silence_duration_ms must be within [200,6000]")

def validate_input_transcription : Except String Unit := do
  let object ← expect (do (← session.lookup "input_audio_transcription").as_object)
    (PAYLOAD_INVALID ++ ": session.input_audio_transcription must be an object")
  reject_unknown_fields object ["model", "language"] "session.input_audio_transcription"
  require (field_str object "model" = some "qwen3-asr-flash-realtime")
    (PAYLOAD_INVALID ++ ": session.input_audio_transcription.model must be qwen3-asr-flash-realtime")
  let _ ← require_non_empty_string object "language" "session.input_audio_transcription"

def validate_translation : Except String Unit := do
  let object ← expect (do (← session.lookup "translation").as_object)
    (PAYLOAD_INVALID ++ ": session.translation must be an object")
  reject_unknown_fields object ["language", "corpus"] "session.translation"
  let _ ← require_non_empty_string object "language" "session.translation"
  match object.lookup "corpus" with
  | none => pure ()
  | some corpus =>
    let corpus ← expect corpus.as_object
      (PAYLOAD_INVALID ++ ": session.translation.corpus must be an object")
    reject_unknown_fields corpus ["phrases"] "session.translation.corpus"
    let phrases ← expect ((do (← corpus.lookup "phrases").as_object).filter (· ≠ []))
      (PAYLOAD_INVALID ++ ": session.translation.corpus.phrases must be a non-empty object")
    require (∀ phrase ∈ phrases, blank phrase.1 = false ∧ phrase.2.as_str.any (!blank ·) = true)
      (PAYLOAD_INVALID ++
        ": session.translation.corpus.phrases keys and values must be non-empty strings")

def validate_output (has_audio : Bool) : Except String Unit := do
  let output_format := session.lookup "output_audio_format"
  let voice := session.lookup "voice"
  require (has_audio = true ∨ (output_format = none ∧ voice = none))
    (PAYLOAD_INVALID ++ ": text-only modalities forbid output_audio_format and voice")
  require (has_audio = false ∨ field_str session "output_audio_format" = some "pcm")
    (PAYLOAD_INVALID ++ ": audio modalities require output_audio_format=pcm")
  if has_audio ∧ voice.isSome then
    let _ ← require_non_empty_string session "voice" "session"

def validate_session_update (event : Value) (object : Fields) : Except String Unit := do
  reject_unknown_fields object ["type", "event_id", "session"] "session.update"
  validate_optional_event_id object "session.update"
  let session ← expect (get_object event "session")
    (PAYLOAD_INVALID ++ ": LiveTranslate session.update requires session")
  reject_unknown_fields session ["modalities", "input_audio_format", "sample_rate", "turn_detection",
    "input_audio_transcription", "translation", "output_audio_format", "voice"] "session.update.session"
  require (field_str session "input_audio_format" = some "pcm" ∧
      (do (← session.lookup "sample_rate").as_u64) = some 16000)
    (PAYLOAD_INVALID ++ ": LiveTranslate production input must be pcm at 16000 Hz")
  let has_audio ← validate_modalities session
  validate_turn_detection session
  validate_input_transcription session
  validate_translation session
  validate_output session has_audio

/-- The configuration of the second dialect. -/
def validate_v2_session_update (event : Value) : Except String Unit := do
  let invalid := "model_protocol.payload_invalid: invalid LiveTranslate v2 session configuration"
  let object ← expect event.as_object invalid
  reject_unknown_fields object ["type", "event_id", "session"] "session.update"
  validate_optional_event_id object "session.update"
  let session ← expect (event.index "session").as_object invalid
  reject_unknown_fields session ["output_modalities", "translation", "audio"] "session"
  require (∀ v ∈ session.lookup "output_modalities",
    v = .array [.string "text"] ∨ v = .array [.string "text", .string "audio"]) invalid
  validate_translation session
  match session.lookup "audio" with
  | none => pure ()
  | some audio =>
    let audio ← expect audio.as_object invalid
    reject_unknown_fields audio ["input"] "session.audio"
    let input ← expect (do (← audio.lookup "input").as_object) invalid
    reject_unknown_fields input ["turn_detection"] "session.audio.input"
    let turn ← expect (do (← input.lookup "turn_detection").as_object) invalid
    reject_unknown_fields turn ["type", "threshold"] "session.audio.input.turn_detection"
    require (field_str turn "type" = some "server_vad") invalid
    require (∀ threshold ∈ turn.lookup "threshold",
      threshold.as_f64.any (fun v => 0 ≤ v ∧ v ≤ 1) = true) invalid

def validate_simple_client_event (event_type : String) : Except String Unit := do
  reject_unknown_fields object ["type", "event_id"] event_type
  validate_optional_event_id object event_type

def admit_livetranslate_client_event (codec : Codec) (authority : AuthorizedModelProtocolProfile)
    (event : Value) : Except String Unit := do
  let event_type ← event_type event
  authority.admit_event_type .client event_type
  let object ← expect event.as_object (PAYLOAD_INVALID ++ ": client event must be a JSON object")
  if event_type = "session.update" then
    if authority.is_v2 then validate_v2_session_update event
    else validate_session_update event object
  else if event_type = "input_audio_buffer.append" then
    reject_unknown_fields object ["type", "event_id", "audio"] event_type
    validate_optional_event_id object event_type
    let audio ← require_non_empty_string object "audio" event_type
    require ((codec.base64_decode audio).any (· ≠ []) = true)
      (PAYLOAD_INVALID ++ ": audio append requires valid non-empty base64")
  else if event_type = "input_audio_buffer.commit" ∧ authority.is_v2 = true then
    .error (PAYLOAD_INVALID ++ ": v2 manual commit is not supported")
  else if event_type = "input_audio_buffer.commit" ∨ event_type = "input_audio_buffer.clear" then
    validate_simple_client_event object event_type
  else if event_type = "session.finish" then
    reject_unknown_fields object ["type", "event_id"] event_type
    let _ ← require_non_empty_string object "event_id" event_type
  else
    .error (PAYLOAD_INVALID ++ ": typed LiveTranslate client adapter does not implement " ++ event_type)

/-! ## The echo of the configuration -/

mutual

/-- The provider's values for the fields that were sent. -/
def project_json_echo (path : String) : Value → Value → Except String Value
  | .object expected, observed => do
    let observed ← expect observed.as_object
      ("model_protocol.identity_mismatch: " ++ path ++ " echo is not an object")
    let projected ← project_fields path observed expected
    pure (.object projected)
  | _, observed => .ok observed

def project_fields (path : String) (observed : Fields) : Fields → Except String Fields
  | [] => .ok []
  | (key, expected) :: rest => do
    let value ← match observed.lookup key with
      | some value => pure value
      | none =>
        if key = "turn_detection" ∧ expected.is_null then pure expected
        else .error ("model_protocol.identity_mismatch: " ++ path ++ "." ++ key ++ " was not echoed")
    let projected ← project_json_echo (path ++ "." ++ key) expected value
    let rest ← project_fields path observed rest
    pure ((key, projected) :: rest)

end

mutual

def validate_json_echo_subset (path : String) : Value → Value → Except String Unit
  | .object expected, observed => do
    let observed ← expect observed.as_object
      ("model_protocol.identity_mismatch: " ++ path ++ " echo is not an object")
    validate_echo_fields path observed expected
  | expected, observed =>
    require (expected = observed) ("model_protocol.identity_mismatch: " ++ path ++
      " does not echo the admitted client session.update")

def validate_echo_fields (path : String) (observed : Fields) : Fields → Except String Unit
  | [] => .ok ()
  | (key, expected) :: rest => do
    match observed.lookup key with
    | some value => validate_json_echo_subset (path ++ "." ++ key) expected value
    | none =>
      require (key = "turn_detection" ∧ expected.is_null = true)
        ("model_protocol.identity_mismatch: " ++ path ++ "." ++ key ++ " was not echoed")
    validate_echo_fields path observed rest

end

mutual

/-- The JSON text of a value, with the fields of objects in the order of their keys. -/
def canonical (codec : Codec) : Value → String
  | .null => "null"
  | .bool b => if b then "true" else "false"
  | .number n => codec.number_text n
  | .string s => codec.string_text s
  | .array values => "[" ++ String.intercalate "," (canonical_items codec values) ++ "]"
  | .object fields => "\x7b" ++ String.intercalate "," (canonical_fields codec fields) ++ "\x7d"

def canonical_items (codec : Codec) : List Value → List String
  | [] => []
  | value :: rest => canonical codec value :: canonical_items codec rest

def canonical_fields (codec : Codec) : Fields → List String
  | [] => []
  | (key, value) :: rest =>
    (codec.string_text key ++ ":" ++ canonical codec value) :: canonical_fields codec rest

end

def sha256_canonical_json (codec : Codec) (value : Value) : String := codec.sha256 (canonical codec value)

end omni_translate.bailian_protocol

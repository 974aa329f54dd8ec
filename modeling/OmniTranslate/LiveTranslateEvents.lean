-- The events of a live-translation session and their checks, from
-- `audio/bailian_protocol` (`mod.rs`, `server_event_fields.rs`, `v2.rs`,
-- `client_event.rs`, `session_state.rs`): each check either passes or gives
-- the text of its error.
import Mathlib.Data.Rat.Lemmas
import OmniTranslate.Calls
import OmniTranslate.Json

namespace omni_translate.bailian_protocol

open calls json

/-- The libraries the protocol calls: hashing, the JSON text of strings and numbers, and base64. -/
structure Codec where
  sha256 : String → String
  string_text : String → String
  number_text : Number → String
  base64_decode : String → Option (List UInt8)

/-! ## Authority -/

structure AuthorizedModelProtocolProfile where
  adapter_id : String
  wire_dialect : String
  wire_dialect_version : Nat
  exact_model_id : String
  /-- The registry holds this very authorization. -/
  registered : Bool

inductive Direction where
  | client
  | server
deriving DecidableEq

def LIVETRANSLATE_ADAPTER_ID : String := "desktop-livetranslate-session-v1"

def LIVETRANSLATE_DIALECT_ID : String := "bailian-livetranslate-session-ws-v1"

/-- The event types of the registry's two dialects. -/
def event_types (dialect : String) : Direction → List String
  | .client =>
    if dialect = LIVETRANSLATE_DIALECT_ID then
      ["session.update", "input_audio_buffer.append", "input_audio_buffer.commit",
        "input_audio_buffer.clear", "input_image_buffer.append", "session.finish"]
    else if dialect = "bailian-livetranslate-session-ws-v2" then
      ["session.update", "input_audio_buffer.append", "input_image_buffer.append", "session.finish"]
    else []
  | .server =>
    let shared := ["session.created", "session.updated", "input_audio_buffer.speech_started",
      "input_audio_buffer.speech_stopped", "input_audio_buffer.committed",
      "input_audio_buffer.cleared", "conversation.item.created",
      "conversation.item.input_audio_transcription.completed",
      "conversation.item.input_audio_transcription.failed", "response.created",
      "response.text.done", "response.audio_transcript.done", "response.audio.delta",
      "response.audio.done", "response.output_item.added", "response.output_item.done",
      "response.content_part.added", "response.content_part.done", "response.done",
      "session.finished", "error"]
    if dialect = LIVETRANSLATE_DIALECT_ID then
      ["conversation.item.input_audio_transcription.text", "response.text.text",
        "response.audio_transcript.text"] ++ shared
    else if dialect = "bailian-livetranslate-session-ws-v2" then
      ["conversation.item.input_audio_transcription.delta", "response.text.delta",
        "response.audio_transcript.delta"] ++ shared
    else []

namespace AuthorizedModelProtocolProfile

variable (authority : AuthorizedModelProtocolProfile)

def is_v2 : Bool :=
  authority.adapter_id == "desktop-livetranslate-session-v2"
    && authority.wire_dialect == "bailian-livetranslate-session-ws-v2"
    && authority.wire_dialect_version == 2

def is_supported_authority : Bool :=
  authority.is_v2 || (authority.adapter_id == LIVETRANSLATE_ADAPTER_ID
    && authority.wire_dialect == LIVETRANSLATE_DIALECT_ID && authority.wire_dialect_version == 1)

def admit_event_type (direction : Direction) (event_type : String) : Except String Unit := do
  require (authority.is_supported_authority = true)
    ("model_protocol.adapter_unavailable: typed LiveTranslate adapter is not authorized (adapterId="
      ++ authority.adapter_id ++ " wireDialect=" ++ authority.wire_dialect ++ " wireDialectVersion="
      ++ toString authority.wire_dialect_version ++ ")")
  require (authority.registered = true) "model_protocol.authorization_identity_mismatch"
  require (event_type ∈ event_types authority.wire_dialect direction) "model_protocol.event_not_allowed"

end AuthorizedModelProtocolProfile

/-! ## Fields -/

variable (event : Value)

def event_type : Except String String :=
  expect ((event.get_str "type").filter (!blank ·))
    "model_protocol.payload_invalid: event type is required"

variable (value : Value)

def required_string (field : String) : Except String String :=
  expect (value.get_str field) ("model_protocol.payload_invalid: " ++ field ++ " string is required")

/-- The trimmed text of a field that is not blank. -/
def required_nonempty_string (field : String) : Except String String := do
  let text ← required_string value field
  require (blank text = false) ("model_protocol.payload_invalid: " ++ field ++ " must be non-empty")
  pure (trim text)

/-- The text of a field that is not blank, as it stands. -/
def required_field (field : String) : Except String String :=
  expect ((value.get_str field).filter (!blank ·))
    ("model_protocol.payload_invalid: " ++ field ++ " is required")

def required_u64 (field : String) : Except String Nat :=
  expect (do (← value.get field).as_u64)
    ("model_protocol.payload_invalid: " ++ field ++ " non-negative integer is required")

def required_zero_index (field : String) : Except String Nat := do
  let index ← required_u64 value field
  require (index = 0) ("model_protocol.payload_invalid: LiveTranslate " ++ field ++ " must be 0")
  pure index

def get_array (field : String) : Option (List Value) := do (← value.get field).as_array

def get_object (field : String) : Option (List (String × Value)) := do
  (← value.get field).as_object

/-- The response that an event names: the identity inside `response`, where there is one. -/
def native_response_id_from_event : Option String := do
  let id ← (event.pointer ["response", "id"]).or (event.get "response_id")
  let text ← id.as_str
  if blank text then none else some (trim text)

def response_id : Except String String :=
  expect (native_response_id_from_event event)
    "model_protocol.payload_invalid: response identity is required"

/-! ## Server events -/

def validate_session_identity (authority : AuthorizedModelProtocolProfile) (event : Value) :
    Except String String := do
  let session ← expect (event.get "session") "model_protocol.payload_invalid: session object is required"
  let session_id ← required_nonempty_string session "id"
  let object ← required_nonempty_string session "object"
  require (object = "realtime.session")
    "model_protocol.payload_invalid: session.object must be realtime.session"
  let model ← required_nonempty_string session "model"
  require (model = authority.exact_model_id)
    "model_protocol.identity_mismatch: session.model does not match authorized exact model"
  pure session_id

structure ValidatedResponseCreated where
  response_id : String
  conversation_id : String
  status : String
deriving DecidableEq

def validate_response_created : Except String ValidatedResponseCreated := do
  let response ← expect (event.get "response") "model_protocol.payload_invalid: response object is required"
  let response_id ← required_nonempty_string response "id"
  let conversation_id ← required_string response "conversation_id"
  let object ← required_nonempty_string response "object"
  require (object = "realtime.response")
    "model_protocol.payload_invalid: response.object must be realtime.response"
  let status ← required_nonempty_string response "status"
  require (status ∈ ["completed", "failed", "in_progress", "incomplete"])
    "model_protocol.payload_invalid: response.created status is not documented"
  require ((get_array response "modalities").isSome = true)
    "model_protocol.payload_invalid: response.created modalities array is required"
  require (get_array response "output" = some [])
    "model_protocol.payload_invalid: response.created output must be an empty array"
  pure { response_id, conversation_id, status }

structure TerminalItemContentLedger where
  content_type : String
  text : String
deriving DecidableEq

structure TerminalOutputItemLedger where
  item_id : String
  status : String
  role : String
  content : List TerminalItemContentLedger
deriving DecidableEq

def validate_item_object (item : Value) (done : Bool) : Except String String := do
  let item_id ← required_nonempty_string item "id"
  let object ← required_nonempty_string item "object"
  require (object = "realtime.item") "model_protocol.payload_invalid: item must be a realtime.item message"
  let kind ← required_nonempty_string item "type"
  require (kind = "message") "model_protocol.payload_invalid: item must be a realtime.item message"
  let status ← required_nonempty_string item "status"
  require (if done then status ∈ ["completed", "failed", "incomplete"] else status = "in_progress")
    "model_protocol.event_order_invalid: item status does not match added/done event"
  let role ← required_nonempty_string item "role"
  require (role = "assistant" ∨ role = "user")
    "model_protocol.payload_invalid: item role/content shape is invalid"
  require ((get_array item "content").isSome = true)
    "model_protocol.payload_invalid: item role/content shape is invalid"
  pure item_id

def normalize_terminal_content (part : Value) : Except String TerminalItemContentLedger := do
  let content_type ← required_nonempty_string part "type"
  if content_type = "text" then
    let text ← required_string part "text"
    pure { content_type, text }
  else if content_type = "audio" then
    let text := part.get_str "text"
    let transcript := part.get_str "transcript"
    require (∀ t ∈ text, ∀ u ∈ transcript, t = u)
      "model_protocol.identity_mismatch: audio content text and transcript differ"
    let text ← expect (text.or transcript)
      "model_protocol.payload_invalid: response.done audio content requires text or transcript"
    pure { content_type, text }
  else .error "model_protocol.payload_invalid: response.done output content type is unsupported"

def normalize_terminal_output_item (item : Value) : Except String TerminalOutputItemLedger := do
  let item_id ← validate_item_object item true
  let role ← required_nonempty_string item "role"
  require (role = "assistant")
    "model_protocol.payload_invalid: response.done output item role must be assistant"
  let status ← required_nonempty_string item "status"
  let content ← expect (get_array item "content")
    "model_protocol.payload_invalid: response.done output content array is required"
  let content ← content.mapM normalize_terminal_content
  pure { item_id, status, role, content }

structure ValidatedResponseDone where
  response_id : String
  conversation_id : String
  status : String
  /-- The items under their indices. -/
  output_items : List (Nat × TerminalOutputItemLedger)
deriving DecidableEq

def validate_response_done : Except String ValidatedResponseDone := do
  let response ← expect (event.get "response")
    "model_protocol.payload_invalid: response.done response object is required"
  let response_id ← required_nonempty_string response "id"
  let conversation_id ← required_nonempty_string response "conversation_id"
  let object ← required_nonempty_string response "object"
  require (object = "realtime.response")
    "model_protocol.payload_invalid: response.done object must be realtime.response"
  let status ← required_nonempty_string response "status"
  require (status ∈ ["completed", "failed", "incomplete"])
    "model_protocol.payload_invalid: response.done status must be terminal"
  require ((get_array response "modalities").isSome = true)
    "model_protocol.payload_invalid: response.done modalities/output arrays are required"
  let output ← expect (get_array response "output")
    "model_protocol.payload_invalid: response.done modalities/output arrays are required"
  require (output.length ≤ 1)
    "model_protocol.payload_invalid: LiveTranslate response.done output_index must remain 0"
  let items ← output.mapM normalize_terminal_output_item
  pure { response_id, conversation_id, status, output_items := items.zipIdx.map Prod.swap }

structure OutputItem where
  response_id : String
  output_index : Nat
  item_id : String
deriving DecidableEq

def validate_output_item (done : Bool) : Except String OutputItem := do
  let response_id ← required_nonempty_string event "response_id"
  let output_index ← required_zero_index event "output_index"
  let item ← expect (event.get "item") "model_protocol.payload_invalid: output item object is required"
  let item_id ← validate_item_object item done
  let role ← required_nonempty_string item "role"
  require (role = "assistant")
    "model_protocol.payload_invalid: response output item role must be assistant"
  pure { response_id, output_index, item_id }

/-- Where a piece of content stands. -/
structure ContentKey where
  response_id : String
  item_id : String
  output_index : Nat
  content_index : Nat
deriving DecidableEq

/-- The output item on which the content lies. -/
def ContentKey.output (key : ContentKey) : String × Nat := (key.response_id, key.output_index)

def response_content_identity : Except String ContentKey := do
  let response_id ← required_nonempty_string event "response_id"
  let item_id ← required_nonempty_string event "item_id"
  let output_index ← required_zero_index event "output_index"
  let content_index ← required_zero_index event "content_index"
  pure { response_id, item_id, output_index, content_index }

def validate_content_part : Except String (ContentKey × String) := do
  let key ← response_content_identity event
  let part ← expect (event.get "part") "model_protocol.payload_invalid: content part object is required"
  let part_type ← required_nonempty_string part "type"
  require ((part_type = "text" ∨ part_type = "audio") ∧ (part.get_str "text").isSome = true)
    "model_protocol.payload_invalid: content part type/text shape is invalid"
  pure (key, part_type)

def validate_conversation_item_previous_identity (allow_unlinked_root : Bool) :
    Except String Unit :=
  match event.get "previous_item_id" with
  | some (.string previous_item_id) =>
    require (blank previous_item_id = false)
      "model_protocol.payload_invalid: previous_item_id must be non-empty"
  | none | some .null =>
    require (allow_unlinked_root = true)
      "model_protocol.payload_invalid: previous_item_id string is required"
  | some _ => .error "model_protocol.payload_invalid: previous_item_id string is required"

def transcription_identity : Except String (String × Nat) := do
  let item_id ← required_nonempty_string event "item_id"
  let content_index ← required_zero_index event "content_index"
  pure (item_id, content_index)

def validate_error_object (require_type : Bool) : Except String Unit := do
  let error ← expect (event.get "error") "model_protocol.payload_invalid: error object is required"
  if require_type then
    let _ ← required_field error "type"
  let _ ← required_field error "code"
  let _ ← required_field error "message"
  if require_type then
    let _ ← required_field error "param"
  else
    require (∀ param ∈ error.get "param", param.is_null = true ∨ param.is_string = true)
      "model_protocol.payload_invalid: optional error.param must be string or null"

def validate_language_emotion (allow_empty_language : Bool) : Except String Unit := do
  if allow_empty_language then
    let _ ← required_string event "language"
  else
    let _ ← required_field event "language"
  let emotion ← required_string event "emotion"
  require (emotion ∈ ["", "surprised", "neutral", "happy", "sad", "disgusted", "angry", "fearful"])
    "model_protocol.payload_invalid: unsupported transcription emotion"

/-- The event with an empty text in a field that it lacks. -/
def with_default (field : String) : Value :=
  match event with
  | .object fields =>
    if (fields.lookup field).isNone then .object (fields ++ [(field, .string "")]) else event
  | other => other

def validate_optional_transcription_metadata : Except String Unit :=
  validate_language_emotion (with_default (with_default event "language") "emotion") true

/-! ## Text streams -/

inductive TextKind where
  | response_text
  | audio_transcript
  | input_transcription
deriving DecidableEq

def TextKind.semantic_type : TextKind → String
  | response_text => "response.text.text"
  | audio_transcript => "response.audio_transcript.text"
  | input_transcription => "conversation.item.input_audio_transcription.text"

def TextKind.delta_type : TextKind → String
  | response_text => "response.text.delta"
  | audio_transcript => "response.audio_transcript.delta"
  | input_transcription => "conversation.item.input_audio_transcription.delta"

/-- The part type under which a text of a response is streamed. -/
def TextKind.part_type : TextKind → String
  | response_text => "text"
  | _ => "audio"

/-- A stream of text: what kind it is of and what the provider calls it. -/
inductive TextStream where
  | content (kind : TextKind) (key : ContentKey)
  | transcription (item_id : String) (content_index : Nat)
deriving DecidableEq

/-- The key under which the text of a stream is kept. -/
def TextStream.identity : TextStream → String
  | content kind key =>
    kind.semantic_type ++ "|" ++ key.response_id ++ "|" ++ key.item_id ++ "|"
      ++ toString key.output_index ++ "|" ++ toString key.content_index
  | transcription item_id content_index =>
    TextKind.input_transcription.semantic_type ++ "|" ++ item_id ++ "|" ++ toString content_index

/-- The stream that an event names. -/
def text_stream (kind : TextKind) (event : Value) : Except String TextStream :=
  match kind with
  | .input_transcription => do
    let (item_id, content_index) ← transcription_identity event
    pure (.transcription item_id content_index)
  | kind => do
    let key ← response_content_identity event
    pure (.content kind key)

def snapshot_identity (kind : TextKind) (event : Value) : Except String String := do
  let stream ← text_stream kind event
  pure stream.identity

def snapshot_text : Except String String := do
  let text := (event.get_str "text").getD ""
  let stash := (event.get_str "stash").getD ""
  require (text ≠ "" ∨ stash ≠ "") "model_protocol.payload_invalid: snapshot requires text or stash"
  pure (text ++ stash)

end omni_translate.bailian_protocol

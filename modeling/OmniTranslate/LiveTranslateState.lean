-- What the client admits of the server's events in a live-translation
-- session, from `audio/bailian_protocol/mod.rs`, `session_state.rs` and
-- `v2.rs`: the responses, items, content and texts under way. An event that
-- is refused changes nothing.
import Mathlib.Data.Finset.Basic
import OmniTranslate.LiveTranslateSession
import OmniTranslate.Maps
import OmniTranslate.Runs

namespace omni_translate.bailian_protocol

open calls json

abbrev Map (α β : Type) := AList fun _ : α => β

inductive LiveTranslatePhase where
  | awaiting_session_created
  | awaiting_session_updated
  | active
  | finishing
  | finished
deriving DecidableEq

structure LiveTranslateServerState where
  phase : LiveTranslatePhase
  expected_session_update : Option Value
  session_id : Option String
  seen_event_ids : Finset String
  active_responses : Finset String
  response_creation_status : Map String String
  response_conversation_ids : Map String String
  active_output_items : Map (String × Nat) String
  completed_output_items : Map (String × Nat) TerminalOutputItemLedger
  active_content_parts : Map ContentKey String
  active_audio_streams : Finset ContentKey
  completed_audio_streams : Finset ContentKey
  conversation_items : Finset String
  assistant_referenced_conversation_items : Finset String
  active_transcriptions : Finset (String × Nat)
  terminal_transcriptions : Finset (String × Nat)
  active_speech_items : Map String Nat
  declared_speech_items : Finset String
  snapshots : Map String String
  v2_terminal_text : Finset String
  committed_by_response : Map String String

structure LiveTranslateSessionUpdatedEvidence where
  session_identity_sha256 : String
  sent_session_config_sha256 : String
  echoed_session_config_sha256 : String
deriving DecidableEq

structure LiveTranslateServerMutation where
  normalized_text : Option String := none
  completed_response_text : Option String := none
  response_completed : Bool := false
  response_terminal_status : Option String := none
  session_updated : Option LiveTranslateSessionUpdatedEvidence := none
  session_finished : Bool := false
deriving DecidableEq

/-- What an event is, by its type. -/
inductive EventType where
  | session_created
  | session_updated
  | session_finished
  | response_created
  | output_item_added
  | output_item_done
  | content_part_added
  | content_part_done
  | text_delta (kind : TextKind)
  | text_snapshot (kind : TextKind)
  | text_done (kind : TextKind)
  | response_done
  | transcription_completed
  | transcription_failed
  | conversation_item_created
  | audio_delta
  | audio_done
  | speech_started
  | speech_stopped
  | error
  | buffer_committed
  | buffer_cleared
  | other
deriving DecidableEq

def EventType.parse (event_type : String) : EventType :=
  match event_type with
  | "session.created" => session_created
  | "session.updated" => session_updated
  | "session.finished" => session_finished
  | "response.created" => response_created
  | "response.output_item.added" => output_item_added
  | "response.output_item.done" => output_item_done
  | "response.content_part.added" => content_part_added
  | "response.content_part.done" => content_part_done
  | "response.text.delta" => text_delta .response_text
  | "response.audio_transcript.delta" => text_delta .audio_transcript
  | "response.text.text" => text_snapshot .response_text
  | "response.audio_transcript.text" => text_snapshot .audio_transcript
  | "response.text.done" => text_done .response_text
  | "response.audio_transcript.done" => text_done .audio_transcript
  | "response.done" => response_done
  | "conversation.item.input_audio_transcription.delta" => text_delta .input_transcription
  | "conversation.item.input_audio_transcription.text" => text_snapshot .input_transcription
  | "conversation.item.input_audio_transcription.completed" => transcription_completed
  | "conversation.item.input_audio_transcription.failed" => transcription_failed
  | "conversation.item.created" => conversation_item_created
  | "response.audio.delta" => audio_delta
  | "response.audio.done" => audio_done
  | "input_audio_buffer.speech_started" => speech_started
  | "input_audio_buffer.speech_stopped" => speech_stopped
  | "error" => error
  | "input_audio_buffer.committed" => buffer_committed
  | "input_audio_buffer.cleared" => buffer_cleared
  | _ => other

namespace LiveTranslateServerState

def default : LiveTranslateServerState where
  phase := .awaiting_session_created
  expected_session_update := none
  session_id := none
  seen_event_ids := ∅
  active_responses := ∅
  response_creation_status := ∅
  response_conversation_ids := ∅
  active_output_items := ∅
  completed_output_items := ∅
  active_content_parts := ∅
  active_audio_streams := ∅
  completed_audio_streams := ∅
  conversation_items := ∅
  assistant_referenced_conversation_items := ∅
  active_transcriptions := ∅
  terminal_transcriptions := ∅
  active_speech_items := ∅
  declared_speech_items := ∅
  snapshots := ∅
  v2_terminal_text := ∅
  committed_by_response := ∅

variable (codec : Codec) (authority : AuthorizedModelProtocolProfile) (s : LiveTranslateServerState)

/-- The state after an event, and what the event means to the session. -/
abbrev Admission := Except String (LiveTranslateServerState × LiveTranslateServerMutation)

/-! ## Calls of the client -/

variable (event : Value)

def record_client_session_update : Except String LiveTranslateServerState := do
  admit_livetranslate_client_event codec authority event
  require (s.phase = .awaiting_session_created ∧ s.session_id = none ∧ s.expected_session_update = none)
    "model_protocol.event_order_invalid: client session.update must be bound once before session.created"
  let session ← expect (event.get "session")
    "model_protocol.payload_invalid: LiveTranslate session.update requires session"
  pure { s with expected_session_update := some session }

def record_client_finish : Except String LiveTranslateServerState := do
  require (s.phase = .active)
    "model_protocol.event_order_invalid: session.finish requires one active session"
  pure { s with phase := .finishing }

/-! ## Checks on the state -/

def require_active (event_type : String) : Except String Unit :=
  require (s.phase = .active ∨ s.phase = .finishing)
    ("model_protocol.event_order_invalid: " ++ event_type ++ " is forbidden before session.updated")

def require_active_response (response_id : String) : Except String Unit :=
  require (response_id ∈ s.active_responses)
    "model_protocol.identity_mismatch: response event has no matching response.created"

def require_streaming_response (response_id : String) : Except String Unit := do
  s.require_active_response response_id
  require (s.response_creation_status.lookup response_id = some "in_progress")
    "model_protocol.event_order_invalid: terminal response.created cannot admit streaming child events"

def require_output_identity (key : ContentKey) : Except String Unit := do
  s.require_streaming_response key.response_id
  require (s.active_output_items.lookup key.output = some key.item_id)
    "model_protocol.identity_mismatch: content/audio identity does not match an active output item/index"

def require_content_identity (expected_type : String) : Except String ContentKey := do
  let key ← response_content_identity event
  s.require_output_identity key
  require (s.active_content_parts.lookup key = some expected_type)
    "model_protocol.identity_mismatch: response content identity/type has no matching active content part"
  pure key

def require_conversation_item (item_id : String) : Except String Unit :=
  require (item_id ∈ s.conversation_items)
    "model_protocol.identity_mismatch: transcription references an unknown conversation item"

def has_active_response_children (response_id : String) : Prop :=
  (∃ key ∈ s.active_output_items.keys, key.1 = response_id) ∨
    (∃ key ∈ s.active_content_parts.keys, key.response_id = response_id) ∨
    ∃ key ∈ s.active_audio_streams, key.response_id = response_id

instance (response_id : String) : Decidable (s.has_active_response_children response_id) := by
  unfold has_active_response_children
  infer_instance

/-! ## The session -/

def admit_session_created : Admission := do
  require (s.phase = .awaiting_session_created)
    "model_protocol.event_order_invalid: duplicate or late session.created"
  let session_id ← validate_session_identity authority event
  pure ({ s with session_id := some session_id, phase := .awaiting_session_updated }, {})

def admit_session_updated : Admission := do
  require (s.phase = .awaiting_session_updated)
    "model_protocol.event_order_invalid: session.updated must follow session.created"
  let received ← validate_session_identity authority event
  require (s.session_id = some received)
    "model_protocol.identity_mismatch: session.updated changed session identity"
  let expected ← expect s.expected_session_update
    "model_protocol.event_order_invalid: session.updated has no admitted client session.update boundary"
  let observed ← expect (event.get "session") "model_protocol.payload_invalid: session object is required"
  validate_json_echo_subset "session" expected observed
  let echoed ← project_json_echo "session" expected observed
  let evidence : LiveTranslateSessionUpdatedEvidence := {
    session_identity_sha256 := codec.sha256 received
    sent_session_config_sha256 := sha256_canonical_json codec expected
    echoed_session_config_sha256 := sha256_canonical_json codec echoed }
  require (evidence.sent_session_config_sha256 = evidence.echoed_session_config_sha256)
    "model_protocol.identity_mismatch: session.updated projected echo digest differs from the exact sent configuration"
  pure ({ s with phase := .active }, { session_updated := some evidence })

def admit_session_finished : Admission := do
  require (s.phase = .finishing)
    "model_protocol.event_order_invalid: session.finished must follow the admitted local session.finish"
  require (s.active_responses = ∅ ∧ s.active_output_items.entries = [] ∧
      s.completed_output_items.entries = [] ∧ s.active_content_parts.entries = [] ∧
      s.active_audio_streams = ∅ ∧ s.active_transcriptions = ∅ ∧ s.active_speech_items.entries = [])
    "model_protocol.event_order_invalid: session.finished arrived before every active response and media stream terminated"
  pure ({ s with phase := .finished }, { session_finished := true })

/-! ## Responses -/

def admit_response_created : Admission := do
  s.require_active "response.created"
  let response ← validate_response_created event
  require (response.response_id ∉ s.active_responses)
    "model_protocol.event_order_invalid: duplicate response.created identity"
  pure ({ s with
    active_responses := insert response.response_id s.active_responses
    response_creation_status := s.response_creation_status.insert response.response_id response.status
    response_conversation_ids :=
      s.response_conversation_ids.insert response.response_id response.conversation_id }, {})

def admit_output_item_added : Admission := do
  s.require_active "response.output_item.added"
  let item ← validate_output_item event false
  s.require_streaming_response item.response_id
  require ((item.response_id, item.output_index) ∉ s.active_output_items)
    "model_protocol.event_order_invalid: duplicate active response output index"
  pure ({ s with
    active_output_items := s.active_output_items.insert (item.response_id, item.output_index) item.item_id },
    {})

def admit_output_item_done : Admission := do
  s.require_active "response.output_item.done"
  let item ← validate_output_item event true
  s.require_streaming_response item.response_id
  let key := (item.response_id, item.output_index)
  require (s.active_output_items.lookup key = some item.item_id)
    "model_protocol.identity_mismatch: output_item.done has no matching added item/index"
  require (¬ ((∃ part ∈ s.active_content_parts.keys, part.output = key) ∨
      ∃ stream ∈ s.active_audio_streams, stream.output = key))
    "model_protocol.event_order_invalid: output_item.done preceded content/audio termination"
  let completed ← normalize_terminal_output_item (event.index "item")
  pure ({ s with
    active_output_items := s.active_output_items.erase key
    completed_output_items := s.completed_output_items.insert key completed }, {})

def admit_content_part_added : Admission := do
  s.require_active "response.content_part.added"
  let (key, part_type) ← validate_content_part event
  s.require_output_identity key
  require (¬ (part_type = "audio" ∧ key ∈ s.completed_audio_streams))
    "model_protocol.event_order_invalid: completed audio content cannot be reopened"
  require (key ∉ s.active_content_parts)
    "model_protocol.event_order_invalid: duplicate active response content index"
  pure ({ s with
    active_content_parts := s.active_content_parts.insert key part_type
    active_audio_streams :=
      if part_type = "audio" then insert key s.active_audio_streams else s.active_audio_streams }, {})

def admit_content_part_done : Admission := do
  s.require_active "response.content_part.done"
  let (key, part_type) ← validate_content_part event
  s.require_output_identity key
  require (s.active_content_parts.lookup key = some part_type)
    "model_protocol.identity_mismatch: content_part.done has no matching added part/index"
  require (key ∉ s.active_audio_streams)
    "model_protocol.event_order_invalid: content_part.done preceded audio.done"
  pure ({ s with active_content_parts := s.active_content_parts.erase key }, {})

def admit_response_done : Admission := do
  s.require_active "response.done"
  let done ← validate_response_done event
  require (done.response_id ∈ s.active_responses)
    "model_protocol.identity_mismatch: response.done has no matching response.created"
  require (¬ s.has_active_response_children done.response_id)
    "model_protocol.event_order_invalid: response.done preceded output/content/audio termination"
  let created_status ← expect (s.response_creation_status.lookup done.response_id)
    "model_protocol.identity_mismatch: response.done has no response.created status"
  let created_conversation_id ← expect (s.response_conversation_ids.lookup done.response_id)
    "model_protocol.identity_mismatch: response.done has no response.created conversation identity"
  require (created_conversation_id = "" ∨ created_conversation_id = done.conversation_id)
    "model_protocol.identity_mismatch: response.done changed conversation identity"
  require (created_status = "in_progress" ∨ created_status = done.status)
    "model_protocol.identity_mismatch: terminal response.created and response.done status differ"
  let completed_items := s.completed_output_items.entries.filterMap fun entry =>
    if entry.1.1 = done.response_id then some (entry.1.2, entry.2) else none
  require (completed_items.Perm done.output_items)
    "model_protocol.identity_mismatch: response.done output does not match completed output-item identities"
  require (done.status = "completed" → ∀ item ∈ done.output_items, item.2.status = "completed")
    "model_protocol.identity_mismatch: completed response and output-item terminal status differ"
  let completed : Bool := done.status = "completed"
  pure ({ s with
    active_responses := s.active_responses.erase done.response_id
    response_creation_status := s.response_creation_status.erase done.response_id
    response_conversation_ids := s.response_conversation_ids.erase done.response_id
    completed_output_items := maps.retain (·.1 ≠ done.response_id) s.completed_output_items
    committed_by_response := s.committed_by_response.erase done.response_id }, {
    completed_response_text :=
      if completed then s.committed_by_response.lookup done.response_id else none
    response_completed := completed
    response_terminal_status := some done.status })

/-! ## Sound -/

def admit_audio_delta : Admission := do
  s.require_active "response.audio.delta"
  let key ← response_content_identity event
  s.require_active_response key.response_id
  let _ ← s.require_content_identity event "audio"
  let delta ← required_nonempty_string event "delta"
  require ((codec.base64_decode delta).any (· ≠ []) = true)
    "model_protocol.payload_invalid: response.audio.delta must contain non-empty standard base64 audio"
  require (key ∉ s.completed_audio_streams)
    "model_protocol.event_order_invalid: audio delta arrived after audio.done"
  require (key ∈ s.active_audio_streams)
    "model_protocol.event_order_invalid: response.audio.delta has no matching active audio content"
  pure (s, {})

def admit_audio_done : Admission := do
  s.require_active "response.audio.done"
  let key ← response_content_identity event
  s.require_active_response key.response_id
  let _ ← s.require_content_identity event "audio"
  require (key ∈ s.active_audio_streams)
    "model_protocol.event_order_invalid: response.audio.done has no matching active audio stream"
  pure ({ s with
    active_audio_streams := s.active_audio_streams.erase key
    completed_audio_streams := insert key s.completed_audio_streams }, {})

/-! ## Texts -/

/-- The text of a stream is the one that is given. -/
def keep_snapshot (identity text : String) : LiveTranslateServerState :=
  { s with snapshots := s.snapshots.insert identity text }

/-- The text of a stream grows by a piece. -/
def grown (identity delta : String) : String := (s.snapshots.lookup identity).getD "" ++ delta

def admit_v2_text_delta (kind : TextKind) (event : Value) : Admission := do
  s.require_active kind.delta_type
  let response_id ← response_id event
  s.require_active_response response_id
  let _ ← s.require_content_identity event kind.part_type
  let identity ← snapshot_identity kind event
  require (identity ∉ s.v2_terminal_text) "model_protocol.event_order_invalid: text delta after terminal"
  let delta ← required_string event "delta"
  pure (s.keep_snapshot identity (s.grown identity delta),
    { normalized_text := some (s.grown identity delta) })

def admit_v2_asr_delta : Admission := do
  s.require_active "conversation.item.input_audio_transcription.delta"
  let transcription ← transcription_identity event
  s.require_conversation_item transcription.1
  require (transcription ∉ s.terminal_transcriptions)
    "model_protocol.event_order_invalid: transcription delta after terminal"
  validate_optional_transcription_metadata event
  let identity ← snapshot_identity .input_transcription event
  let delta ← required_string event "delta"
  pure ({ s.keep_snapshot identity (s.grown identity delta) with
    active_transcriptions := insert transcription s.active_transcriptions },
    { normalized_text := some (s.grown identity delta) })

def admit_text_snapshot (kind : TextKind) (event : Value) : Admission := do
  s.require_active kind.semantic_type
  let identity ← snapshot_identity kind event
  let response_id ← response_id event
  s.require_active_response response_id
  let _ ← s.require_content_identity event kind.part_type
  let text ← snapshot_text event
  pure (s.keep_snapshot identity text, { normalized_text := some text })

def admit_transcription_snapshot : Admission := do
  s.require_active "conversation.item.input_audio_transcription.text"
  let identity ← snapshot_identity .input_transcription event
  let transcription ← transcription_identity event
  s.require_conversation_item transcription.1
  require (transcription ∉ s.terminal_transcriptions)
    "model_protocol.event_order_invalid: transcription text arrived after terminal event"
  validate_language_emotion event false
  let text ← snapshot_text event
  pure ({ s.keep_snapshot identity text with
    active_transcriptions := insert transcription s.active_transcriptions },
    { normalized_text := some text })

/-- The field in which the final text of a stream may be given. -/
def final_field : TextKind → String
  | .audio_transcript => "transcript"
  | _ => "text"

def admit_text_done (kind : TextKind) (event : Value) : Admission := do
  s.require_active (if kind = .response_text then "response.text.done" else "response.audio_transcript.done")
  let identity ← snapshot_identity kind event
  let response_id ← response_id event
  s.require_active_response response_id
  let _ ← s.require_content_identity event kind.part_type
  require (authority.is_v2 = true → identity ∉ s.v2_terminal_text)
    "model_protocol.event_order_invalid: duplicate text terminal"
  require (authority.is_v2 = true → ∀ v ∈ event.get (final_field kind), v.is_string = true)
    "model_protocol.payload_invalid: final text must be a string"
  let text ← expect ((event.get_str (final_field kind)).or (s.snapshots.lookup identity))
    "model_protocol.payload_invalid: translated text done has no matching snapshot or text"
  pure ({ s with
    v2_terminal_text :=
      if authority.is_v2 then insert identity s.v2_terminal_text else s.v2_terminal_text
    committed_by_response := s.committed_by_response.insert response_id text },
    { normalized_text := some text })

/-! ## The conversation -/

def admit_transcription_completed : Admission := do
  s.require_active "conversation.item.input_audio_transcription.completed"
  let transcription ← transcription_identity event
  s.require_conversation_item transcription.1
  let _ ← required_string event "transcript"
  if authority.is_v2 then validate_optional_transcription_metadata event
  else validate_language_emotion event true
  require (transcription ∉ s.terminal_transcriptions)
    "model_protocol.event_order_invalid: duplicate transcription terminal event"
  pure ({ s with
    active_transcriptions := s.active_transcriptions.erase transcription
    terminal_transcriptions := insert transcription s.terminal_transcriptions }, {})

def admit_transcription_failed : Admission := do
  s.require_active "conversation.item.input_audio_transcription.failed"
  let transcription ← transcription_identity event
  s.require_conversation_item transcription.1
  validate_error_object event false
  require (transcription ∉ s.terminal_transcriptions)
    "model_protocol.event_order_invalid: duplicate transcription terminal event"
  pure ({ s with
    active_transcriptions := s.active_transcriptions.erase transcription
    terminal_transcriptions := insert transcription s.terminal_transcriptions }, {})

def admit_conversation_item_created : Admission := do
  s.require_active "conversation.item.created"
  let item ← expect (event.get "item")
    "model_protocol.payload_invalid: conversation item object is required"
  let item_id ← validate_item_object item false
  let role ← required_nonempty_string item "role"
  let has_input_audio_source_part : Bool :=
    (get_array item "content").any fun content =>
      content.any fun part => part.get_str "type" = some "input_audio"
  let allow_unlinked_root : Bool := has_input_audio_source_part &&
    (item_id ∈ s.declared_speech_items || item_id ∈ s.assistant_referenced_conversation_items)
  validate_conversation_item_previous_identity event allow_unlinked_root
  require (item_id ∉ s.conversation_items)
    "model_protocol.event_order_invalid: duplicate conversation item identity"
  let referenced := match (event.get_str "previous_item_id").filter (!blank ·) with
    | some previous_item_id =>
      if role = "assistant" then insert previous_item_id s.assistant_referenced_conversation_items
      else s.assistant_referenced_conversation_items
    | none => s.assistant_referenced_conversation_items
  pure ({ s with
    conversation_items := insert item_id s.conversation_items
    assistant_referenced_conversation_items := referenced }, {})

def admit_speech_started : Admission := do
  s.require_active "input_audio_buffer.speech_started"
  let item_id ← required_nonempty_string event "item_id"
  let start ← required_u64 event "audio_start_ms"
  require (item_id ∉ s.active_speech_items)
    "model_protocol.event_order_invalid: duplicate speech_started item"
  pure ({ s with
    active_speech_items := s.active_speech_items.insert item_id start
    declared_speech_items := insert item_id s.declared_speech_items }, {})

def admit_speech_stopped : Admission := do
  s.require_active "input_audio_buffer.speech_stopped"
  let item_id ← required_nonempty_string event "item_id"
  let stop ← required_u64 event "audio_end_ms"
  let start ← expect (s.active_speech_items.lookup item_id)
    "model_protocol.event_order_invalid: speech_stopped has no matching speech_started item"
  require (start ≤ stop) "model_protocol.payload_invalid: speech stop precedes start"
  pure ({ s with active_speech_items := s.active_speech_items.erase item_id }, {})

def admit_error : Admission := do
  require (s.phase ≠ .awaiting_session_created)
    "model_protocol.event_order_invalid: error arrived before session.created"
  validate_error_object event true
  pure (s, {})

def admit_buffer (event_type : String) : Admission := do
  s.require_active event_type
  pure (s, {})

/-! ## Admission -/

/-- The error for an event that no branch takes. -/
def not_implemented (event_type : String) : Admission :=
  if event_type.startsWith "session." then
    .error ("model_protocol.payload_invalid: typed LiveTranslate session adapter does not implement "
      ++ event_type)
  else
    .error ("model_protocol.payload_invalid: typed LiveTranslate server adapter does not implement "
      ++ event_type)

def admit_kind (event_type : String) (event : Value) : Admission :=
  match EventType.parse event_type with
  | .session_created => s.admit_session_created authority event
  | .session_updated => s.admit_session_updated codec authority event
  | .session_finished => s.admit_session_finished
  | .response_created => s.admit_response_created event
  | .output_item_added => s.admit_output_item_added event
  | .output_item_done => s.admit_output_item_done event
  | .content_part_added => s.admit_content_part_added event
  | .content_part_done => s.admit_content_part_done event
  | .text_delta kind =>
    if authority.is_v2 then
      if kind = .input_transcription then s.admit_v2_asr_delta event
      else s.admit_v2_text_delta kind event
    else not_implemented event_type
  | .text_snapshot kind =>
    if kind = .input_transcription then s.admit_transcription_snapshot event
    else s.admit_text_snapshot kind event
  | .text_done kind => s.admit_text_done authority kind event
  | .response_done => s.admit_response_done event
  | .transcription_completed => s.admit_transcription_completed authority event
  | .transcription_failed => s.admit_transcription_failed event
  | .conversation_item_created => s.admit_conversation_item_created event
  | .audio_delta => s.admit_audio_delta codec event
  | .audio_done => s.admit_audio_done event
  | .speech_started => s.admit_speech_started event
  | .speech_stopped => s.admit_speech_stopped event
  | .error => s.admit_error event
  | .buffer_committed | .buffer_cleared => s.admit_buffer event_type
  | .other => not_implemented event_type

def admit_inner : Admission := do
  let event_type ← event_type event
  authority.admit_event_type .server event_type
  require (s.phase ≠ .finished)
    "model_protocol.event_order_invalid: event received after session.finished"
  let event_id ← required_nonempty_string event "event_id"
  require (event_id ∉ s.seen_event_ids)
    "model_protocol.event_order_invalid: duplicate server event_id"
  admit_kind codec authority { s with seen_event_ids := insert event_id s.seen_event_ids } event_type event

/-- The admission of an event is all or nothing. -/
def admit_event : LiveTranslateServerState × Except String LiveTranslateServerMutation :=
  match s.admit_inner codec authority event with
  | .ok (next, mutation) => (next, .ok mutation)
  | .error error => (s, .error error)

end LiveTranslateServerState

end omni_translate.bailian_protocol

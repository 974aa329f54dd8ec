-- What each admitted event of a live-translation session does: one case for
-- each kind of event, with the checks that it passed.
import OmniTranslate.LiveTranslateState

namespace omni_translate.bailian_protocol

open calls json

/-! ## Checks that passed -/

variable {codec : Codec} {authority : AuthorizedModelProtocolProfile}
  {s s' : LiveTranslateServerState} {event : Value} {mutation : LiveTranslateServerMutation}

/-- The session runs. -/
def Running (s : LiveTranslateServerState) : Prop := s.phase = .active ∨ s.phase = .finishing

theorem active_ok {name : String} {u : Unit} (h : s.require_active name = .ok u) : Running s := by
  have h : s.phase = .active ∨ s.phase = .finishing := require_ok h
  exact h

theorem streaming_ok {r : String} {u : Unit} (h : s.require_streaming_response r = .ok u) :
    r ∈ s.active_responses := by
  obtain ⟨_, hactive, -⟩ := bind_ok h
  exact require_ok hactive

theorem output_identity_ok {key : ContentKey} {u : Unit} (h : s.require_output_identity key = .ok u) :
    key.response_id ∈ s.active_responses ∧ s.active_output_items.lookup key.output = some key.item_id := by
  obtain ⟨_, hactive, h⟩ := bind_ok h
  exact ⟨streaming_ok hactive, require_ok h⟩

theorem content_identity_ok {kind : String} {key : ContentKey}
    (h : s.require_content_identity event kind = .ok key) :
    response_content_identity event = .ok key ∧ s.active_content_parts.lookup key = some kind := by
  obtain ⟨_, hk, h⟩ := bind_ok h
  obtain ⟨_, -, h⟩ := bind_ok h
  obtain ⟨_, hpart, h⟩ := bind_ok h
  obtain rfl := Except.ok.inj h
  exact ⟨hk, require_ok hpart⟩

/-! ## What an admitted event does -/

/-- The events that touch no response. -/
def EventType.aside : EventType → Bool
  | transcription_completed | transcription_failed | conversation_item_created | speech_started
  | speech_stopped | error | buffer_committed | buffer_cleared => true
  | _ => false

/-- The responses and texts are as they were. -/
structure SameResponses (s s' : LiveTranslateServerState) : Prop where
  phase : s'.phase = s.phase
  active_responses : s'.active_responses = s.active_responses
  response_creation_status : s'.response_creation_status = s.response_creation_status
  response_conversation_ids : s'.response_conversation_ids = s.response_conversation_ids
  active_output_items : s'.active_output_items = s.active_output_items
  completed_output_items : s'.completed_output_items = s.completed_output_items
  active_content_parts : s'.active_content_parts = s.active_content_parts
  active_audio_streams : s'.active_audio_streams = s.active_audio_streams
  completed_audio_streams : s'.completed_audio_streams = s.completed_audio_streams
  snapshots : s'.snapshots = s.snapshots
  committed_by_response : s'.committed_by_response = s.committed_by_response

theorem SameResponses.refl (s : LiveTranslateServerState) : SameResponses s s :=
  ⟨rfl, rfl, rfl, rfl, rfl, rfl, rfl, rfl, rfl, rfl, rfl⟩

/-- What an event of each kind does to the state when it is admitted, with the checks it passed. -/
inductive Taken (authority : AuthorizedModelProtocolProfile) (s : LiveTranslateServerState)
    (event : Value) : EventType → LiveTranslateServerState → LiveTranslateServerMutation → Prop
  | session_created (id : String) (hphase : s.phase = .awaiting_session_created) :
    Taken authority s event .session_created
      { s with session_id := some id, phase := .awaiting_session_updated } {}
  | session_updated (evidence) (hphase : s.phase = .awaiting_session_updated) :
    Taken authority s event .session_updated { s with phase := .active }
      { session_updated := some evidence }
  | session_finished (hphase : s.phase = .finishing) (hnone : s.active_responses = ∅) :
    Taken authority s event .session_finished { s with phase := .finished } { session_finished := true }
  | response_created (r) (hrunning : Running s) (hr : validate_response_created event = .ok r)
    (hnew : r.response_id ∉ s.active_responses) :
    Taken authority s event .response_created
      { s with
        active_responses := insert r.response_id s.active_responses
        response_creation_status := s.response_creation_status.insert r.response_id r.status
        response_conversation_ids := s.response_conversation_ids.insert r.response_id r.conversation_id }
      {}
  | output_item_added (item) (hrunning : Running s) (hitem : validate_output_item event false = .ok item)
    (hactive : item.response_id ∈ s.active_responses)
    (hnew : (item.response_id, item.output_index) ∉ s.active_output_items) :
    Taken authority s event .output_item_added
      { s with
        active_output_items :=
          s.active_output_items.insert (item.response_id, item.output_index) item.item_id } {}
  | output_item_done (item completed) (hrunning : Running s)
    (hitem : validate_output_item event true = .ok item)
    (hactive : item.response_id ∈ s.active_responses)
    (hadded : s.active_output_items.lookup (item.response_id, item.output_index) = some item.item_id)
    (hfree : ∀ part ∈ s.active_content_parts, part.output ≠ (item.response_id, item.output_index)) :
    Taken authority s event .output_item_done
      { s with
        active_output_items := s.active_output_items.erase (item.response_id, item.output_index)
        completed_output_items :=
          s.completed_output_items.insert (item.response_id, item.output_index) completed } {}
  | content_part_added (key part_type) (hrunning : Running s)
    (hpart : validate_content_part event = .ok (key, part_type))
    (hitem : s.active_output_items.lookup key.output = some key.item_id)
    (hover : part_type = "audio" → key ∉ s.completed_audio_streams)
    (hnew : key ∉ s.active_content_parts) :
    Taken authority s event .content_part_added
      { s with
        active_content_parts := s.active_content_parts.insert key part_type
        active_audio_streams :=
          if part_type = "audio" then insert key s.active_audio_streams else s.active_audio_streams } {}
  | content_part_done (key) (hrunning : Running s) (hstream : key ∉ s.active_audio_streams) :
    Taken authority s event .content_part_done
      { s with active_content_parts := s.active_content_parts.erase key } {}
  | text_delta (kind stream delta transcriptions) (hrunning : Running s) (hv2 : authority.is_v2 = true)
    (hstream : text_stream kind event = .ok stream) (hdelta : event.get_str "delta" = some delta) :
    Taken authority s event (.text_delta kind)
      { s.keep_snapshot stream.identity (s.grown stream.identity delta) with
        active_transcriptions := transcriptions }
      { normalized_text := some (s.grown stream.identity delta) }
  | text_snapshot (kind stream text transcriptions) (hrunning : Running s)
    (hstream : text_stream kind event = .ok stream) (htext : snapshot_text event = .ok text) :
    Taken authority s event (.text_snapshot kind)
      { s.keep_snapshot stream.identity text with active_transcriptions := transcriptions }
      { normalized_text := some text }
  | text_done (kind stream id text terminal) (hrunning : Running s)
    (hstream : text_stream kind event = .ok stream)
    (hid : native_response_id_from_event event = some id) (hactive : id ∈ s.active_responses)
    (htext : (event.get_str (LiveTranslateServerState.final_field kind)).or
      (s.snapshots.lookup stream.identity) = some text)
    (key) (hkey : response_content_identity event = .ok key) :
    Taken authority s event (.text_done kind)
      { s with
        v2_terminal_text := terminal
        committed_by_response := s.committed_by_response.insert id text }
      { normalized_text := some text }
  | response_done (done) (hrunning : Running s) (hdone : validate_response_done event = .ok done)
    (hactive : done.response_id ∈ s.active_responses)
    (hchildren : ¬ s.has_active_response_children done.response_id) :
    Taken authority s event .response_done
      { s with
        active_responses := s.active_responses.erase done.response_id
        response_creation_status := s.response_creation_status.erase done.response_id
        response_conversation_ids := s.response_conversation_ids.erase done.response_id
        completed_output_items := maps.retain (·.1 ≠ done.response_id) s.completed_output_items
        committed_by_response := s.committed_by_response.erase done.response_id }
      { completed_response_text :=
          if done.status = "completed" then s.committed_by_response.lookup done.response_id else none
        response_completed := done.status = "completed"
        response_terminal_status := some done.status }
  | audio_delta (key) (hrunning : Running s) (hkey : response_content_identity event = .ok key)
    (hopen : key ∈ s.active_audio_streams) :
    Taken authority s event .audio_delta s {}
  | audio_done (key) (hrunning : Running s) (hkey : response_content_identity event = .ok key)
    (hopen : key ∈ s.active_audio_streams) :
    Taken authority s event .audio_done
      { s with
        active_audio_streams := s.active_audio_streams.erase key
        completed_audio_streams := insert key s.completed_audio_streams } {}
  | aside (kind) (after) (hkind : kind.aside = true) (hsame : SameResponses s after) :
    Taken authority s event kind after {}

/-! ## Every admission is one of these -/

open LiveTranslateServerState

theorem session_created_taken (h : s.admit_session_created authority event = .ok (s', mutation)) :
    Taken authority s event .session_created s' mutation := by
  obtain ⟨_, hphase, h⟩ := bind_ok h
  obtain ⟨id, -, h⟩ := bind_ok h
  obtain ⟨rfl, rfl⟩ := pure_ok h
  exact .session_created id (require_ok hphase)

theorem session_updated_taken (h : s.admit_session_updated codec authority event = .ok (s', mutation)) :
    Taken authority s event .session_updated s' mutation := by
  obtain ⟨_, hphase, h⟩ := bind_ok h
  iterate 7 obtain ⟨_, -, h⟩ := bind_ok h
  obtain ⟨rfl, rfl⟩ := pure_ok h
  exact .session_updated _ (require_ok hphase)

theorem session_finished_taken (h : s.admit_session_finished = .ok (s', mutation)) :
    Taken authority s event .session_finished s' mutation := by
  obtain ⟨_, hphase, h⟩ := bind_ok h
  obtain ⟨_, hnone, h⟩ := bind_ok h
  obtain ⟨rfl, rfl⟩ := pure_ok h
  exact .session_finished (require_ok hphase) (require_ok hnone).1

theorem response_created_taken (h : s.admit_response_created event = .ok (s', mutation)) :
    Taken authority s event .response_created s' mutation := by
  obtain ⟨_, hrunning, h⟩ := bind_ok h
  obtain ⟨r, hr, h⟩ := bind_ok h
  obtain ⟨_, hnew, h⟩ := bind_ok h
  obtain ⟨rfl, rfl⟩ := pure_ok h
  exact .response_created r (active_ok hrunning) hr (require_ok hnew)

theorem output_item_added_taken (h : s.admit_output_item_added event = .ok (s', mutation)) :
    Taken authority s event .output_item_added s' mutation := by
  obtain ⟨_, hrunning, h⟩ := bind_ok h
  obtain ⟨item, hitem, h⟩ := bind_ok h
  obtain ⟨_, hactive, h⟩ := bind_ok h
  obtain ⟨_, hnew, h⟩ := bind_ok h
  obtain ⟨rfl, rfl⟩ := pure_ok h
  exact .output_item_added item (active_ok hrunning) hitem (streaming_ok hactive) (require_ok hnew)

theorem output_item_done_taken (h : s.admit_output_item_done event = .ok (s', mutation)) :
    Taken authority s event .output_item_done s' mutation := by
  obtain ⟨_, hrunning, h⟩ := bind_ok h
  obtain ⟨item, hitem, h⟩ := bind_ok h
  obtain ⟨_, hactive, h⟩ := bind_ok h
  obtain ⟨_, hadded, h⟩ := bind_ok h
  obtain ⟨_, hfree, h⟩ := bind_ok h
  obtain ⟨completed, -, h⟩ := bind_ok h
  obtain ⟨rfl, rfl⟩ := pure_ok h
  refine .output_item_done item completed (active_ok hrunning) hitem (streaming_ok hactive)
    (require_ok hadded) fun part hpart hsame => ?_
  exact require_ok hfree (.inl ⟨part, AList.mem_keys.mp hpart, hsame⟩)

theorem content_part_added_taken (h : s.admit_content_part_added event = .ok (s', mutation)) :
    Taken authority s event .content_part_added s' mutation := by
  obtain ⟨_, hrunning, h⟩ := bind_ok h
  obtain ⟨⟨key, part_type⟩, hpart, h⟩ := bind_ok h
  obtain ⟨_, hitem, h⟩ := bind_ok h
  obtain ⟨_, hover, h⟩ := bind_ok h
  obtain ⟨_, hnew, h⟩ := bind_ok h
  obtain ⟨rfl, rfl⟩ := pure_ok h
  exact .content_part_added key part_type (active_ok hrunning) hpart (output_identity_ok hitem).2
    (fun haudio hin => require_ok hover ⟨haudio, hin⟩) (require_ok hnew)

theorem content_part_done_taken (h : s.admit_content_part_done event = .ok (s', mutation)) :
    Taken authority s event .content_part_done s' mutation := by
  obtain ⟨_, hrunning, h⟩ := bind_ok h
  obtain ⟨⟨key, _⟩, -, h⟩ := bind_ok h
  iterate 2 obtain ⟨_, -, h⟩ := bind_ok h
  obtain ⟨_, hstream, h⟩ := bind_ok h
  obtain ⟨rfl, rfl⟩ := pure_ok h
  exact .content_part_done key (active_ok hrunning) (require_ok hstream)

variable {kind : TextKind}

theorem snapshot_identity_ok {identity : String} (h : snapshot_identity kind event = .ok identity) :
    ∃ stream, text_stream kind event = .ok stream ∧ stream.identity = identity := by
  obtain ⟨stream, hstream, h⟩ := bind_ok h
  exact ⟨stream, hstream, Except.ok.inj h⟩

theorem v2_text_delta_taken (hv2 : authority.is_v2 = true)
    (h : s.admit_v2_text_delta kind event = .ok (s', mutation)) :
    Taken authority s event (.text_delta kind) s' mutation := by
  obtain ⟨_, hrunning, h⟩ := bind_ok h
  iterate 3 obtain ⟨_, -, h⟩ := bind_ok h
  obtain ⟨_, hidentity, h⟩ := bind_ok h
  obtain ⟨_, -, h⟩ := bind_ok h
  obtain ⟨delta, hdelta, h⟩ := bind_ok h
  obtain ⟨rfl, rfl⟩ := pure_ok h
  obtain ⟨stream, hstream, rfl⟩ := snapshot_identity_ok hidentity
  exact .text_delta kind stream delta s.active_transcriptions (active_ok hrunning) hv2 hstream
    (expect_ok hdelta)

theorem v2_asr_delta_taken (hv2 : authority.is_v2 = true)
    (h : s.admit_v2_asr_delta event = .ok (s', mutation)) :
    Taken authority s event (.text_delta .input_transcription) s' mutation := by
  obtain ⟨_, hrunning, h⟩ := bind_ok h
  iterate 4 obtain ⟨_, -, h⟩ := bind_ok h
  obtain ⟨_, hidentity, h⟩ := bind_ok h
  obtain ⟨delta, hdelta, h⟩ := bind_ok h
  obtain ⟨rfl, rfl⟩ := pure_ok h
  obtain ⟨stream, hstream, rfl⟩ := snapshot_identity_ok hidentity
  exact .text_delta .input_transcription stream delta _ (active_ok hrunning) hv2 hstream
    (expect_ok hdelta)

theorem text_snapshot_taken (h : s.admit_text_snapshot kind event = .ok (s', mutation)) :
    Taken authority s event (.text_snapshot kind) s' mutation := by
  obtain ⟨_, hrunning, h⟩ := bind_ok h
  obtain ⟨_, hidentity, h⟩ := bind_ok h
  iterate 3 obtain ⟨_, -, h⟩ := bind_ok h
  obtain ⟨text, htext, h⟩ := bind_ok h
  obtain ⟨rfl, rfl⟩ := pure_ok h
  obtain ⟨stream, hstream, rfl⟩ := snapshot_identity_ok hidentity
  exact .text_snapshot kind stream text s.active_transcriptions (active_ok hrunning) hstream htext

theorem transcription_snapshot_taken (h : s.admit_transcription_snapshot event = .ok (s', mutation)) :
    Taken authority s event (.text_snapshot .input_transcription) s' mutation := by
  obtain ⟨_, hrunning, h⟩ := bind_ok h
  obtain ⟨_, hidentity, h⟩ := bind_ok h
  iterate 4 obtain ⟨_, -, h⟩ := bind_ok h
  obtain ⟨text, htext, h⟩ := bind_ok h
  obtain ⟨rfl, rfl⟩ := pure_ok h
  obtain ⟨stream, hstream, rfl⟩ := snapshot_identity_ok hidentity
  exact .text_snapshot .input_transcription stream text _ (active_ok hrunning) hstream htext

theorem text_done_taken (h : s.admit_text_done authority kind event = .ok (s', mutation)) :
    Taken authority s event (.text_done kind) s' mutation := by
  obtain ⟨_, hrunning, h⟩ := bind_ok h
  obtain ⟨_, hidentity, h⟩ := bind_ok h
  obtain ⟨id, hid, h⟩ := bind_ok h
  obtain ⟨_, hactive, h⟩ := bind_ok h
  obtain ⟨key, hkey, h⟩ := bind_ok h
  iterate 2 obtain ⟨_, -, h⟩ := bind_ok h
  obtain ⟨text, htext, h⟩ := bind_ok h
  obtain ⟨rfl, rfl⟩ := pure_ok h
  obtain ⟨stream, hstream, rfl⟩ := snapshot_identity_ok hidentity
  exact .text_done kind stream id text _ (active_ok hrunning) hstream (expect_ok hid)
    (require_ok hactive) (expect_ok htext) key (content_identity_ok hkey).1

theorem response_done_taken (h : s.admit_response_done event = .ok (s', mutation)) :
    Taken authority s event .response_done s' mutation := by
  obtain ⟨_, hrunning, h⟩ := bind_ok h
  obtain ⟨done, hdone, h⟩ := bind_ok h
  obtain ⟨_, hactive, h⟩ := bind_ok h
  obtain ⟨_, hchildren, h⟩ := bind_ok h
  iterate 6 obtain ⟨_, -, h⟩ := bind_ok h
  obtain ⟨rfl, rfl⟩ := pure_ok h
  have htaken : Taken authority s event .response_done _ _ :=
    .response_done done (active_ok hrunning) hdone (require_ok hactive) (require_ok hchildren)
  simpa using htaken

theorem audio_delta_taken (h : s.admit_audio_delta codec event = .ok (s', mutation)) :
    Taken authority s event .audio_delta s' mutation := by
  obtain ⟨_, hrunning, h⟩ := bind_ok h
  obtain ⟨key, hkey, h⟩ := bind_ok h
  iterate 5 obtain ⟨_, -, h⟩ := bind_ok h
  obtain ⟨_, hopen, h⟩ := bind_ok h
  obtain ⟨rfl, rfl⟩ := pure_ok h
  exact .audio_delta key (active_ok hrunning) hkey (require_ok hopen)

theorem audio_done_taken (h : s.admit_audio_done event = .ok (s', mutation)) :
    Taken authority s event .audio_done s' mutation := by
  obtain ⟨_, hrunning, h⟩ := bind_ok h
  obtain ⟨key, hkey, h⟩ := bind_ok h
  iterate 2 obtain ⟨_, -, h⟩ := bind_ok h
  obtain ⟨_, hopen, h⟩ := bind_ok h
  obtain ⟨rfl, rfl⟩ := pure_ok h
  exact .audio_done key (active_ok hrunning) hkey (require_ok hopen)

theorem transcription_completed_same
    (h : s.admit_transcription_completed authority event = .ok (s', mutation)) :
    SameResponses s s' ∧ mutation = {} := by
  iterate 4 obtain ⟨_, -, h⟩ := bind_ok h
  split at h <;>
  · obtain ⟨_, -, h⟩ := bind_ok h
    obtain ⟨_, -, h⟩ := bind_ok h
    obtain ⟨rfl, rfl⟩ := pure_ok h
    exact ⟨⟨rfl, rfl, rfl, rfl, rfl, rfl, rfl, rfl, rfl, rfl, rfl⟩, rfl⟩

theorem transcription_failed_same (h : s.admit_transcription_failed event = .ok (s', mutation)) :
    SameResponses s s' ∧ mutation = {} := by
  iterate 5 obtain ⟨_, -, h⟩ := bind_ok h
  obtain ⟨rfl, rfl⟩ := pure_ok h
  exact ⟨⟨rfl, rfl, rfl, rfl, rfl, rfl, rfl, rfl, rfl, rfl, rfl⟩, rfl⟩

theorem conversation_item_created_same
    (h : s.admit_conversation_item_created event = .ok (s', mutation)) :
    SameResponses s s' ∧ mutation = {} := by
  iterate 6 obtain ⟨_, -, h⟩ := bind_ok h
  obtain ⟨rfl, rfl⟩ := pure_ok h
  exact ⟨⟨rfl, rfl, rfl, rfl, rfl, rfl, rfl, rfl, rfl, rfl, rfl⟩, rfl⟩

theorem speech_started_same (h : s.admit_speech_started event = .ok (s', mutation)) :
    SameResponses s s' ∧ mutation = {} := by
  iterate 4 obtain ⟨_, -, h⟩ := bind_ok h
  obtain ⟨rfl, rfl⟩ := pure_ok h
  exact ⟨⟨rfl, rfl, rfl, rfl, rfl, rfl, rfl, rfl, rfl, rfl, rfl⟩, rfl⟩

theorem speech_stopped_same (h : s.admit_speech_stopped event = .ok (s', mutation)) :
    SameResponses s s' ∧ mutation = {} := by
  iterate 5 obtain ⟨_, -, h⟩ := bind_ok h
  obtain ⟨rfl, rfl⟩ := pure_ok h
  exact ⟨⟨rfl, rfl, rfl, rfl, rfl, rfl, rfl, rfl, rfl, rfl, rfl⟩, rfl⟩

theorem error_same (h : s.admit_error event = .ok (s', mutation)) :
    SameResponses s s' ∧ mutation = {} := by
  iterate 2 obtain ⟨_, -, h⟩ := bind_ok h
  obtain ⟨rfl, rfl⟩ := pure_ok h
  exact ⟨.refl s, rfl⟩

theorem buffer_same {event_type : String} (h : s.admit_buffer event_type = .ok (s', mutation)) :
    SameResponses s s' ∧ mutation = {} := by
  obtain ⟨_, -, h⟩ := bind_ok h
  obtain ⟨rfl, rfl⟩ := pure_ok h
  exact ⟨.refl s, rfl⟩

theorem not_implemented_error {event_type : String} :
    not_implemented event_type ≠ .ok (s', mutation) := by
  unfold not_implemented
  split <;> simp

theorem aside_taken {kind : EventType} (hkind : kind.aside = true)
    (h : SameResponses s s' ∧ mutation = {}) : Taken authority s event kind s' mutation := by
  obtain ⟨hsame, rfl⟩ := h
  exact .aside kind s' hkind hsame

theorem admit_kind_taken {event_type : String}
    (h : s.admit_kind codec authority event_type event = .ok (s', mutation)) :
    Taken authority s event (EventType.parse event_type) s' mutation := by
  unfold admit_kind at h
  cases hkind : EventType.parse event_type with
  | session_created => rw [hkind] at h; exact session_created_taken h
  | session_updated => rw [hkind] at h; exact session_updated_taken h
  | session_finished => rw [hkind] at h; exact session_finished_taken h
  | response_created => rw [hkind] at h; exact response_created_taken h
  | output_item_added => rw [hkind] at h; exact output_item_added_taken h
  | output_item_done => rw [hkind] at h; exact output_item_done_taken h
  | content_part_added => rw [hkind] at h; exact content_part_added_taken h
  | content_part_done => rw [hkind] at h; exact content_part_done_taken h
  | text_delta kind =>
    simp only [hkind] at h
    split at h
    · rename_i hv2
      split at h
      · rename_i hasr
        subst hasr
        exact v2_asr_delta_taken hv2 h
      · exact v2_text_delta_taken hv2 h
    · exact absurd h not_implemented_error
  | text_snapshot kind =>
    simp only [hkind] at h
    split at h
    · rename_i hasr
      subst hasr
      exact transcription_snapshot_taken h
    · exact text_snapshot_taken h
  | text_done kind => rw [hkind] at h; exact text_done_taken h
  | response_done => rw [hkind] at h; exact response_done_taken h
  | transcription_completed => rw [hkind] at h; exact aside_taken rfl (transcription_completed_same h)
  | transcription_failed => rw [hkind] at h; exact aside_taken rfl (transcription_failed_same h)
  | conversation_item_created => rw [hkind] at h; exact aside_taken rfl (conversation_item_created_same h)
  | audio_delta => rw [hkind] at h; exact audio_delta_taken h
  | audio_done => rw [hkind] at h; exact audio_done_taken h
  | speech_started => rw [hkind] at h; exact aside_taken rfl (speech_started_same h)
  | speech_stopped => rw [hkind] at h; exact aside_taken rfl (speech_stopped_same h)
  | error => rw [hkind] at h; exact aside_taken rfl (error_same h)
  | buffer_committed => rw [hkind] at h; exact aside_taken rfl (buffer_same h)
  | buffer_cleared => rw [hkind] at h; exact aside_taken rfl (buffer_same h)
  | other => rw [hkind] at h; exact absurd h not_implemented_error

/-- The kind of an event. -/
def kind_of (event : Value) : EventType :=
  EventType.parse ((event_type event).toOption.getD "")

theorem admit_inner_taken (h : s.admit_inner codec authority event = .ok (s', mutation)) :
    s.phase ≠ .finished ∧ ∃ name ids, event_type event = .ok name ∧
      name ∈ event_types authority.wire_dialect .server ∧
      Taken authority { s with seen_event_ids := ids } event (kind_of event) s' mutation := by
  obtain ⟨name, hname, h⟩ := bind_ok h
  obtain ⟨_, hallowed, h⟩ := bind_ok h
  obtain ⟨_, hphase, h⟩ := bind_ok h
  obtain ⟨id, -, h⟩ := bind_ok h
  obtain ⟨_, -, h⟩ := bind_ok h
  iterate 2 obtain ⟨_, -, hallowed⟩ := bind_ok hallowed
  refine ⟨require_ok hphase, name, insert id s.seen_event_ids, hname, require_ok hallowed, ?_⟩
  have hkind : kind_of event = EventType.parse name := by
    rw [kind_of, hname]
    rfl
  rw [hkind]
  exact admit_kind_taken h

end omni_translate.bailian_protocol

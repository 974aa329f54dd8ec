-- The virtual microphone of the Bridge and its service around the playback worker: the
-- cue ledger of `windows/mod.rs`, the frame handler of `windows/audio_client.rs`, the
-- authorities under which statuses are emitted, and the resets of `bridge.init` and
-- `bridge.shutdown`. A driver write is made without the lock, so a frame is two steps.
import OmniTranslate.PlaybackWorker

namespace omni_translate.playback

open runs
open bridge_playback_ack (TranslationPlaybackStatusKind TranslationPlaybackAuthority)

variable {S : Type}

def VIRTUAL_MIC_TERMINAL_LEDGER_CAPACITY : Nat := 128

/-! ## The ledger of cues -/

/-- `virtual_mic_ledger_key`: the cue and the authority of its frame, which the source joins with a
separator. -/
structure VirtualMicKey where
  cue_id : String
  authority : TranslationPlaybackAuthority
deriving DecidableEq

structure VirtualMicCueProgress where
  chunk_count : Nat
  next_chunk_index : Nat
  write_in_flight : Bool

structure VirtualMicCueLedger where
  active : AList fun _ : VirtualMicKey => VirtualMicCueProgress
  terminal : List VirtualMicKey

inductive VirtualMicChunkAdmission
  | Write (emit_queued : Bool)
  | Duplicate

namespace VirtualMicCueLedger

def new : VirtualMicCueLedger := ⟨∅, []⟩

variable (ledger : VirtualMicCueLedger) (key : VirtualMicKey)

def begin (chunk_index chunk_count : Nat) :
    Except String (VirtualMicCueLedger × VirtualMicChunkAdmission) :=
  if key ∈ ledger.terminal then .ok (ledger, .Duplicate)
  else
    match ledger.active.lookup key with
    | none =>
      if chunk_index ≠ 0 then .error "virtual-mic-first-chunk-missing"
      else .ok ({ ledger with active := ledger.active.insert key ⟨chunk_count, 0, true⟩ },
        .Write true)
    | some progress =>
      if progress.chunk_count ≠ chunk_count then .error "virtual-mic-chunk-count-changed"
      else if chunk_index < progress.next_chunk_index then .ok (ledger, .Duplicate)
      else if progress.write_in_flight ∨ chunk_index ≠ progress.next_chunk_index then
        .error "virtual-mic-chunk-out-of-order"
      else .ok ({ ledger with
        active := ledger.active.insert key { progress with write_in_flight := true } },
        .Write false)

def remember_terminal : VirtualMicCueLedger :=
  let terminal := if ledger.terminal.length = VIRTUAL_MIC_TERMINAL_LEDGER_CAPACITY then
      ledger.terminal.tail
    else ledger.terminal
  { ledger with terminal := terminal ++ [key] }

/-- Whether the chunk was the first and whether it was the last. `none` is a write that the ledger
does not expect. -/
def complete_success (chunk_index : Nat) : VirtualMicCueLedger × Option (Bool × Bool) :=
  match ledger.active.lookup key with
  | none => (ledger, none)
  | some progress =>
    if ¬ progress.write_in_flight ∨ progress.next_chunk_index ≠ chunk_index then (ledger, none)
    else
      let next_chunk_index := min (progress.next_chunk_index + 1) (2 ^ 32 - 1)
      if next_chunk_index = progress.chunk_count then
        (remember_terminal { ledger with active := ledger.active.erase key } key,
          some (decide (chunk_index = 0), true))
      else
        ({ ledger with
          active := ledger.active.insert key { progress with
            write_in_flight := false
            next_chunk_index := next_chunk_index } }, some (decide (chunk_index = 0), false))

def complete_terminal : VirtualMicCueLedger × Bool :=
  if key ∈ ledger.terminal then (ledger, false)
  else (remember_terminal { ledger with active := ledger.active.erase key } key, true)

end VirtualMicCueLedger

/-! ## The service -/

/-- A frame for the virtual microphone. -/
structure VirtualMicFrame (S : Type) where
  cue_id : String
  chunk_index : Nat
  chunk_count : Nat
  monitor_samples : List S
  translated_audio_enabled : Bool

/-- A frame whose driver write is in flight. -/
structure VirtualMicWrite where
  key : VirtualMicKey
  chunk_index : Nat

/-- The service: the Bridge of the physical output, the virtual microphone, and the authorities,
with a record of the statuses that were emitted and one of the cues that were accepted and have had
no terminal status since. -/
structure BridgeService (S : Type) where
  bridge : Bridge S
  authority : TranslationPlaybackAuthority
  translation_cue_authorities : AList fun _ : String => TranslationPlaybackAuthority
  virtual_mic_output_requested : Bool
  virtual_mic_cue_ledger : VirtualMicCueLedger
  writes : List VirtualMicWrite
  emitted : List (TranslationPlaybackAuthority × TranslationStatus)
  owed : Finset String

/-- The operations of the threads. `set_authority` stands for all that changes the session, the
source generation or the owner of the output. -/
inductive ServiceOp (S : Type)
  | physical_frame (authority : TranslationPlaybackAuthority) (frame : TranslationFrame S)
      (now_ms : Nat)
  | virtual_mic_frame (authority : TranslationPlaybackAuthority) (frame : VirtualMicFrame S)
  | written (i : Nat) (succeeds : Bool)
  | bridge_init (device_id : String) (reconfiguration_reason : Option String)
      (capture_or_session_changed virtual_mic_output_requested : Bool)
  | bridge_shutdown
  | request_playback_stop (reason : String) (error_code : Option String)
  | rebind (device_id : String)
  | source_frame
  | flush_source
  | set_authority (authority : TranslationPlaybackAuthority)
  | work (e : Outside)

namespace BridgeService

variable (s : BridgeService S)

def new (device_id : String) (authority : TranslationPlaybackAuthority) : BridgeService S where
  bridge := .new device_id
  authority := authority
  translation_cue_authorities := ∅
  virtual_mic_output_requested := false
  virtual_mic_cue_ledger := .new
  writes := []
  emitted := []
  owed := ∅

/-! ## Statuses -/

def is_blank (cue_id : String) : Bool := text.trim cue_id.toList = []

def bind_translation_cue_authority (cue_id : Option String)
    (authority : TranslationPlaybackAuthority) : BridgeService S :=
  match cue_id with
  | none => s
  | some cue_id =>
    if is_blank cue_id then s
    else { s with
      translation_cue_authorities := s.translation_cue_authorities.insert cue_id authority }

variable (authority : TranslationPlaybackAuthority)

def emit_translation_status_with_authority (status : TranslationStatus) : BridgeService S :=
  { s with
    emitted := s.emitted ++ [(authority, status)]
    owed := match status.cue_id with
      | some cue_id => if status.status.is_terminal then s.owed.erase cue_id else s.owed
      | none => s.owed }

/-- A terminal status takes the authority of its cue with it. Without one there is no status. -/
def emit_translation_status (status : TranslationStatus) : BridgeService S :=
  match status.cue_id with
  | none => s
  | some cue_id =>
    match s.translation_cue_authorities.lookup cue_id with
    | none => s
    | some authority =>
      let translation_cue_authorities :=
        if status.status.is_terminal then s.translation_cue_authorities.erase cue_id
        else s.translation_cue_authorities
      emit_translation_status_with_authority { s with translation_cue_authorities } authority status

/-- The service after the Bridge has made a step, with the statuses that the step emits. -/
def report (bridge : Bridge S) : BridgeService S :=
  (bridge.state.statuses.drop s.bridge.state.statuses.length).foldl
    emit_translation_status { s with bridge }

/-- A cue is accepted. One without an id cannot have a status. -/
def accept (cue_id : Option String) : BridgeService S :=
  match cue_id with
  | none => s
  | some cue_id => if is_blank cue_id then s else { s with owed := insert cue_id s.owed }

/-! ## Frames -/

def translation_frame_has_current_authority : Bool :=
  text.trim authority.session_id.toList ≠ [] ∧
    text.trim authority.physical_playback_device_id.toList ≠ [] ∧ authority = s.authority

/-- The Bridge takes a cue: the start of a stream goes to the channel, or a complete cue is
queued. -/
def takes (before after : Bridge S) (frame : TranslationFrame S) : Bool :=
  match frame.stream_state with
  | some .Start => before.admitted.length < after.admitted.length
  | some _ => false
  | none => ⟨frame.cue_id, .Queued, "accepted"⟩ ∈
      after.state.statuses.drop before.state.statuses.length

/-- `handle_audio_client` for the physical output. -/
def handle_physical_frame (frame : TranslationFrame S) (now_ms : Nat) : BridgeService S :=
  if ¬ s.translation_frame_has_current_authority authority then s
  else if frame.translation_playback_enabled ∧ ¬ frame.physical_playback_ready then s
  else
    let s := s.bind_translation_cue_authority frame.cue_id authority
    let bridge := s.bridge.handle_physical_translation_frame frame now_ms
    let s := if takes s.bridge bridge frame then s.accept frame.cue_id else s
    s.report bridge

/-- A cue of the virtual microphone ends with a status, unless it has ended before. -/
def end_virtual_mic_cue (key : VirtualMicKey) (status : TranslationPlaybackStatusKind)
    (reason : String) : BridgeService S :=
  let (virtual_mic_cue_ledger, ended) := s.virtual_mic_cue_ledger.complete_terminal key
  let s := { s with virtual_mic_cue_ledger }
  if ended then s.emit_translation_status ⟨some key.cue_id, status, reason⟩ else s

/-- The part of `handle_virtual_mic_frame_with_writer` before the write. -/
def handle_virtual_mic_frame (frame : VirtualMicFrame S) : BridgeService S :=
  let key := ⟨frame.cue_id, authority⟩
  if ¬ s.virtual_mic_output_requested then
    s.end_virtual_mic_cue key .RouteFailed "virtual-mic-output-not-requested"
  else
    match s.virtual_mic_cue_ledger.begin key frame.chunk_index frame.chunk_count with
    | .error reason => s.end_virtual_mic_cue key .RouteFailed reason
    | .ok (_, .Duplicate) => s
    | .ok (virtual_mic_cue_ledger, .Write emit_queued) =>
      let s := { s with virtual_mic_cue_ledger }
      match Bridge.translation_non_playback_reason true frame.translated_audio_enabled
          frame.monitor_samples.isEmpty with
      | some reason => s.end_virtual_mic_cue key .StaleDropped reason
      | none =>
        let s := if emit_queued then
            (s.accept (some frame.cue_id)).emit_translation_status
              ⟨some frame.cue_id, .Queued, "virtual-mic-write-queued"⟩
          else s
        { s with writes := s.writes ++ [⟨key, frame.chunk_index⟩] }

/-- `handle_audio_client` for the virtual microphone, with the check of `validate_translation_frame`. -/
def handle_virtual_mic_client (frame : VirtualMicFrame S) : BridgeService S :=
  if ¬ s.translation_frame_has_current_authority authority then s
  else if frame.cue_id = "" ∨ ¬ frame.chunk_index < frame.chunk_count then s
  else
    (s.bind_translation_cue_authority (some frame.cue_id) authority).handle_virtual_mic_frame
      authority frame

/-- The part of `handle_virtual_mic_frame_with_writer` after the write. -/
def finish_write (w : VirtualMicWrite) (succeeds : Bool) : BridgeService S :=
  if ¬ s.translation_frame_has_current_authority w.key.authority then
    let (virtual_mic_cue_ledger, _) := s.virtual_mic_cue_ledger.complete_terminal w.key
    emit_translation_status_with_authority { s with virtual_mic_cue_ledger } w.key.authority
      ⟨some w.key.cue_id, .RouteFailed, "virtual-mic-authority-superseded-during-write"⟩
  else if ¬ succeeds then s.end_virtual_mic_cue w.key .RouteFailed "virtual-mic-write-failed"
  else
    let (virtual_mic_cue_ledger, lifecycle) :=
      s.virtual_mic_cue_ledger.complete_success w.key w.chunk_index
    let (emit_started, emit_completed) := lifecycle.getD (false, false)
    let s := { s with virtual_mic_cue_ledger }
    let s := if emit_started then
        s.emit_translation_status ⟨some w.key.cue_id, .Started, "virtual-mic-write-started"⟩
      else s
    if emit_completed then
      s.emit_translation_status ⟨some w.key.cue_id, .Completed, "virtual-mic-written"⟩
    else s

/-! ## Control commands -/

def handle_bridge_init (device_id : String) (reconfiguration_reason : Option String)
    (capture_or_session_changed virtual_mic_output_requested : Bool) : BridgeService S :=
  let virtual_mic_cue_ledger :=
    if capture_or_session_changed ∨
        s.virtual_mic_output_requested ≠ virtual_mic_output_requested then .new
    else s.virtual_mic_cue_ledger
  report { s with virtual_mic_cue_ledger, virtual_mic_output_requested }
    (s.bridge.handle_bridge_init device_id reconfiguration_reason capture_or_session_changed)

/-- The shutdown resets both ledgers before it asks for the stop. -/
def handle_bridge_shutdown : BridgeService S :=
  report { s with virtual_mic_cue_ledger := .new } s.bridge.handle_bridge_shutdown

end BridgeService

namespace ServiceOp

def step (s : BridgeService S) : ServiceOp S → BridgeService S
  | .physical_frame authority frame now_ms => s.handle_physical_frame authority frame now_ms
  | .virtual_mic_frame authority frame => s.handle_virtual_mic_client authority frame
  | .written i succeeds =>
    match s.writes[i]? with
    | none => s
    | some w => BridgeService.finish_write { s with writes := s.writes.eraseIdx i } w succeeds
  | .bridge_init device_id reconfiguration_reason capture_or_session_changed requested =>
    s.handle_bridge_init device_id reconfiguration_reason capture_or_session_changed requested
  | .bridge_shutdown => s.handle_bridge_shutdown
  | .request_playback_stop reason error_code =>
    s.report (s.bridge.request_playback_stop reason error_code)
  | .rebind device_id => s.report (playback.step s.bridge (.rebind device_id))
  | .source_frame => s.report (playback.step s.bridge .source_frame)
  | .flush_source => s.report (playback.step s.bridge .flush_source)
  | .set_authority authority => { s with authority }
  | .work e => s.report (playback.step s.bridge (.work e))

end ServiceOp

end omni_translate.playback

-- Translated audio for the physical output, from the Desktop to the Bridge and back: the writes of
-- `bridge/ipc/audio_writer.rs`, the frames and the playback of the Bridge, and the statuses that
-- `engine/bridge_playback_ack.rs` hears of it. Every section under a mutex is a step, and the connection
-- stays the same throughout.
import OmniTranslate.HeldCues
import OmniTranslate.QuiescenceLaws
import OmniTranslate.VirtualMic

namespace omni_translate.translated_audio

open runs
open bridge_playback_ack (TranslationPlaybackAuthority TranslationPlaybackStatusKind)
open playback (BridgeService Bridge TranslationFrame TranslationStatus Outside Holds begins)
open playback_quiescence (Shared QuiescenceOp bridge_playback_cue_matches_owner
  observe_bridge_playback_status_for_owner)

variable {S : Type}

def as_str : TranslationPlaybackStatusKind → String
  | .Queued => "queued"
  | .Started => "started"
  | .Completed => "completed"
  | .StaleDropped => "stale-dropped"
  | .RouteFailed => "route-failed"

/-! ## The acknowledgement of a frame -/

/-- Whether `handle_physical_translation_stream_frame` accepts the frame. -/
def accepts_stream_frame (b : Bridge S) (frame : TranslationFrame S)
    (stream_state : playback.TranslationStreamState) : Bool :=
  match frame.cue_id, frame.chunk_index with
  | some cue_id, some chunk_index =>
    if text.trim cue_id.toList = [] then false
    else if ¬ Bridge.carries_audio stream_state ∧ ¬ frame.monitor_samples.isEmpty then false
    else if Bridge.carries_audio stream_state ∧ frame.monitor_samples.isEmpty then false
    else if (Bridge.translation_non_playback_reason frame.translation_playback_enabled
        frame.translated_audio_enabled
        (Bridge.carries_audio stream_state ∧ frame.monitor_samples.isEmpty)).isSome then false
    else
      match b.state.physical_translation_stream_ledger.admit_frame cue_id chunk_index stream_state
          b.state.translation_generation with
      | none => false
      | some (_, .Duplicate) => true
      | some _ => stream_state = .Abort || b.commands.length < playback.PLAYBACK_CHANNEL_CAPACITY
  | _, _ => false

/-- Whether `handle_physical_translation_frame` accepts the frame. A complete cue that is not to be played is
accepted, and ends at once. -/
def accepts_physical_frame (b : Bridge S) (frame : TranslationFrame S) (now_ms : Nat) : Bool :=
  if frame.translation_playback_enabled ∧ frame.translated_audio_enabled ∧ ¬ frame.physical_playback_ready then
    false
  else
    match frame.stream_state with
    | some stream_state => accepts_stream_frame b frame stream_state
    | none =>
      (Bridge.translation_non_playback_reason frame.translation_playback_enabled frame.translated_audio_enabled
        frame.monitor_samples.isEmpty).isSome ||
      (b.translation_queue.enqueue (b.job_of frame now_ms) now_ms).2.2.isNone

/-- Whether `handle_audio_client` accepts the frame. -/
def accepts (s : BridgeService S) (authority : TranslationPlaybackAuthority) (frame : TranslationFrame S)
    (now_ms : Nat) : Bool :=
  s.translation_frame_has_current_authority authority &&
    !(frame.translation_playback_enabled && !frame.physical_playback_ready) &&
    accepts_physical_frame s.bridge frame now_ms

/-! ## Both processes -/

/-- How far a call of `write_bridge_audio_frame` is: it has not registered its cue yet, its frame is on the way, or
the Bridge has acknowledged it. The last one has failed while its frame was on the way. -/
inductive Stage
  | begun
  | sent
  | answered (accepted : Bool)
  | abandoned
deriving DecidableEq

/-- A call of `write_bridge_audio_frame`. The frame is as its handler will find it, under the cue of the call. -/
structure Write (S : Type) where
  cue_id : String
  frame : TranslationFrame S
  audio_frames : Nat
  sample_rate_hz : Nat
  stage : Stage

def Write.sent_frame (w : Write S) : TranslationFrame S := { w.frame with cue_id := some w.cue_id }

/-- The Desktop and the Bridge of one connection: the statuses that the Bridge has emitted are delivered in order, and
one at a time is handled, with whether it matched its cue. -/
structure Route (S : Type) where
  authority : TranslationPlaybackAuthority
  shared : Shared
  service : BridgeService S
  writes : List (Write S)
  delivered : Nat
  handling : Option (TranslationPlaybackAuthority × TranslationStatus × Bool)

/-- What the other calls of the Desktop do to the quiescence: everything but binding a cue to an owner, and letting it
go. -/
def elsewhere : QuiescenceOp → Bool
  | .expect_bridge_playback_cue_for_owner _ _ _ _ => false
  | .observe_bridge_playback_status_for_owner _ _ _ => false
  | _ => true

inductive AudioOp (S : Type)
  | begin_write (cue_id : String) (frame : TranslationFrame S) (audio_frames sample_rate_hz : Nat)
  | fail_checks (i : Nat)
  | send_frame (i : Nat)
  | lose_frame (i : Nat)
  | refuse_frame (i : Nat) (misdirected : Bool)
  | handle_frame (i : Nat) (now_ms : Nat)
  | lose_ack (i : Nat)
  | read_ack (i : Nat)
  | work (e : Outside)
  | source_frame
  | flush_source
  | receive_status
  | apply_status (recorded : Bool)
  | elsewhere (op : { op : QuiescenceOp // elsewhere op = true })

namespace Route

variable (s : Route S)

def start (device_id : String) (authority : TranslationPlaybackAuthority) : Route S where
  authority := authority
  shared := ⟨playback_quiescence.default, 0, 0, 0, 1⟩
  service := .new device_id authority
  writes := []
  delivered := 0
  handling := none

/-! ### The writes -/

def close_failed_translation_cue (cue_id : String) : Shared :=
  { s.shared with
    state := (observe_bridge_playback_status_for_owner s.shared.state cue_id "route-failed" s.authority).1 }

/-- `none` when the Desktop is aborted for too many handles. -/
def begin_write (cue_id : String) (frame : TranslationFrame S) (audio_frames sample_rate_hz : Nat) :
    Option (Route S) :=
  if s.shared.state.snapshot.restart_barrier then some s
  else s.shared.begin_bridge_ack.map fun shared =>
    { s with
      shared
      writes := s.writes ++ [⟨cue_id, frame, audio_frames, sample_rate_hz, .begun⟩] }

/-- A check fails before the cue is registered. -/
def fail_checks (i : Nat) (w : Write S) : Route S :=
  if w.stage ≠ .begun then s
  else { s with shared := s.shared.drop_ack_guard, writes := s.writes.eraseIdx i }

/-- The cue is registered, and the frame goes to the pipe. Only a blank cue does not wait for the end of a restart. -/
def send_frame (i : Nat) (w : Write S) : Route S :=
  if w.stage ≠ .begun then s
  else if text.trim w.cue_id.toList ≠ [] ∧ s.shared.state.snapshot.restart_barrier then s
  else { s with
    shared := { s.shared with
      state := playback_quiescence.expect_bridge_playback_cue_for_owner s.shared.state w.cue_id s.authority
        w.audio_frames w.sample_rate_hz }
    writes := s.writes.set i { w with stage := .sent } }

/-- The pipe does not take the frame. -/
def lose_frame (i : Nat) (w : Write S) : Route S :=
  if w.stage ≠ .sent then s
  else { s with
    shared := (s.close_failed_translation_cue w.cue_id).drop_ack_guard
    writes := s.writes.eraseIdx i }

/-- The write after the Bridge has dealt with its frame. -/
def answer (i : Nat) (w : Write S) (accepted : Bool) : List (Write S) :=
  if w.stage = .abandoned then s.writes.eraseIdx i
  else s.writes.set i { w with stage := .answered accepted }

/-- `handle_audio_client` refuses the frame by its header or by the state of the route. Only the first ends the cue. -/
def refuse_frame (i : Nat) (w : Write S) (misdirected : Bool) : Route S :=
  if w.stage ≠ .sent ∧ w.stage ≠ .abandoned then s
  else { s with
    service := if misdirected then
        s.service.emit_translation_status ⟨some w.cue_id, .RouteFailed, "invalid-translation-sink-direction"⟩
      else s.service
    writes := s.answer i w false }

def handle_frame (i : Nat) (w : Write S) (now_ms : Nat) : Route S :=
  if w.stage ≠ .sent ∧ w.stage ≠ .abandoned then s
  else { s with
    service := s.service.handle_physical_frame s.authority w.sent_frame now_ms
    writes := s.answer i w (accepts s.service s.authority w.sent_frame now_ms) }

/-- The acknowledgement cannot be read. -/
def lose_ack (i : Nat) (w : Write S) : Route S :=
  match w.stage with
  | .sent => { s with
      shared := (s.close_failed_translation_cue w.cue_id).drop_ack_guard
      writes := s.writes.set i { w with stage := .abandoned } }
  | .answered _ => { s with
      shared := (s.close_failed_translation_cue w.cue_id).drop_ack_guard
      writes := s.writes.eraseIdx i }
  | _ => s

def read_ack (i : Nat) (w : Write S) : Route S :=
  match w.stage with
  | .answered true => { s with shared := s.shared.drop_ack_guard, writes := s.writes.eraseIdx i }
  | .answered false => { s with
      shared := (s.close_failed_translation_cue w.cue_id).drop_ack_guard
      writes := s.writes.eraseIdx i }
  | _ => s

/-- A step of one write, if there is one. -/
def at_write (i : Nat) (acts : Write S → Route S) : Route S :=
  match s.writes[i]? with
  | none => s
  | some w => acts w

/-! ### The statuses -/

/-- `handle_bridge_translation_status` up to the disposition. -/
def receive_status : Option (Route S) :=
  match s.handling, s.service.emitted[s.delivered]? with
  | none, some (authority, status) =>
    if s.shared.state.snapshot.restart_barrier then some s
    else s.shared.begin_bridge_ack.map fun shared =>
      { s with
        shared
        delivered := s.delivered + 1
        handling := some (authority, status, authority = s.authority &&
          bridge_playback_cue_matches_owner shared.state (status.cue_id.getD "-") authority) }
  | _, _ => some s

/-- `apply_acknowledged_status_to_terminal_state_for_owner`. `recorded` is the answer of the strict watch ledger. -/
def apply_status (recorded : Bool) : Route S :=
  match s.handling with
  | none => s
  | some (authority, status, matched) =>
    let applies := matched && (status.status ≠ .Completed || recorded)
    let state := if applies then
        (observe_bridge_playback_status_for_owner s.shared.state (status.cue_id.getD "-") (as_str status.status)
          authority).1
      else s.shared.state
    { s with shared := { s.shared with state }.drop_ack_guard, handling := none }

/-! ### A step -/

def bridge_step (op : playback.Op S) : Route S :=
  { s with service := s.service.report (playback.step s.service.bridge op) }

def act : AudioOp S → Option (Route S)
  | .begin_write cue_id frame audio_frames sample_rate_hz =>
    s.begin_write cue_id frame audio_frames sample_rate_hz
  | .fail_checks i => some (s.at_write i (s.fail_checks i))
  | .send_frame i => some (s.at_write i (s.send_frame i))
  | .lose_frame i => some (s.at_write i (s.lose_frame i))
  | .refuse_frame i misdirected => some (s.at_write i (s.refuse_frame i · misdirected))
  | .handle_frame i now_ms => some (s.at_write i (s.handle_frame i · now_ms))
  | .lose_ack i => some (s.at_write i (s.lose_ack i))
  | .read_ack i => some (s.at_write i (s.read_ack i))
  | .work e => some (s.bridge_step (.work e))
  | .source_frame => some (s.bridge_step .source_frame)
  | .flush_source => some (s.bridge_step .flush_source)
  | .receive_status => s.receive_status
  | .apply_status recorded => some (s.apply_status recorded)
  | .elsewhere op => (s.shared.act op.1).map fun shared => { s with shared }

/-- The Desktop holds playback to be at rest. -/
def is_quiescent : Bool := s.shared.state.snapshot.is_quiescent

/-- Nothing that the Bridge has accepted waits or plays. -/
def is_silent : Bool := playback.is_silent s.service.bridge

end Route

def step (s : Option (Route S)) (op : AudioOp S) : Option (Route S) := s.bind (·.act op)

end omni_translate.translated_audio

-- When translated playback is at rest (`audio/state/playback_quiescence.rs`): the guards of
-- acknowledgements, of submissions and of a restart, and the cues that the Bridge plays. Every section
-- under the mutex is one step; a call that waits for the restart to end tries again in a later step.
import OmniTranslate.BridgeStatus
import OmniTranslate.Maps

namespace omni_translate.playback_quiescence

open maps runs bridge_playback_ack

def U64_MAX : Nat := 2 ^ 64 - 1

def USIZE_MAX : Nat := 2 ^ 64 - 1

def ISIZE_MAX : Nat := 2 ^ 63 - 1

/-! ## The state under the mutex -/

structure TranslationPlaybackQuiescenceSnapshot where
  pending_native_audio : Bool
  queued_commands : Nat
  active_commands : Nat
  pending_audio_frames : Option Nat
  output_sample_rate_hz : Option Nat
  pending_playback_submissions : Nat
  pending_bridge_acks : Nat
  active_bridge_cues : Nat
  restart_barrier : Bool
deriving DecidableEq

def TranslationPlaybackQuiescenceSnapshot.is_quiescent
    (snapshot : TranslationPlaybackQuiescenceSnapshot) : Bool :=
  !snapshot.pending_native_audio && snapshot.queued_commands = 0 &&
    snapshot.active_commands = 0 && !snapshot.pending_audio_frames.any (fun frames => 0 < frames) &&
    snapshot.pending_playback_submissions = 0 && snapshot.pending_bridge_acks = 0 &&
    snapshot.active_bridge_cues = 0 && !snapshot.restart_barrier

structure BridgePlaybackCue where
  authority : Option TranslationPlaybackAuthority
  pending_audio_frames : Option Nat
  output_sample_rate_hz : Option Nat
deriving DecidableEq

structure TranslationPlaybackQuiescenceState where
  snapshot : TranslationPlaybackQuiescenceSnapshot
  queued_audio_frames : Nat
  queued_audio_sample_rate_hz : Nat
  active_bridge_cues : AList fun _ : String => BridgePlaybackCue

def default : TranslationPlaybackQuiescenceState where
  snapshot := ⟨false, 0, 0, none, none, 0, 0, 0, false⟩
  queued_audio_frames := 0
  queued_audio_sample_rate_hz := 0
  active_bridge_cues := ∅

/-- One turn of the loop of `refresh_pending_audio`; `none` is its early return. -/
def add_cue : Option (Nat × Option Nat) → BridgePlaybackCue → Option (Nat × Option Nat)
  | none, _ => none
  | some (total, rate), cue =>
    match cue.pending_audio_frames, cue.output_sample_rate_hz with
    | some frames, some cue_rate =>
      if rate.any (· ≠ cue_rate) then none
      else some (min (total + frames) U64_MAX, some cue_rate)
    | _, _ => none

namespace TranslationPlaybackQuiescenceState

variable (state : TranslationPlaybackQuiescenceState)

/-- What the loop leaves does not depend on the order of the cues. -/
def refresh_pending_audio : TranslationPlaybackQuiescenceState :=
  let rate :=
    if 0 < state.queued_audio_sample_rate_hz then some state.queued_audio_sample_rate_hz else none
  let audio := (state.active_bridge_cues.entries.map (·.2)).foldl add_cue
    (some (state.queued_audio_frames, rate))
  { state with snapshot := { state.snapshot with
      pending_audio_frames := audio.map (·.1)
      output_sample_rate_hz := audio.bind (·.2) } }

/-- The cues are `cues` from now on, and counted. -/
def set_cues (cues : AList fun _ : String => BridgePlaybackCue) :
    TranslationPlaybackQuiescenceState :=
  { state with
    active_bridge_cues := cues
    snapshot := { state.snapshot with
      active_bridge_cues := cues.entries.length } }.refresh_pending_audio

end TranslationPlaybackQuiescenceState

/-! ## The operations -/

section

variable (state : TranslationPlaybackQuiescenceState)

/-- A section that waits leaves the state alone. -/
def unless_restarting (acts : TranslationPlaybackQuiescenceState) :
    TranslationPlaybackQuiescenceState :=
  if state.snapshot.restart_barrier then state else acts

def set_pending_native_audio (pending : Bool) : TranslationPlaybackQuiescenceState :=
  let acts := { state with snapshot := { state.snapshot with pending_native_audio := pending } }
  if pending then unless_restarting state acts else acts

def set_queue_state (queued_commands active_commands pending_audio_frames
    output_sample_rate_hz : Nat) : TranslationPlaybackQuiescenceState :=
  { state with
    snapshot := { state.snapshot with queued_commands, active_commands }
    queued_audio_frames := pending_audio_frames
    queued_audio_sample_rate_hz := output_sample_rate_hz }.refresh_pending_audio

def is_terminal (status : String) : Bool :=
  status ∈ ["completed", "route-failed", "stale-dropped"]

def observe_bridge_playback_status (cue_id status : String) :
    TranslationPlaybackQuiescenceState :=
  if status ∈ ["queued", "started"] then
    if cue_id ∈ state.active_bridge_cues then state.set_cues state.active_bridge_cues
    else state.set_cues (state.active_bridge_cues.insert cue_id ⟨none, none, none⟩)
  else if is_terminal status then
    if (state.active_bridge_cues.lookup cue_id).any fun cue => cue.authority.isNone then
      state.set_cues (state.active_bridge_cues.erase cue_id)
    else state.set_cues state.active_bridge_cues
  else state

/-- What a cue of the owner becomes when more of its audio is written. -/
def extend_cue (cue : Option BridgePlaybackCue) (authority : TranslationPlaybackAuthority)
    (audio_frames output_sample_rate_hz : Nat) : BridgePlaybackCue :=
  let cue := cue.getD ⟨some authority, some 0, some output_sample_rate_hz⟩
  if cue.authority = some authority then
    if cue.output_sample_rate_hz = some output_sample_rate_hz then
      { cue with pending_audio_frames :=
          cue.pending_audio_frames.map fun frames => min (frames + audio_frames) U64_MAX }
    else { cue with pending_audio_frames := none, output_sample_rate_hz := none }
  else ⟨some authority, some audio_frames, some output_sample_rate_hz⟩

def expect_bridge_playback_cue_for_owner (cue_id : String)
    (authority : TranslationPlaybackAuthority) (audio_frames output_sample_rate_hz : Nat) :
    TranslationPlaybackQuiescenceState :=
  if text.trim cue_id.toList = [] then state
  else unless_restarting state (state.set_cues (state.active_bridge_cues.insert cue_id
    (extend_cue (state.active_bridge_cues.lookup cue_id) authority audio_frames
      output_sample_rate_hz)))

def bridge_playback_cue_matches_owner (cue_id : String)
    (authority : TranslationPlaybackAuthority) : Bool :=
  (state.active_bridge_cues.lookup cue_id).any fun expected => expected.authority = some authority

def observe_bridge_playback_status_for_owner (cue_id status : String)
    (authority : TranslationPlaybackAuthority) : TranslationPlaybackQuiescenceState × Bool :=
  if !bridge_playback_cue_matches_owner state cue_id authority then (state, false)
  else if is_terminal status then
    (state.set_cues (state.active_bridge_cues.erase cue_id), true)
  else (state, true)

end

/-! ## All calls together -/

/-- The state that is shared, the guards that are alive and the other handles. Every guard keeps a
handle of its own. -/
structure Shared where
  state : TranslationPlaybackQuiescenceState
  ack_guards : Nat
  submission_guards : Nat
  restart_guards : Nat
  handles : Nat

def Shared.strong_count (s : Shared) : Nat :=
  s.ack_guards + s.submission_guards + s.restart_guards + s.handles

/-- `Arc::clone`, which aborts the process when there are too many handles already. -/
def Shared.clone_handle (s : Shared) (after : Shared) : Option Shared :=
  if ISIZE_MAX < s.strong_count then none else some after

inductive QuiescenceOp
  | set_pending_native_audio (pending : Bool)
  | set_queue_state (queued_commands active_commands pending_audio_frames
      output_sample_rate_hz : Nat)
  | begin_bridge_ack
  | observe_bridge_playback_status (cue_id status : String)
  | expect_bridge_playback_cue_for_owner (cue_id : String)
      (authority : TranslationPlaybackAuthority) (audio_frames output_sample_rate_hz : Nat)
  | observe_bridge_playback_status_for_owner (cue_id status : String)
      (authority : TranslationPlaybackAuthority)
  | wait_for_restart_barrier
  | try_begin_restart_barrier
  | drop_ack_guard
  | drop_submission_guard
  | drop_restart_guard
  | clone_handle
  | drop_handle

namespace Shared

variable (s : Shared)

def begin_bridge_ack : Option Shared :=
  if s.state.snapshot.restart_barrier then some s
  else s.clone_handle { s with
    ack_guards := s.ack_guards + 1
    state := { s.state with snapshot := { s.state.snapshot with
      pending_bridge_acks := min (s.state.snapshot.pending_bridge_acks + 1) USIZE_MAX } } }

def wait_for_restart_barrier : Option Shared :=
  if s.state.snapshot.restart_barrier then some s
  else s.clone_handle { s with
    submission_guards := s.submission_guards + 1
    state := { s.state with snapshot := { s.state.snapshot with
      pending_playback_submissions :=
        min (s.state.snapshot.pending_playback_submissions + 1) USIZE_MAX } } }

def try_begin_restart_barrier : Option Shared :=
  if s.state.snapshot.is_quiescent then
    s.clone_handle { s with
      restart_guards := s.restart_guards + 1
      state := { s.state with snapshot := { s.state.snapshot with restart_barrier := true } } }
  else some s

def drop_ack_guard : Shared :=
  if s.ack_guards = 0 then s
  else { s with
    ack_guards := s.ack_guards - 1
    state := { s.state with snapshot := { s.state.snapshot with
      pending_bridge_acks := s.state.snapshot.pending_bridge_acks - 1 } } }

def drop_submission_guard : Shared :=
  if s.submission_guards = 0 then s
  else { s with
    submission_guards := s.submission_guards - 1
    state := { s.state with snapshot := { s.state.snapshot with
      pending_playback_submissions := s.state.snapshot.pending_playback_submissions - 1 } } }

def drop_restart_guard : Shared :=
  if s.restart_guards = 0 then s
  else { s with
    restart_guards := s.restart_guards - 1
    state := { s.state with snapshot := { s.state.snapshot with restart_barrier := false } } }

/-- `none` when the process is aborted. -/
def act : QuiescenceOp → Option Shared
  | .set_pending_native_audio pending =>
    some { s with state := playback_quiescence.set_pending_native_audio s.state pending }
  | .set_queue_state queued_commands active_commands pending_audio_frames output_sample_rate_hz =>
    some { s with
      state := playback_quiescence.set_queue_state s.state queued_commands active_commands
        pending_audio_frames output_sample_rate_hz }
  | .begin_bridge_ack => s.begin_bridge_ack
  | .observe_bridge_playback_status cue_id status =>
    some { s with
      state := playback_quiescence.observe_bridge_playback_status s.state cue_id status }
  | .expect_bridge_playback_cue_for_owner cue_id authority audio_frames output_sample_rate_hz =>
    some { s with
      state := playback_quiescence.expect_bridge_playback_cue_for_owner s.state cue_id authority
        audio_frames output_sample_rate_hz }
  | .observe_bridge_playback_status_for_owner cue_id status authority =>
    some { s with
      state := (playback_quiescence.observe_bridge_playback_status_for_owner s.state cue_id status
        authority).1 }
  | .wait_for_restart_barrier => s.wait_for_restart_barrier
  | .try_begin_restart_barrier => s.try_begin_restart_barrier
  | .drop_ack_guard => some s.drop_ack_guard
  | .drop_submission_guard => some s.drop_submission_guard
  | .drop_restart_guard => some s.drop_restart_guard
  | .clone_handle => s.clone_handle { s with handles := s.handles + 1 }
  | .drop_handle => some { s with handles := s.handles - 1 }

end Shared

def step (s : Option Shared) (op : QuiescenceOp) : Option Shared := s.bind (·.act op)

def start : Option Shared := some ⟨default, 0, 0, 0, 1⟩

end omni_translate.playback_quiescence

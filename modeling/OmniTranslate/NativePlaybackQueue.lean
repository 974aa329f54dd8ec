-- The bounded queue of native translation playback (`omni/protocol.rs`): the
-- producers that enqueue commands and abort streams, and the one playback
-- worker that receives commands and may put the last one back. Each section
-- under the lock is a step. The bridge owner of a command, which only the
-- renderer reads, and the published quiescence are left out.
import OmniTranslate.PlaybackWorker
import OmniTranslate.Sentence

namespace omni_translate.native_playback

open runs
open sentence (Instant Duration from_millis)
open playback (TranslationStreamState)

variable {S : Type}

def OMNI_OUTPUT_SAMPLE_RATE_HZ : Nat := 24000
def OMNI_PLAYBACK_MAX_QUEUE_AGE : Duration := from_millis 5000

/-! ## Commands -/

/-- What a whole cue and a part of a stream have in common. -/
structure Clip (S : Type) where
  samples : List S
  cue_id : String
  response_id : Option String
  sample_rate_hz : Nat := OMNI_OUTPUT_SAMPLE_RATE_HZ
  queued_at : Instant
  created_at_ms : Nat
  estimated_duration_ms : Nat
deriving DecidableEq

inductive OmniPlaybackCommand (S : Type)
  | Play (clip : Clip S)
  | Stream (clip : Clip S) (chunk_index : Nat) (stream_state : TranslationStreamState)
deriving DecidableEq

namespace OmniPlaybackCommand

def clip : OmniPlaybackCommand S → Clip S
  | Play clip => clip
  | Stream clip _ _ => clip

def cue_id (command : OmniPlaybackCommand S) : String := command.clip.cue_id

def estimated_duration (command : OmniPlaybackCommand S) : Duration :=
  from_millis command.clip.estimated_duration_ms

def is_stream : OmniPlaybackCommand S → Bool
  | Play _ => false
  | Stream _ _ _ => true

def is_abort : OmniPlaybackCommand S → Bool
  | Stream _ _ .Abort => true
  | _ => false

end OmniPlaybackCommand

inductive OmniPlaybackOverflowReason
  | QueueFull
  | RealtimeBudget
deriving DecidableEq

structure OmniPlaybackStaleDrop where
  cue_id : String
  projected_start_delay_ms : Nat
  observed_queue_age_ms : Nat
deriving DecidableEq

inductive OmniPlaybackEnqueueOutcome
  | Queued
  | QueuedAfterDroppingStale (dropped : List OmniPlaybackStaleDrop)
  | Overflow (reason : OmniPlaybackOverflowReason) (dropped : List OmniPlaybackStaleDrop)
      (projected_start_delay_ms : Nat)
  | Terminated
  | Stopped
deriving DecidableEq

/-- The queue took the command. -/
def OmniPlaybackEnqueueOutcome.accepted : OmniPlaybackEnqueueOutcome → Bool
  | Queued | QueuedAfterDroppingStale _ => true
  | _ => false

inductive OmniPlaybackReceiveOutcome (S : Type)
  | Command (command : OmniPlaybackCommand S) (dropped : List OmniPlaybackStaleDrop)
  | StaleDropped (dropped : List OmniPlaybackStaleDrop)
  | Timeout
  | Stopped
deriving DecidableEq

/-! ## The queue -/

inductive OmniPlaybackShutdown
  | Running
  | Finishing
  | Draining
  | Aborted
deriving DecidableEq

structure OmniPlaybackQueueState (S : Type) where
  pending : List (OmniPlaybackCommand S) := []
  active_expected_end : Option Instant := none
  terminated_stream_cues : Finset String := ∅
  shutdown : OmniPlaybackShutdown := .Running

namespace OmniPlaybackQueueState

def projected_start (state : OmniPlaybackQueueState S) (now : Instant) : Instant :=
  state.pending.foldl (fun start command => start + command.estimated_duration)
    (max (state.active_expected_end.getD now) now)

/-- An accepted command is never revoked, however old it is. -/
def drain_expired_pending (_ : OmniPlaybackQueueState S) (_ : Instant) : List OmniPlaybackStaleDrop := []

def omni_playback_queue_age_expired (age : Duration) : Bool := decide (OMNI_PLAYBACK_MAX_QUEUE_AGE < age)

/-- How old a stream is when its start asks for admission; nothing else is too old. -/
def realtime_start_age (unix_ms : Nat) : OmniPlaybackCommand S → Option Duration
  | .Stream clip _ .Start => some (from_millis (unix_ms - clip.created_at_ms))
  | _ => none

def projected_start_delay_ms (state : OmniPlaybackQueueState S) (now : Instant)
    (command : OmniPlaybackCommand S) : Nat :=
  min ((state.projected_start now - command.clip.queued_at) / from_millis 1) (2 ^ 64 - 1)

def enqueue (capacity : Nat) (now : Instant) (unix_ms : Nat) (command : OmniPlaybackCommand S)
    (state : OmniPlaybackQueueState S) : OmniPlaybackQueueState S × OmniPlaybackEnqueueOutcome :=
  if state.shutdown = .Draining ∨ state.shutdown = .Aborted then (state, .Stopped)
  else if command.is_stream = true ∧ command.cue_id ∈ state.terminated_stream_cues then
    (state, .Terminated)
  else
    let dropped := state.drain_expired_pending now
    let delay_ms := state.projected_start_delay_ms now command
    if capacity ≤ state.pending.length then (state, .Overflow .QueueFull dropped delay_ms)
    else if (realtime_start_age unix_ms command).any omni_playback_queue_age_expired = true then
      (state, .Overflow .RealtimeBudget dropped delay_ms)
    else
      ({ state with pending := state.pending ++ [command] },
        if dropped.isEmpty = true then .Queued else .QueuedAfterDroppingStale dropped)

/-- The command that tells the worker to give up the stream of a cue. -/
def abort_command (cue_id : String) (chunk_index : Nat) (now : Instant) (created_at_ms : Nat) :
    OmniPlaybackCommand S :=
  .Stream { samples := [], cue_id, response_id := none, queued_at := now, created_at_ms,
            estimated_duration_ms := 0 } chunk_index .Abort

/-- A part of the stream of the cue. -/
def streams (cue_id : String) (command : OmniPlaybackCommand S) : Bool :=
  command.is_stream && decide (command.cue_id = cue_id)

def abort_stream (cue_id : String) (chunk_index : Nat) (now : Instant) (created_at_ms : Nat)
    (state : OmniPlaybackQueueState S) : OmniPlaybackQueueState S :=
  if state.shutdown = .Aborted then state
  else if cue_id ∈ state.terminated_stream_cues then state
  else
    { state with
      terminated_stream_cues := insert cue_id state.terminated_stream_cues
      pending := abort_command cue_id chunk_index now created_at_ms ::
        state.pending.filter (fun command => !streams cue_id command) }

def return_pending (command : OmniPlaybackCommand S) (state : OmniPlaybackQueueState S) :
    OmniPlaybackQueueState S :=
  if state.shutdown ≠ .Aborted then { state with pending := command :: state.pending } else state

/-- One turn of the loop of `recv_timeout`, with no answer when it waits. -/
def recv_turn (now deadline : Instant) (state : OmniPlaybackQueueState S) :
    OmniPlaybackQueueState S × Option (OmniPlaybackReceiveOutcome S) :=
  if state.shutdown = .Aborted then (state, some .Stopped)
  else
    let dropped := state.drain_expired_pending now
    match state.pending with
    | command :: pending =>
      ({ state with pending, active_expected_end := some (now + command.estimated_duration) },
        some (.Command command dropped))
    | [] =>
      if dropped.isEmpty = false then (state, some (.StaleDropped dropped))
      else if state.shutdown = .Draining then (state, some .Stopped)
      else if deadline - now = 0 then (state, some .Timeout)
      else (state, none)

/-- What the loop does after its wait. -/
def recv_woken (now deadline : Instant) (timed_out : Bool) (state : OmniPlaybackQueueState S) :
    OmniPlaybackQueueState S × Option (OmniPlaybackReceiveOutcome S) :=
  if timed_out = true ∧ state.pending.isEmpty = true then (state, some .Timeout)
  else state.recv_turn now deadline

def drain_and_stop (state : OmniPlaybackQueueState S) : OmniPlaybackQueueState S :=
  if state.shutdown = .Running ∨ state.shutdown = .Finishing then { state with shutdown := .Draining }
  else state

def begin_provider_finishing (state : OmniPlaybackQueueState S) : OmniPlaybackQueueState S :=
  if state.shutdown = .Running then { state with shutdown := .Finishing } else state

def abort (state : OmniPlaybackQueueState S) : OmniPlaybackQueueState S :=
  { state with shutdown := .Aborted, pending := [], terminated_stream_cues := ∅, active_expected_end := none }

def finish_active (state : OmniPlaybackQueueState S) : OmniPlaybackQueueState S :=
  { state with active_expected_end := none }

end OmniPlaybackQueueState

/-! ## The two sides -/

/-- A command that the worker received and did not put back. -/
structure Delivery (S : Type) where
  command : OmniPlaybackCommand S
  /-- Its cue was aborted before it was received. -/
  late : Bool

/-- The queue with its worker, which waits until a deadline or works on the command it holds, and the
record of what was accepted and delivered. -/
structure Playback (S : Type) where
  queue : OmniPlaybackQueueState S := {}
  waiting : Option Instant := none
  held : Option (OmniPlaybackCommand S) := none
  accepted : List (OmniPlaybackCommand S) := []
  delivered : List (Delivery S) := []

inductive Op (S : Type)
  | enqueue (now : Instant) (unix_ms : Nat) (command : OmniPlaybackCommand S)
  | abort_stream (cue_id : String) (chunk_index : Nat) (now : Instant) (created_at_ms : Nat)
  | recv (now : Instant) (timeout : Duration)
  | woken (now : Instant) (timed_out : Bool)
  | return_pending
  | finish_active
  | begin_provider_finishing
  | drain_and_stop
  | abort

namespace Playback

open OmniPlaybackQueueState

/-- The queue and the answer after a turn of the receive that this step makes. -/
def turn (s : Playback S) :
    Op S → Option (OmniPlaybackQueueState S × Option (OmniPlaybackReceiveOutcome S) × Instant)
  | .recv now timeout =>
    if s.waiting = none then
      let (queue, answer) := s.queue.recv_turn now (now + timeout)
      some (queue, answer, now + timeout)
    else none
  | .woken now timed_out => s.waiting.map fun deadline =>
      let (queue, answer) := s.queue.recv_woken now deadline timed_out
      (queue, answer, deadline)
  | _ => none

/-- What `recv_timeout` answers in this step. -/
def answer (s : Playback S) (op : Op S) : Option (OmniPlaybackReceiveOutcome S) :=
  (s.turn op).bind fun turn => turn.2.1

/-- Takes over the outcome of a turn: a command is now held, and delivered. -/
def receive (s : Playback S) (queue : OmniPlaybackQueueState S)
    (answer : Option (OmniPlaybackReceiveOutcome S)) (deadline : Instant) : Playback S :=
  match answer with
  | none => { s with queue, waiting := some deadline, held := none }
  | some (.Command command _) =>
    { s with
      queue, waiting := none, held := some command
      delivered := s.delivered ++
        [⟨command, decide (command.cue_id ∈ s.queue.terminated_stream_cues)⟩] }
  | some _ => { s with queue, waiting := none, held := none }

def step (capacity : Nat) (s : Playback S) (op : Op S) : Playback S :=
  match op with
  | .enqueue now unix_ms command =>
    let admission := s.queue.enqueue capacity now unix_ms command
    { s with
      queue := admission.1
      accepted := if admission.2.accepted = true then s.accepted ++ [command] else s.accepted }
  | .abort_stream cue_id chunk_index now created_at_ms =>
    { s with queue := s.queue.abort_stream cue_id chunk_index now created_at_ms }
  | .recv _ _ | .woken _ _ =>
    match s.turn op with
    | none => s
    | some (queue, answer, deadline) => s.receive queue answer deadline
  | .return_pending =>
    match s.held with
    | none => s
    | some command =>
      { s with queue := s.queue.return_pending command, held := none, delivered := s.delivered.dropLast }
  | .finish_active => { s with queue := s.queue.finish_active }
  | .begin_provider_finishing => { s with queue := s.queue.begin_provider_finishing }
  | .drain_and_stop => { s with queue := s.queue.drain_and_stop }
  | .abort => { s with queue := s.queue.abort }

end Playback

end omni_translate.native_playback

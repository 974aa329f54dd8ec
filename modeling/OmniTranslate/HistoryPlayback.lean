-- Playing an archived cue (`history/playback.rs`): the one slot of the
-- controller, and the calls and playback threads that take it, restore it and
-- clear it. Every section under the mutex and every event is a step of its own;
-- what a call cannot decide itself comes with the step. Timestamps, the route
-- gate and a poisoned mutex are left out.
import OmniTranslate.PlaybackOwnership
import OmniTranslate.TranslationLifecycle

namespace omni_translate.history_playback

open runs
open translation_lifecycle (U64_MAX saturating_succ)

def PLAYBACK_SOURCE : String := "history-playback"

inductive HistoryAudioTrack
  | Source
  | Translated
deriving DecidableEq

def HistoryAudioTrack.as_str : HistoryAudioTrack → String
  | .Source => "source"
  | .Translated => "translated"

/-! ## The controller -/

structure ActivePlayback where
  generation : Nat
  playback_id : String
  ownership_cue_id : String
  session_id : String
  cue_id : String
  track : HistoryAudioTrack
deriving DecidableEq

/-- What `HistoryPlaybackController` holds under its mutex. -/
structure PlaybackState where
  next_generation : Nat := 0
  active : Option ActivePlayback := none
deriving DecidableEq

namespace PlaybackState

/-- The playback that `begin` makes. -/
def new_active (session_id cue_id : String) (track : HistoryAudioTrack) (playback_id : String)
    (state : PlaybackState) : ActivePlayback where
  generation := saturating_succ state.next_generation
  ownership_cue_id := "history-" ++ playback_id
  playback_id := playback_id
  session_id := session_id
  cue_id := cue_id
  track := track

def begin (active : ActivePlayback) (_ : PlaybackState) : PlaybackState where
  next_generation := active.generation
  active := some active

def is_active (generation : Nat) (state : PlaybackState) : Bool :=
  state.active.any fun active => active.generation == generation

def take (state : PlaybackState) : PlaybackState := { state with active := none }

/-- The playback that `finish` returns. -/
def finished (generation : Nat) (state : PlaybackState) : Option ActivePlayback :=
  if state.is_active generation then state.active else none

def finish (generation : Nat) (state : PlaybackState) : PlaybackState :=
  if state.is_active generation then state.take else state

def restore_if_empty (active : ActivePlayback) (state : PlaybackState) : PlaybackState :=
  if state.active.isNone then { state with active := some active } else state

variable {state : PlaybackState} {active : ActivePlayback} {generation : Nat}

@[simp] theorem take_active : state.take.active = none := rfl

@[simp] theorem take_next_generation : state.take.next_generation = state.next_generation := rfl

@[simp] theorem finish_next_generation : (state.finish generation).next_generation = state.next_generation := by
  unfold finish
  split <;> rfl

@[simp] theorem restore_next_generation :
    (state.restore_if_empty active).next_generation = state.next_generation := by
  unfold restore_if_empty
  split <;> rfl

end PlaybackState

/-! ## Events -/

inductive Status
  | started
  | stopped
  | failed
deriving DecidableEq

def Status.is_terminal : Status → Bool
  | started => false
  | stopped | failed => true

structure HistoryPlaybackEvent where
  playback_id : String
  session_id : String
  cue_id : String
  track : HistoryAudioTrack
  status : Status
  reason : Option String
  error : Option String
deriving DecidableEq

variable (active : ActivePlayback)

def emit_playback (status : Status) (reason error : Option String) : HistoryPlaybackEvent where
  playback_id := active.playback_id
  session_id := active.session_id
  cue_id := active.cue_id
  track := active.track
  status := status
  reason := reason
  error := error

/-! ## Calls and threads -/

structure DecodedAudioPiece where
  sample_rate_hz : Nat
  samples : List Int
deriving DecidableEq

/-- What `play_cue_audio` was asked for. -/
structure Request where
  session_id : String
  cue_id : String
  track : HistoryAudioTrack
deriving DecidableEq

/-- Where a call or a playback thread stands. A `play_cue_audio` first runs `stop_playback`, which then knows
what to go on with; where it spawns its thread, the thread takes its place. -/
inductive Process
  /-- `stop_playback` before its `take` -/
  | stopping (reason : String) (play : Option Request)
  | draining (active : ActivePlayback) (reason : String) (play : Option Request)
  /-- drained, before the event -/
  | drained (active : ActivePlayback) (reason : String) (play : Option Request)
  /-- the drain failed, before `restore_if_empty` -/
  | restoring (active : ActivePlayback) (error : String)
  | failing (active : ActivePlayback) (error : String)
  | loading (request : Request)
  | beginning (request : Request) (pieces : List DecodedAudioPiece)
  | spawning (active : ActivePlayback) (pieces : List DecodedAudioPiece)
  /-- the thread was not spawned, before `finish` -/
  | unspawned (active : ActivePlayback) (error : String)
  | unstarted (active : ActivePlayback) (error : String)
  /-- the thread before its first event -/
  | starting (active : ActivePlayback) (pieces : List DecodedAudioPiece)
  /-- `result` is the error that ended the pieces, if one did -/
  | playing (active : ActivePlayback) (pieces : List DecodedAudioPiece) (result : Option String)
  /-- the thread has taken `completed` out of the slot, before the event -/
  | completing (active completed : ActivePlayback) (result : Option String)
  | ended (active : ActivePlayback)
  | returned
deriving DecidableEq

/-- What the surroundings answer to a step: an error of the drain, the load, the spawn or a piece; the pieces of
a cue; the id that the uuid crate gives. -/
structure Outcome where
  error : Option String := none
  pieces : List DecodedAudioPiece := []
  playback_id : String := ""
deriving DecidableEq

/-- What `cancel_and_drain_matching` says when it times out. -/
def drain_error : String :=
  playback_ownership.barrier_error
    ("timed out stopping cue=" ++ active.ownership_cue_id ++ " source=" ++ PLAYBACK_SOURCE)

/-- How a call goes on after a `stop_playback` that did not fail. -/
def after_stop : Option Request → Process
  | some request => .loading request
  | none => .returned

/-- What a step leaves: where the process stands, the controller, and the events sent. -/
structure Moved where
  process : Process
  controller : PlaybackState
  events : List HistoryPlaybackEvent := []

/-- The last event of a thread that took its playback out of the slot. -/
def terminal_event (completed : ActivePlayback) : Option String → HistoryPlaybackEvent
  | none => emit_playback completed .stopped (some "completed") none
  | some error => emit_playback completed .failed none (some error)

/-- Where a thread stands after its `finish`. -/
def after_finish (result : Option String) : Option ActivePlayback → Process
  | some completed => .completing active completed result
  | none => .ended active

/-- Each turn of `try_for_each`; a thread that was stopped runs through the pieces that are left. -/
def play_piece (pieces : List DecodedAudioPiece) (controller : PlaybackState) (outcome : Outcome) : Process :=
  if controller.is_active active.generation then .playing active pieces outcome.error
  else .playing active pieces none

def Process.next (controller : PlaybackState) (outcome : Outcome) : Process → Moved
  | stopping reason play =>
    match controller.active with
    | none => ⟨after_stop play, controller, []⟩
    | some active => ⟨.draining active reason play, controller.take, []⟩
  | draining active reason play =>
    if outcome.error.isSome then ⟨.restoring active (drain_error active), controller, []⟩
    else ⟨.drained active reason play, controller, []⟩
  | drained active reason play => ⟨after_stop play, controller, [emit_playback active .stopped (some reason) none]⟩
  | restoring active error => ⟨.failing active error, controller.restore_if_empty active, []⟩
  | failing active error => ⟨.returned, controller, [emit_playback active .failed none (some error)]⟩
  | loading request =>
    if outcome.error.isSome ∨ outcome.pieces = [] then ⟨.returned, controller, []⟩
    else ⟨.beginning request outcome.pieces, controller, []⟩
  | beginning request pieces =>
    let active := controller.new_active request.session_id request.cue_id request.track outcome.playback_id
    ⟨.spawning active pieces, controller.begin active, []⟩
  | spawning active pieces =>
    match outcome.error with
    | some error => ⟨.unspawned active error, controller, []⟩
    | none => ⟨.starting active pieces, controller, []⟩
  | unspawned active error => ⟨.unstarted active error, controller.finish active.generation, []⟩
  | unstarted active error => ⟨.returned, controller, [emit_playback active .failed none (some error)]⟩
  | starting active pieces =>
    ⟨.playing active pieces none, controller, [emit_playback active .started none none]⟩
  | playing active (_ :: pieces) none => ⟨play_piece active pieces controller outcome, controller, []⟩
  | playing active _ result =>
    ⟨after_finish active result (controller.finished active.generation), controller.finish active.generation, []⟩
  | completing active completed result => ⟨.ended active, controller, [terminal_event completed result]⟩
  | ended active => ⟨.ended active, controller, []⟩
  | returned => ⟨.returned, controller, []⟩

/-! ## Runs -/

/-- The controller, the calls and threads that use it, and the events sent so far. -/
structure History where
  controller : PlaybackState := {}
  processes : List Process := []
  events : List HistoryPlaybackEvent := []

inductive Step
  | play_cue_audio (request : Request)
  | stop_playback (reason : String)
  | go_on (i : Nat) (outcome : Outcome)

def History.moved (s : History) (i : Nat) (moved : Moved) : History where
  controller := moved.controller
  processes := s.processes.set i moved.process
  events := s.events ++ moved.events

def History.step (s : History) : Step → History
  | .play_cue_audio request => { s with processes := s.processes ++ [.stopping "superseded" (some request)] }
  | .stop_playback reason => { s with processes := s.processes ++ [.stopping reason none] }
  | .go_on i outcome =>
    match s.processes[i]? with
    | none => s
    | some process => s.moved i (process.next s.controller outcome)

end omni_translate.history_playback

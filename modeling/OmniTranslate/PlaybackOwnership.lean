-- Who may play (`audio/playback_ownership.rs`): the permits under which the Desktop submits PCM, and
-- the barrier that takes playback over for process exclusion. Every section under the mutex is one
-- step; a call that waits on the condition variable goes on in a later step.
import OmniTranslate.Maps
import OmniTranslate.Runs
import Mathlib.Algebra.Group.Nat.Defs

namespace omni_translate.playback_ownership

open maps runs

def U64_MAX : Nat := 2 ^ 64 - 1

def PLAYBACK_OWNERSHIP_BARRIER_ERROR_CODE : String := "bridge.playback-ownership-barrier-failed"

def DESKTOP_PLAYBACK_CANCELLED_CODE : String := "audio.desktop-playback-ownership-cancelled"

inductive PlaybackOwner
  | desktop
  | process_exclusion_transition
  | process_exclusion
deriving DecidableEq

def PlaybackOwner.as_str : PlaybackOwner → String
  | .desktop => "desktop"
  | .process_exclusion_transition => "process-exclusion-transition"
  | .process_exclusion => "process-exclusion"

structure ActivePlayback where
  generation : Nat
  cue_id : String
  source : String
  cancelled : Bool
  cleanup_failures : List String
deriving DecidableEq

structure PlaybackOwnershipState where
  owner : PlaybackOwner
  generation : Nat
  next_permit_id : Nat
  active : AList fun _ : Nat => ActivePlayback
  cancellation_failures : List String

structure DesktopPlaybackPermit where
  permit_id : Nat
  generation : Nat
deriving DecidableEq

def default : PlaybackOwnershipState where
  owner := .desktop
  generation := 1
  next_permit_id := 1
  active := ∅
  cancellation_failures := []

/-! ## Texts -/

def cancelled_error (cue_id source : String) (owner : PlaybackOwner) (generation : Nat) : String :=
  DESKTOP_PLAYBACK_CANCELLED_CODE ++ ": cue=" ++ cue_id ++ " source=" ++ source ++ " owner=" ++
    owner.as_str ++ " generation=" ++ toString generation

def barrier_error (detail : String) : String :=
  PLAYBACK_OWNERSHIP_BARRIER_ERROR_CODE ++ ": " ++ detail

/-- The map is one that is ordered by its keys. -/
def active_playback_detail (state : PlaybackOwnershipState) : String :=
  let ordered := state.active.entries.mergeSort fun a b => a.1 ≤ b.1
  ",".intercalate (ordered.map fun e =>
    "cue=" ++ e.2.cue_id ++ "/source=" ++ e.2.source ++ "/generation=" ++ toString e.2.generation)

/-- `contains` and then `push` -/
def push_new (failures : List String) (failure : String) : List String :=
  if failure ∈ failures then failures else failures ++ [failure]

/-! ## Permits -/

section

variable (state : PlaybackOwnershipState) (permit : DesktopPlaybackPermit)

def acquire (cue_id source : String) :
    PlaybackOwnershipState × Except String DesktopPlaybackPermit :=
  if state.owner ≠ .desktop then
    (state, .error (cancelled_error cue_id source state.owner state.generation))
  else
    let permit_id := state.next_permit_id
    ({ state with
        next_permit_id := min (state.next_permit_id + 1) U64_MAX
        active := state.active.insert permit_id ⟨state.generation, cue_id, source, false, []⟩ },
      .ok ⟨permit_id, state.generation⟩)

def validate : Except String Unit :=
  match state.active.lookup permit.permit_id with
  | none => .error (DESKTOP_PLAYBACK_CANCELLED_CODE ++ ": playback permit is no longer active")
  | some playback =>
    if state.owner ≠ .desktop ∨ playback.cancelled ∨ playback.generation ≠ permit.generation ∨
        state.generation ≠ permit.generation then
      .error (cancelled_error playback.cue_id playback.source state.owner permit.generation)
    else .ok ()

/-- Whether the closure runs, and the answer. -/
def submit {T : Type} (outcome : Except String T) : Bool × Except String T :=
  match validate state permit with
  | .error error => (false, .error error)
  | .ok () => (true, outcome)

/-- A failure is noted with its permit, and with the barrier if there is one for it. -/
def record_cancellation_failure (detail : String) : PlaybackOwnershipState :=
  match state.active.lookup permit.permit_id with
  | none => state
  | some playback =>
    let failure :=
      "cue=" ++ playback.cue_id ++ " source=" ++ playback.source ++ " detail=" ++ detail
    { state with
      active := state.active.insert permit.permit_id
        { playback with cleanup_failures := push_new playback.cleanup_failures failure }
      cancellation_failures :=
        if playback.cancelled ∨ state.owner ≠ .desktop then
          push_new state.cancellation_failures failure
        else state.cancellation_failures }

/-- `Drop` of the permit -/
def drop : PlaybackOwnershipState :=
  match state.active.lookup permit.permit_id with
  | none => state
  | some playback =>
    { state with
      active := state.active.erase permit.permit_id
      cancellation_failures :=
        if playback.cancelled ∨ state.owner ≠ .desktop then
          playback.cleanup_failures.foldl push_new state.cancellation_failures
        else state.cancellation_failures }

def release_to_desktop : PlaybackOwnershipState :=
  { state with
    owner := .desktop
    generation := min (state.generation + 1) U64_MAX
    cancellation_failures := [] }

/-! ## Barriers -/

/-- How a section of a call ends. -/
inductive Section (α : Type)
  | waits
  | returns (result : Except String α)
deriving DecidableEq

/-- From the `while` of `cancel_and_drain_for_process_exclusion`, which is also where a call goes on
that has waited. `expired` says whether its time is over. -/
def drain (expired : Bool) : PlaybackOwnershipState × Section Unit :=
  if state.active.entries ≠ [] then
    if expired then
      (state, .returns (.error (barrier_error
        ("timed out waiting for Desktop playback to drain; active=" ++
          active_playback_detail state))))
    else (state, .waits)
  else if state.cancellation_failures ≠ [] then
    (state, .returns (.error (barrier_error
      ("Desktop playback cancellation failed: " ++
        " | ".intercalate state.cancellation_failures))))
  else ({ state with owner := .process_exclusion }, .returns (.ok ()))

/-- The Desktop loses its playback: every permit is cancelled. -/
def transition : PlaybackOwnershipState :=
  { state with
    owner := .process_exclusion_transition
    generation := min (state.generation + 1) U64_MAX
    cancellation_failures := []
    active := map_values (fun playback => { playback with cancelled := true }) state.active }

def cancel_and_drain_for_process_exclusion (expired : Bool) :
    PlaybackOwnershipState × Section Unit :=
  if state.owner = .process_exclusion ∧ state.active.entries = [] then (state, .returns (.ok ()))
  else drain (if state.owner = .desktop then transition state else state) expired

def ActivePlayback.matches (playback : ActivePlayback) (cue_id source : String) : Bool :=
  playback.cue_id = cue_id ∧ playback.source = source

/-- From the `while` of `cancel_and_drain_matching`. -/
def drain_matching (cue_id source : String) (expired : Bool) :
    PlaybackOwnershipState × Section Bool :=
  if state.active.entries.any fun e => e.2.matches cue_id source then
    if expired then
      (state, .returns (.error (barrier_error
        ("timed out stopping cue=" ++ cue_id ++ " source=" ++ source))))
    else (state, .waits)
  else (state, .returns (.ok true))

def cancel_and_drain_matching (cue_id source : String) (expired : Bool) :
    PlaybackOwnershipState × Section Bool :=
  if state.active.entries.any fun e => e.2.matches cue_id source then
    drain_matching { state with
      active := map_values (fun playback =>
        if playback.matches cue_id source then { playback with cancelled := true } else playback)
        state.active } cue_id source expired
  else (state, .returns (.ok false))

end

/-! ## All calls together -/

/-- A permit that was granted, with what happened to it. `playback` is the permit's own record of
what it was granted for, whether a barrier has cancelled it and which failures it has reported. -/
structure Granted where
  permit : DesktopPlaybackPermit
  playback : ActivePlayback
  dropped : Bool
  polls : Nat
deriving DecidableEq

/-- The state under the mutex, every permit that was granted so far, and the calls that wait. -/
structure Playbacks where
  state : PlaybackOwnershipState
  permits : List Granted
  drains : Nat
  stops : List (String × String)

/-- A permit is named by its place among those that were granted. -/
inductive OwnershipOp (T : Type)
  | acquire (cue_id source : String)
  | ensure_active (i : Nat)
  | submit (i : Nat) (outcome : Except String T)
  | wait_for_endpoint_poll (i : Nat)
  | poll_goes_on (i : Nat)
  | record_cancellation_failure (i : Nat) (detail : String)
  | drop (i : Nat)
  | cancel_and_drain_for_process_exclusion (expired : Bool)
  | drain_goes_on (expired : Bool)
  | cancel_and_drain_matching (cue_id source : String) (expired : Bool)
  | stop_goes_on (j : Nat) (expired : Bool)
  | release_to_desktop

inductive Answer (T : Type)
  | nothing
  | acquired (result : Except String DesktopPlaybackPermit)
  | validated (result : Except String Unit)
  | submitted (ran : Bool) (result : Except String T)
  | drained (result : Except String Unit)
  | stopped (result : Except String Bool)

/-- What a permit has reported. -/
def Granted.report (granted : Granted) (detail : String) : Granted :=
  { granted with playback := { granted.playback with
      cleanup_failures := push_new granted.playback.cleanup_failures
        ("cue=" ++ granted.playback.cue_id ++ " source=" ++ granted.playback.source ++
          " detail=" ++ detail) } }

/-- A permit that is still held is cancelled if it is one of those meant. -/
def Granted.cancel (meant : ActivePlayback → Bool) (granted : Granted) : Granted :=
  if !granted.dropped && meant granted.playback then
    { granted with playback := { granted.playback with cancelled := true } }
  else granted

namespace Playbacks

variable {T : Type} (s : Playbacks)

def drained : PlaybackOwnershipState × Section Unit → List Granted → Nat → Playbacks × Answer T
  | (state, .waits), permits, drains => ({ s with state, permits, drains := drains + 1 }, .nothing)
  | (state, .returns result), permits, drains => ({ s with state, permits, drains }, .drained result)

def stopped (cue_id source : String) :
    PlaybackOwnershipState × Section Bool → List Granted → List (String × String) →
      Playbacks × Answer T
  | (state, .waits), permits, stops =>
    ({ s with state, permits, stops := stops ++ [(cue_id, source)] }, .nothing)
  | (state, .returns result), permits, stops => ({ s with state, permits, stops }, .stopped result)

/-- A permit is used only while it is held, and dropped only when no call on it is going on. -/
def respond : OwnershipOp T → Playbacks × Answer T
  | .acquire cue_id source =>
    match playback_ownership.acquire s.state cue_id source with
    | (state, .error error) => ({ s with state }, .acquired (.error error))
    | (state, .ok permit) => ({ s with
        state
        permits := s.permits ++
          [⟨permit, ⟨permit.generation, cue_id, source, false, []⟩, false, 0⟩] },
      .acquired (.ok permit))
  | .ensure_active i =>
    match s.permits[i]? with
    | some granted =>
      if granted.dropped then (s, .nothing) else (s, .validated (validate s.state granted.permit))
    | none => (s, .nothing)
  | .submit i outcome =>
    match s.permits[i]? with
    | some granted =>
      if granted.dropped then (s, .nothing)
      else
        let (ran, result) := playback_ownership.submit s.state granted.permit outcome
        (s, .submitted ran result)
    | none => (s, .nothing)
  | .wait_for_endpoint_poll i =>
    match s.permits[i]? with
    | some granted =>
      if granted.dropped then (s, .nothing)
      else
        match validate s.state granted.permit with
        | .error error => (s, .validated (.error error))
        | .ok () =>
          ({ s with permits := s.permits.set i { granted with polls := granted.polls + 1 } },
            .nothing)
    | none => (s, .nothing)
  | .poll_goes_on i =>
    match s.permits[i]? with
    | some granted =>
      if granted.polls = 0 then (s, .nothing)
      else ({ s with permits := s.permits.set i { granted with polls := granted.polls - 1 } },
        .validated (validate s.state granted.permit))
    | none => (s, .nothing)
  | .record_cancellation_failure i detail =>
    match s.permits[i]? with
    | some granted =>
      if granted.dropped then (s, .nothing)
      else ({ s with
        state := playback_ownership.record_cancellation_failure s.state granted.permit detail
        permits := s.permits.set i (granted.report detail) }, .nothing)
    | none => (s, .nothing)
  | .drop i =>
    match s.permits[i]? with
    | some granted =>
      if granted.dropped ∨ granted.polls ≠ 0 then (s, .nothing)
      else ({ s with
        state := playback_ownership.drop s.state granted.permit
        permits := s.permits.set i { granted with dropped := true } }, .nothing)
    | none => (s, .nothing)
  | .cancel_and_drain_for_process_exclusion expired =>
    let cancelled := s.permits.map (Granted.cancel fun _ => s.state.owner = .desktop)
    s.drained (playback_ownership.cancel_and_drain_for_process_exclusion s.state expired) cancelled
      s.drains
  | .drain_goes_on expired =>
    if s.drains = 0 then (s, .nothing)
    else s.drained (drain s.state expired) s.permits (s.drains - 1)
  | .cancel_and_drain_matching cue_id source expired =>
    let cancelled := s.permits.map (Granted.cancel fun playback => playback.matches cue_id source)
    s.stopped cue_id source
      (playback_ownership.cancel_and_drain_matching s.state cue_id source expired) cancelled s.stops
  | .stop_goes_on j expired =>
    match s.stops[j]? with
    | some (cue_id, source) =>
      s.stopped cue_id source (drain_matching s.state cue_id source expired) s.permits
        (s.stops.eraseIdx j)
    | none => (s, .nothing)
  | .release_to_desktop => ({ s with state := playback_ownership.release_to_desktop s.state },
      .nothing)

def step (op : OwnershipOp T) : Playbacks := (s.respond op).1

end Playbacks

def start : Playbacks := ⟨default, [], 0, []⟩

end omni_translate.playback_ownership

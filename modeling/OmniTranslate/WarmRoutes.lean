-- The pre-opened capture devices (`audio/engine/warm_route.rs`): the calls of
-- `CaptureRouteWarmer`, one critical section or message at a time, and the warm
-- threads that open a device and park until they are told what to do with it.
import OmniTranslate.Maps
import OmniTranslate.Runs

namespace omni_translate.warm_route

open maps runs

/-! ## Threads and slots -/

inductive WarmControl
  | Activate
  | Cancel
deriving DecidableEq

/-- What a parked thread reads from its channel. -/
inductive Received
  | message (control : WarmControl)
  | disconnected
deriving DecidableEq

inductive WarmPhase
  | opening
  | parked
  | capturing
  | finished
deriving DecidableEq

/-- A warm thread with its channel: what was sent, and whether there is a sender. -/
structure WarmThread where
  direction : String
  requested_device_id : String
  phase : WarmPhase
  ready : Bool
  sent : List WarmControl
  has_sender : Bool
  received : List Received
deriving DecidableEq

/-- The thread of a slot is named by its place among all threads. -/
structure WarmRouteSlot where
  thread : Nat
  requested_device_id : String
deriving DecidableEq

/-- A message reaches a thread that has not finished. -/
def thread_told (control : WarmControl) (thread : WarmThread) : WarmThread :=
  if thread.phase = .finished then thread else { thread with sent := thread.sent ++ [control] }

/-- The slot of a thread is gone. -/
def sender_gone (thread : WarmThread) : WarmThread := { thread with has_sender := false }

/-- The fields of a route that the warmer reads. -/
structure RouteSpec where
  requested_device_id : String
  uses_bridge_source : Bool

/-! ## Calls -/

/-- What a call does after `cancel`. -/
inductive AfterCancel
  | returns
  | spawns (requested_device_id : String)
  | cancels (directions : List String)
deriving DecidableEq

/-- Where a call is: what it does next. -/
inductive WarmCall
  | returned
  | checks (direction requested_device_id : String)
  | takes (direction : String) (after : AfterCancel)
  | tells (direction : String) (slot : WarmRouteSlot) (after : AfterCancel)
  | joins (direction : String) (slot : WarmRouteSlot) (after : AfterCancel)
  | spawns (direction requested_device_id : String)
  | inserts (direction : String) (slot : WarmRouteSlot)
  | finds (direction requested_device_id : String)
  | activates (direction : String) (slot : WarmRouteSlot)
  | lists
deriving DecidableEq

def AfterCancel.next (direction : String) : AfterCancel → WarmCall
  | returns => .returned
  | spawns requested_device_id => .spawns direction requested_device_id
  | cancels [] => .returned
  | cancels (direction :: directions) => .takes direction (.cancels directions)

/-- The slot that a call has taken out of the map, or has not put in yet, and whose thread it has not told anything. -/
def WarmCall.in_hand : WarmCall → Option (String × Nat)
  | tells direction slot _ => some (direction, slot.thread)
  | inserts direction slot => some (direction, slot.thread)
  | activates direction slot => some (direction, slot.thread)
  | _ => none

structure CaptureRouteWarmer where
  slots : AList fun _ : String => WarmRouteSlot
  calls : AList fun _ : Nat => WarmCall
  threads : List WarmThread

def new : CaptureRouteWarmer := ⟨∅, ∅, []⟩

namespace CaptureRouteWarmer

variable (s : CaptureRouteWarmer)

/-- `JoinHandle::is_finished` -/
def is_finished (thread : Nat) : Bool := (s.threads[thread]?).all fun thread => thread.phase = .finished

def is_ready (thread : Nat) : Bool := (s.threads[thread]?).any fun thread => thread.ready

/-- `WarmRouteSlot::matches` -/
def slot_matches (slot : WarmRouteSlot) (requested_device_id : String) : Bool :=
  slot.requested_device_id = requested_device_id && s.is_ready slot.thread && !s.is_finished slot.thread

def set_call (call : Nat) (next : WarmCall) : CaptureRouteWarmer := { s with calls := s.calls.insert call next }

def send (thread : Nat) (control : WarmControl) : CaptureRouteWarmer :=
  { s with threads := s.threads.modify thread (thread_told control) }

def drop_sender (thread : Nat) : CaptureRouteWarmer := { s with threads := s.threads.modify thread sender_gone }

end CaptureRouteWarmer

/-! ## Steps -/

/-- A new call, the next step of a call (a thread is spawned or not; the map gives its keys in some order), and the
steps of a warm thread. -/
inductive WarmOp
  | prewarm (call : Nat) (direction : String) (spec : Option RouteSpec)
  | try_activate (call : Nat) (direction : String) (spec : RouteSpec)
  | cancel (call : Nat) (direction : String)
  | cancel_all (call : Nat)
  | proceed (call : Nat) (spawned : Bool) (order : List String)
  | opened (thread : Nat) (ok : Bool)
  | receive (thread : Nat)
  | capture_ends (thread : Nat)

/-- Where a call begins. `none` stands for a route that cannot be configured, or without a backend. -/
def first_step : WarmOp → Option (Nat × WarmCall)
  | .prewarm call direction (some spec) =>
    some (call, if spec.uses_bridge_source then .returned else .checks direction spec.requested_device_id)
  | .prewarm call _ none => some (call, .returned)
  | .try_activate call direction spec =>
    some (call, if spec.uses_bridge_source then .returned else .finds direction spec.requested_device_id)
  | .cancel call direction => some (call, .takes direction .returns)
  | .cancel_all call => some (call, .lists)
  | _ => none

/-- A thread that has just been spawned. -/
def opening_thread (direction requested_device_id : String) : WarmThread where
  direction := direction
  requested_device_id := requested_device_id
  phase := .opening
  ready := false
  sent := []
  has_sender := true
  received := []

/-- The next critical section or message of a call. -/
def proceed (s : CaptureRouteWarmer) (call : Nat) (spawned : Bool) (order : List String) :
    WarmCall → CaptureRouteWarmer
  | .returned => s
  | .checks direction requested_device_id =>
    if (s.slots.lookup direction).any fun slot =>
        slot.requested_device_id = requested_device_id && !s.is_finished slot.thread then s.set_call call .returned
    else s.set_call call (.takes direction (.spawns requested_device_id))
  | .takes direction after =>
    match s.slots.lookup direction with
    | none => s.set_call call (after.next direction)
    | some slot => { s with slots := s.slots.erase direction }.set_call call (.tells direction slot after)
  | .tells direction slot after => (s.send slot.thread .Cancel).set_call call (.joins direction slot after)
  -- The slot goes with the call, when the thread reads its channel no more.
  | .joins direction slot after =>
    if s.is_finished slot.thread then s.set_call call (after.next direction) else s
  | .spawns direction requested_device_id =>
    if spawned then
      { s with threads := s.threads ++ [opening_thread direction requested_device_id] }.set_call call
        (.inserts direction ⟨s.threads.length, requested_device_id⟩)
    else s.set_call call .returned
  | .inserts direction slot =>
    let s := match s.slots.lookup direction with
      | none => s
      | some replaced => s.drop_sender replaced.thread
    { s with slots := s.slots.insert direction slot }.set_call call .returned
  | .finds direction requested_device_id =>
    match s.slots.lookup direction with
    | none => s.set_call call .returned
    | some slot =>
      if s.slot_matches slot requested_device_id then
        { s with slots := s.slots.erase direction }.set_call call (.activates direction slot)
      else s.set_call call .returned
  | .activates _ slot => ((s.send slot.thread .Activate).drop_sender slot.thread).set_call call .returned
  | .lists => s.set_call call ((AfterCancel.cancels (order.filter fun direction => direction ∈ s.slots)).next "")

/-- From `warm_route_thread`: the device is open, or it cannot be opened. -/
def thread_opened (ok : Bool) (thread : WarmThread) : WarmThread :=
  if thread.phase = .opening then
    if ok then { thread with phase := .parked, ready := true } else { thread with phase := .finished }
  else thread

/-- From `warm_route_thread`: a parked thread reads its channel. -/
def thread_receives (thread : WarmThread) : WarmThread :=
  if thread.phase = .parked then
    match thread.sent with
    | .Activate :: _ => { thread with phase := .capturing, received := thread.received ++ [.message .Activate] }
    | .Cancel :: _ => { thread with phase := .finished, received := thread.received ++ [.message .Cancel] }
    | [] =>
      if thread.has_sender then thread
      else { thread with phase := .finished, received := thread.received ++ [.disconnected] }
  else thread

def thread_ends (thread : WarmThread) : WarmThread :=
  if thread.phase = .capturing then { thread with phase := .finished } else thread

/-- A call begins only when the one before it on its thread has returned. -/
def begins (s : CaptureRouteWarmer) (op : WarmOp) : CaptureRouteWarmer :=
  match first_step op with
  | none => s
  | some (call, first) => if (s.calls.lookup call).getD .returned = .returned then s.set_call call first else s

def step (s : CaptureRouteWarmer) (op : WarmOp) : CaptureRouteWarmer :=
  match op with
  | .proceed call spawned order => proceed s call spawned order ((s.calls.lookup call).getD .returned)
  | .opened thread ok => { s with threads := s.threads.modify thread (thread_opened ok) }
  | .receive thread => { s with threads := s.threads.modify thread thread_receives }
  | .capture_ends thread => { s with threads := s.threads.modify thread thread_ends }
  | op => begins s op

end omni_translate.warm_route

-- The store of provider sessions, from `audio/state/omni_sessions.rs`: the
-- generation counter, the session, the sender and the handle of a direction
-- live under four locks. A section under one lock is one step; the calls of
-- several threads interleave between their sections.
import OmniTranslate.Runs
import OmniTranslate.TranslationLifecycle

namespace omni_translate.omni_sessions

open translation_lifecycle (U64_MAX saturating_succ)

inductive OmniOutputMode where
  | text_only
  | text_and_audio
deriving DecidableEq

inductive OmniSessionLifecycle where
  | starting
  | ready
  | failed
  | stopping
deriving DecidableEq

/-- What a session is asked for. -/
structure Route where
  direction : String
  model_id : String
  source_language : String
  target_language : String
  realtime_audio_mode : String
  subtitle_translate_active : Bool
  output_mode : OmniOutputMode
  contract_signature : Nat
deriving DecidableEq

structure OmniSessionMetadata where
  route : Route
  session_generation : Nat
  state : OmniSessionLifecycle
  last_error : Option String
deriving DecidableEq

variable {Handle Sender : Type}

structure OmniSessionStore (Handle Sender : Type) where
  handles : String → Option Handle
  senders : String → Option Sender
  sessions : String → Option OmniSessionMetadata
  generations : String → Option Nat

namespace OmniSessionStore

def new : OmniSessionStore Handle Sender where
  handles _ := none
  senders _ := none
  sessions _ := none
  generations _ := none

variable (store : OmniSessionStore Handle Sender) (direction : String) (generation : Nat)

/-! ## Sections -/

def store_handle (handle : Handle) : OmniSessionStore Handle Sender × Option Handle :=
  ({ store with handles := Function.update store.handles direction (some handle) },
    store.handles direction)

def has_handle : Bool := (store.handles direction).isSome

def store_sender (sender : Sender) : OmniSessionStore Handle Sender :=
  { store with senders := Function.update store.senders direction (some sender) }

def has_sender : Bool := (store.senders direction).isSome

def take_sender : OmniSessionStore Handle Sender × Option Sender :=
  ({ store with senders := Function.update store.senders direction none }, store.senders direction)

/-- The session of a direction is dropped. -/
def remove_session : OmniSessionStore Handle Sender :=
  { store with sessions := Function.update store.sessions direction none }

def remove_handle : OmniSessionStore Handle Sender × Option Handle :=
  ({ store with handles := Function.update store.handles direction none }, store.handles direction)

/-- The first section of `begin`: the counter of the direction. -/
def next_generation : OmniSessionStore Handle Sender × Nat :=
  let generation := match store.generations direction with
    | some value => saturating_succ value
    | none => 1
  ({ store with generations := Function.update store.generations direction (some generation) },
    generation)

def starting_session (route : Route) : OmniSessionMetadata :=
  { route, session_generation := generation, state := .starting, last_error := none }

/-- The second section of `begin`. -/
def insert_session (session : OmniSessionMetadata) : OmniSessionStore Handle Sender :=
  { store with sessions := Function.update store.sessions session.route.direction (some session) }

def mutate_matching (mutate : OmniSessionMetadata → OmniSessionMetadata) :
    OmniSessionStore Handle Sender × Bool :=
  match store.sessions direction with
  | none => (store, false)
  | some session =>
    if session.session_generation ≠ generation then (store, false)
    else
      ({ store with sessions := Function.update store.sessions direction (some (mutate session)) },
        true)

def mark_ready : OmniSessionStore Handle Sender × Bool :=
  store.mutate_matching direction generation fun session =>
    { session with state := .ready, last_error := none }

def mark_failed (error : String) : OmniSessionStore Handle Sender × Bool :=
  store.mutate_matching direction generation fun session =>
    { session with state := .failed, last_error := some error }

def mark_stopping (reason : String) : OmniSessionStore Handle Sender × Bool :=
  store.mutate_matching direction generation fun session =>
    { session with state := .stopping, last_error := some reason }

/-- The first section of `clear`. -/
def clear_session : OmniSessionStore Handle Sender × Bool :=
  if (store.sessions direction).any (·.session_generation = generation) then
    (store.remove_session direction, true)
  else (store, false)

def matching_ready (route : Route) : Option Nat :=
  ((store.sessions route.direction).filter fun session =>
    session.state = .ready ∧
      session.route = { route with direction := session.route.direction }).map (·.session_generation)

def metadata : Option OmniSessionMetadata := store.sessions direction

def is_current : Bool :=
  (store.sessions direction).any fun session =>
    session.session_generation = generation ∧ session.state ≠ .stopping

/-! ## Calls of several sections, as one thread runs them -/

def take_handle : OmniSessionStore Handle Sender × Option Handle :=
  (((store.take_sender direction).1).remove_session direction).remove_handle direction

def begin (route : Route) : OmniSessionStore Handle Sender × Nat :=
  let (store, generation) := store.next_generation route.direction
  (store.insert_session (starting_session generation route), generation)

def clear : OmniSessionStore Handle Sender × Bool :=
  match store.clear_session direction generation with
  | (store, true) => ((((store.take_sender direction).1).remove_handle direction).1, true)
  | (store, false) => (store, false)

def take_matching_sender (route : Route) : OmniSessionStore Handle Sender × Option Sender :=
  match store.matching_ready route with
  | none => (store, none)
  | some _ => store.take_sender route.direction

end OmniSessionStore

/-! ## Threads -/

inductive Call (Handle Sender : Type) where
  | store_handle (direction : String) (handle : Handle)
  | has_handle (direction : String)
  | store_sender (direction : String) (sender : Sender)
  | has_sender (direction : String)
  | take_sender (direction : String)
  | take_handle (direction : String)
  | begin (route : Route)
  | mark_ready (direction : String) (generation : Nat)
  | mark_failed (direction : String) (generation : Nat) (error : String)
  | mark_stopping (direction : String) (generation : Nat) (reason : String)
  | clear (direction : String) (generation : Nat)
  | matching_ready (route : Route)
  | take_matching_sender (route : Route)
  | metadata (direction : String)
  | is_current (direction : String) (generation : Nat)

/-- A whole call, as one thread runs it. -/
def OmniSessionStore.call (store : OmniSessionStore Handle Sender) :
    Call Handle Sender → OmniSessionStore Handle Sender
  | .store_handle direction handle => (store.store_handle direction handle).1
  | .store_sender direction sender => store.store_sender direction sender
  | .take_sender direction => (store.take_sender direction).1
  | .take_handle direction => (store.take_handle direction).1
  | .begin route => (store.begin route).1
  | .mark_ready direction generation => (store.mark_ready direction generation).1
  | .mark_failed direction generation error => (store.mark_failed direction generation error).1
  | .mark_stopping direction generation reason => (store.mark_stopping direction generation reason).1
  | .clear direction generation => (store.clear direction generation).1
  | .take_matching_sender route => (store.take_matching_sender route).1
  | .has_handle _ => store
  | .has_sender _ => store
  | .matching_ready _ => store
  | .metadata _ => store
  | .is_current _ _ => store

/-- The section that a call in the middle has before it. -/
inductive Rest where
  | insert_session (session : OmniSessionMetadata)
  | clear_sender (direction : String) (generation : Nat)
  | clear_handle (direction : String) (generation : Nat)
  | take_session (direction : String)
  | take_last_handle (direction : String)
  | take_matched (direction : String)

/-- A thread starts a call with its first section, or goes on with its call. -/
inductive Event (Handle Sender : Type) where
  | start (thread : Nat) (call : Call Handle Sender)
  | resume (thread : Nat)

/-- The store and the calls in the middle. Beside them stands what no code reads: the counter of
the direction when its sender and its handle were stored, and the generations for which
`mark_stopping` has succeeded. -/
structure Machine (Handle Sender : Type) where
  store : OmniSessionStore Handle Sender
  threads : Nat → Option Rest
  sender_generation : String → Option Nat
  handle_generation : String → Option Nat
  stopped : List (String × Nat)

namespace Machine

def new : Machine Handle Sender where
  store := .new
  threads _ := none
  sender_generation _ := none
  handle_generation _ := none
  stopped := []

variable (m : Machine Handle Sender)

def set (store : OmniSessionStore Handle Sender) : Machine Handle Sender := { m with store }

/-- The thread has this section before it. -/
def wait (thread : Nat) (rest : Option Rest) : Machine Handle Sender :=
  { m with threads := Function.update m.threads thread rest }

/-- The first section of a call. -/
def start (thread : Nat) : Call Handle Sender → Machine Handle Sender
  | .store_handle direction handle =>
    { m.set (m.store.store_handle direction handle).1 with
      handle_generation := Function.update m.handle_generation direction (m.store.generations direction) }
  | .store_sender direction sender =>
    { m.set (m.store.store_sender direction sender) with
      sender_generation := Function.update m.sender_generation direction (m.store.generations direction) }
  | .take_sender direction => m.set (m.store.take_sender direction).1
  | .take_handle direction =>
    (m.set (m.store.take_sender direction).1).wait thread (some (.take_session direction))
  | .begin route =>
    let (store, generation) := m.store.next_generation route.direction
    (m.set store).wait thread
      (some (.insert_session (OmniSessionStore.starting_session generation route)))
  | .mark_ready direction generation => m.set (m.store.mark_ready direction generation).1
  | .mark_failed direction generation error => m.set (m.store.mark_failed direction generation error).1
  | .mark_stopping direction generation reason =>
    match m.store.mark_stopping direction generation reason with
    | (store, true) => { m.set store with stopped := (direction, generation) :: m.stopped }
    | (store, false) => m.set store
  | .clear direction generation =>
    match m.store.clear_session direction generation with
    | (store, true) => (m.set store).wait thread (some (.clear_sender direction generation))
    | (store, false) => m.set store
  | .take_matching_sender route =>
    match m.store.matching_ready route with
    | some _ => m.wait thread (some (.take_matched route.direction))
    | none => m
  | .has_handle _ => m
  | .has_sender _ => m
  | .matching_ready _ => m
  | .metadata _ => m
  | .is_current _ _ => m

/-- The next section of a call in the middle. -/
def resume (thread : Nat) : Rest → Machine Handle Sender
  | .insert_session session => (m.set (m.store.insert_session session)).wait thread none
  | .clear_sender direction generation =>
    (m.set (m.store.take_sender direction).1).wait thread (some (.clear_handle direction generation))
  | .clear_handle direction _ => (m.set (m.store.remove_handle direction).1).wait thread none
  | .take_session direction =>
    (m.set (m.store.remove_session direction)).wait thread (some (.take_last_handle direction))
  | .take_last_handle direction => (m.set (m.store.remove_handle direction).1).wait thread none
  | .take_matched direction => (m.set (m.store.take_sender direction).1).wait thread none

/-- A thread in the middle of a call starts no other, and an idle one has nothing to go on with. -/
def step : Event Handle Sender → Machine Handle Sender
  | .start thread call =>
    match m.threads thread with
    | none => m.start thread call
    | some _ => m
  | .resume thread =>
    match m.threads thread with
    | none => m
    | some rest => m.resume thread rest

end Machine

end omni_translate.omni_sessions

-- The configuration draft in several windows (`runtime/bootstrap/connect.ts`):
-- the store of each window, its persist queue, and the config-sync events
-- between the windows.
import OmniTranslate.Runs

namespace omni_translate.config_sync

variable {Window Draft Text : Type} [DecidableEq Window] [DecidableEq Text]

def RETRY_DELAYS : List Nat := [500, 1000, 2000]

/-! ## One window -/

/-- Where an attempt of `flushPersistQueue` is: it awaits the save, the runtime snapshot, or its delay. -/
inductive Phase
  | saving
  | refreshing
  | sleeping
deriving DecidableEq

structure Flight (Draft : Type) where
  next_config : Draft
  attempt : Nat
  phase : Phase
deriving DecidableEq

/-- The draft of a window with its `queueState`; `failed` says how the last save ended. -/
structure WindowState (Draft Text : Type) where
  config_draft : Draft
  last_serialized_config : Text
  inflight : Option (Flight Draft)
  pending : Option Draft
  failed : Bool

-- `mergeConfigDraftWithDefaults`, and `JSON.stringify`.
variable (merge : Draft → Draft) (stringify : Draft → Text)

def set_config_draft (config_draft next : Draft) : Draft :=
  let merged := merge next
  if stringify merged = stringify config_draft then config_draft else merged

variable (w : WindowState Draft Text)

def apply_external_config_sync (next : Draft) : WindowState Draft Text :=
  if stringify next = w.last_serialized_config then w
  else
    let config_draft := set_config_draft merge stringify w.config_draft next
    { w with config_draft, last_serialized_config := stringify config_draft }

/-- `flushPersistQueue` up to its first save. -/
def flush_persist_queue : WindowState Draft Text :=
  match w.inflight, w.pending with
  | none, some next => { w with inflight := some ⟨next, 0, .saving⟩, pending := none }
  | _, _ => w

/-- The end of `flushPersistQueue`, which flushes what has become pending. -/
def finish_flush (failed : Bool) : WindowState Draft Text :=
  flush_persist_queue { w with inflight := none, failed }

def attempt_fails (flight : Flight Draft) : WindowState Draft Text :=
  if flight.attempt < RETRY_DELAYS.length then
    { w with inflight := some { flight with phase := .sleeping } }
  else finish_flush w true

/-! ## All windows -/

/-- The windows, for each sender and receiver the events in flight, and the stored configuration. -/
structure System (Window Draft Text : Type) where
  windows : Window → WindowState Draft Text
  events : Window → Window → List Draft
  stored : Draft

/-- All windows have loaded the stored configuration. -/
def start (stored : Draft) : System Window Draft Text where
  windows _ :=
    { config_draft := merge stored
      last_serialized_config := stringify (merge stored)
      inflight := none
      pending := none
      failed := false }
  events _ _ := []
  stored := stored

inductive Op (Window Draft : Type)
  | changes (window : Window) (config_draft : Draft)
  | delivers (sender receiver : Window)
  | saves (window : Window) (ok : Bool)
  | refreshes (window : Window) (ok : Bool)
  | wakes (window : Window)
  | retries (window : Window)
deriving DecidableEq

def update (s : System Window Draft Text) (window : Window) (w : WindowState Draft Text) :
    System Window Draft Text :=
  { s with windows := Function.update s.windows window w }

variable (s : System Window Draft Text) (window : Window)

/-- `emit`, which reaches every window. -/
def emit (config_draft : Draft) : System Window Draft Text :=
  { s with
    events := fun sender receiver =>
      if sender = window then s.events sender receiver ++ [config_draft] else s.events sender receiver }

/-- The draft of a window changes, and its subscription runs. -/
def changes (config_draft : Draft) : System Window Draft Text :=
  let w := { s.windows window with config_draft }
  let sc := stringify config_draft
  if sc = w.last_serialized_config then update s window w
  else
    emit (update s window
      (flush_persist_queue { w with last_serialized_config := sc, pending := some config_draft }))
      window config_draft

def delivers (sender receiver : Window) : System Window Draft Text :=
  match s.events sender receiver with
  | [] => s
  | next :: rest =>
    { update s receiver (apply_external_config_sync merge stringify (s.windows receiver) next) with
      events := Function.update s.events sender (Function.update (s.events sender) receiver rest) }

/-- The save of an attempt returns. -/
def saves (ok : Bool) : System Window Draft Text :=
  match (s.windows window).inflight with
  | some ⟨next_config, attempt, .saving⟩ =>
    if ok then
      { update s window
          { s.windows window with inflight := some ⟨next_config, attempt, .refreshing⟩ } with
        stored := next_config }
    else update s window (attempt_fails (s.windows window) ⟨next_config, attempt, .saving⟩)
  | _ => s

/-- The runtime snapshot of an attempt returns. -/
def refreshes (ok : Bool) : System Window Draft Text :=
  match (s.windows window).inflight with
  | some ⟨next_config, attempt, .refreshing⟩ =>
    update s window
      (if ok then finish_flush (s.windows window) false
        else attempt_fails (s.windows window) ⟨next_config, attempt, .refreshing⟩)
  | _ => s

/-- The delay of an attempt is over. -/
def wakes : System Window Draft Text :=
  match (s.windows window).inflight with
  | some ⟨next_config, attempt, .sleeping⟩ =>
    update s window
      { s.windows window with inflight := some ⟨next_config, attempt + 1, .saving⟩ }
  | _ => s

/-- `handleConfigPersistRetry`. -/
def retries : System Window Draft Text :=
  let w := s.windows window
  update s window (flush_persist_queue { w with pending := some w.config_draft })

def step : Op Window Draft → System Window Draft Text
  | .changes window config_draft => changes stringify s window config_draft
  | .delivers sender receiver => delivers merge stringify s sender receiver
  | .saves window ok => saves s window ok
  | .refreshes window ok => refreshes s window ok
  | .wakes window => wakes s window
  | .retries window => retries s window

end omni_translate.config_sync

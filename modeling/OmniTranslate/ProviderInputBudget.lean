-- The provider input budget (`audio/omni/provider_input_budget.rs`): how many samples a session may
-- hand to the provider. Every event goes to a journal, and a ledger is written anew after each.
import OmniTranslate.Runs
import OmniTranslate.Text

namespace omni_translate.provider_input_budget

open runs

variable {I T E : Type}

def U64_MAX : Nat := 2 ^ 64 - 1

def checked_add (current count : Nat) : Option Nat :=
  if current + count ≤ U64_MAX then some (current + count) else none

def saturating_add (current count : Nat) : Nat := min (current + count) U64_MAX

/-- An atomic counter wraps. -/
def fetch_add (current count : Nat) : Nat := (current + count) % 2 ^ 64

/-! ## Records -/

/-- The text of an event in the journal is the name that it has here. -/
inductive Event
  | initialized
  | initial_connect_attempt
  | reserved
  | reserve_rejected
  | send_failed
  | reconnect
  | reconnect_rejected
  | finalized
deriving DecidableEq

/-- The ledger. `identity` stands for the ids of the session, the provider and the model, which are
fixed when the budget is made and repeated in every record. -/
structure Snapshot (I : Type) where
  artifact_kind : String
  identity : I
  strict_paid_authority : Bool
  incident_replay_authority : Bool
  local_single_session_authority : Bool
  total_attempted_samples : Nat
  max_samples : Nat
  append_attempts : Nat
  send_failures : Nat
  initial_connect_attempts : Nat
  reconnects : Nat
  budget_exceeded : Bool
  finalized : Bool
  terminal_reason : Option String
deriving DecidableEq

/-- A line of the journal. -/
structure JournalRecord (I : Type) extends Snapshot I where
  event : Event
  sequence : Nat
  occurred_at_ms : Nat
  attempted_samples : Option Nat
deriving DecidableEq

structure ProviderInputBudgetJournal (I : Type) where
  records : List (JournalRecord I)
  next_sequence : Nat
  last_occurred_at_ms : Nat
deriving DecidableEq

/-- What the budget did and what it let its callers do, in this order. -/
inductive Act
  | admitted (sample_count : Nat)
  | reserved (sample_count : Nat)
  | before_send (sample_count : Nat)
  | send (sample_count : Nat)
  | connect
  | reconnect
deriving DecidableEq

/-- The budget of a session. The `history` is kept for the laws: no function reads it. A ledger that
a failed write has left torn is `none`. -/
structure EnabledProviderInputBudget (I : Type) where
  final_ledger : Option (Snapshot I)
  journal : ProviderInputBudgetJournal I
  identity : I
  strict_paid_authority : Bool
  incident_replay_authority : Bool
  local_single_session_authority : Bool
  max_samples : Nat
  total_attempted_samples : Nat
  append_attempts : Nat
  send_failures : Nat
  initial_connect_attempts : Nat
  reconnect_count : Nat
  budget_exceeded : Bool
  finalized : Bool
  terminal_reason : Option String
  history : List Act
deriving DecidableEq

/-! ## Writing -/

/-- How a write to the journal ends. -/
inductive JournalWrite
  | written
  | lock_poisoned
  | serialize_failed (error : String)
  | write_failed (error : String)
deriving DecidableEq

/-- How a write of the ledger ends. -/
inductive LedgerWrite
  | written
  | lock_poisoned
  | reset_failed (error : String)
  | serialize_failed (error : String)
  | write_failed (error : String)
deriving DecidableEq

/-- What an event finds outside: the clock, and how the two files take it. -/
structure Disk where
  now_unix_ms : Nat
  journal : JournalWrite
  ledger : LedgerWrite
deriving DecidableEq

/-- Nothing fails. -/
def Disk.Sound (disk : Disk) : Prop := disk.journal = .written ∧ disk.ledger = .written

instance (disk : Disk) : Decidable disk.Sound := inferInstanceAs (Decidable (_ ∧ _))

/-- A disk that takes everything, at a time of the clock. -/
def sound_at (now_unix_ms : Nat) : Disk := ⟨now_unix_ms, .written, .written⟩

namespace EnabledProviderInputBudget

variable (budget : EnabledProviderInputBudget I)

def log (act : Act) : EnabledProviderInputBudget I :=
  { budget with history := budget.history ++ [act] }

def artifact_kind : String :=
  if budget.local_single_session_authority then "watch-mode-smoke-provider-session-ledger"
  else "watch-mode-provider-input-budget-ledger"

def snapshot (finalized : Bool) : Snapshot I where
  artifact_kind := budget.artifact_kind
  identity := budget.identity
  strict_paid_authority := budget.strict_paid_authority
  incident_replay_authority := budget.incident_replay_authority
  local_single_session_authority := budget.local_single_session_authority
  total_attempted_samples := budget.total_attempted_samples
  max_samples := budget.max_samples
  append_attempts := budget.append_attempts
  send_failures := budget.send_failures
  initial_connect_attempts := budget.initial_connect_attempts
  reconnects := budget.reconnect_count
  budget_exceeded := budget.budget_exceeded
  finalized := finalized
  terminal_reason := budget.terminal_reason

/-- The flag of the ledger is the caller's, not that of the budget. -/
def write_final_snapshot (finalized : Bool) (write : LedgerWrite) :
    EnabledProviderInputBudget I × Except String Unit :=
  match write with
  | .lock_poisoned => (budget, .error "strict provider input budget ledger lock was poisoned")
  | .reset_failed error =>
    (budget, .error ("strict provider input budget ledger reset failed: " ++ error))
  | .serialize_failed error => ({ budget with final_ledger := none },
      .error ("strict provider input budget ledger serialize failed: " ++ error))
  | .write_failed error => ({ budget with final_ledger := none },
      .error ("strict provider input budget ledger write failed: " ++ error))
  | .written => ({ budget with final_ledger := some (budget.snapshot finalized) }, .ok ())

/-- The next line of the journal, at the time `occurred_at_ms`. -/
def record (event : Event) (attempted_samples : Option Nat) (finalized : Bool)
    (occurred_at_ms : Nat) : JournalRecord I where
  toSnapshot := budget.snapshot finalized
  event := event
  sequence := budget.journal.next_sequence
  occurred_at_ms := occurred_at_ms
  attempted_samples := attempted_samples

/-- Once the journal is locked its sequence number is spent, also if the line cannot be written. -/
def write_event (event : Event) (attempted_samples : Option Nat) (finalized : Bool) (disk : Disk) :
    EnabledProviderInputBudget I × Except String Unit :=
  let occurred_at_ms := max disk.now_unix_ms budget.journal.last_occurred_at_ms
  let journal :=
    { budget.journal with next_sequence := saturating_add budget.journal.next_sequence 1 }
  match disk.journal with
  | .lock_poisoned => (budget, .error "strict provider input budget journal lock was poisoned")
  | .serialize_failed error => ({ budget with journal },
      .error ("strict provider input budget journal serialize failed: " ++ error))
  | .write_failed error => ({ budget with journal },
      .error ("strict provider input budget journal write failed: " ++ error))
  | .written =>
    let line := budget.record event attempted_samples finalized occurred_at_ms
    let journal :=
      { journal with records := journal.records ++ [line], last_occurred_at_ms := occurred_at_ms }
    { budget with journal }.write_final_snapshot finalized disk.ledger

def set_terminal_reason (reason : String) : EnabledProviderInputBudget I :=
  { budget with terminal_reason := budget.terminal_reason <|> some reason }

/-! ## Reservations -/

def can_append (sample_count : Nat) : Bool :=
  (checked_add budget.total_attempted_samples sample_count).any (· ≤ budget.max_samples)

def reserve (sample_count : Nat) (disk : Disk) :
    EnabledProviderInputBudget I × Except String Unit :=
  if sample_count = 0 then
    (budget, .error "provider input budget cannot reserve an empty append")
  else
    match (checked_add budget.total_attempted_samples sample_count).filter
      (· ≤ budget.max_samples) with
    | none =>
      let budget := { budget with budget_exceeded := true }.set_terminal_reason "budget-exceeded"
      match budget.write_event .reserve_rejected (some sample_count) false disk with
      | (budget, .error error) => (budget, .error error)
      | (budget, .ok ()) => (budget, .error
          ("strict provider input budget exceeded before send: attemptedSamples=" ++
            toString sample_count ++ " totalAttemptedSamples=" ++
            toString budget.total_attempted_samples ++ " maxSamples=" ++
            toString budget.max_samples))
    | some next =>
      let budget := { budget with
        total_attempted_samples := next
        append_attempts := fetch_add budget.append_attempts 1 }
      (budget.log (.admitted sample_count)).write_event .reserved (some sample_count) false disk

def record_send_failure (sample_count : Nat) (disk : Disk) :
    EnabledProviderInputBudget I × Except String Unit :=
  { budget with send_failures := fetch_add budget.send_failures 1 }.write_event .send_failed
    (some sample_count) false disk

/-- `before_send` and `send` are what the caller's closures answer when they are called; the disks
are those of the reservation and of the failure of the send. -/
def attempt_send (sample_count : Nat) (before_send : Except String Unit) (send : Except E T)
    (reserving failing : Disk) : EnabledProviderInputBudget I × Except String (Except E T) :=
  match budget.reserve sample_count reserving with
  | (budget, .error error) => (budget, .error error)
  | (budget, .ok ()) =>
    let budget := (budget.log (.reserved sample_count)).log (.before_send sample_count)
    match before_send with
    | .error error => (budget, .error error)
    | .ok () =>
      let budget := budget.log (.send sample_count)
      match send with
      | .ok _ => (budget, .ok send)
      | .error _ =>
        match budget.record_send_failure sample_count failing with
        | (budget, .error error) => (budget, .error error)
        | (budget, .ok ()) => (budget, .ok send)

/-! ## Connections -/

def strict_paid_authority_enabled : Bool :=
  budget.strict_paid_authority || budget.incident_replay_authority ||
    budget.local_single_session_authority

/-- A refused retry is not an event: only the ledger tells of it. -/
def record_initial_connect_attempt (disk : Disk) :
    EnabledProviderInputBudget I × Except String Unit :=
  if budget.strict_paid_authority_enabled ∧ 1 ≤ budget.initial_connect_attempts then
    match (budget.set_terminal_reason "initial-connect-retry-forbidden").write_final_snapshot false
      disk.ledger with
    | (budget, .error error) => (budget, .error error)
    | (budget, .ok ()) => (budget,
        .error "strict paid provider authority forbids a second initial WebSocket attempt")
  else
    { budget with
      initial_connect_attempts := fetch_add budget.initial_connect_attempts 1 }.write_event
      .initial_connect_attempt none false disk

def is_reconnect_trigger (trigger : String) : Bool :=
  trigger ∈ ["send-failure", "socket-close", "read-error", "voice-fallback"]

def trimmed (trigger : String) : String := String.ofList (text.trim trigger.toList)

def authorize_reconnect_before_connect (trigger : String) (disk : Disk) :
    EnabledProviderInputBudget I × Except String Unit :=
  if ¬ budget.strict_paid_authority_enabled then (budget, .ok ())
  else
    let trigger := trimmed trigger
    if ¬ is_reconnect_trigger trigger then
      (budget, .error
        ("strict paid provider authority received an unknown reconnect trigger: " ++ trigger))
    else
      match (budget.set_terminal_reason ("reconnect-forbidden-" ++ trigger)).write_event
        .reconnect_rejected none false disk with
      | (budget, .error error) => (budget, .error
          ("strict paid provider authority forbids reconnect after " ++ trigger ++
            "; failed to persist reconnect rejection: " ++ error))
      | (budget, .ok ()) => (budget, .error
          ("strict paid provider authority forbids reconnect after " ++ trigger ++
            " before connector network access"))

def record_reconnect (disk : Disk) : EnabledProviderInputBudget I × Except String Unit :=
  { budget with reconnect_count := fetch_add budget.reconnect_count 1 }.write_event .reconnect none
    false disk

/-! ## The end -/

def finalize (reason : String) (disk : Disk) : EnabledProviderInputBudget I × Except String Unit :=
  if budget.finalized then (budget, .ok ())
  else
    ({ budget with finalized := true }.set_terminal_reason reason).write_event .finalized none true
      disk

end EnabledProviderInputBudget

/-- The last part of `from_environment`: there is a budget once its first event is written. -/
def make (identity : I) (strict_paid_authority incident_replay_authority
    local_single_session_authority : Bool) (max_samples : Nat) (disk : Disk) :
    Except String (EnabledProviderInputBudget I) :=
  let budget : EnabledProviderInputBudget I := {
    final_ledger := none
    journal := { records := [], next_sequence := 1, last_occurred_at_ms := 0 }
    identity
    strict_paid_authority
    incident_replay_authority
    local_single_session_authority
    max_samples
    total_attempted_samples := 0
    append_attempts := 0
    send_failures := 0
    initial_connect_attempts := 0
    reconnect_count := 0
    budget_exceeded := false
    finalized := false
    terminal_reason := none
    history := [] }
  match budget.write_event .initialized none false disk with
  | (budget, .ok ()) => .ok budget
  | (_, .error error) => .error error

/-! ## Runs -/

inductive BudgetOp
  | attempt_send (sample_count : Nat) (before_send send : Except String Unit)
      (reserving failing : Disk)
  | record_initial_connect_attempt (disk : Disk)
  | authorize_reconnect_before_connect (trigger : String) (disk : Disk)
  | record_reconnect (disk : Disk)
  | finalize (reason : String) (disk : Disk)

/-- Every write of the operation succeeds. -/
def BudgetOp.Sound : BudgetOp → Prop
  | .attempt_send _ _ _ reserving failing => reserving.Sound ∧ failing.Sound
  | .record_initial_connect_attempt disk => disk.Sound
  | .authorize_reconnect_before_connect _ disk => disk.Sound
  | .record_reconnect disk => disk.Sound
  | .finalize _ disk => disk.Sound

instance : (op : BudgetOp) → Decidable op.Sound
  | .attempt_send _ _ _ reserving failing =>
    inferInstanceAs (Decidable (reserving.Sound ∧ failing.Sound))
  | .record_initial_connect_attempt disk => inferInstanceAs (Decidable disk.Sound)
  | .authorize_reconnect_before_connect _ disk => inferInstanceAs (Decidable disk.Sound)
  | .record_reconnect disk => inferInstanceAs (Decidable disk.Sound)
  | .finalize _ disk => inferInstanceAs (Decidable disk.Sound)

/-- The connections that a call authorises are put in the history. -/
def authorised (act : Act) :
    EnabledProviderInputBudget I × Except String Unit → EnabledProviderInputBudget I
  | (budget, .ok ()) => budget.log act
  | (budget, .error _) => budget

def step (budget : EnabledProviderInputBudget I) : BudgetOp → EnabledProviderInputBudget I
  | .attempt_send sample_count before_send send reserving failing =>
    (budget.attempt_send sample_count before_send send reserving failing).1
  | .record_initial_connect_attempt disk =>
    authorised .connect (budget.record_initial_connect_attempt disk)
  | .authorize_reconnect_before_connect trigger disk =>
    authorised .reconnect (budget.authorize_reconnect_before_connect trigger disk)
  | .record_reconnect disk => (budget.record_reconnect disk).1
  | .finalize reason disk => (budget.finalize reason disk).1

end omni_translate.provider_input_budget

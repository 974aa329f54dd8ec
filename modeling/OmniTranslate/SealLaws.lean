-- The journal of the provider input budget and its ledger: when the line that finalizes them stays
-- the last. An operation that comes after it writes another line and opens the ledger again.
import OmniTranslate.BudgetLaws
import Mathlib.Data.List.Pairwise

namespace omni_translate.provider_input_budget

open places runs EnabledProviderInputBudget

variable {I : Type}

/-! ## The seal -/

/-- The lines are numbered from 1 and in the order of time. After a finalized line there is no other,
and the ledger agrees with it. -/
structure Sealed (budget : EnabledProviderInputBudget I) : Prop where
  sequence : budget.journal.records.map (·.sequence) =
    List.range' 1 budget.journal.records.length
  occurred : (budget.journal.records.map (·.occurred_at_ms)).Pairwise (· ≤ ·)
  closed : ∀ earlier line later, budget.journal.records = earlier ++ line :: later →
    line.finalized = true → later = [] ∧ ∃ ledger, budget.final_ledger = some ledger ∧
      ledger.finalized = true ∧ ledger.terminal_reason = line.terminal_reason

/-- The operation writes the ledger as one that is not finalized. -/
def reopens (budget : EnabledProviderInputBudget I) : BudgetOp → Bool
  | .attempt_send sample_count _ _ _ _ => sample_count ≠ 0
  | .record_initial_connect_attempt _ => true
  | .authorize_reconnect_before_connect trigger _ =>
    budget.strict_paid_authority_enabled && is_reconnect_trigger (trimmed trigger)
  | .record_reconnect _ => true
  | .finalize _ _ => false

/-- How many lines the operation writes. -/
def lines (budget : EnabledProviderInputBudget I) : BudgetOp → Nat
  | .attempt_send sample_count before_send send _ _ =>
    if sample_count = 0 then 0
    else if budget.can_append sample_count ∧ before_send.isOk ∧ ¬ send.isOk then 2
    else 1
  | .record_initial_connect_attempt _ =>
    if budget.strict_paid_authority_enabled ∧ 1 ≤ budget.initial_connect_attempts then 0 else 1
  | .authorize_reconnect_before_connect trigger _ =>
    if budget.strict_paid_authority_enabled ∧ is_reconnect_trigger (trimmed trigger) then 1 else 0
  | .record_reconnect _ => 1
  | .finalize _ _ => if budget.finalized then 0 else 1

/-- The condition on an operation: a finalized budget is left alone, and the sequence numbers do not
run out. -/
def keeps_seal (budget : EnabledProviderInputBudget I) (op : BudgetOp) : Prop :=
  (budget.finalized = true → reopens budget op = false) ∧
    budget.journal.records.length + lines budget op ≤ U64_MAX

instance (budget : EnabledProviderInputBudget I) (op : BudgetOp) :
    Decidable (keeps_seal budget op) := inferInstanceAs (Decidable (_ ∧ _))

/-! ## What is written -/

/-- The second budget has one line more than the first, and its ledger. -/
structure Adds (line : JournalRecord I) (first second : EnabledProviderInputBudget I) : Prop where
  sequence : line.sequence = first.journal.next_sequence
  occurred : first.journal.last_occurred_at_ms ≤ line.occurred_at_ms
  records : second.journal.records = first.journal.records ++ [line]
  next : second.journal.next_sequence = saturating_add first.journal.next_sequence 1
  last : second.journal.last_occurred_at_ms = line.occurred_at_ms
  ledger : second.final_ledger = some line.toSnapshot

/-- The second budget has one line more, which does not finalize it. -/
def AddsOpen (first second : EnabledProviderInputBudget I) : Prop :=
  ∃ line, Adds line first second ∧ line.finalized = false ∧ second.finalized = first.finalized

/-- What an operation other than `finalize` does to the files: whether it writes the ledger, and how
many lines it writes. -/
inductive Writes (first : EnabledProviderInputBudget I) :
    Bool → Nat → EnabledProviderInputBudget I → Prop
  | same {second : EnabledProviderInputBudget I} (hjournal : second.journal = first.journal)
      (hledger : second.final_ledger = first.final_ledger)
      (hfinalized : second.finalized = first.finalized) : Writes first false 0 second
  | ledger {second : EnabledProviderInputBudget I} (hjournal : second.journal = first.journal)
      (hledger : second.final_ledger.map (·.finalized) = some false)
      (hfinalized : second.finalized = first.finalized) : Writes first true 0 second
  | line {wrote : Bool} {k : Nat} {middle second : EnabledProviderInputBudget I}
      (hmiddle : Writes first wrote k middle) (hadds : AddsOpen middle second) :
      Writes first true (k + 1) second

section

variable {first second other : EnabledProviderInputBudget I}

theorem AddsOpen.from (h : AddsOpen first second) (hjournal : other.journal = first.journal)
    (hfinalized : other.finalized = first.finalized) : AddsOpen other second := by
  obtain ⟨line, hadds, hopen, hsame⟩ := h
  refine ⟨line, ⟨?_, ?_, ?_, ?_, hadds.last, hadds.ledger⟩, hopen, hsame.trans hfinalized.symm⟩
  · rw [hjournal, hadds.sequence]
  · rw [hjournal]
    exact hadds.occurred
  · rw [hjournal, hadds.records]
  · rw [hjournal, hadds.next]

theorem AddsOpen.to (h : AddsOpen first second) (hjournal : other.journal = second.journal)
    (hledger : other.final_ledger = second.final_ledger)
    (hfinalized : other.finalized = second.finalized) : AddsOpen first other := by
  obtain ⟨line, hadds, hopen, hsame⟩ := h
  refine ⟨line, ⟨hadds.sequence, hadds.occurred, ?_, ?_, ?_, ?_⟩, hopen, hfinalized.trans hsame⟩
  · rw [hjournal, hadds.records]
  · rw [hjournal, hadds.next]
  · rw [hjournal, hadds.last]
  · rw [hledger, hadds.ledger]

theorem AddsOpen.writes (h : AddsOpen first second) : Writes first true 1 second :=
  .line (.same rfl rfl rfl) h

end

section

variable (budget : EnabledProviderInputBudget I) {disk : Disk}

/-- One write of an event on a sound disk. -/
theorem write_event_adds (event : Event) (attempted_samples : Option Nat) (finalized : Bool) (h : disk.Sound) :
    ∃ line, Adds line budget (budget.write_event event attempted_samples finalized disk).1 ∧
      line.finalized = finalized ∧
      (budget.write_event event attempted_samples finalized disk).1.finalized =
        budget.finalized := by
  unfold write_event
  rw [h.1]
  rw [h.2]
  exact ⟨_, ⟨rfl, le_max_right _ _, rfl, rfl, rfl, rfl⟩, rfl, rfl⟩

theorem write_event_adds_open (event : Event) (attempted_samples : Option Nat) (h : disk.Sound) :
    AddsOpen budget (budget.write_event event attempted_samples false disk).1 :=
  write_event_adds budget event attempted_samples false h

/-- A reservation writes a line, whether it is admitted or not. -/
theorem reserve_adds {n : Nat} (hn : n ≠ 0) (h : disk.Sound) : AddsOpen budget (budget.reserve n disk).1 := by
  unfold reserve
  rw [if_neg hn]
  split
  · dsimp only
    set rejected := { budget with budget_exceeded := true }.set_terminal_reason "budget-exceeded"
    have hadds := write_event_adds_open rejected .reserve_rejected (some n) h
    split <;> rename_i heq <;> rw [heq] at hadds <;> exact hadds.from rfl rfl
  · exact (write_event_adds_open _ .reserved (some n) h).from rfl rfl

theorem attempt_send_writes {n : Nat} (before_send send : Except String Unit)
    {reserving failing : Disk} (hreserving : reserving.Sound) (hfailing : failing.Sound) :
    Writes budget (reopens budget (.attempt_send n before_send send reserving failing))
      (lines budget (.attempt_send n before_send send reserving failing))
      (budget.attempt_send n before_send send reserving failing).1 := by
  unfold reopens lines
  by_cases hn : n = 0
  · subst hn
    exact .same rfl rfl rfl
  have hadds := reserve_adds budget hn hreserving
  unfold attempt_send
  dsimp only
  rw [if_neg hn, decide_eq_true hn]
  by_cases hfits : budget.can_append n = true
  · have hok := (reserve_admits budget (Nat.pos_of_ne_zero hn) hfits reserving).2 hreserving
    rcases hreserve : budget.reserve n reserving with ⟨reached, answer⟩
    rw [hreserve] at hok hadds
    obtain rfl : answer = .ok () := hok
    dsimp only
    cases before_send with
    | error error =>
      rw [if_neg (by simp [Except.isOk, Except.toBool])]
      exact AddsOpen.writes (hadds.to rfl rfl rfl)
    | ok =>
      cases send with
      | ok answer =>
        rw [if_neg (by simp [Except.isOk, Except.toBool])]
        exact AddsOpen.writes (hadds.to rfl rfl rfl)
      | error error =>
        rw [if_pos (by simp [Except.isOk, Except.toBool, hfits])]
        generalize hlogged :
          ((reached.log (.reserved n)).log (.before_send n)).log (.send n) = logged
        have hfirst : AddsOpen budget logged := hlogged ▸ hadds.to rfl rfl rfl
        have hsecond : AddsOpen logged (logged.record_send_failure n failing).1 :=
          (write_event_adds_open _ .send_failed (some n) hfailing).from rfl rfl
        rcases hfailure : logged.record_send_failure n failing with ⟨_, _ | _⟩ <;>
          rw [hfailure] at hsecond <;> exact .line hfirst.writes hsecond
  · obtain ⟨error, herror⟩ :=
      (reserve_refuses budget (.inr (by simpa using hfits)) reserving).2
    rw [if_neg (fun h => hfits h.1)]
    rcases hreserve : budget.reserve n reserving with ⟨reached, answer⟩
    rw [hreserve] at herror hadds
    obtain rfl : answer = .error error := herror
    exact hadds.writes

theorem connect_writes (h : disk.Sound) :
    Writes budget true (lines budget (.record_initial_connect_attempt disk))
      (step budget (.record_initial_connect_attempt disk)) := by
  unfold lines step record_initial_connect_attempt
  dsimp only
  split
  · rw [h.2]
    exact .ledger rfl rfl rfl
  · set counted : EnabledProviderInputBudget I :=
      { budget with initial_connect_attempts := fetch_add budget.initial_connect_attempts 1 }
    have hadds : AddsOpen budget
        (counted.write_event .initial_connect_attempt none false disk).1 :=
      (write_event_adds_open counted .initial_connect_attempt none h).from rfl rfl
    rcases hevent : counted.write_event .initial_connect_attempt none false disk with
      ⟨reached, _ | _⟩ <;> rw [hevent] at hadds <;>
        exact AddsOpen.writes (hadds.to rfl rfl rfl)

theorem reconnect_writes (trigger : String) (h : disk.Sound) :
    Writes budget (reopens budget (.authorize_reconnect_before_connect trigger disk))
      (lines budget (.authorize_reconnect_before_connect trigger disk))
      (step budget (.authorize_reconnect_before_connect trigger disk)) := by
  unfold reopens lines step authorize_reconnect_before_connect
  dsimp only
  by_cases hstrict : budget.strict_paid_authority_enabled = true
  · by_cases hknown : is_reconnect_trigger (trimmed trigger) = true
    · rw [if_pos ⟨hstrict, hknown⟩, if_neg (not_not.mpr hstrict), if_neg (not_not.mpr hknown),
        hstrict, hknown]
      set named := budget.set_terminal_reason ("reconnect-forbidden-" ++ trimmed trigger)
      have hadds : AddsOpen budget (named.write_event .reconnect_rejected none false disk).1 :=
        (write_event_adds_open named .reconnect_rejected none h).from rfl rfl
      rcases hevent : named.write_event .reconnect_rejected none false disk with
        ⟨reached, _ | _⟩ <;> rw [hevent] at hadds <;>
          exact AddsOpen.writes (hadds.to rfl rfl rfl)
    · rw [if_neg (fun hboth => hknown hboth.2), if_neg (not_not.mpr hstrict), if_pos hknown,
        Bool.eq_false_iff.mpr hknown, Bool.and_false]
      exact .same rfl rfl rfl
  · rw [if_neg (fun hboth => hstrict hboth.1), if_pos hstrict, Bool.eq_false_iff.mpr hstrict,
      Bool.false_and]
    exact .same rfl rfl rfl

theorem finalize_adds (reason : String) (hopen : budget.finalized = false) (h : disk.Sound) :
    ∃ line, Adds line budget (budget.finalize reason disk).1 ∧ line.finalized = true ∧
      (budget.finalize reason disk).1.finalized = true := by
  unfold finalize
  rw [hopen, if_neg Bool.false_ne_true]
  set closed := { budget with finalized := true }.set_terminal_reason reason
  obtain ⟨line, hadds, hflag, hsame⟩ := write_event_adds closed .finalized none true h
  exact ⟨line, ⟨hadds.1, hadds.2, hadds.3, hadds.4, hadds.5, hadds.6⟩, hflag, hsame⟩

theorem step_writes {op : BudgetOp} (h : op.Sound) :
    Writes budget (reopens budget op) (lines budget op) (step budget op) ∨
      (lines budget op = 1 ∧ budget.finalized = false ∧ ∃ line, Adds line budget (step budget op) ∧
        line.finalized = true ∧ (step budget op).finalized = true) := by
  cases op with
  | attempt_send _ before_send send _ _ =>
    exact .inl (attempt_send_writes budget before_send send h.1 h.2)
  | record_initial_connect_attempt disk => exact .inl (connect_writes budget h)
  | authorize_reconnect_before_connect trigger disk =>
    exact .inl (reconnect_writes budget trigger h)
  | record_reconnect disk =>
    have hadds := write_event_adds_open
      { budget with reconnect_count := fetch_add budget.reconnect_count 1 } .reconnect none h
    exact .inl (AddsOpen.writes (hadds.from rfl rfl))
  | finalize reason disk =>
    by_cases hflag : budget.finalized = true
    · left
      have hsame : step budget (.finalize reason disk) = budget := by
        simp [step, finalize, hflag]
      rw [hsame]
      simpa [reopens, lines, hflag] using
        (Writes.same rfl rfl rfl : Writes budget false 0 budget)
    · have hopen : budget.finalized = false := by simpa using hflag
      exact .inr ⟨by simp [lines, hopen], hopen, finalize_adds budget reason hopen h⟩

end

/-! ## What a journal keeps -/

/-- The sequence numbers are those of a `u64`. -/
structure Numbered (journal : ProviderInputBudgetJournal I) : Prop where
  next : journal.next_sequence ≤ U64_MAX
  lines : ∀ line ∈ journal.records, line.sequence ≤ U64_MAX

/-- A journal whose numbers have not run out, and that is closed when the budget is finalized. -/
structure Kept (budget : EnabledProviderInputBudget I) : Prop where
  sequence : budget.journal.records.map (·.sequence) =
    List.range' 1 budget.journal.records.length
  next : budget.journal.next_sequence = saturating_add budget.journal.records.length 1
  occurred : (budget.journal.records.map (·.occurred_at_ms)).Pairwise (· ≤ ·)
  last : ∀ line ∈ budget.journal.records,
    line.occurred_at_ms ≤ budget.journal.last_occurred_at_ms
  unfinished : budget.finalized = false →
    ∀ line ∈ budget.journal.records, line.finalized = false
  finished : budget.finalized = true → ∃ earlier line,
    budget.journal.records = earlier ++ [line] ∧ (∀ other ∈ earlier, other.finalized = false) ∧
      line.finalized = true ∧ budget.final_ledger = some line.toSnapshot

section

variable {first second : EnabledProviderInputBudget I} {line : JournalRecord I} {wrote : Bool}
  {k : Nat}

theorem Adds.numbered (hadds : Adds line first second) (h : Numbered first.journal) :
    Numbered second.journal where
  next := by
    rw [hadds.next]
    exact min_le_right _ _
  lines := by
    rw [hadds.records]
    intro other hin
    rcases List.mem_append.mp hin with hold | hnew
    · exact h.lines other hold
    · obtain rfl := List.mem_singleton.mp hnew
      exact hadds.sequence ▸ h.next

theorem Adds.length (hadds : Adds line first second) :
    second.journal.records.length = first.journal.records.length + 1 := by
  rw [hadds.records, List.length_append, List.length_singleton]

section

variable (hwrites : Writes first wrote k second)

include hwrites

theorem Writes.numbered (h : Numbered first.journal) : Numbered second.journal := by
  induction hwrites with
  | same hjournal => exact hjournal ▸ h
  | ledger hjournal => exact hjournal ▸ h
  | line _ hadds ih =>
    obtain ⟨line, hadds, -⟩ := hadds
    exact hadds.numbered ih

theorem Writes.records :
    ∃ new, second.journal.records = first.journal.records ++ new ∧ new.length = k := by
  induction hwrites with
  | same hjournal => exact ⟨[], by simp [hjournal], rfl⟩
  | ledger hjournal => exact ⟨[], by simp [hjournal], rfl⟩
  | line _ hadds ih =>
    obtain ⟨line, hadds, -⟩ := hadds
    obtain ⟨new, hnew, hlength⟩ := ih
    exact ⟨new ++ [line], by rw [hadds.records, hnew, List.append_assoc], by simp [hlength]⟩

theorem Writes.finalized : second.finalized = first.finalized := by
  induction hwrites with
  | same _ _ hfinalized => exact hfinalized
  | ledger _ _ hfinalized => exact hfinalized
  | line _ hadds ih =>
    obtain ⟨line, -, -, hsame⟩ := hadds
    exact hsame.trans ih

end

/-- Whoever writes the ledger leaves it unfinished. -/
theorem Writes.reopened (hwrites : Writes first true k second) :
    second.final_ledger.map (·.finalized) = some false := by
  cases hwrites with
  | ledger _ hledger => exact hledger
  | line _ hadds =>
    obtain ⟨line, hadds, hopen, -⟩ := hadds
    rw [hadds.ledger, Option.map_some, hopen]

theorem Kept.adds (h : Kept first) (hopen : ∀ other ∈ first.journal.records, other.finalized = false)
    (hroom : first.journal.records.length + 1 ≤ U64_MAX) (hadds : Adds line first second)
    (hflag : second.finalized = line.finalized) : Kept second where
  sequence := by
    have hnumber : line.sequence = first.journal.records.length + 1 := by
      rw [hadds.sequence, h.next]
      exact min_eq_left hroom
    rw [hadds.length, List.range'_concat, ← h.sequence, hadds.records]
    simp [hnumber, Nat.add_comm]
  next := by
    rw [hadds.next, h.next, hadds.length]
    unfold saturating_add
    omega
  occurred := by
    rw [hadds.records, List.map_append, List.pairwise_append]
    refine ⟨h.occurred, List.pairwise_singleton _ _, fun _ hold b hnew => ?_⟩
    obtain ⟨other, hin, rfl⟩ := List.mem_map.mp hold
    obtain rfl : b = line.occurred_at_ms := by simpa using hnew
    exact (h.last other hin).trans hadds.occurred
  last := by
    rw [hadds.records, hadds.last]
    intro other hin
    rcases List.mem_append.mp hin with hold | hnew
    · exact (h.last other hold).trans hadds.occurred
    · rw [List.mem_singleton.mp hnew]
  unfinished hfree := by
    rw [hadds.records]
    intro other hin
    rcases List.mem_append.mp hin with hold | hnew
    · exact hopen other hold
    · rw [List.mem_singleton.mp hnew, ← hflag, hfree]
  finished hclosed :=
    ⟨first.journal.records, line, hadds.records, hopen, hflag.symm.trans hclosed, hadds.ledger⟩

theorem Writes.kept (hwrites : Writes first wrote k second) (h : Kept first)
    (hfree : first.finalized = true → wrote = false)
    (hroom : first.journal.records.length + k ≤ U64_MAX) : Kept second := by
  induction hwrites with
  | same hjournal hledger hfinalized =>
    exact ⟨hjournal ▸ h.1, hjournal ▸ h.2, hjournal ▸ h.3, hjournal ▸ h.4,
      hfinalized ▸ hjournal ▸ h.5, hledger ▸ hfinalized ▸ hjournal ▸ h.6⟩
  | ledger hjournal hledger hfinalized =>
    have hopen : first.finalized = false := by simpa using hfree
    refine ⟨hjournal ▸ h.1, hjournal ▸ h.2, hjournal ▸ h.3, hjournal ▸ h.4,
      hfinalized ▸ hjournal ▸ h.5, fun hclosed => ?_⟩
    rw [hfinalized, hopen] at hclosed
    cases hclosed
  | @line wrote k middle second hmiddle hadds ih =>
    have hopen : first.finalized = false := by simpa using hfree
    obtain ⟨_, hnew, hlength⟩ := hmiddle.records
    obtain ⟨line, hadds, hline, hsame⟩ := hadds
    have hkept : Kept middle := ih (fun hclosed => by simp [hopen] at hclosed) (by omega)
    have hfinalized : middle.finalized = false := hmiddle.finalized.trans hopen
    refine hkept.adds (hkept.unfinished hfinalized) ?_ hadds ?_
    · rw [hnew, List.length_append, hlength]
      omega
    · rw [hsame, hfinalized, hline]

theorem Kept.sealed (h : Kept first) : Sealed first where
  sequence := h.sequence
  occurred := h.occurred
  closed earlier line later heq hline := by
    cases hflag : first.finalized with
    | false =>
      have hopen := h.unfinished hflag line (by simp [heq])
      rw [hline] at hopen
      cases hopen
    | true =>
      obtain ⟨_, _, hrecords, hothers, -, hledger⟩ := h.finished hflag
      rw [hrecords] at heq
      rcases at_the_end heq with ⟨-, rfl, rfl⟩ | ⟨_, -, rfl⟩
      · exact ⟨rfl, _, hledger, hline, rfl⟩
      · have hopen := hothers line (by simp)
        rw [hline] at hopen
        cases hopen

/-- A finalized journal has exactly one line that says so. -/
theorem Kept.one_line (h : Kept first) (hflag : first.finalized = true) :
    first.journal.records.countP (·.finalized) = 1 := by
  obtain ⟨earlier, _, hrecords, hothers, hline, -⟩ := h.finished hflag
  have hnone : earlier.countP (·.finalized) = 0 := by
    rw [List.countP_eq_zero]
    intro other hin
    simp [hothers other hin]
  rw [hrecords, List.countP_append, hnone]
  simp [hline]

/-- A journal with more lines than there are numbers cannot be numbered. -/
theorem Numbered.runs_out (h : Numbered first.journal)
    (hlong : U64_MAX < first.journal.records.length) : ¬ Sealed first := by
  intro hsealed
  have hlast : first.journal.records.length ∈
      first.journal.records.map (·.sequence) := by
    rw [hsealed.sequence, List.mem_range'_1]
    omega
  obtain ⟨line, hin, _⟩ := List.mem_map.mp hlast
  have hle := h.lines line hin
  omega

/-- Writing to a budget that is finalized opens its ledger again. -/
theorem Writes.breaks (hwrites : Writes first true k second) (h : Kept first)
    (hclosed : first.finalized = true) : ¬ Sealed second := by
  intro hsealed
  obtain ⟨earlier, line, hrecords, -, hline, -⟩ := h.finished hclosed
  obtain ⟨new, hnew, -⟩ := hwrites.records
  rw [hrecords, List.append_assoc] at hnew
  obtain ⟨-, _, hledger, hflag, -⟩ := hsealed.closed earlier line new hnew hline
  have hopen := hwrites.reopened
  rw [hledger, Option.map_some, hflag] at hopen
  cases hopen

theorem step_numbered {op : BudgetOp} (hsound : op.Sound) (h : Numbered first.journal) :
    Numbered (step first op).journal ∧ (step first op).journal.records.length =
      first.journal.records.length + lines first op := by
  rcases step_writes first hsound with hwrites | ⟨hone, -, _, hadds, -⟩
  · obtain ⟨_, hnew, hlength⟩ := hwrites.records
    exact ⟨hwrites.numbered h, by rw [hnew, List.length_append, hlength]⟩
  · exact ⟨hadds.numbered h, by rw [hadds.length, hone]⟩

theorem step_kept {op : BudgetOp} (hsound : op.Sound) (h : Kept first)
    (hop : keeps_seal first op) : Kept (step first op) := by
  rcases step_writes first hsound with hwrites | ⟨hone, hopen, _, hadds, hline, hflag⟩
  · exact hwrites.kept h hop.1 hop.2
  · have hroom := hop.2
    rw [hone] at hroom
    exact h.adds (h.unfinished hopen) hroom hadds (hflag.trans hline.symm)

/-- A step keeps the seal exactly when it meets the condition. -/
theorem step_sealed_iff {op : BudgetOp} (hsound : op.Sound) (h : Kept first)
    (hnumbered : Numbered first.journal) : Sealed (step first op) ↔ keeps_seal first op := by
  constructor
  · intro hsealed
    constructor
    · intro hclosed
      by_contra hwrote
      rcases step_writes first hsound with hwrites | ⟨-, hopen, -⟩
      · rw [Bool.eq_true_of_not_eq_false hwrote] at hwrites
        exact hwrites.breaks h hclosed hsealed
      · rw [hclosed] at hopen
        cases hopen
    · by_contra hlong
      obtain ⟨hnext, _⟩ := step_numbered hsound hnumbered
      exact hnext.runs_out (by omega) hsealed
  · intro hop
    exact (step_kept hsound h hop).sealed

end

section

variable {identity : I} {paid incident single : Bool} {max_samples : Nat} {disk : Disk}
  {budget : EnabledProviderInputBudget I}

/-- An event is answered with `Ok` only by a sound disk. -/
theorem sound_of_write_event {event : Event} {attempted_samples : Option Nat} {finalized : Bool}
    (h : (budget.write_event event attempted_samples finalized disk).2 = .ok ()) : disk.Sound := by
  obtain ⟨_, journal, ledger⟩ := disk
  cases journal with
  | written =>
    cases ledger with
    | written => exact ⟨rfl, rfl⟩
    | _ => cases h
  | _ => cases h

theorem make_kept (h : make identity paid incident single max_samples disk = .ok budget) :
    Kept budget ∧ Numbered budget.journal := by
  unfold make at h
  dsimp only at h
  split at h
  · rename_i heq
    obtain rfl := Except.ok.inj h
    have hsound := sound_of_write_event (congrArg Prod.snd heq)
    obtain ⟨_, hadds, hline, hflag⟩ := write_event_adds _ .initialized none false hsound
    rw [heq] at hadds hflag
    refine ⟨Kept.adds ⟨rfl, rfl, ?_, ?_, ?_, ?_⟩ ?_ ?_ hadds (hflag.trans hline.symm),
      hadds.numbered ⟨?_, ?_⟩⟩
    all_goals simp [U64_MAX]
  · cases h

/-- The last operation of every budget: it is dropped. -/
def drop_at (now_unix_ms : Nat) : BudgetOp := .finalize "worker-drop" (sound_at now_unix_ms)

theorem step_drop_at (now_unix_ms : Nat) : (step budget (drop_at now_unix_ms)).finalized = true := by
  cases hflag : budget.finalized with
  | true => simp [drop_at, step, finalize, hflag]
  | false =>
    obtain ⟨-, -, -, hclosed⟩ := finalize_adds budget "worker-drop" hflag
      (show (sound_at now_unix_ms).Sound from ⟨rfl, rfl⟩)
    exact hclosed

/-- In a life without a fault the journal and the ledger are sealed in every state, and one line is
finalized at its end, exactly when a finalized budget is left alone and the numbers suffice. -/
theorem the_seal_holds_iff_nothing_is_written_after_it
    (hmake : make identity paid incident single max_samples disk = .ok budget)
    (ops : List BudgetOp) (hsound : ∀ op ∈ ops, op.Sound) (now_unix_ms : Nat) :
    (Sealed budget ∧
      Along step (fun reached op => Sealed (step reached op)) budget (ops ++ [drop_at now_unix_ms]) ∧
      (run step budget (ops ++ [drop_at now_unix_ms])).journal.records.countP (·.finalized) = 1) ↔
    Along step keeps_seal budget (ops ++ [drop_at now_unix_ms]) := by
  have hinv := make_kept hmake
  have hlife : ∀ op ∈ ops ++ [drop_at now_unix_ms], op.Sound := by
    intro op hin
    rcases List.mem_append.mp hin with hop | hdrop
    · exact hsound op hop
    · rw [List.mem_singleton.mp hdrop]
      exact ⟨rfl, rfl⟩
  have hside : Along step (fun _ op => op.Sound) budget (ops ++ [drop_at now_unix_ms]) :=
    Along.of_mem hlife budget
  have hsame : Along step (fun reached op => Sealed (step reached op)) budget
      (ops ++ [drop_at now_unix_ms]) ↔
      Along step keeps_seal budget (ops ++ [drop_at now_unix_ms]) := by
    refine Along.congr (fun reached => Kept reached ∧ Numbered reached.journal) hinv hside ?_ ?_
    · intro reached op hreached hop
      exact step_sealed_iff hop hreached.1 hreached.2
    · intro reached op hreached hop hsealed
      have hkeeps := (step_sealed_iff hop hreached.1 hreached.2).mp hsealed
      exact ⟨step_kept hop hreached.1 hkeeps, (step_numbered hop hreached.2).1⟩
  refine ⟨fun h => hsame.mp h.2.1, fun h => ⟨hinv.1.sealed, hsame.mpr h, ?_⟩⟩
  have hend : Kept (run step budget (ops ++ [drop_at now_unix_ms])) :=
    (h.and_forall hlife).keeps Kept (fun _ _ hkept hop => step_kept hop.1 hkept hop.2) hinv.1
  refine hend.one_line ?_
  rw [run_snoc]
  exact step_drop_at now_unix_ms

end

/-- A session that sends six samples, is finalized and then dropped. -/
def six_samples : List BudgetOp :=
  [.record_initial_connect_attempt (sound_at 6),
    .attempt_send 6 (.ok ()) (.ok ()) (sound_at 7) (sound_at 7),
    .finalize "worker-completed" (sound_at 8)]

theorem six_samples_stay_sealed :
    make () true false false 10 (sound_at 5) = .ok ten_samples ∧
      (∀ op ∈ six_samples, op.Sound) ∧
      (run step ten_samples (six_samples ++ [drop_at 9])).journal.records.countP
        (·.finalized) = 1 :=
  ⟨rfl, by decide, ((the_seal_holds_iff_nothing_is_written_after_it
    (show make () true false false 10 (sound_at 5) = .ok ten_samples from rfl) six_samples
    (by decide) 9).mpr (by decide)).2.2⟩

/-- A sample that is sent after the end: its line follows the finalized one, and the ledger says
that the session goes on. -/
theorem a_late_send_breaks_the_seal :
    let ops : List BudgetOp := [.finalize "worker-completed" (sound_at 6),
      .attempt_send 1 (.ok ()) (.ok ()) (sound_at 7) (sound_at 7)]
    make () true false false 10 (sound_at 5) = .ok ten_samples ∧ (∀ op ∈ ops, op.Sound) ∧
      (run step ten_samples ops).journal.records.map (·.finalized) = [false, true, false] ∧
      (run step ten_samples ops).final_ledger.map (·.finalized) = some false ∧
      ¬ Sealed (run step ten_samples ops) := by
  refine ⟨rfl, by decide, by decide, by decide, fun hsealed => ?_⟩
  have hclosed := hsealed.closed [ten_samples.journal.records.head (by decide)] _ _ rfl rfl
  cases hclosed.1

end omni_translate.provider_input_budget

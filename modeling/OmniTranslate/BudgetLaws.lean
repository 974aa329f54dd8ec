-- The laws of the provider input budget: that every sample is charged before it is sent, and when
-- the journal and the ledger stay sealed. The budget spends an allowance; what it may spend is said
-- without its files.
import OmniTranslate.Places
import OmniTranslate.ProviderInputBudget
import Mathlib.Algebra.Order.BigOperators.Group.List

namespace omni_translate.provider_input_budget

open places runs EnabledProviderInputBudget

variable {I T E : Type}

/-! ## The allowance -/

/-- What is left of a budget without its files. -/
structure Allowance where
  strict : Bool
  max_samples : Nat
  charged : Nat
  connects : Nat
  history : List Act

def allowance (budget : EnabledProviderInputBudget I) : Allowance where
  strict := budget.strict_paid_authority_enabled
  max_samples := budget.max_samples
  charged := budget.total_attempted_samples
  connects := budget.initial_connect_attempts
  history := budget.history

def admitted_count : Act → Option Nat
  | .admitted sample_count => some sample_count
  | _ => none

def reserved_count : Act → Option Nat
  | .reserved sample_count => some sample_count
  | _ => none

def sent_count : Act → Option Nat
  | .send sample_count => some sample_count
  | _ => none

/-- The sample counts by which the total was raised. -/
def admitted (history : List Act) : List Nat := history.filterMap admitted_count

/-- The sample counts whose reservation was answered with `Ok`. -/
def reserved (history : List Act) : List Nat := history.filterMap reserved_count

/-- The sample counts that were handed to `send`. -/
def sent (history : List Act) : List Nat := history.filterMap sent_count

@[simp] theorem admitted_append (first second : List Act) :
    admitted (first ++ second) = admitted first ++ admitted second := List.filterMap_append

@[simp] theorem reserved_append (first second : List Act) :
    reserved (first ++ second) = reserved first ++ reserved second := List.filterMap_append

@[simp] theorem sent_append (first second : List Act) :
    sent (first ++ second) = sent first ++ sent second := List.filterMap_append

/-- A connection, and nothing that is counted in samples. -/
def Silent (acts : List Act) : Prop := acts = [] ∨ acts = [.connect] ∨ acts = [.reconnect]

/-- What an admitted attempt does. It goes no further than the charge only if a file fails. -/
inductive Attempt (sound : Prop) (sample_count : Nat) : List Act → Prop
  | unwritten (h : ¬ sound) : Attempt sound sample_count [.admitted sample_count]
  | withheld : Attempt sound sample_count
      [.admitted sample_count, .reserved sample_count, .before_send sample_count]
  | handed : Attempt sound sample_count [.admitted sample_count, .reserved sample_count,
      .before_send sample_count, .send sample_count]

/-- How an allowance is spent. -/
inductive Spends (sound : Prop) (a : Allowance) : Allowance → Prop
  | nothing : Spends sound a a
  | samples (sample_count : Nat) (acts : List Act) (hacts : Attempt sound sample_count acts)
      (hfits : a.charged + sample_count ≤ a.max_samples) :
      Spends sound a
        { a with charged := a.charged + sample_count, history := a.history ++ acts }
  | connect (acts : List Act) (hacts : acts = [] ∨ acts = [.connect])
      (hfirst : a.strict = true → a.connects = 0) :
      Spends sound a
        { a with connects := fetch_add a.connects 1, history := a.history ++ acts }
  | reconnect (hfree : a.strict = false) :
      Spends sound a { a with history := a.history ++ [.reconnect] }

/-- A send comes right after its own reservation and nothing else comes between. -/
def Reserves (history : List Act) : Prop :=
  ∀ before sample_count after, history = before ++ .send sample_count :: after →
    ∃ earlier, before = earlier ++
      [.admitted sample_count, .reserved sample_count, .before_send sample_count]

structure Accounted (a : Allowance) : Prop where
  charged : a.charged = (admitted a.history).sum
  bounded : a.charged ≤ a.max_samples
  reserves : Reserves a.history
  handed : (sent a.history).sum ≤ (admitted a.history).sum
  connects : a.strict = true → a.history.count .connect ≤ a.connects ∧ a.connects ≤ 1
  reconnects : a.strict = true → .reconnect ∉ a.history

section

variable {sound : Prop} {n : Nat} {acts history : List Act}

theorem Attempt.admitted (h : Attempt sound n acts) : admitted acts = [n] := by
  cases h <;> rfl

theorem Attempt.sent_le (h : Attempt sound n acts) : (sent acts).sum ≤ n := by
  cases h <;> simp [sent, sent_count, List.filterMap_cons]

theorem Attempt.reserved (hsound : sound) (h : Attempt sound n acts) : reserved acts = [n] := by
  cases h with
  | unwritten h => exact absurd hsound h
  | withheld => rfl
  | handed => rfl

theorem Attempt.mono {weaker : Prop} (hweaker : weaker → sound) (h : Attempt sound n acts) :
    Attempt weaker n acts := by
  cases h with
  | unwritten h => exact .unwritten fun hw => h (hweaker hw)
  | withheld => exact .withheld
  | handed => exact .handed

theorem Silent.counts (h : Silent acts) : admitted acts = [] ∧ reserved acts = [] ∧ sent acts = [] ∧
    ∀ m, Act.send m ∉ acts := by
  rcases h with rfl | rfl | rfl <;> simp [admitted, reserved, sent, admitted_count, reserved_count,
    sent_count, List.filterMap_cons]

theorem Attempt.no_connection (h : Attempt sound n acts) :
    acts.count .connect = 0 ∧ Act.reconnect ∉ acts := by
  cases h <;> simp

theorem Reserves.append (h : Reserves history) (hnone : ∀ m, Act.send m ∉ acts) :
    Reserves (history ++ acts) := by
  intro before m after heq
  rcases List.append_eq_append_iff.mp heq with ⟨mid, _, hacts⟩ | ⟨mid, hhistory, hrest⟩
  · exact absurd (hacts ▸ by simp) (hnone m)
  · cases mid with
    | nil => exact absurd (List.nil_append acts ▸ hrest ▸ by simp) (hnone m)
    | cons _ mid =>
      obtain ⟨rfl, -⟩ := List.cons.inj hrest
      exact h before m mid hhistory

/-- The send of an attempt has its reservation before it. -/
theorem Reserves.send (h : Reserves history) (n : Nat) :
    Reserves (history ++ [.admitted n, .reserved n, .before_send n, .send n]) := by
  have hbefore : Reserves (history ++ [.admitted n, .reserved n, .before_send n]) :=
    h.append (by simp)
  intro before m after heq
  have hlast : (history ++ [.admitted n, .reserved n, .before_send n]) ++ [.send n] =
      before ++ .send m :: after := by simpa using heq
  rcases at_the_end hlast with ⟨rfl, hsend, -⟩ | ⟨mid, -, hsame⟩
  · obtain rfl : m = n := by simpa using hsend
    exact ⟨history, rfl⟩
  · exact hbefore before m mid hsame

theorem Attempt.reserves (hacts : Attempt sound n acts) (h : Reserves history) :
    Reserves (history ++ acts) := by
  cases hacts with
  | unwritten => exact h.append (by simp)
  | withheld => exact h.append (by simp)
  | handed => exact h.send n

/-- Connections do not change what is accounted for the samples. -/
theorem Accounted.silent {a : Allowance} (h : Accounted a) (hacts : Silent acts) {connects : Nat}
    (hconnects : a.strict = true →
      (a.history ++ acts).count .connect ≤ connects ∧ connects ≤ 1)
    (hreconnects : a.strict = true → Act.reconnect ∉ a.history ++ acts) :
    Accounted { a with connects, history := a.history ++ acts } := by
  obtain ⟨hadmitted, -, hsent, hnone⟩ := hacts.counts
  refine ⟨?_, h.bounded, h.reserves.append hnone, ?_, hconnects, hreconnects⟩
  · simpa [hadmitted] using h.charged
  · simpa [hadmitted, hsent] using h.handed

/-- Whatever an allowance is spent on, it stays accounted. -/
theorem Accounted.spends {a b : Allowance} (h : Accounted a) (hspends : Spends sound a b) :
    Accounted b := by
  cases hspends with
  | nothing => exact h
  | samples _ acts hacts hfits =>
    refine ⟨?_, hfits, hacts.reserves h.reserves, ?_, fun hstrict => ?_, fun hstrict => ?_⟩
    · simp [hacts.admitted, h.charged]
    · have hle := h.handed
      have hnew := hacts.sent_le
      simp only [admitted_append, sent_append, hacts.admitted, List.sum_append, List.sum_singleton]
      omega
    · simpa [hacts.no_connection.1] using h.connects hstrict
    · simpa [hacts.no_connection.2] using h.reconnects hstrict
  | connect acts hacts hfirst =>
    have hsilent : Silent acts := hacts.imp_right Or.inl
    refine h.silent hsilent (fun hstrict => ?_) (fun hstrict => ?_)
    · have hzero := hfirst hstrict
      have hcount := (h.connects hstrict).1
      rcases hacts with rfl | rfl <;> simp [hzero, fetch_add] at hcount ⊢ <;> omega
    · have hold := h.reconnects hstrict
      rcases hacts with rfl | rfl <;> simpa using hold
  | reconnect hfree =>
    have hsilent : Silent [.reconnect] := Or.inr (Or.inr rfl)
    have hnever : ¬ a.strict = true := by simp [hfree]
    exact h.silent hsilent (fun hstrict => absurd hstrict hnever)
      (fun hstrict => absurd hstrict hnever)

end

/-! ## The budget spends its allowance -/

section

variable (budget : EnabledProviderInputBudget I)

@[simp] theorem log_allowance (act : Act) : allowance (budget.log act) =
    { allowance budget with history := (allowance budget).history ++ [act] } := rfl

@[simp] theorem set_terminal_reason_allowance (reason : String) :
    allowance (budget.set_terminal_reason reason) = allowance budget := rfl

@[simp] theorem write_final_snapshot_allowance (finalized : Bool) (write : LedgerWrite) :
    allowance (budget.write_final_snapshot finalized write).1 = allowance budget := by
  cases write <;> rfl

@[simp] theorem write_event_allowance (event : Event) (attempted_samples : Option Nat)
    (finalized : Bool) (disk : Disk) :
    allowance (budget.write_event event attempted_samples finalized disk).1 =
      allowance budget := by
  unfold write_event
  cases disk.journal with
  | written => exact write_final_snapshot_allowance _ finalized disk.ledger
  | _ => rfl

theorem write_event_sound (event : Event) (attempted_samples : Option Nat) (finalized : Bool)
    {disk : Disk} (h : disk.Sound) :
    (budget.write_event event attempted_samples finalized disk).2 = .ok () := by
  simp [write_event, write_final_snapshot, h.1, h.2]

theorem can_append_iff (n : Nat) : budget.can_append n = true ↔
    budget.total_attempted_samples + n ≤ U64_MAX ∧
      budget.total_attempted_samples + n ≤ budget.max_samples := by
  unfold can_append checked_add
  by_cases hfits : budget.total_attempted_samples + n ≤ U64_MAX <;> simp [hfits]

/-- The reservation makes the same check as `can_append`. -/
theorem reserve_check (n : Nat) :
    (checked_add budget.total_attempted_samples n).filter (· ≤ budget.max_samples) =
      if budget.can_append n then some (budget.total_attempted_samples + n) else none := by
  unfold can_append checked_add
  by_cases hfits : budget.total_attempted_samples + n ≤ U64_MAX <;>
    simp [hfits, Option.filter]

theorem reserve_refuses {n : Nat} (h : n = 0 ∨ budget.can_append n = false) (disk : Disk) :
    allowance (budget.reserve n disk).1 = allowance budget ∧
      ∃ error, (budget.reserve n disk).2 = .error error := by
  unfold reserve
  by_cases hzero : n = 0
  · rw [if_pos hzero]
    exact ⟨rfl, _, rfl⟩
  · have hfull : budget.can_append n = false := h.resolve_left hzero
    rw [if_neg hzero, reserve_check, hfull]
    simp only [Bool.false_eq_true, if_false]
    set rejected := { budget with budget_exceeded := true }.set_terminal_reason "budget-exceeded"
    have hsame : allowance (rejected.write_event .reserve_rejected (some n) false disk).1 =
        allowance budget := write_event_allowance rejected .reserve_rejected (some n) false disk
    split
    · rename_i heq
      rw [heq] at hsame
      exact ⟨hsame, _, rfl⟩
    · rename_i heq
      rw [heq] at hsame
      exact ⟨hsame, _, rfl⟩

theorem reserve_admits {n : Nat} (hpos : 0 < n) (h : budget.can_append n = true) (disk : Disk) :
    allowance (budget.reserve n disk).1 = { allowance budget with
      charged := budget.total_attempted_samples + n
      history := budget.history ++ [.admitted n] } ∧
    (disk.Sound → (budget.reserve n disk).2 = .ok ()) := by
  unfold reserve
  rw [if_neg (by omega), reserve_check, h]
  exact ⟨write_event_allowance _ .reserved (some n) false disk, write_event_sound _ _ _ _⟩

@[simp] theorem record_send_failure_allowance (n : Nat) (disk : Disk) :
    allowance (budget.record_send_failure n disk).1 = allowance budget :=
  write_event_allowance _ .send_failed (some n) false disk

/-- What an attempt does when its samples fit: they are charged, however it goes on. -/
theorem attempt_send_admits {n : Nat} (hpos : 0 < n) (h : budget.can_append n = true)
    (before_send : Except String Unit) (send : Except E T) (reserving failing : Disk) :
    ∃ acts, Attempt reserving.Sound n acts ∧
      allowance (budget.attempt_send n before_send send reserving failing).1 =
        { allowance budget with
          charged := budget.total_attempted_samples + n
          history := budget.history ++ acts } := by
  obtain ⟨hcharged, hsound⟩ := reserve_admits budget hpos h reserving
  unfold attempt_send
  rcases hreserve : budget.reserve n reserving with ⟨reached, _ | _⟩
  · have hfault : ¬ reserving.Sound := fun hs => by simp [hreserve] at hsound; exact hsound hs
    rw [hreserve] at hcharged
    exact ⟨_, .unwritten hfault, hcharged⟩
  · rw [hreserve] at hcharged
    cases before_send with
    | error error => exact ⟨_, .withheld, by simp [hcharged]⟩
    | ok =>
      refine ⟨_, .handed, ?_⟩
      dsimp only
      generalize hlogged : ((reached.log (.reserved n)).log (.before_send n)).log (.send n) = logged
      have hhanded : allowance logged = { allowance budget with
          charged := budget.total_attempted_samples + n
          history := budget.history ++
            [.admitted n, .reserved n, .before_send n, .send n] } := by
        simp [← hlogged, hcharged]
      cases send with
      | ok _ => exact hhanded
      | error error =>
        rw [← record_send_failure_allowance logged n failing] at hhanded
        rcases hfailure : logged.record_send_failure n failing with ⟨_, _ | _⟩ <;>
          simpa [hfailure] using hhanded

theorem attempt_send_refuses {n : Nat} (h : n = 0 ∨ budget.can_append n = false)
    (before_send : Except String Unit) (send : Except E T) (reserving failing : Disk) :
    allowance (budget.attempt_send n before_send send reserving failing).1 = allowance budget := by
  obtain ⟨hsame, _, herror⟩ := reserve_refuses budget h reserving
  unfold attempt_send
  rcases hreserve : budget.reserve n reserving with ⟨_, _ | _⟩
  · rw [hreserve] at hsame
    exact hsame
  · rw [hreserve] at herror
    cases herror

theorem connect_spends (sound : Prop) (disk : Disk) : Spends sound (allowance budget)
    (allowance (authorised .connect (budget.record_initial_connect_attempt disk))) := by
  unfold record_initial_connect_attempt
  by_cases hretry : budget.strict_paid_authority_enabled = true ∧
      1 ≤ budget.initial_connect_attempts
  · rw [if_pos hretry]
    have hsame := write_final_snapshot_allowance
      (budget.set_terminal_reason "initial-connect-retry-forbidden") false disk.ledger
    rw [set_terminal_reason_allowance] at hsame
    rw [← hsame]
    split <;> rename_i heq <;> simp only [heq, authorised] <;> exact .nothing
  · rw [if_neg hretry]
    have hfirst : (allowance budget).strict = true → (allowance budget).connects = 0 := by
      intro hstrict
      have : ¬ 1 ≤ budget.initial_connect_attempts := fun hone => hretry ⟨hstrict, hone⟩
      simp only [allowance]
      omega
    set counted : EnabledProviderInputBudget I :=
      { budget with initial_connect_attempts := fetch_add budget.initial_connect_attempts 1 }
    have hcounted : allowance (counted.write_event .initial_connect_attempt none false disk).1 =
        { allowance budget with connects := fetch_add (allowance budget).connects 1 } :=
      write_event_allowance counted .initial_connect_attempt none false disk
    rcases hevent : counted.write_event .initial_connect_attempt none false disk with
      ⟨reached, _ | _⟩
    · rw [hevent] at hcounted
      have hspends : Spends sound (allowance budget) _ := .connect [] (.inl rfl) hfirst
      simpa [authorised, hcounted] using hspends
    · rw [hevent] at hcounted
      have hspends : Spends sound (allowance budget) _ := .connect [.connect] (.inr rfl) hfirst
      simpa [authorised, hcounted] using hspends

theorem reconnect_spends (sound : Prop) (trigger : String) (disk : Disk) :
    Spends sound (allowance budget) (allowance (authorised .reconnect
      (budget.authorize_reconnect_before_connect trigger disk))) := by
  unfold authorize_reconnect_before_connect
  by_cases hstrict : budget.strict_paid_authority_enabled = true
  · rw [if_neg (not_not.mpr hstrict)]
    by_cases hknown : is_reconnect_trigger (trimmed trigger) = true
    · rw [if_neg (not_not.mpr hknown)]
      have hsame := write_event_allowance
        (budget.set_terminal_reason ("reconnect-forbidden-" ++ trimmed trigger))
        .reconnect_rejected none false disk
      rw [set_terminal_reason_allowance] at hsame
      rw [← hsame]
      split <;> rename_i heq <;> simp only [heq, authorised] <;> exact .nothing
    · rw [if_pos hknown]
      exact .nothing
  · rw [if_pos hstrict]
    exact .reconnect (by simpa [allowance] using hstrict)

theorem finalize_allowance (reason : String) (disk : Disk) :
    allowance (budget.finalize reason disk).1 = allowance budget := by
  unfold finalize
  split
  · rfl
  · exact write_event_allowance _ .finalized none true disk

/-- Every operation spends the allowance of the budget. -/
theorem step_spends (op : BudgetOp) :
    Spends op.Sound (allowance budget) (allowance (step budget op)) := by
  cases op with
  | attempt_send n before_send send reserving failing =>
    unfold step
    by_cases hfits : 0 < n ∧ budget.can_append n = true
    · obtain ⟨acts, hacts, hreached⟩ :=
        attempt_send_admits budget hfits.1 hfits.2 before_send send reserving failing
      rw [hreached]
      exact .samples n acts (hacts.mono And.left) ((can_append_iff budget n).mp hfits.2).2
    · have hrefused : n = 0 ∨ budget.can_append n = false := by
        by_cases hzero : n = 0
        · exact .inl hzero
        · exact .inr (by simpa using fun hcan => hfits ⟨Nat.pos_of_ne_zero hzero, hcan⟩)
      rw [attempt_send_refuses budget hrefused before_send send reserving failing]
      exact .nothing
  | record_initial_connect_attempt disk => exact connect_spends budget _ disk
  | authorize_reconnect_before_connect trigger disk => exact reconnect_spends budget _ trigger disk
  | record_reconnect disk =>
    have hsame : allowance (budget.record_reconnect disk).1 = allowance budget :=
      write_event_allowance _ .reconnect none false disk
    unfold step
    rw [hsame]
    exact .nothing
  | finalize _ disk =>
    unfold step
    rw [finalize_allowance]
    exact .nothing

end

/-! ## Every run is accounted -/

section

variable {sound : Prop} {a b : Allowance}

theorem Spends.same (h : Spends sound a b) :
    b.max_samples = a.max_samples ∧ b.strict = a.strict := by
  cases h <;> exact ⟨rfl, rfl⟩

theorem Spends.charged_le (h : Spends sound a b) : a.charged ≤ b.charged := by
  cases h <;> simp

/-- Without a fault each admitted count is answered with `Ok`. -/
theorem Spends.reserved (h : Spends sound a b) (hsound : sound)
    (hsame : reserved a.history = admitted a.history) :
    reserved b.history = admitted b.history := by
  cases h with
  | nothing => exact hsame
  | samples _ acts hacts => simp [hsame, hacts.reserved hsound, hacts.admitted]
  | connect acts hacts =>
    have hsilent : Silent acts := hacts.imp_right Or.inl
    simp [hsame, hsilent.counts.1, hsilent.counts.2.1]
  | reconnect =>
    have hsilent : Silent [.reconnect] := Or.inr (Or.inr rfl)
    simp [hsame, hsilent.counts.1, hsilent.counts.2.1]

end

section

variable {identity : I} {paid incident single : Bool} {max_samples : Nat} {disk : Disk}
  {budget : EnabledProviderInputBudget I}

section

variable (h : make identity paid incident single max_samples disk = .ok budget)

include h

theorem make_allowance :
    allowance budget =
      { strict := paid || incident || single, max_samples, charged := 0, connects := 0,
        history := [] } := by
  unfold make at h
  dsimp only at h
  split at h
  · rename_i heq
    obtain rfl := Except.ok.inj h
    have hsame := congrArg (fun answer => allowance answer.1) heq
    rw [write_event_allowance] at hsame
    exact hsame.symm
  · cases h

theorem run_accounted (ops : List BudgetOp) :
    Accounted (allowance (run step budget ops)) ∧
      (run step budget ops).max_samples = max_samples ∧
      (run step budget ops).strict_paid_authority_enabled = (paid || incident || single) := by
  refine run_keeps step (fun reached => Accounted (allowance reached) ∧
    (allowance reached).max_samples = max_samples ∧
    (allowance reached).strict = (paid || incident || single)) (fun reached op hreached => ?_) ?_ ops
  · have hspends := step_spends reached op
    refine ⟨hreached.1.spends hspends, ?_, ?_⟩
    · rw [hspends.same.1, hreached.2.1]
    · rw [hspends.same.2, hreached.2.2]
  · rw [make_allowance h]
    refine ⟨⟨rfl, Nat.zero_le _, ?_, le_refl _, fun _ => ⟨le_refl _, Nat.zero_le _⟩, ?_⟩, rfl, rfl⟩
    · intro before n after heq
      simp at heq
    · simp

theorem run_reserved {ops : List BudgetOp} (hsound : ∀ op ∈ ops, op.Sound) :
    reserved (run step budget ops).history = admitted (run step budget ops).history := by
  have halong : Along step (fun _ op => op.Sound) budget ops := Along.of_mem hsound budget
  refine halong.keeps (fun reached => reserved (allowance reached).history =
    admitted (allowance reached).history) (fun reached op hsame hop => ?_) ?_
  · exact (step_spends reached op).reserved hop hsame
  · rw [make_allowance h]
    rfl

end

end

/-- The budget of ten samples of a strict session, made at time 5. -/
def ten_samples : EnabledProviderInputBudget Unit where
  final_ledger := some ⟨"watch-mode-provider-input-budget-ledger", (), true, false, false, 0, 10, 0,
    0, 0, 0, false, false, none⟩
  journal := ⟨[⟨⟨"watch-mode-provider-input-budget-ledger", (), true, false, false, 0, 10, 0, 0, 0,
    0, false, false, none⟩, .initialized, 1, 5, none⟩], 2, 5⟩
  identity := ()
  strict_paid_authority := true
  incident_replay_authority := false
  local_single_session_authority := false
  max_samples := 10
  total_attempted_samples := 0
  append_attempts := 0
  send_failures := 0
  initial_connect_attempts := 0
  reconnect_count := 0
  budget_exceeded := false
  finalized := false
  terminal_reason := none
  history := []

end omni_translate.provider_input_budget

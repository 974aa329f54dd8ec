-- The watchdog of the provider's responses (`audio/omni/response_lifecycle.rs`). It holds one
-- response; the law says when that one covers every response that is outstanding.
import OmniTranslate.ResponseLedger
import OmniTranslate.Sentence
import Mathlib.Data.Finset.Basic

namespace omni_translate.response_lifecycle

open runs
open response_ledger (normalized_id)
open sentence (Instant Duration from_millis)

def from_secs (secs : Nat) : Duration := from_millis (secs * 1000)

def MIN_BASE_TIMEOUT : Duration := from_secs 5
def MAX_BASE_TIMEOUT : Duration := from_secs 30
def MIN_TOTAL_TIMEOUT : Duration := from_secs 30
def MAX_TOTAL_TIMEOUT : Duration := from_secs 90
def OMNI_CANCEL_GRACE : Duration := from_secs 2

inductive ResponseStallAction where
  | none
  | cancel (response_id : String)
  | reconnect
deriving DecidableEq

structure ResponseDeadlineBudget where
  first_output : Duration
  no_progress : Duration
  total : Duration

def clamp (d low high : Duration) : Duration := min (max d low) high

namespace ResponseDeadlineBudget

def base (timeout_ms : Nat) : Duration := clamp (from_millis timeout_ms) MIN_BASE_TIMEOUT MAX_BASE_TIMEOUT

def from_provider_timeout_ms (timeout_ms : Nat) : ResponseDeadlineBudget where
  first_output := base timeout_ms
  no_progress := base timeout_ms
  total := clamp (base timeout_ms * 3) MIN_TOTAL_TIMEOUT MAX_TOTAL_TIMEOUT

@[simp] theorem first_output_eq (timeout_ms : Nat) :
    (from_provider_timeout_ms timeout_ms).first_output = base timeout_ms := rfl

@[simp] theorem no_progress_eq (timeout_ms : Nat) :
    (from_provider_timeout_ms timeout_ms).no_progress = base timeout_ms := rfl

end ResponseDeadlineBudget

structure ResponseLifecycle where
  active : Bool
  response_id : Option String
  started_at : Option Instant
  last_progress_at : Option Instant
  output_observed : Bool
  first_output_deferred_until_input_stopped : Bool
  cancel_sent_at : Option Instant
deriving DecidableEq

namespace ResponseLifecycle

def default : ResponseLifecycle := ⟨false, none, none, none, false, false, none⟩

variable (l : ResponseLifecycle) (response_id : Option String) (now : Instant)

def begin_with_input_state (defer_first_output_until_input_stopped : Bool) : ResponseLifecycle :=
  let response_id := normalized_id response_id
  if l.active then { l with response_id := l.response_id.or response_id }
  else
    { active := true
      response_id
      started_at := some now
      last_progress_at := none
      output_observed := false
      first_output_deferred_until_input_stopped := defer_first_output_until_input_stopped
      cancel_sent_at := none }

def begin : ResponseLifecycle :=
  l.begin_with_input_state response_id now false

def progress : ResponseLifecycle :=
  { l.begin response_id now with
    output_observed := true
    first_output_deferred_until_input_stopped := false
    last_progress_at := some now }

def complete : ResponseLifecycle :=
  let response_id := normalized_id response_id
  if response_id.isSome ∧ l.response_id.isSome ∧ response_id ≠ l.response_id then l else default

def clear (_ : ResponseLifecycle) : ResponseLifecycle := default

/-- What is left of the deadlines once no cancel was sent. -/
def progress_expired (budget : ResponseDeadlineBudget) (started_at : Instant) : Bool :=
  if l.output_observed then
    l.last_progress_at.any fun progress_at => now - progress_at ≥ budget.no_progress
  else now - started_at ≥ budget.first_output

def action (budget : ResponseDeadlineBudget) (allow_cancel : Bool) : ResponseStallAction :=
  if l.active = false then .none
  else
    match l.cancel_sent_at, l.started_at with
    | some cancel_sent_at, _ => if now - cancel_sent_at ≥ OMNI_CANCEL_GRACE then .reconnect else .none
    | none, none => .none
    | none, some started_at =>
      if l.output_observed = false ∧ l.first_output_deferred_until_input_stopped then .none
      else if l.progress_expired now budget started_at = false then .none
      else
        match allow_cancel, l.response_id with
        | true, some response_id => .cancel response_id
        | _, _ => .reconnect

/-- The moment from which the deadline counts. -/
def last_seen : Option Instant := if l.output_observed then l.last_progress_at else l.started_at

end ResponseLifecycle

/-! ## The responses -/

/-- An id that says something. -/
structure ResponseId where
  id : String
  says_something : (normalized_id (some id)).isSome

def ResponseId.key (r : ResponseId) : String := (normalized_id (some r.id)).get r.says_something

theorem ResponseId.normalized (r : ResponseId) : normalized_id (some r.id) = some r.key :=
  (Option.some_get r.says_something).symm

/-- The watchdog, with the responses that have begun and have neither completed nor been cleared. -/
structure Watch where
  lifecycle : ResponseLifecycle
  outstanding : Finset String

inductive Op where
  | begin (r : ResponseId) (now : Instant)
  | progress (r : ResponseId) (now : Instant)
  | complete (r : ResponseId)
  | clear

namespace Watch

def new : Watch := ⟨.default, ∅⟩

variable (w : Watch)

def step : Op → Watch
  | .begin r now => ⟨w.lifecycle.begin (some r.id) now, insert r.key w.outstanding⟩
  | .progress r now => ⟨w.lifecycle.progress (some r.id) now, insert r.key w.outstanding⟩
  | .complete r => ⟨w.lifecycle.complete (some r.id), w.outstanding.erase r.key⟩
  | .clear => ⟨w.lifecycle.clear, ∅⟩

theorem step_complete (r : ResponseId) :
    w.step (.complete r) = ⟨w.lifecycle.complete (some r.id), w.outstanding.erase r.key⟩ := rfl

/-- Without another event the watchdog acts sooner or later. -/
def ActsAtLast : Prop :=
  ∀ timeout_ms, ∃ deadline, ∀ now ≥ deadline, ∀ allow_cancel,
    w.lifecycle.action now (.from_provider_timeout_ms timeout_ms) allow_cancel ≠ .none

/-- The step leaves no response uncovered, and postpones no deadline of another response. -/
def Covers (op : Op) : Prop :=
  ((w.step op).outstanding.Nonempty → (w.step op).lifecycle.active = true ∧ (w.step op).ActsAtLast) ∧
    ∀ r now, op = .progress r now → ∀ other ∈ w.outstanding, other ≠ r.key →
      ∀ later timeout_ms allow_cancel,
        w.lifecycle.action later (.from_provider_timeout_ms timeout_ms) allow_cancel ≠ .none →
          (w.step op).lifecycle.action later (.from_provider_timeout_ms timeout_ms) allow_cancel ≠ .none

/-- The response that the watchdog holds completes as the only one, and progress comes when no other
response is outstanding, or no later than the watchdog counts already. -/
def Alone : Op → Prop
  | .complete r => w.lifecycle.response_id = some r.key → ∀ other ∈ w.outstanding, other = r.key
  | .progress r now => (∀ other ∈ w.outstanding, other = r.key) ∨ ∃ seen ∈ w.lifecycle.last_seen, now ≤ seen
  | _ => True

/-! ## Deadlines -/

/-- An active watchdog holds a response that is outstanding, and its clock runs. -/
structure Armed (w : Watch) : Prop where
  held : ∃ id ∈ w.outstanding, w.lifecycle.response_id = some id
  started : ∃ started_at, w.lifecycle.started_at = some started_at
  seen : ∃ seen, w.lifecycle.last_seen = some seen
  not_deferred : w.lifecycle.first_output_deferred_until_input_stopped = false
  not_cancelled : w.lifecycle.cancel_sent_at = none

/-- The watchdog is armed, or nothing is outstanding. -/
def Sound : Prop :=
  (w.lifecycle.active = true ∧ w.Armed) ∨ (w.lifecycle = .default ∧ w.outstanding = ∅)

theorem base_pos (timeout_ms : Nat) : 0 < ResponseDeadlineBudget.base timeout_ms := by
  have hmin : 0 < MIN_BASE_TIMEOUT := by decide
  have hmax : 0 < MAX_BASE_TIMEOUT := by decide
  exact lt_min (lt_max_of_lt_right hmin) hmax

theorem expired_eq {l : ResponseLifecycle} {budget : ResponseDeadlineBudget} {started_at seen : Instant}
    (hbudget : budget.no_progress = budget.first_output) (hstarted : l.started_at = some started_at)
    (hseen : l.last_seen = some seen) (later : Instant) :
    l.progress_expired later budget started_at = decide (budget.first_output ≤ later - seen) := by
  unfold ResponseLifecycle.progress_expired
  unfold ResponseLifecycle.last_seen at hseen
  split
  next hobserved =>
    rw [if_pos hobserved] at hseen
    simp only [hseen, Option.any_some, hbudget, ge_iff_le]
  next hobserved =>
    rw [if_neg hobserved, hstarted] at hseen
    simp only [Option.some.inj hseen, ge_iff_le]

variable {w : Watch}

/-- An armed watchdog acts when the base timeout has passed since it saw something. -/
theorem acts_iff_of_budget {budget : ResponseDeadlineBudget}
    (hbudget : budget.no_progress = budget.first_output) (hactive : w.lifecycle.active = true)
    (h : w.Armed) {seen : Instant} (hseen : w.lifecycle.last_seen = some seen) (later : Instant)
    (allow_cancel : Bool) :
    w.lifecycle.action later budget allow_cancel ≠ .none ↔ budget.first_output ≤ later - seen := by
  obtain ⟨_, hstarted⟩ := h.started
  simp only [ResponseLifecycle.action, hactive, h.not_cancelled, hstarted, h.not_deferred,
    expired_eq hbudget hstarted hseen later]
  by_cases hpassed : budget.first_output ≤ later - seen
  · simp only [hpassed, decide_true]
    cases allow_cancel <;> cases w.lifecycle.response_id <;> simp
  · simp [hpassed]

theorem acts_iff (hactive : w.lifecycle.active = true) (h : w.Armed) {seen : Instant}
    (hseen : w.lifecycle.last_seen = some seen) (later : Instant) (timeout_ms : Nat)
    (allow_cancel : Bool) :
    w.lifecycle.action later (.from_provider_timeout_ms timeout_ms) allow_cancel ≠ .none ↔
      ResponseDeadlineBudget.base timeout_ms ≤ later - seen := by
  exact acts_iff_of_budget (by simp) hactive h hseen later allow_cancel

theorem acts_at_last (hactive : w.lifecycle.active = true) (h : w.Armed) : w.ActsAtLast := by
  obtain ⟨seen, hseen⟩ := h.seen
  intro timeout_ms
  refine ⟨seen + ResponseDeadlineBudget.base timeout_ms, fun _ hnow _ => ?_⟩
  rw [acts_iff hactive h hseen]
  exact Nat.le_sub_of_add_le' hnow

/-! ## Steps -/

theorem begin_armed (h : w.Sound) (r : ResponseId) (now : Instant) :
    (w.step (.begin r now)).lifecycle.active = true ∧ (w.step (.begin r now)).Armed := by
  rcases h with ⟨hactive, harmed⟩ | ⟨hidle, _⟩
  · have hsame : w.lifecycle.begin (some r.id) now = w.lifecycle := by
      obtain ⟨id, -, hid⟩ := harmed.held
      simp only [ResponseLifecycle.begin, ResponseLifecycle.begin_with_input_state, hactive, if_true, hid,
        Option.some_or]
      rw [← hid, ← hactive]
    simp only [step, hsame]
    obtain ⟨id, hmem, hid⟩ := harmed.held
    exact ⟨hactive, ⟨id, Finset.mem_insert_of_mem hmem, hid⟩, harmed.started, harmed.seen,
      harmed.not_deferred, harmed.not_cancelled⟩
  · simp only [step, hidle, ResponseLifecycle.begin, ResponseLifecycle.begin_with_input_state,
      ResponseLifecycle.default, r.normalized]
    refine ⟨rfl, ⟨r.key, Finset.mem_insert_self _ _, rfl⟩, ⟨now, rfl⟩, ⟨now, rfl⟩, rfl, rfl⟩

theorem progress_armed (h : w.Sound) (r : ResponseId) (now : Instant) :
    (w.step (.progress r now)).lifecycle.active = true ∧ (w.step (.progress r now)).Armed ∧
      (w.step (.progress r now)).lifecycle.last_seen = some now := by
  obtain ⟨hactive, harmed⟩ := begin_armed h r now
  exact ⟨hactive, ⟨harmed.held, harmed.started, ⟨now, rfl⟩, rfl, harmed.not_cancelled⟩, rfl⟩

/-- Progress postpones the deadline unless the watchdog counts from a later moment already. -/
theorem progress_keeps_deadline_iff (h : w.Sound) (hactive : w.lifecycle.active = true)
    (r : ResponseId) (now : Instant) :
    (∀ later timeout_ms allow_cancel,
        w.lifecycle.action later (.from_provider_timeout_ms timeout_ms) allow_cancel ≠ .none →
          (w.step (.progress r now)).lifecycle.action later (.from_provider_timeout_ms timeout_ms)
            allow_cancel ≠ .none) ↔ ∃ seen ∈ w.lifecycle.last_seen, now ≤ seen := by
  obtain ⟨hactive', harmed', hseen'⟩ := progress_armed h r now
  rcases h with ⟨-, harmed⟩ | ⟨hidle, -⟩
  swap
  · simp [hidle, ResponseLifecycle.default] at hactive
  obtain ⟨seen, hseen⟩ := harmed.seen
  simp only [acts_iff hactive harmed hseen, acts_iff hactive' harmed' hseen', hseen, Option.mem_some_iff,
    exists_eq_left']
  have hpos := base_pos 0
  constructor
  · intro hkeeps
    have hlater : ResponseDeadlineBudget.base 0 ≤ seen + ResponseDeadlineBudget.base 0 - now :=
      hkeeps (seen + ResponseDeadlineBudget.base 0) 0 true (Nat.le_sub_of_add_le' le_rfl)
    by_contra hlt
    exact absurd hlater (Nat.not_le.mpr (by grind))
  · intro hle later timeout_ms _ hbase
    exact hbase.trans (Nat.sub_le_sub_left hle later)

theorem complete_other {r : ResponseId} {id : String} (hid : w.lifecycle.response_id = some id)
    (hne : id ≠ r.key) : w.lifecycle.complete (some r.id) = w.lifecycle := by
  simp [ResponseLifecycle.complete, r.normalized, hid, hne.symm]

theorem complete_held {r : ResponseId} (hid : w.lifecycle.response_id = some r.key) :
    w.lifecycle.complete (some r.id) = .default := by
  simp [ResponseLifecycle.complete, r.normalized, hid]

/-- A completed response that the watchdog does not hold leaves it armed. -/
theorem complete_other_armed (harmed : w.Armed) {r : ResponseId} {id : String}
    (hmem : id ∈ w.outstanding) (hid : w.lifecycle.response_id = some id) (hne : id ≠ r.key) :
    (w.step (.complete r)).Armed := by
  rw [step_complete, complete_other hid hne]
  exact ⟨⟨id, Finset.mem_erase.mpr ⟨hne, hmem⟩, hid⟩, harmed.started, harmed.seen, harmed.not_deferred,
    harmed.not_cancelled⟩

theorem active_of_outstanding (h : w.Sound) {id : String} (hmem : id ∈ w.outstanding) :
    w.lifecycle.active = true := by
  rcases h with ⟨hactive, -⟩ | ⟨-, hnone⟩
  · exact hactive
  · simp [hnone] at hmem

theorem progress_covers_iff (h : w.Sound) (r : ResponseId) (now : Instant) :
    w.Covers (.progress r now) ↔ w.Alone (.progress r now) := by
  obtain ⟨hactive', harmed', -⟩ := progress_armed h r now
  constructor
  · rintro ⟨-, hkeeps⟩
    by_cases halone : ∀ other ∈ w.outstanding, other = r.key
    · exact .inl halone
    · push Not at halone
      obtain ⟨other, hmem, hne⟩ := halone
      have hiff := progress_keeps_deadline_iff h (active_of_outstanding h hmem) r now
      exact .inr (hiff.mp (hkeeps r now rfl other hmem hne))
  · intro halone
    refine ⟨fun _ => ⟨hactive', acts_at_last hactive' harmed'⟩, ?_⟩
    rintro _ _ heq other hmem hne
    obtain ⟨rfl, rfl⟩ := Op.progress.inj heq
    rcases halone with halone | hseen
    · exact absurd (halone other hmem) hne
    · exact (progress_keeps_deadline_iff h (active_of_outstanding h hmem) r now).mpr hseen

theorem complete_covers_iff (h : w.Sound) (r : ResponseId) :
    w.Covers (.complete r) ↔ w.Alone (.complete r) := by
  rcases h with ⟨hactive, harmed⟩ | ⟨hidle, hnone⟩
  · obtain ⟨id, hmem, hid⟩ := harmed.held
    by_cases hkey : id = r.key
    · -- the watchdog is reset, so nothing else may be outstanding
      subst hkey
      have hreset : (w.step (.complete r)).lifecycle = .default := by
        rw [step_complete, complete_held hid]
      constructor
      · rintro ⟨hcovered, -⟩ _ other hother
        by_contra hne
        have hactive' := (hcovered ⟨other, Finset.mem_erase.mpr ⟨hne, hother⟩⟩).1
        rw [hreset] at hactive'
        cases hactive'
      · intro halone
        refine ⟨fun hother => ?_, by simp⟩
        obtain ⟨other, hother⟩ := hother
        obtain ⟨hne, hother⟩ := Finset.mem_erase.mp hother
        exact absurd (halone hid other hother) hne
    · have hactive' : (w.step (.complete r)).lifecycle.active = true := by
        simp only [step_complete, complete_other hid hkey, hactive]
      have hcovered := acts_at_last hactive' (complete_other_armed harmed hmem hid hkey)
      refine iff_of_true ⟨fun _ => ⟨hactive', hcovered⟩, by simp⟩ fun hheld => ?_
      rw [hid] at hheld
      exact absurd (Option.some.inj hheld) hkey
  · refine iff_of_true ⟨by simp [step, hnone], by simp⟩ fun hheld => ?_
    simp [hidle, ResponseLifecycle.default] at hheld

theorem covers_iff (h : w.Sound) (op : Op) : w.Covers op ↔ w.Alone op := by
  cases op with
  | begin r now =>
    obtain ⟨hactive, harmed⟩ := begin_armed h r now
    exact iff_of_true ⟨fun _ => ⟨hactive, acts_at_last hactive harmed⟩, by simp⟩ trivial
  | progress r now => exact progress_covers_iff h r now
  | complete r => exact complete_covers_iff h r
  | clear => exact iff_of_true ⟨by simp [step], by simp⟩ trivial

theorem step_sound (h : w.Sound) {op : Op} (halone : w.Alone op) : (w.step op).Sound := by
  cases op with
  | begin r now => exact .inl (begin_armed h r now)
  | progress r now =>
    obtain ⟨hactive, harmed, -⟩ := progress_armed h r now
    exact .inl ⟨hactive, harmed⟩
  | complete r =>
    rcases h with ⟨hactive, harmed⟩ | ⟨hidle, hnone⟩
    · obtain ⟨id, hmem, hid⟩ := harmed.held
      by_cases hkey : id = r.key
      · subst hkey
        rw [step_complete, complete_held hid]
        refine .inr ⟨rfl, Finset.eq_empty_of_forall_notMem fun other hother => ?_⟩
        obtain ⟨hne, hother⟩ := Finset.mem_erase.mp hother
        exact hne (halone hid other hother)
      · refine .inl ⟨?_, complete_other_armed harmed hmem hid hkey⟩
        simp only [step_complete, complete_other hid hkey, hactive]
    · refine .inr ⟨?_, by simp [step, hnone]⟩
      simp [step, hidle, ResponseLifecycle.complete, ResponseLifecycle.default]
  | clear => exact .inr ⟨rfl, rfl⟩

/-- The watchdog covers every outstanding response throughout a run exactly when the responses of the
run do not get in each other's way. -/
theorem outstanding_responses_are_covered_iff (ops : List Op) :
    Along step Covers new ops ↔ Along step Alone new ops := by
  refine Along.congr Sound (.inr ⟨rfl, rfl⟩) (Along.of_forall (fun _ _ => True) (fun _ _ => trivial) _ _)
    (fun w op h _ => covers_iff h op) fun w op h _ hcovers => ?_
  exact step_sound h ((covers_iff h op).mp hcovers)

/-- Two responses overlap, and the first one completes. -/
theorem second_response_is_left_uncovered :
    ¬ Along step Covers new
      [.begin ⟨"resp-one", by decide +kernel⟩ 0, .begin ⟨"resp-two", by decide +kernel⟩ 1,
        .complete ⟨"resp-one", by decide +kernel⟩] := by
  rw [outstanding_responses_are_covered_iff]
  rintro ⟨-, -, halone, -⟩
  exact absurd (halone (by decide +kernel) "resp-two" (by decide +kernel)) (by decide +kernel)

end Watch

end omni_translate.response_lifecycle

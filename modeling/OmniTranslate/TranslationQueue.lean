-- The queue of complete cues as a component of its own (`windows/translation.rs`), with the
-- capacity and the fields that the model of the worker leaves out. Its law is about any
-- sequence of calls: what is accepted leaves once and in order, what starts is in time, and
-- what is dropped would have been late.
import Mathlib.Algebra.Order.Group.Multiset
import Mathlib.Algebra.BigOperators.Group.List.Basic
import Mathlib.Tactic.Abel
import OmniTranslate.PlaybackWorker

namespace omni_translate.translation_queue

open runs
open playback (saturating_add translation_would_miss_realtime_budget INTERNAL_CHANNEL_COUNT
  TRANSLATION_MAX_PROJECTED_LATENCY_MS TRANSLATION_PLAYBACK_QUEUE_CAPACITY
  TranslationEnqueueFailureReason)

variable {S : Type}

/-! ## The queue -/

structure PlaybackJob (S : Type) extends playback.PlaybackJob S where
  estimated_duration_ms : Nat

structure ActiveTranslationPlayback extends playback.ActiveTranslationPlayback where
  created_at_ms : Nat
  estimated_duration_ms : Nat
  playback_frames : Nat

structure TranslationPlaybackQueue (S : Type) where
  capacity : Nat
  pending : List (PlaybackJob S)
  active : Option ActiveTranslationPlayback

structure TranslationEnqueueOutcome (S : Type) where
  projected_start_ms : Nat
  projected_end_ms : Nat
  dropped : List (PlaybackJob S)

structure TranslationEnqueueFailure (S : Type) where
  job : PlaybackJob S
  projected_start_ms : Nat
  dropped : List (PlaybackJob S)
  reason : TranslationEnqueueFailureReason

structure TranslationStartOutcome (S : Type) where
  job : Option (PlaybackJob S)
  dropped : List (PlaybackJob S)

namespace TranslationPlaybackQueue

variable (queue : TranslationPlaybackQueue S)

def new (capacity : Nat) : TranslationPlaybackQueue S := ⟨capacity, [], none⟩

def active_end_ms (now_ms : Nat) : Nat :=
  max ((queue.active.map (·.expected_end_ms)).getD now_ms) now_ms

def projected_start_ms (now_ms : Nat) : Nat :=
  queue.pending.foldl (fun start_ms job => saturating_add start_ms job.playback_duration_ms)
    (queue.active_end_ms now_ms)

/-- The loop of `drain_expired_pending`: the jobs that are retained and the jobs that are dropped.
Only a retained job moves the projected start. -/
def drain (projected_start_ms : Nat) :
    List (PlaybackJob S) → List (PlaybackJob S) × List (PlaybackJob S)
  | [] => ([], [])
  | job :: jobs =>
    if translation_would_miss_realtime_budget job.created_at_ms projected_start_ms then
      ((drain projected_start_ms jobs).1, job :: (drain projected_start_ms jobs).2)
    else
      let projected_start_ms := saturating_add projected_start_ms job.playback_duration_ms
      (job :: (drain projected_start_ms jobs).1, (drain projected_start_ms jobs).2)

def drain_expired_pending (now_ms : Nat) : TranslationPlaybackQueue S × List (PlaybackJob S) :=
  let (retained, dropped) := drain (queue.active_end_ms now_ms) queue.pending
  ({ queue with pending := retained }, dropped)

def enqueue (job : PlaybackJob S) (now_ms : Nat) : TranslationPlaybackQueue S ×
    Except (TranslationEnqueueFailure S) (TranslationEnqueueOutcome S) :=
  let (queue, dropped) := queue.drain_expired_pending now_ms
  let projected_start_ms := queue.projected_start_ms now_ms
  if queue.pending.length ≥ queue.capacity then
    (queue, .error ⟨job, projected_start_ms, dropped, .QueueFull⟩)
  else if translation_would_miss_realtime_budget job.created_at_ms projected_start_ms then
    (queue, .error ⟨job, projected_start_ms, dropped, .RealtimeBudget⟩)
  else
    let projected_end_ms := saturating_add projected_start_ms job.playback_duration_ms
    ({ queue with pending := queue.pending ++ [job] },
      .ok ⟨projected_start_ms, projected_end_ms, dropped⟩)

def start_next (now_ms : Nat) : TranslationPlaybackQueue S × TranslationStartOutcome S :=
  if queue.active.isSome then (queue, ⟨none, []⟩)
  else
    let (queue, dropped) := queue.drain_expired_pending now_ms
    match queue.pending with
    | [] => (queue, ⟨none, dropped⟩)
    | job :: pending =>
      let active : ActiveTranslationPlayback := {
        cue_id := job.cue_id
        created_at_ms := job.created_at_ms
        estimated_duration_ms := job.estimated_duration_ms
        playback_frames := job.samples.length / INTERNAL_CHANNEL_COUNT
        expected_end_ms := saturating_add now_ms job.playback_duration_ms }
      ({ queue with pending, active := some active }, ⟨some job, dropped⟩)

def finish_active : TranslationPlaybackQueue S × Option ActiveTranslationPlayback :=
  ({ queue with active := none }, queue.active)

def clear : TranslationPlaybackQueue S ×
    (Option ActiveTranslationPlayback × List (PlaybackJob S)) :=
  ({ queue with pending := [], active := none }, (queue.active, queue.pending))

end TranslationPlaybackQueue

open TranslationPlaybackQueue (drain)

/-- The jobs dropped by a call, whether it fails or not. -/
def dropped_by : Except (TranslationEnqueueFailure S) (TranslationEnqueueOutcome S) →
    List (PlaybackJob S)
  | .ok outcome => outcome.dropped
  | .error failure => failure.dropped

/-! ## Draining -/

variable (start_ms : Nat) (jobs : List (PlaybackJob S))

theorem drain_sublist : (drain start_ms jobs).1.Sublist jobs := by
  induction jobs generalizing start_ms with
  | nil => exact List.Sublist.refl _
  | cons job jobs ih =>
    unfold drain
    split
    · exact (ih _).cons job
    · exact (ih _).cons_cons job

theorem drain_perm : jobs.Perm ((drain start_ms jobs).1 ++ (drain start_ms jobs).2) := by
  induction jobs generalizing start_ms with
  | nil => exact List.Perm.refl _
  | cons job jobs ih =>
    unfold drain
    split
    · exact ((ih start_ms).cons job).trans List.perm_middle.symm
    · exact (ih _).cons job

/-- What a drain retains, a second one at the same time retains. -/
theorem drain_again : drain start_ms (drain start_ms jobs).1 = ((drain start_ms jobs).1, []) := by
  induction jobs generalizing start_ms with
  | nil => rfl
  | cons job jobs ih =>
    by_cases hlate : translation_would_miss_realtime_budget job.created_at_ms start_ms = true
    · rw [drain, if_pos hlate]
      exact ih start_ms
    · rw [drain, if_neg hlate]
      rw [drain, if_neg hlate]
      dsimp only
      rw [ih]

variable (queue : TranslationPlaybackQueue S)

theorem drain_expired_again (now_ms : Nat) :
    (queue.drain_expired_pending now_ms).1.drain_expired_pending now_ms =
      ((queue.drain_expired_pending now_ms).1, []) := by
  have hagain := drain_again (queue.active_end_ms now_ms) queue.pending
  exact congrArg (fun drained : List (PlaybackJob S) × List (PlaybackJob S) =>
    (({ queue with pending := drained.1 } : TranslationPlaybackQueue S), drained.2)) hagain

theorem late_iff (created_at_ms start_ms : Nat) :
    translation_would_miss_realtime_budget created_at_ms start_ms = true ↔
      created_at_ms + TRANSLATION_MAX_PROJECTED_LATENCY_MS < start_ms := by
  unfold translation_would_miss_realtime_budget
  rw [decide_eq_true_iff]
  omega

/-- The first job that a drain retains would start in time. -/
theorem drain_head {start_ms : Nat} {jobs : List (PlaybackJob S)} {job : PlaybackJob S}
    {rest : List (PlaybackJob S)} (h : (drain start_ms jobs).1 = job :: rest) :
    start_ms ≤ job.created_at_ms + TRANSLATION_MAX_PROJECTED_LATENCY_MS := by
  induction jobs with
  | nil => cases h
  | cons first jobs ih =>
    by_cases hlate : translation_would_miss_realtime_budget first.created_at_ms start_ms = true
    · rw [drain, if_pos hlate] at h
      exact ih h
    · rw [drain, if_neg hlate] at h
      cases h
      rw [late_iff] at hlate
      omega

/-- A job that a drain has dropped, with what the drain found and what it retained. -/
structure Drop (S : Type) where
  job : PlaybackJob S
  active_end_ms : Nat
  pending : List (PlaybackJob S)
  retained : List (PlaybackJob S)

/-- Behind the active job and the retained jobs that stood ahead of it, the job would have started
too late. -/
def Drop.Late (d : Drop S) : Prop :=
  ∃ before after ahead behind, d.pending = before ++ d.job :: after ∧
    d.retained = ahead ++ behind ∧ ahead.Sublist before ∧ behind.Sublist after ∧
    d.job.created_at_ms + TRANSLATION_MAX_PROJECTED_LATENCY_MS <
      d.active_end_ms + (ahead.map (·.playback_duration_ms)).sum

theorem drain_late :
    ∀ job ∈ (drain start_ms jobs).2,
      Drop.Late ⟨job, start_ms, jobs, (drain start_ms jobs).1⟩ := by
  induction jobs generalizing start_ms with
  | nil =>
    intro job hjob
    cases hjob
  | cons first jobs ih =>
    intro job hjob
    by_cases hlate : translation_would_miss_realtime_budget first.created_at_ms start_ms = true
    · rw [drain, if_pos hlate] at hjob ⊢
      rcases List.mem_cons.mp hjob with rfl | hjob
      · refine ⟨[], jobs, [], (drain start_ms jobs).1, rfl, rfl, List.Sublist.refl _,
          drain_sublist start_ms jobs, ?_⟩
        exact (late_iff _ _).mp hlate
      · obtain ⟨before, after, ahead, behind, hpending, hretained, hahead, hbehind, hstart⟩ :=
          ih start_ms job hjob
        refine ⟨first :: before, after, ahead, behind, ?_, hretained, hahead.cons first, hbehind,
          hstart⟩
        exact congrArg (first :: ·) hpending
    · rw [drain, if_neg hlate] at hjob ⊢
      obtain ⟨before, after, ahead, behind, hpending, hretained, hahead, hbehind, hstart⟩ :=
        ih _ job hjob
      refine ⟨first :: before, after, first :: ahead, behind, congrArg (first :: ·) hpending,
        congrArg (first :: ·) hretained, hahead.cons_cons first, hbehind, ?_⟩
      have hsaturated : saturating_add start_ms first.playback_duration_ms ≤
        start_ms + first.playback_duration_ms := Nat.min_le_left _ _
      dsimp only at hstart ⊢
      rw [List.map_cons, List.sum_cons]
      omega

/-! ## Sequences of calls -/

inductive QueueOp (S : Type)
  | enqueue (job : PlaybackJob S) (now_ms : Nat)
  | start_next (now_ms : Nat)
  | finish_active
  | clear

/-- The queue with a record of what its calls have answered: the jobs accepted, the jobs started
with their times, the drops, the jobs cleared, and the started jobs that have not ended. -/
structure QueueLog (S : Type) where
  queue : TranslationPlaybackQueue S
  accepted : List (PlaybackJob S)
  started : List (PlaybackJob S × Nat)
  drops : List (Drop S)
  cleared : List (PlaybackJob S)
  playing : List (PlaybackJob S)

namespace QueueLog

variable (l : QueueLog S)

def new (capacity : Nat) : QueueLog S := ⟨.new capacity, [], [], [], [], []⟩

def drops_of (dropped : List (PlaybackJob S)) (now_ms : Nat) : List (Drop S) :=
  dropped.map fun job => ⟨job, l.queue.active_end_ms now_ms, l.queue.pending,
    (l.queue.drain_expired_pending now_ms).1.pending⟩

def step : QueueOp S → QueueLog S
  | .enqueue job now_ms =>
    let (queue, answer) := l.queue.enqueue job now_ms
    { l with
      queue
      accepted := match answer with
        | .ok _ => l.accepted ++ [job]
        | .error _ => l.accepted
      drops := l.drops ++ l.drops_of (dropped_by answer) now_ms }
  | .start_next now_ms =>
    let (queue, outcome) := l.queue.start_next now_ms
    { l with
      queue
      started := l.started ++ outcome.job.toList.map (·, now_ms)
      drops := l.drops ++ l.drops_of outcome.dropped now_ms
      playing := l.playing ++ outcome.job.toList }
  | .finish_active =>
    let (queue, active) := l.queue.finish_active
    { l with
      queue
      playing := l.playing.drop active.toList.length }
  | .clear =>
    let (queue, active, pending) := l.queue.clear
    { l with
      queue
      cleared := l.cleared ++ pending
      playing := l.playing.drop active.toList.length }

end QueueLog

/-- The queue serves its jobs: each accepted job has left once or is pending, the started and the
pending ones are in the order of their acceptance, there is room for the pending ones, at most one
plays, each has started in time, and each drop was late. -/
structure Served (l : QueueLog S) : Prop where
  leaves_once : l.accepted.Perm
    (l.started.map (·.1) ++ l.drops.map (·.job) ++ l.cleared ++ l.queue.pending)
  in_order : (l.started.map (·.1) ++ l.queue.pending).Sublist l.accepted
  room : l.queue.pending.length ≤ l.queue.capacity
  one_active : l.playing.length = l.queue.active.toList.length
  in_time : ∀ start ∈ l.started,
    start.2 ≤ start.1.created_at_ms + TRANSLATION_MAX_PROJECTED_LATENCY_MS
  late : ∀ d ∈ l.drops, d.Late

theorem served_new (capacity : Nat) : Served (QueueLog.new capacity : QueueLog S) where
  leaves_once := List.Perm.refl _
  in_order := List.Sublist.refl _
  room := Nat.zero_le _
  one_active := rfl
  in_time := fun _ h => by cases h
  late := fun _ h => by cases h

section

variable {l : QueueLog S}

/-- The record after the pending jobs have been drained. -/
def drained (l : QueueLog S) (now_ms : Nat) : QueueLog S :=
  { l with
    queue := (l.queue.drain_expired_pending now_ms).1
    drops := l.drops ++ l.drops_of (l.queue.drain_expired_pending now_ms).2 now_ms }

theorem drops_of_jobs (dropped : List (PlaybackJob S)) (now_ms : Nat) :
    (l.drops_of dropped now_ms).map (·.job) = dropped := by
  unfold QueueLog.drops_of
  rw [List.map_map]
  exact List.map_id _

theorem Served.drain (h : Served l) (now_ms : Nat) : Served (drained l now_ms) where
  leaves_once := by
    have hperm := drain_perm (l.queue.active_end_ms now_ms) l.queue.pending
    have hleaves := h.leaves_once
    dsimp only [drained, TranslationPlaybackQueue.drain_expired_pending]
    rw [List.map_append, drops_of_jobs]
    rw [← Multiset.coe_eq_coe] at hperm hleaves ⊢
    simp only [← Multiset.coe_add] at hperm hleaves ⊢
    rw [hleaves, hperm]
    abel
  in_order := (List.Sublist.append_left (drain_sublist _ _) _).trans h.in_order
  room := (drain_sublist _ _).length_le.trans h.room
  one_active := h.one_active
  in_time := h.in_time
  late := by
    intro d hd
    rcases List.mem_append.mp hd with hold | hnew
    · exact h.late d hold
    · obtain ⟨job, hjob, rfl⟩ := List.mem_map.mp hnew
      exact drain_late _ _ job hjob

theorem Served.enqueue (h : Served l) (job : PlaybackJob S) (now_ms : Nat) :
    Served (l.step (.enqueue job now_ms)) := by
  have hdrained := h.drain now_ms
  unfold QueueLog.step TranslationPlaybackQueue.enqueue
  dsimp only
  split
  · exact hdrained
  split
  · exact hdrained
  refine ⟨?_, ?_, ?_, hdrained.one_active, hdrained.in_time, hdrained.late⟩
  · have hleaves := hdrained.leaves_once
    rw [← List.append_assoc]
    exact hleaves.append_right [job]
  · have horder := hdrained.in_order.append_right [job]
    rw [List.append_assoc] at horder
    exact horder
  · dsimp only
    rw [List.length_append, List.length_singleton]
    omega

theorem Served.start_next (h : Served l) (now_ms : Nat) :
    Served (l.step (.start_next now_ms)) := by
  have hdrained := h.drain now_ms
  unfold QueueLog.step TranslationPlaybackQueue.start_next
  dsimp only
  split
  · have hsame := h
    simpa [QueueLog.drops_of] using hsame
  rename_i hidle
  split
  · rename_i hnil
    simpa [drained, hnil] using hdrained
  · rename_i job pending hcons
    have hnow : l.queue.active_end_ms now_ms = now_ms := by
      unfold TranslationPlaybackQueue.active_end_ms
      rw [Option.not_isSome_iff_eq_none.mp hidle]
      exact Nat.max_self now_ms
    have hstart : now_ms ≤ job.created_at_ms + TRANSLATION_MAX_PROJECTED_LATENCY_MS := by
      have hhead := drain_head hcons
      rwa [hnow] at hhead
    have hleaves := hdrained.leaves_once
    have horder := hdrained.in_order
    have hroom := hdrained.room
    have hone := h.one_active
    dsimp only [drained] at hleaves horder hroom
    rw [hcons] at hleaves horder hroom
    rw [Option.not_isSome_iff_eq_none.mp hidle] at hone
    refine ⟨?_, ?_, (Nat.le_succ _).trans hroom, ?_, ?_, hdrained.late⟩
    · dsimp only [Option.toList]
      rw [List.map_append, ← Multiset.coe_eq_coe]
      rw [← List.singleton_append, ← Multiset.coe_eq_coe] at hleaves
      simp only [← Multiset.coe_add] at hleaves ⊢
      rw [hleaves]
      simp only [List.map_cons, List.map_nil]
      abel
    · rw [List.map_append, List.append_assoc]
      exact horder
    · rw [List.length_append, hone]
      rfl
    · intro start hmem
      rcases List.mem_append.mp hmem with hold | hnew
      · exact h.in_time start hold
      · rw [List.mem_singleton.mp hnew]
        exact hstart

theorem Served.step (h : Served l) (op : QueueOp S) : Served (l.step op) := by
  cases op with
  | enqueue job now_ms => exact h.enqueue job now_ms
  | start_next now_ms => exact h.start_next now_ms
  | finish_active =>
    refine ⟨h.leaves_once, h.in_order, h.room, ?_, h.in_time, h.late⟩
    have hone := h.one_active
    dsimp only [QueueLog.step, TranslationPlaybackQueue.finish_active]
    rw [List.length_drop, hone, Nat.sub_self]
    rfl
  | clear =>
    refine ⟨?_, ?_, Nat.zero_le _, ?_, h.in_time, h.late⟩
    · have hleaves := h.leaves_once
      dsimp only [QueueLog.step, TranslationPlaybackQueue.clear]
      rw [List.append_nil, ← List.append_assoc]
      exact hleaves
    · dsimp only [QueueLog.step, TranslationPlaybackQueue.clear]
      rw [List.append_nil]
      exact (List.sublist_append_left _ _).trans h.in_order
    · have hone := h.one_active
      dsimp only [QueueLog.step, TranslationPlaybackQueue.clear]
      rw [List.length_drop, hone, Nat.sub_self]
      rfl

theorem step_capacity (l : QueueLog S) (op : QueueOp S) :
    (l.step op).queue.capacity = l.queue.capacity := by
  cases op with
  | enqueue job now_ms =>
    unfold QueueLog.step TranslationPlaybackQueue.enqueue
    dsimp only
    split
    · rfl
    split <;> rfl
  | start_next now_ms =>
    unfold QueueLog.step TranslationPlaybackQueue.start_next
    dsimp only
    split
    · rfl
    split <;> rfl
  | finish_active => rfl
  | clear => rfl

end

/-! ## The queue of the worker -/

/-- What the worker's model has of a queue. -/
def TranslationPlaybackQueue.forget : playback.TranslationPlaybackQueue S :=
  ⟨queue.pending.map (·.toPlaybackJob), queue.active.map (·.toActiveTranslationPlayback)⟩

theorem forget_drain :
    playback.TranslationPlaybackQueue.drain_jobs start_ms (jobs.map (·.toPlaybackJob)) =
      ((drain start_ms jobs).1.map (·.toPlaybackJob),
        (drain start_ms jobs).2.map (·.toPlaybackJob)) := by
  induction jobs generalizing start_ms with
  | nil => rfl
  | cons job jobs ih =>
    rw [List.map_cons, playback.TranslationPlaybackQueue.drain_jobs, drain]
    split
    · rw [ih]
      rfl
    · rw [ih]
      rfl

theorem forget_active_end (now_ms : Nat) :
    queue.forget.active_end_ms now_ms = queue.active_end_ms now_ms := by
  unfold playback.TranslationPlaybackQueue.active_end_ms TranslationPlaybackQueue.active_end_ms
    TranslationPlaybackQueue.forget
  rw [Option.map_map]
  rfl

theorem forget_drain_expired (now_ms : Nat) :
    queue.forget.drain_expired_pending now_ms =
      ((queue.drain_expired_pending now_ms).1.forget,
        (queue.drain_expired_pending now_ms).2.map (·.toPlaybackJob)) := by
  unfold playback.TranslationPlaybackQueue.drain_expired_pending
    TranslationPlaybackQueue.drain_expired_pending
  rw [forget_active_end]
  dsimp only [TranslationPlaybackQueue.forget]
  rw [forget_drain]

theorem forget_projected_start (now_ms : Nat) :
    queue.forget.projected_start_ms now_ms = queue.projected_start_ms now_ms := by
  unfold playback.TranslationPlaybackQueue.projected_start_ms
    TranslationPlaybackQueue.projected_start_ms
  rw [forget_active_end]
  dsimp only [TranslationPlaybackQueue.forget]
  rw [List.foldl_map]

/-- The worker's queue accepts, refuses and drops what this queue with its capacity does. -/
theorem enqueue_refines (hcapacity : queue.capacity = TRANSLATION_PLAYBACK_QUEUE_CAPACITY)
    (job : PlaybackJob S) (now_ms : Nat) :
    queue.forget.enqueue job.toPlaybackJob now_ms =
      ((queue.enqueue job now_ms).1.forget,
        (dropped_by (queue.enqueue job now_ms).2).map (·.toPlaybackJob),
        match (queue.enqueue job now_ms).2 with
        | .ok _ => none
        | .error failure => some failure.reason) := by
  have hlength : (queue.drain_expired_pending now_ms).1.forget.pending.length =
      (queue.drain_expired_pending now_ms).1.pending.length := List.length_map _
  have hcapacity : (queue.drain_expired_pending now_ms).1.capacity =
      TRANSLATION_PLAYBACK_QUEUE_CAPACITY := hcapacity
  unfold playback.TranslationPlaybackQueue.enqueue TranslationPlaybackQueue.enqueue
  rw [forget_drain_expired]
  dsimp only
  rw [hlength, forget_projected_start, hcapacity]
  split
  · rfl
  split
  · rfl
  · dsimp only [TranslationPlaybackQueue.forget, dropped_by]
    rw [List.map_append]
    rfl

theorem start_next_refines (now_ms : Nat) :
    queue.forget.start_next now_ms =
      ((queue.start_next now_ms).1.forget,
        (queue.start_next now_ms).2.job.map (·.toPlaybackJob),
        (queue.start_next now_ms).2.dropped.map (·.toPlaybackJob)) := by
  unfold playback.TranslationPlaybackQueue.start_next TranslationPlaybackQueue.start_next
  rw [forget_drain_expired]
  have hactive : queue.forget.active.isSome = queue.active.isSome := Option.isSome_map
  rw [hactive]
  split
  · rfl
  dsimp only
  cases hpending : (queue.drain_expired_pending now_ms).1.pending with
  | nil =>
    have hforget : (queue.drain_expired_pending now_ms).1.forget.pending = [] :=
      congrArg (List.map PlaybackJob.toPlaybackJob) hpending
    rw [hforget]
    rfl
  | cons job pending =>
    have hforget : (queue.drain_expired_pending now_ms).1.forget.pending =
        job.toPlaybackJob :: pending.map (·.toPlaybackJob) :=
      congrArg (List.map PlaybackJob.toPlaybackJob) hpending
    rw [hforget]
    rfl

/-- A call, as the Bridge and its worker make it on their queue. -/
def worker_step (queue : playback.TranslationPlaybackQueue S) :
    QueueOp S → playback.TranslationPlaybackQueue S
  | .enqueue job now_ms => (queue.enqueue job.toPlaybackJob now_ms).1
  | .start_next now_ms => (queue.start_next now_ms).1
  | .finish_active => { queue with active := none }
  | .clear => ⟨[], none⟩

/-! ## Main results -/

/-- Whatever the calls and their times, the queue serves its jobs within its capacity, one at a
time, and a second drain at the same time drops nothing. -/
theorem every_job_is_served (capacity : Nat) (ops : List (QueueOp S)) :
    ∃ l, l = run QueueLog.step (QueueLog.new capacity) ops ∧ Served l ∧
      l.queue.pending.length ≤ capacity ∧ l.playing.length ≤ 1 ∧
      ∀ now_ms, (l.queue.drain_expired_pending now_ms).1.drain_expired_pending now_ms =
        ((l.queue.drain_expired_pending now_ms).1, []) := by
  have hserved : Served (run QueueLog.step (QueueLog.new capacity) ops) :=
    run_keeps QueueLog.step Served (fun _ op h => h.step op) (served_new capacity) ops
  have hcapacity : (run QueueLog.step (QueueLog.new capacity : QueueLog S) ops).queue.capacity =
      capacity :=
    run_keeps QueueLog.step (fun l => l.queue.capacity = capacity)
      (fun l op h => (step_capacity l op).trans h) rfl ops
  refine ⟨_, rfl, hserved, hserved.room.trans_eq hcapacity, ?_, fun now_ms => ?_⟩
  · rw [hserved.one_active, Option.length_toList]
    split <;> omega
  · exact drain_expired_again _ now_ms

/-- The worker's queue is at all times this queue with the worker's capacity: it holds the same jobs
after the same calls, and drops and starts what this queue does. -/
theorem the_worker_has_a_bounded_queue (ops : List (QueueOp S)) :
    ∃ l worker, l = run QueueLog.step (.new TRANSLATION_PLAYBACK_QUEUE_CAPACITY) ops ∧
      worker = run worker_step ⟨[], none⟩ ops ∧ Served l ∧ worker = l.queue.forget ∧
      ∀ now_ms, (∀ job, (worker.enqueue job.toPlaybackJob now_ms).2.1 =
          (dropped_by (l.queue.enqueue job now_ms).2).map (·.toPlaybackJob)) ∧
        (worker.start_next now_ms).2 = ((l.queue.start_next now_ms).2.job.map (·.toPlaybackJob),
          (l.queue.start_next now_ms).2.dropped.map (·.toPlaybackJob)) := by
  have hcapacity (ops : List (QueueOp S)) : (run QueueLog.step
      (.new TRANSLATION_PLAYBACK_QUEUE_CAPACITY) ops).queue.capacity = _ :=
    run_keeps QueueLog.step (fun l => l.queue.capacity = TRANSLATION_PLAYBACK_QUEUE_CAPACITY)
      (fun l op h => (step_capacity l op).trans h) rfl ops
  have hforget : run worker_step ⟨[], none⟩ ops = (run QueueLog.step
      (.new TRANSLATION_PLAYBACK_QUEUE_CAPACITY) ops).queue.forget := by
    induction ops using List.reverseRecOn with
    | nil => rfl
    | append_singleton ops op ih =>
      rw [run_snoc, run_snoc, ih]
      cases op with
      | enqueue job now_ms =>
        exact congrArg Prod.fst (enqueue_refines _ (hcapacity ops) job now_ms)
      | start_next now_ms => exact congrArg Prod.fst (start_next_refines _ now_ms)
      | finish_active | clear => rfl
  refine ⟨_, _, rfl, rfl, run_keeps QueueLog.step Served (fun _ op h => h.step op) (served_new _) ops,
    hforget, fun now_ms => ⟨fun job => ?_, ?_⟩⟩
  · rw [hforget, enqueue_refines _ (hcapacity ops)]
  · rw [hforget, start_next_refines]

end omni_translate.translation_queue

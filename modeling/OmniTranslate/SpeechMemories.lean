-- What the worker's memories hide. A clause that is remembered hides itself, the
-- clauses of its slot and, once its cue is committed, all clauses of the cue; in a
-- poll that push-to-talk does not cut short each clause has its own outcome before
-- it is hidden by another one.
import OmniTranslate.SpeechOrder

namespace omni_translate.speech_dispatch

open overtaking runs
open translation_lifecycle (SubtitleCue)

section

variable {finish : List Hashed → UInt64}

/-! ## What one task hides of another -/

/-- The two tasks are of one committed cue, or of one slot. -/
def Shares (finish : List Hashed → UInt64) (a b : SpeechDispatchTask) : Prop :=
  (a.cue.committed = true ∧ b.cue.committed = true ∧ a.cue.cue_id = b.cue.cue_id) ∨
    ∃ slot_key, segment_slot_key finish a = some slot_key ∧ segment_slot_key finish b = some slot_key

instance (a b : SpeechDispatchTask) : Decidable (Shares finish a b) :=
  decidable_of_iff ((a.cue.committed = true ∧ b.cue.committed = true ∧ a.cue.cue_id = b.cue.cue_id) ∨
      ((segment_slot_key finish a).isSome = true ∧ segment_slot_key finish a = segment_slot_key finish b)) (by
    refine or_congr_right ⟨fun h => ?_, ?_⟩
    · obtain ⟨slot_key, hslot⟩ := Option.isSome_iff_exists.mp h.1
      exact ⟨slot_key, hslot, h.2 ▸ hslot⟩
    · rintro ⟨slot_key, ha, hb⟩
      exact ⟨Option.isSome_iff_exists.mpr ⟨slot_key, ha⟩, ha.trans hb.symm⟩)

/-- A task that is remembered hides another one. -/
def Hides (finish : List Hashed → UInt64) (a b : SpeechDispatchTask) : Prop :=
  dispatch_key finish a = dispatch_key finish b ∨ Shares finish a b

theorem erased_subset (expired : List String) (keys : Finset String) : expired.foldl Finset.erase keys ⊆ keys := by
  induction expired generalizing keys with
  | nil => exact Finset.Subset.refl keys
  | cons key expired ih => exact (ih (keys.erase key)).trans (Finset.erase_subset key keys)

theorem mem_remember {history : History} {key other : String} (h : other ∈ (history.remember key).keys) :
    other = key ∨ other ∈ history.keys := by
  exact Finset.mem_insert.mp (erased_subset _ _ h)

theorem contains_iff (queue : SpeechDispatchQueue) (task : SpeechDispatchTask) :
    queue.contains finish task = true ↔
      (task.cue.committed = true ∧ task.cue.cue_id ∈ queue.committed_played.keys) ∨
        dispatch_key finish task ∈ queue.processed.keys ∨
        ∃ slot_key, segment_slot_key finish task = some slot_key ∧ slot_key ∈ queue.processed_segment_slots.keys := by
  unfold SpeechDispatchQueue.contains
  rw [Bool.or_eq_true, Bool.or_eq_true, Bool.and_eq_true, decide_eq_true_iff, decide_eq_true_iff, or_assoc,
    Option.any_eq_true]
  simp only [decide_eq_true_iff]

theorem contains_remember {queue : SpeechDispatchQueue} {a b : SpeechDispatchTask}
    (h : (queue.remember finish a).contains finish b = true) : queue.contains finish b = true ∨ Hides finish a b := by
  rw [contains_iff] at h ⊢
  rcases h with ⟨hcommitted, hcue⟩ | hkey | ⟨slot_key, hslot, hin⟩
  · unfold SpeechDispatchQueue.remember at hcue
    dsimp only at hcue
    split at hcue
    · next hnew =>
      rcases mem_remember hcue with hsame | hold
      · exact .inr (.inr (.inl ⟨hnew.1, hcommitted, hsame.symm⟩))
      · exact .inl (.inl ⟨hcommitted, hold⟩)
    · exact .inl (.inl ⟨hcommitted, hcue⟩)
  · rcases mem_remember hkey with hsame | hold
    · exact .inr (.inl hsame.symm)
    · exact .inl (.inr (.inl hold))
  · unfold SpeechDispatchQueue.remember at hin
    split at hin
    · exact .inl (.inr (.inr ⟨slot_key, hslot, hin⟩))
    · next other hother =>
      rcases mem_remember hin with hsame | hold
      · exact .inr (.inr (.inr ⟨slot_key, hsame ▸ hother, hslot⟩))
      · exact .inl (.inr (.inr ⟨slot_key, hslot, hold⟩))

theorem contains_remember_all {tasks : List SpeechDispatchTask} {queue : SpeechDispatchQueue} {b : SpeechDispatchTask}
    (h : (tasks.foldl (SpeechDispatchQueue.remember finish) queue).contains finish b = true) :
    queue.contains finish b = true ∨ ∃ a ∈ tasks, Hides finish a b := by
  induction tasks generalizing queue with
  | nil => exact .inl h
  | cons task tasks ih =>
    rcases ih h with hfirst | ⟨a, ha, hhides⟩
    · rcases contains_remember hfirst with hold | hhides
      · exact .inl hold
      · exact .inr ⟨task, List.mem_cons_self, hhides⟩
    · exact .inr ⟨a, List.mem_cons_of_mem task ha, hhides⟩

/-! ## What a poll remembers -/

variable {outside : PollOutside}

/-- What the queue of a poll hides was hidden before, or it is hidden by what has an outcome; and it has processed
what has an outcome. -/
structure Remembers (finish : List Hashed → UInt64) (queue : SpeechDispatchQueue) (pipeline : Pipeline) : Prop where
  hides : ∀ b, pipeline.queue.contains finish b = true →
    queue.contains finish b = true ∨ ∃ outcome ∈ pipeline.outcomes, Hides finish outcome.1.1 b
  processed : pipeline.queue.processed =
    (pipeline.outcomes.map fun outcome => dispatch_key finish outcome.1.1).foldl History.remember queue.processed

variable (tasks : List Numbered)

namespace Remembers

variable {queue : SpeechDispatchQueue} {pipeline : Pipeline}

section

variable (h : Remembers finish queue pipeline)

include h

theorem conclude (task : Numbered) (outcome : SpeechOutcome) :
    Remembers finish queue (pipeline.conclude finish task outcome) where
  hides b hb := by
    rcases contains_remember hb with hold | hhides
    · rcases h.hides b hold with hbefore | ⟨o, ho, hhides⟩
      · exact .inl hbefore
      · exact .inr ⟨o, List.mem_append_left _ ho, hhides⟩
    · exact .inr ⟨(task, outcome), List.mem_append_right _ (List.mem_singleton_self _), hhides⟩
  processed := by
    unfold Pipeline.conclude
    rw [List.map_append, List.foldl_append, ← h.processed]
    rfl

theorem flight (in_flight : List Numbered) :
    Remembers finish queue { pipeline with in_flight } := ⟨h.hides, h.processed⟩

theorem receive : Remembers finish queue (receive finish outside pipeline) := by
  unfold speech_dispatch.receive
  split
  · exact h
  · exact (h.flight _).conclude _ _

theorem run_pipeline : Remembers finish queue (run_pipeline finish outside tasks pipeline).1 := by
  induction tasks generalizing pipeline with
  | nil =>
    rw [speech_dispatch.run_pipeline]
    split
    · exact h
    · exact Function.Iterate.rec (Remembers finish queue) h (fun _ hone => hone.receive) _
  | cons task tasks ih =>
    cases hlate : start_expired outside task with
    | true =>
      rw [run_pipeline_late tasks pipeline hlate]
      exact ih (h.conclude _ _)
    | false =>
      cases hheld : holds_back outside task with
      | true =>
        rw [run_pipeline_held tasks pipeline hheld]
        exact h
      | false =>
        rw [run_pipeline_taken tasks pipeline hlate hheld]
        refine ih ?_
        split
        · exact h.flight _
        · exact (h.flight _).receive

end

end Remembers

/-! ## What has an outcome in a poll -/

variable (pipeline : Pipeline)

/-- The tasks that were too late. -/
def Pipeline.late : List Numbered :=
  (pipeline.outcomes.filter fun outcome => outcome.2.is_start_expired).map (·.1)

theorem late_conclude (task : Numbered) (outcome : SpeechOutcome) :
    (pipeline.conclude finish task outcome).late = pipeline.late ++ if outcome.is_start_expired then [task] else [] := by
  unfold Pipeline.late Pipeline.conclude
  cases h : outcome.is_start_expired <;> simp [h]

theorem late_receive : (receive finish outside pipeline).late = pipeline.late := by
  unfold receive
  split
  · rfl
  · rw [late_conclude, received_not_start_expired]
    exact List.append_nil _

theorem skipped_late {task : Numbered} (h : start_expired outside task = true) :
    skipped outside (task :: tasks) = task :: skipped outside tasks := by
  simp [skipped, holds_back, h]

theorem skipped_held {task : Numbered} (h : holds_back outside task = true) :
    skipped outside (task :: tasks) = [] := by
  simp [skipped, h]

theorem skipped_cons {task : Numbered} (hlate : start_expired outside task = false)
    (hheld : holds_back outside task = false) :
    skipped outside (task :: tasks) = skipped outside tasks := by
  simp [skipped, hheld, hlate]

theorem run_pipeline_late_tasks :
    (run_pipeline finish outside tasks pipeline).1.late = pipeline.late ++ skipped outside tasks := by
  induction tasks generalizing pipeline with
  | nil =>
    have hiterate (n : Nat) : ((receive finish outside)^[n] pipeline).late = pipeline.late := by
      refine Function.Iterate.rec (fun p : Pipeline => p.late = pipeline.late) rfl (fun p hp => ?_) n
      rw [late_receive, hp]
    rw [run_pipeline, show skipped outside [] = [] from rfl, List.append_nil]
    split
    · rfl
    · exact hiterate _
  | cons task tasks ih =>
    cases hlate : start_expired outside task with
    | true =>
      rw [run_pipeline_late tasks pipeline hlate, ih, late_conclude, skipped_late tasks hlate, List.append_assoc]
      rfl
    | false =>
      cases hheld : holds_back outside task with
      | true => rw [run_pipeline_held tasks pipeline hheld, skipped_held tasks hheld, List.append_nil]
      | false =>
        rw [run_pipeline_taken tasks pipeline hlate hheld, ih, skipped_cons tasks hlate hheld]
        split
        · rfl
        · rw [late_receive]
          rfl

/-- The tasks that have an outcome when the poll is over: those that were too late, and those that came back. -/
def ended (outside : PollOutside) (tasks : List Numbered) : List Numbered :=
  skipped outside tasks ++ all_finished (overtakes outside) (is_blocked outside tasks) (taken outside tasks)

/-- The tasks that push-to-talk leaves: the first one that it holds back and those behind it, and the synthesis that
is in flight then. -/
def left_behind (outside : PollOutside) (tasks : List Numbered) : List Numbered :=
  tasks.dropWhile (fun task => !holds_back outside task) ++
    (all_abandoned (overtakes outside) (is_blocked outside tasks) (taken outside tasks)).toList

section

variable (worker : SpeechDispatchWorker)

theorem waiting_places_nodup : ((waiting finish outside worker).map (·.2)).Nodup :=
  List.pairwise_map.mpr ((waiting_places worker).imp Nat.ne_of_lt)

theorem conducted_tasks :
    ((conducted finish outside worker).outcomes.map (·.1)).Perm (ended outside (waiting finish outside worker)) := by
  have hreceived := @run_pipeline_received finish outside (waiting finish outside worker)
    ⟨[], (admitted finish outside worker.queue).2, []⟩ (waiting_places_nodup worker) (Nat.zero_le 1)
  have hlate := @run_pipeline_late_tasks finish outside (waiting finish outside worker)
    ⟨[], (admitted finish outside worker.queue).2, []⟩
  have hsplit := (List.filter_append_perm (fun outcome : Numbered × SpeechOutcome => outcome.2.is_start_expired)
    (conducted finish outside worker).outcomes).map (·.1)
  rw [List.map_append] at hsplit
  have hback : (conducted finish outside worker).received.map (·.1) =
      all_finished (overtakes outside) (is_blocked outside (waiting finish outside worker))
        (taken outside (waiting finish outside worker)) := by
    unfold conducted
    rw [hreceived]
    change List.map _ (List.map _ _) = _
    rw [List.map_map]
    exact List.map_id _
  refine hsplit.symm.trans (List.Perm.of_eq ?_)
  unfold ended
  rw [← hback]
  exact congrArg (· ++ _) hlate

theorem ended_nodup : (ended outside (waiting finish outside worker)).Nodup := by
  have hnodup := places_nodup (@waiting_places finish outside worker)
  have htaken := hnodup.sublist (@taken_sublist outside _)
  have hskipped : (skipped outside (waiting finish outside worker)).Sublist (waiting finish outside worker) :=
    List.filter_sublist.trans (List.takeWhile_sublist _)
  refine List.nodup_append.mpr ⟨hnodup.sublist hskipped, all_finished_nodup htaken, fun a ha b hb hab => ?_⟩
  have hback := (List.mem_filter.mp ((mem_all_finished htaken b).mp hb).1).2
  rw [← hab, (List.mem_filter.mp ha).2] at hback
  cases hback

theorem ended_subset {task : Numbered} (h : task ∈ ended outside (waiting finish outside worker)) :
    task ∈ waiting finish outside worker := by
  have htaken := (places_nodup (@waiting_places finish outside worker)).sublist (@taken_sublist outside _)
  rcases List.mem_append.mp h with hskipped | hback
  · exact (List.takeWhile_sublist _).subset (List.mem_filter.mp hskipped).1
  · exact (taken_sublist _).subset ((mem_all_finished htaken task).mp hback).1

/-- A task that waits has an outcome, or it is left. -/
theorem ended_or_left {task : Numbered} (h : task ∈ waiting finish outside worker) :
    task ∈ ended outside (waiting finish outside worker) ∨
      task ∈ left_behind outside (waiting finish outside worker) := by
  have htaken := (places_nodup (@waiting_places finish outside worker)).sublist (@taken_sublist outside _)
  rw [← List.takeWhile_append_dropWhile (p := fun task => !holds_back outside task)
    (l := waiting finish outside worker)] at h
  rcases List.mem_append.mp h with hbefore | hbehind
  · cases hlate : start_expired outside task with
    | true => exact .inl (List.mem_append_left _ (List.mem_filter.mpr ⟨hbefore, hlate⟩))
    | false =>
      have hin : task ∈ taken outside (waiting finish outside worker) :=
        List.mem_filter.mpr ⟨hbefore, by rw [hlate]; rfl⟩
      by_cases hlast : all_abandoned (overtakes outside) (is_blocked outside (waiting finish outside worker))
          (taken outside (waiting finish outside worker)) = some task
      · exact .inr (List.mem_append_right _ (Option.mem_toList.mpr hlast))
      · exact .inl (List.mem_append_right _ ((mem_all_finished htaken task).mpr ⟨hin, hlast⟩))
  · exact .inr (List.mem_append_left _ hbehind)

end

end

end omni_translate.speech_dispatch

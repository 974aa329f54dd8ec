-- The order in which the clauses of a poll are heard. Two syntheses are in flight
-- at a time and each is played when it comes back, so a clause is heard before an
-- older one that takes longer.
import OmniTranslate.Overtaking
import OmniTranslate.SpeechDispatch
import Mathlib.Data.List.Flatten

namespace omni_translate.speech_dispatch

open overtaking
open translation_lifecycle (SubtitleCue)

section

variable (finish : List Hashed → UInt64) (outside : PollOutside)

/-! ## What a poll takes -/

variable (task : Numbered)

/-- A task that is not too late, and that push-to-talk holds back. -/
def holds_back : Bool := !start_expired outside task && is_gated outside task

variable (tasks : List Numbered)

/-- The tasks that are synthesized. -/
def taken : List Numbered :=
  (tasks.takeWhile fun task => !holds_back outside task).filter fun task => !start_expired outside task

/-- The tasks that are too late. -/
def skipped : List Numbered :=
  (tasks.takeWhile fun task => !holds_back outside task).filter (start_expired outside)

/-- Push-to-talk holds one of the tasks back. -/
def is_blocked : Bool := tasks.any (holds_back outside)

/-- Of two tasks in flight, the younger one comes back first. -/
def overtakes (older younger : Numbered) : Bool := outside.younger_first older.2 younger.2

/-- The task is played when its synthesis comes back: that succeeded, and it does so in time. -/
def plays : Bool := (received_outcome outside task.2).is_played

def SpeechOutcome.is_start_expired : SpeechOutcome → Bool
  | .start_expired => true
  | _ => false

/-! ## What comes back -/

variable {finish outside}

theorem received_not_start_expired (place : Nat) : (received_outcome outside place).is_start_expired = false := by
  unfold received_outcome
  split
  · rfl
  · split <;> rfl

variable (pipeline : Pipeline)

/-- The tasks that came back, and what became of them. -/
def Pipeline.received : List (Numbered × SpeechOutcome) :=
  pipeline.outcomes.filter fun outcome => !outcome.2.is_start_expired

@[simp] theorem conclude_in_flight (outcome : SpeechOutcome) :
    (pipeline.conclude finish task outcome).in_flight = pipeline.in_flight := by
  rfl

theorem received_conclude_expired :
    (pipeline.conclude finish task .start_expired).received = pipeline.received := by
  unfold Pipeline.received Pipeline.conclude
  rw [List.filter_append]
  exact List.append_nil _

theorem received_conclude :
    (pipeline.conclude finish task (received_outcome outside task.2)).received =
      pipeline.received ++ [(task, received_outcome outside task.2)] := by
  unfold Pipeline.received Pipeline.conclude
  rw [List.filter_append, List.filter_cons_of_pos]
  · rfl
  · rw [received_not_start_expired]
    rfl

/-- With one synthesis in flight, that one comes back. -/
theorem receive_one {w : Numbered} (h : pipeline.in_flight = [w]) :
    receive finish outside pipeline =
      { pipeline with in_flight := [] }.conclude finish w (received_outcome outside w.2) := by
  unfold receive
  rw [h]
  simp [first_done]

/-- With two syntheses in flight, one comes back and the other one stays. -/
theorem receive_two {w x : Numbered} (h : pipeline.in_flight = [w, x]) (hne : w.2 ≠ x.2) :
    receive finish outside pipeline =
      if overtakes outside w x then
        { pipeline with in_flight := [w] }.conclude finish x (received_outcome outside x.2)
      else { pipeline with in_flight := [x] }.conclude finish w (received_outcome outside w.2) := by
  unfold receive overtakes
  rw [h]
  cases hfirst : outside.younger_first w.2 x.2 <;> simp [first_done, hfirst, hne, hne.symm]

section

variable {task : Numbered} (tasks : List Numbered) (pipeline : Pipeline)

theorem run_pipeline_late (h : start_expired outside task = true) :
    run_pipeline finish outside (task :: tasks) pipeline =
      run_pipeline finish outside tasks (pipeline.conclude finish task .start_expired) := by
  rw [run_pipeline, if_pos h]

theorem run_pipeline_held (h : holds_back outside task = true) :
    run_pipeline finish outside (task :: tasks) pipeline = (pipeline, .blocked_by_ptt) := by
  unfold holds_back at h
  rw [Bool.and_eq_true, Bool.not_eq_true'] at h
  rw [run_pipeline, if_neg (by rw [h.1]; exact Bool.false_ne_true), if_pos h.2]

/-- A task that is taken is started; if one was in flight, one of the two comes back. -/
theorem run_pipeline_taken (hlate : start_expired outside task = false) (hheld : holds_back outside task = false) :
    run_pipeline finish outside (task :: tasks) pipeline =
      run_pipeline finish outside tasks
        (if pipeline.in_flight = [] then { pipeline with in_flight := [task] }
        else receive finish outside { pipeline with in_flight := pipeline.in_flight ++ [task] }) := by
  unfold holds_back at hheld
  rw [hlate, Bool.not_false, Bool.true_and] at hheld
  rw [run_pipeline, if_neg (by rw [hlate]; exact Bool.false_ne_true), if_neg (by rw [hheld]; exact Bool.false_ne_true)]
  have hroom : (pipeline.in_flight ++ [task]).length < MAX_CONCURRENT_SYNTHESIS ↔ pipeline.in_flight = [] := by
    rw [List.length_append, List.length_singleton, ← List.length_eq_zero_iff]
    exact Nat.succ_lt_succ_iff.trans Nat.lt_one_iff
  simp only [hroom]
  split
  · next hnone => rw [hnone, List.nil_append]
  · rfl

end

section

variable {task : Numbered} (tasks : List Numbered)

theorem taken_late (h : start_expired outside task = true) : taken outside (task :: tasks) = taken outside tasks := by
  simp [taken, holds_back, h]

theorem taken_held (h : holds_back outside task = true) : taken outside (task :: tasks) = [] := by
  simp [taken, h]

theorem taken_cons (hlate : start_expired outside task = false) (hheld : holds_back outside task = false) :
    taken outside (task :: tasks) = task :: taken outside tasks := by
  simp [taken, hheld, hlate]

theorem is_blocked_cons (h : holds_back outside task = false) :
    is_blocked outside (task :: tasks) = is_blocked outside tasks := by
  simp [is_blocked, h]

theorem is_blocked_held (h : holds_back outside task = true) : is_blocked outside (task :: tasks) = true := by
  simp [is_blocked, h]

end

theorem not_held_of_late {task : Numbered} (h : start_expired outside task = true) :
    holds_back outside task = false := by
  unfold holds_back
  rw [h]
  rfl

/-- The tasks of a poll come back two at a time. -/
theorem run_pipeline_received (pipeline : Pipeline)
    (hplaces : ((pipeline.in_flight ++ tasks).map (·.2)).Nodup)
    (hroom : pipeline.in_flight.length ≤ 1) :
    (run_pipeline finish outside tasks pipeline).1.received = pipeline.received ++
      (all_finished (overtakes outside) (is_blocked outside tasks) (pipeline.in_flight ++ taken outside tasks)).map
        fun task => (task, received_outcome outside task.2) := by
  induction tasks generalizing pipeline with
  | nil =>
    rcases hflight : pipeline.in_flight with _ | ⟨w, _ | ⟨x, l⟩⟩
    · simp [run_pipeline, hflight, taken, all_finished]
    · rw [run_pipeline, if_neg (by rw [hflight]; exact List.cons_ne_nil _ _), hflight]
      change (receive finish outside pipeline).received = _
      rw [receive_one pipeline hflight, received_conclude]
      rfl
    · simp [hflight] at hroom
  | cons task tasks ih =>
    cases hlate : start_expired outside task with
    | true =>
      rw [run_pipeline_late tasks pipeline hlate, taken_late tasks hlate,
        is_blocked_cons tasks (not_held_of_late hlate), ih, received_conclude_expired, conclude_in_flight]
      · refine hplaces.sublist (List.Sublist.map _ ?_)
        exact (List.Sublist.refl pipeline.in_flight).append (List.sublist_cons_self task tasks)
      · exact hroom
    | false =>
      cases hheld : holds_back outside task with
      | true =>
        rw [run_pipeline_held tasks pipeline hheld, taken_held tasks hheld, is_blocked_held tasks hheld]
        rcases hflight : pipeline.in_flight with _ | ⟨w, _ | ⟨x, l⟩⟩
        · simp [all_finished]
        · simp [all_finished, finished]
        · simp [hflight] at hroom
      | false =>
        rw [run_pipeline_taken tasks pipeline hlate hheld, taken_cons tasks hlate hheld, is_blocked_cons tasks hheld]
        rcases hflight : pipeline.in_flight with _ | ⟨w, _ | ⟨x, l⟩⟩
        · rw [hflight] at hplaces
          rw [if_pos rfl, ih { pipeline with in_flight := [task] } hplaces (Nat.le_refl 1)]
          rfl
        · rw [hflight] at hplaces
          have hne : w.2 ≠ task.2 := by
            intro h
            rw [List.singleton_append, List.map_cons, h] at hplaces
            exact (List.nodup_cons.mp hplaces).1 (List.mem_map_of_mem List.mem_cons_self)
          rw [if_neg (List.cons_ne_nil _ _), receive_two _ rfl hne, List.singleton_append]
          change _ = _ ++ List.map _ (finished _ _ w (task :: taken outside tasks))
          rw [finished]
          split
          · rw [ih, received_conclude]
            · simp [Pipeline.conclude, Pipeline.received, all_finished]
            · exact hplaces.sublist (List.Sublist.map _ ((List.sublist_cons_self task tasks).cons_cons w))
            · exact Nat.le_refl 1
          · rw [ih, received_conclude]
            · simp [Pipeline.conclude, Pipeline.received, all_finished]
            · exact (List.nodup_cons.mp hplaces).2
            · exact Nat.le_refl 1
        · simp [hflight] at hroom

/-! ## What is heard -/

/-- The tasks that wait in a poll, with their places. -/
def waiting (finish : List Hashed → UInt64) (outside : PollOutside) (worker : SpeechDispatchWorker) : List Numbered :=
  (admitted finish outside worker.queue).1.1.zipIdx

/-- What a poll comes to. -/
def conducted (finish : List Hashed → UInt64) (outside : PollOutside) (worker : SpeechDispatchWorker) : Pipeline :=
  (run_pipeline finish outside (waiting finish outside worker) ⟨[], (admitted finish outside worker.queue).2, []⟩).1

/-- The tasks of a poll that are played, as they are played. -/
def played (finish : List Hashed → UInt64) (outside : PollOutside) (worker : SpeechDispatchWorker) : List Numbered :=
  ((conducted finish outside worker).outcomes.filter fun outcome => outcome.2.is_played).map (·.1)

variable (worker : SpeechDispatchWorker)

theorem waiting_places : (waiting finish outside worker).Pairwise fun a b => a.2 < b.2 := by
  unfold waiting
  rw [← List.pairwise_map (f := Prod.snd), List.zipIdx_map_snd]
  exact List.pairwise_lt_range'

theorem places_nodup {tasks : List Numbered} (h : tasks.Pairwise fun a b => a.2 < b.2) : tasks.Nodup := by
  refine h.imp ?_
  rintro a b hlt rfl
  exact Nat.lt_irrefl _ hlt

theorem taken_sublist : (taken outside tasks).Sublist tasks :=
  List.filter_sublist.trans (List.takeWhile_sublist _)

theorem played_of_received :
    pipeline.outcomes.filter (fun outcome => outcome.2.is_played) =
      pipeline.received.filter fun outcome => outcome.2.is_played := by
  unfold Pipeline.received
  rw [List.filter_filter]
  refine List.filter_congr fun outcome _ => ?_
  cases outcome.2 <;> rfl

theorem played_eq :
    played finish outside worker =
      (all_finished (overtakes outside) (is_blocked outside (waiting finish outside worker))
        (taken outside (waiting finish outside worker))).filter (plays outside) := by
  have hplaces : ((waiting finish outside worker).map (·.2)).Nodup :=
    List.pairwise_map.mpr ((waiting_places worker).imp Nat.ne_of_lt)
  have hreceived := @run_pipeline_received finish outside (waiting finish outside worker)
    ⟨[], (admitted finish outside worker.queue).2, []⟩ hplaces (Nat.zero_le 1)
  unfold played conducted
  rw [played_of_received, hreceived]
  change ((List.map _ _).filter _).map _ = _
  rw [List.filter_map, List.map_map]
  exact List.map_id _

/-- Whenever the younger of two syntheses comes back first, at most one of the two is played. -/
def NoneOvertakes (outside : PollOutside) (tasks : List Numbered) : Prop :=
  all_in_turn (overtakes outside) (is_blocked outside tasks) (plays outside) (taken outside tasks)

/-- The clauses of the window, played or not: older cues come first, and each has its clauses in their order. -/
def all_tasks (outside : PollOutside) : List SpeechDispatchTask :=
  outside.window.reverse.flatMap fun cue => unplayed_tasks cue outside.config outside.now

/-- The place of a clause in the window. -/
def clause_of_cue (task : SpeechDispatchTask) : SubtitleCue × Nat := (task.cue, task.segment_index)

/-- What is played has the order in which it was found. -/
structure HeardInOrder (outside : PollOutside) (waiting played : List Numbered) : Prop where
  in_order : played.Sublist waiting
  by_age : (played.map fun task => clause_of_cue task.1).Sublist ((all_tasks outside).map clause_of_cue)

theorem discovered_sublist (queue : SpeechDispatchQueue) :
    (discovered finish outside queue).Sublist (all_tasks outside) := by
  unfold discovered all_tasks
  split
  · refine List.filter_sublist.trans (List.Sublist.flatMap_right _ fun cue _ => ?_)
    unfold speech_dispatch_tasks_for_cue
    split
    · exact List.nil_sublist _
    · exact List.Sublist.refl _
  · exact List.nil_sublist _

/-- What waits is found in the window, the older cues first. -/
theorem waiting_by_age :
    ((waiting finish outside worker).map fun task => clause_of_cue task.1).Sublist
      ((all_tasks outside).map clause_of_cue) := by
  have hpending : (waiting finish outside worker).map (fun task => clause_of_cue task.1) =
      ((admitted finish outside worker.queue).1.1).map clause_of_cue := by
    unfold waiting
    change List.map (clause_of_cue ∘ Prod.fst) _ = _
    rw [← List.map_map, List.zipIdx_map_fst]
  rw [hpending]
  have hfound := @discovered_sublist finish outside (queue_at_poll outside worker.queue)
  refine List.Sublist.trans ?_ (hfound.map clause_of_cue)
  refine ((List.drop_sublist _ _).map clause_of_cue).trans ?_
  unfold SpeechDispatchQueue.since_first_seen
  rw [List.map_map]
  exact List.Sublist.refl _

/-- The clauses of a poll are heard in the order in which they were found exactly if none overtakes another one. -/
theorem clauses_are_heard_in_order_iff (finish : List Hashed → UInt64) (outside : PollOutside)
    (worker : SpeechDispatchWorker) :
    HeardInOrder outside (waiting finish outside worker) (played finish outside worker) ↔
      NoneOvertakes outside (waiting finish outside worker) := by
  have hplaces := @waiting_places finish outside worker
  have hsorted := hplaces.sublist (@taken_sublist outside _)
  have hasymm (a b : Numbered) (h : a.2 < b.2) : ¬ b.2 < a.2 := Nat.lt_asymm h
  have horder := @all_finished_in_order_iff _ (overtakes outside) (is_blocked outside (waiting finish outside worker))
    _ hasymm (plays outside) _ hsorted
  rw [← played_eq] at horder
  have hin : played finish outside worker ⊆ waiting finish outside worker := by
    intro task htask
    rw [played_eq] at htask
    have hfinished := (mem_all_finished (places_nodup hsorted) task).mp (List.mem_filter.mp htask).1
    exact (taken_sublist _).subset hfinished.1
  refine Iff.trans ⟨fun h => hplaces.sublist h.in_order, fun h => ?_⟩ horder
  have hsublist := List.sublist_of_subperm_of_pairwise ((places_nodup h).subperm hin) h hplaces
  exact ⟨hsublist, (hsublist.map _).trans (waiting_by_age worker)⟩

end

/-! ## Two clauses of a cue -/

/-- A hash of what is written, one character after the other. -/
def sum_hash (written : List Hashed) : UInt64 :=
  written.foldl (fun hash part => match part with
    | .str text => text.foldl (fun hash c => hash * 31 + c.toNat.toUInt64) (hash * 31 + 255)
    | .usize n => hash * 31 + n.toUInt64) 0

/-- A committed cue whose one display segment has two clauses. -/
def two_clauses : SubtitleCue :=
  { translation_lifecycle.new_subtitle_cue "c" "inbound" "One. Two.".toList true 1 0 with
    display_segments := [⟨"one! two!".toList, "一。二。".toList, false⟩]
    translated_text := "一。二。".toList
    translation_committed := true
    translation_state := some .Final }

/-- Both clauses are synthesized, the second one first. -/
def second_one_first : PollOutside where
  reconnected := false
  window := [two_clauses]
  config := ⟨true, true, false, "idle"⟩
  now := 0
  popped_at _ := 0
  synthesis _ := .ok 0
  received_at_ms _ := 0
  playback _ := .ok ()
  younger_first _ _ := true

/-- The second clause of the cue is played before the first one. -/
theorem the_second_clause_is_heard_first :
    ¬ ∀ (finish : List Hashed → UInt64) (outside : PollOutside) (worker : SpeechDispatchWorker),
      HeardInOrder outside (waiting finish outside worker) (played finish outside worker) := by
  intro hall
  have horder := (hall sum_hash second_one_first new).in_order
  have hplayed : (played sum_hash second_one_first new).map (·.2) = [1, 0] := by decide +kernel
  have hplaces := (@waiting_places sum_hash second_one_first new).sublist horder
  rw [← List.pairwise_map (f := Prod.snd), hplayed] at hplaces
  exact absurd hplaces (by decide)

end omni_translate.speech_dispatch

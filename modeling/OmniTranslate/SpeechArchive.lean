-- What the worker that speaks gives to the archive (`archive_translated_pcm` in
-- `synthesize_pcm`): the PCM of a task goes there when it is made, before it is known
-- whether the task is played.
import OmniTranslate.SpeechOutcomes

namespace omni_translate.speech_dispatch

open overtaking runs
open translation_lifecycle (SubtitleCue)

/-- The synthesis of the task gives PCM, from the provider or from the cache. -/
def synthesized (outside : PollOutside) (task : Numbered) : Bool := (outside.synthesis task.2).isOk

/-- The tasks whose PCM a poll gives to the archive. -/
def archived_pcm (finish : List Hashed → UInt64) (outside : PollOutside) (worker : SpeechDispatchWorker) :
    List SpeechDispatchTask :=
  if worker.stuck then []
  else ((taken outside (waiting finish outside worker)).filter (synthesized outside)).map (·.1)

/-- The worker, and the tasks whose PCM was given to the archive. -/
structure Archiving where
  worker : SpeechDispatchWorker
  archive : List SpeechDispatchTask

def Archiving.poll (finish : List Hashed → UInt64) (s : Archiving) (outside : PollOutside) : Archiving where
  worker := speech_dispatch.poll finish outside s.worker
  archive := s.archive ++ archived_pcm finish outside s.worker

def Archiving.new : Archiving := ⟨speech_dispatch.new, []⟩

section

variable (finish : List Hashed → UInt64) (outside : PollOutside) (worker : SpeechDispatchWorker)

/-- The clauses of the window have keys of their own, the history has those that had their outcome, and no PCM is in
flight when push-to-talk ends the poll. -/
def KeepsPcm : Prop :=
  ((all_tasks outside).map (dispatch_key finish)).Nodup ∧
    (∀ task ∈ all_tasks outside,
      dispatch_key finish task ∈ worker.outcomes.map (fun outcome => dispatch_key finish outcome.1) →
        dispatch_key finish task ∈ worker.queue.processed.keys) ∧
    ∀ task ∈ all_abandoned (overtakes outside) (is_blocked outside (waiting finish outside worker))
      (taken outside (waiting finish outside worker)), synthesized outside task = false

instance : Decidable (KeepsPcm finish outside worker) := by
  unfold KeepsPcm
  infer_instance

end

variable {finish : List Hashed → UInt64} {outside : PollOutside} {worker : SpeechDispatchWorker}
  {task : SpeechDispatchTask} {s : Archiving}

theorem archived_found (h : task ∈ archived_pcm finish outside worker) :
    worker.stuck = false ∧ task ∈ found finish outside worker.queue ∧
      ∃ place, (task, place) ∈ taken outside (waiting finish outside worker) ∧
        synthesized outside (task, place) = true := by
  unfold archived_pcm at h
  split at h
  · cases h
  · rename_i hrunning
    obtain ⟨⟨_, place⟩, hin, rfl⟩ := List.mem_map.mp h
    obtain ⟨htaken, hmade⟩ := List.mem_filter.mp hin
    refine ⟨Bool.eq_false_iff.mpr hrunning, ?_, place, htaken, hmade⟩
    rw [← admitted_tasks]
    exact List.mem_append_right _ (List.fst_mem_of_mem_zipIdx ((taken_sublist _).subset htaken))

theorem archived_nodup (hown : ((all_tasks outside).map (dispatch_key finish)).Nodup) :
    ((archived_pcm finish outside worker).map (dispatch_key finish)).Nodup := by
  unfold archived_pcm
  split
  · exact List.nodup_nil
  · have hfound := found_nodup hown worker.queue
    rw [← admitted_tasks, List.map_append] at hfound
    refine (List.nodup_append.mp hfound).2.1.sublist (List.Sublist.map _ ?_)
    have hwaiting := (List.filter_sublist (p := synthesized outside)).trans
      (@taken_sublist outside (waiting finish outside worker))
    have hplaces := hwaiting.map Prod.fst
    rwa [waiting, List.zipIdx_map_fst] at hplaces

/-- What is archived has its outcome in the poll unless it is in flight when push-to-talk ends it. -/
theorem archived_has_outcome (hkeeps : KeepsPcm finish outside worker)
    (h : task ∈ archived_pcm finish outside worker) :
    ∃ outcome ∈ new_outcomes finish outside worker, outcome.1 = task := by
  obtain ⟨-, -, place, htaken, hmade⟩ := archived_found h
  have hnodup := (places_nodup (@waiting_places finish outside worker)).sublist (@taken_sublist outside _)
  have hended : (task, place) ∈ ended outside (waiting finish outside worker) := by
    refine List.mem_append_right _ ((mem_all_finished hnodup _).mpr ⟨htaken, fun hleft => ?_⟩)
    rw [hkeeps.2.2 _ hleft] at hmade
    cases hmade
  obtain ⟨outcome, ho, heq⟩ := List.mem_map.mp ((conducted_tasks worker).mem_iff.mpr hended)
  exact ⟨(outcome.1.1, outcome.2), List.mem_append_right _ (List.mem_map_of_mem ho), by rw [heq]⟩

/-- What is played was archived in the same poll. -/
theorem played_archived (hrunning : worker.stuck = false) {outcome : SpeechDispatchTask × SpeechOutcome}
    (h : outcome ∈ new_outcomes finish outside worker) (hplayed : outcome.2.is_played = true) :
    outcome.1 ∈ archived_pcm finish outside worker := by
  rcases List.mem_append.mp h with hover | hended
  · obtain ⟨task, -, rfl⟩ := List.mem_map.mp hover
    cases hplayed
  · obtain ⟨o, ho, rfl⟩ := List.mem_map.mp hended
    have hin : o.1 ∈ played finish outside worker := List.mem_map_of_mem (List.mem_filter.mpr ⟨ho, hplayed⟩)
    rw [played_eq] at hin
    obtain ⟨hback, hplays⟩ := List.mem_filter.mp hin
    have hnodup := (places_nodup (@waiting_places finish outside worker)).sublist (@taken_sublist outside _)
    have hmade : synthesized outside o.1 = true := by
      unfold plays received_outcome at hplays
      unfold synthesized
      split at hplays
      · cases hplays
      · rename_i hok
        rw [hok]
        rfl
    unfold archived_pcm
    rw [if_neg (by rw [hrunning]; exact Bool.false_ne_true)]
    exact List.mem_map_of_mem (List.mem_filter.mpr ⟨((mem_all_finished hnodup _).mp hback).1, hmade⟩)

/-- No clause is archived twice, what is archived has its outcome, and what was played is archived. -/
structure ArchivedOnce (finish : List Hashed → UInt64) (s : Archiving) : Prop where
  once : (s.archive.map (dispatch_key finish)).Nodup
  ended : ∀ task ∈ s.archive,
    dispatch_key finish task ∈ s.worker.outcomes.map fun outcome => dispatch_key finish outcome.1
  played : ∀ outcome ∈ s.worker.outcomes, outcome.2.is_played = true → outcome.1 ∈ s.archive

theorem ArchivedOnce.poll (h : ArchivedOnce finish s) (hkeeps : KeepsPcm finish outside s.worker) :
    ArchivedOnce finish (s.poll finish outside) := by
  unfold Archiving.poll
  cases hstuck : s.worker.stuck with
  | true =>
    rw [poll_stuck hstuck, archived_pcm, if_pos hstuck, List.append_nil]
    exact h
  | false =>
    obtain ⟨-, houtcomes⟩ := @poll_spec finish outside s.worker hstuck
    refine ⟨?_, fun task htask => ?_, fun outcome ho hplayed => ?_⟩
    · rw [List.map_append]
      refine List.nodup_append.mpr ⟨h.once, archived_nodup hkeeps.1, ?_⟩
      rintro _ hold _ hnew rfl
      obtain ⟨before, hbefore, hkey⟩ := List.mem_map.mp hold
      obtain ⟨task, htask, hsame⟩ := List.mem_map.mp hnew
      obtain ⟨seen, hseen, n, rfl⟩ := mem_found (archived_found htask).2.1
      obtain ⟨-, hall, hhidden⟩ := mem_discovered.mp hseen
      -- The clause had its outcome, so the history has its key, and the poll does not find it.
      have hprocessed := hkeeps.2.1 seen hall (hsame.trans hkey.symm ▸ h.ended before hbefore)
      refine Bool.eq_false_iff.mp hhidden ((contains_iff _ seen).mpr (.inr (.inl ?_)))
      unfold queue_at_poll
      split <;> exact hprocessed
    · rw [houtcomes, List.map_append]
      rcases List.mem_append.mp htask with hold | hnew
      · exact List.mem_append_left _ (h.ended task hold)
      · obtain ⟨outcome, ho, rfl⟩ := archived_has_outcome hkeeps hnew
        exact List.mem_append_right _ (List.mem_map_of_mem ho)
    · rw [houtcomes] at ho
      rcases List.mem_append.mp ho with hold | hnew
      · exact List.mem_append_left _ (h.played outcome hold hplayed)
      · exact List.mem_append_right _ (played_archived hstuck hnew hplayed)

/-- As long as push-to-talk drops no PCM and the history forgets no clause that is still in the window, the PCM of a
clause is archived at most once, and once if it was played. -/
theorem a_clause_is_archived_once (polls : List PollOutside)
    (hkept : Along (Archiving.poll finish) (fun s outside => KeepsPcm finish outside s.worker) .new polls) :
    ((run (Archiving.poll finish) .new polls).archive.map (dispatch_key finish)).Nodup ∧
      ∀ outcome ∈ (run (Archiving.poll finish) .new polls).worker.outcomes, outcome.2.is_played = true →
        ((run (Archiving.poll finish) .new polls).archive.map (dispatch_key finish)).count
          (dispatch_key finish outcome.1) = 1 := by
  have hnew : ArchivedOnce finish .new := ⟨List.nodup_nil, nofun, nofun⟩
  have honce := hkept.keeps (ArchivedOnce finish) (fun _ _ h hkeeps => h.poll hkeeps) hnew
  refine ⟨honce.once, fun outcome ho hplayed => ?_⟩
  exact List.count_eq_one_of_mem honce.once (List.mem_map_of_mem (honce.played outcome ho hplayed))

/-- Two polls without push-to-talk. -/
theorem both_clauses_are_archived_once :
    ((run (Archiving.poll sum_hash) .new [second_one_first, second_one_first]).archive.map
      (dispatch_key sum_hash)).Nodup :=
  (a_clause_is_archived_once [second_one_first, second_one_first] (by decide +kernel)).1

/-- An inbound clause is in flight when push-to-talk holds the outbound one back, twice. -/
theorem a_dropped_clause_is_archived_again :
    ¬ ∀ (finish : List Hashed → UInt64) (polls : List PollOutside),
      ((run (Archiving.poll finish) .new polls).archive.map (dispatch_key finish)).Nodup := by
  intro hall
  let behind : PollOutside := { held_back with
    window := [spoken_cue, { spoken_cue with cue_id := "i", route_direction := "inbound" }] }
  exact absurd (hall sum_hash [behind, behind]) (by decide +kernel)

end omni_translate.speech_dispatch

-- The laws of the scheduler over whole runs: the key sets always match the
-- queue, and a job that is not a preview never gets lost.
import OmniTranslate.Places
import OmniTranslate.Runs
import OmniTranslate.TranslationScheduler

namespace omni_translate.translation_scheduler

open places runs TranslationScheduler
open sentence (Instant Duration)

/-! ## The invariant -/

/-- The key sets are the keys of the queue, keys are distinct in the queue and against the
jobs in flight, and the queue keeps its bounds. -/
structure Indexed (s : TranslationScheduler) : Prop where
  keys : s.queued_keys = (s.queued.map (·.key)).toFinset
  works : s.queued_sentence_keys = (s.queued.map translation_sentence_work_key).toFinset
  keys_nodup : (s.queued.map (·.key)).Nodup
  works_nodup : (s.queued.map translation_sentence_work_key).Nodup
  idle_keys : ∀ job ∈ s.queued, job.key ∉ s.in_flight
  idle_works : ∀ job ∈ s.queued, ∀ entry ∈ s.in_flight.entries,
    entry.2.sentence_work_key ≠ translation_sentence_work_key job
  total : s.queued.length ≤ MAX_QUEUED_TRANSLATIONS
  per_cue : ∀ cue_id, s.queued_for_cue cue_id ≤ MAX_QUEUED_TRANSLATIONS_PER_CUE

variable (max_concurrent max_concurrent_forced : Nat)

theorem indexed_new : Indexed (new max_concurrent max_concurrent_forced) := by
  refine ⟨rfl, rfl, ?_, ?_, ?_, ?_, ?_, ?_⟩ <;>
    simp [new, queued_for_cue]

/-- A scheduler whose queue lost some jobs, with its key sets in step. -/
theorem Indexed.shrink {s s' : TranslationScheduler} (h : Indexed s)
    (hsub : s'.queued.Sublist s.queued)
    (hkeys : s'.queued_keys = (s'.queued.map (·.key)).toFinset)
    (hworks : s'.queued_sentence_keys = (s'.queued.map translation_sentence_work_key).toFinset)
    (hfly : s'.in_flight = s.in_flight) : Indexed s' := by
  refine ⟨hkeys, hworks, h.keys_nodup.sublist (hsub.map _), h.works_nodup.sublist (hsub.map _),
    ?_, ?_, ?_, ?_⟩
  · intro job hj
    rw [hfly]
    exact h.idle_keys job (hsub.subset hj)
  · intro job hj
    rw [hfly]
    exact h.idle_works job (hsub.subset hj)
  · exact hsub.length_le.trans h.total
  · intro cue_id
    exact (hsub.filter _).length_le.trans (h.per_cue cue_id)

variable {s : TranslationScheduler}

theorem Indexed.same_job (h : Indexed s) {a b : TranslationJob} (ha : a ∈ s.queued)
    (hb : b ∈ s.queued) (hkey : a.key = b.key) : a = b :=
  List.inj_on_of_nodup_map h.keys_nodup ha hb hkey

/-! ## Removal -/

variable {job : TranslationJob}

/-- The state after a job at an index left the queue. -/
theorem Indexed.unindex (h : Indexed s) {i : Nat} (hi : s.queued[i]? = some job) :
    Indexed ({ s with queued := s.queued.eraseIdx i }.unindex job) := by
  obtain ⟨_, _, hq, he⟩ := take_out hi
  have hkeys := h.keys_nodup
  have hworks := h.works_nodup
  rw [hq] at hkeys hworks
  apply h.shrink
  · exact List.eraseIdx_sublist s.queued i
  · simp only [TranslationScheduler.unindex, h.keys, he]
    rw [hq]
    exact toFinset_erase_key hkeys
  · simp only [TranslationScheduler.unindex, h.works, he]
    rw [hq]
    exact toFinset_erase_key hworks
  · rfl

/-- The loop of a sweep: jobs that stay are retained in order, the others leave with their
keys. -/
theorem sweep_loop_spec (stays terminal : TranslationJob → Bool) (rest : List TranslationJob)
    (s : TranslationScheduler)
    (hk : s.queued_keys = ((s.queued ++ rest).map (·.key)).toFinset)
    (hw : s.queued_sentence_keys =
      ((s.queued ++ rest).map translation_sentence_work_key).toFinset)
    (hkn : ((s.queued ++ rest).map (·.key)).Nodup)
    (hwn : ((s.queued ++ rest).map translation_sentence_work_key).Nodup) :
    rest.foldl (sweep_step stays terminal) s =
      { s with
        queued := s.queued ++ rest.filter stays
        queued_keys := ((s.queued ++ rest.filter stays).map (·.key)).toFinset
        queued_sentence_keys :=
          ((s.queued ++ rest.filter stays).map translation_sentence_work_key).toFinset
        expired_terminal_jobs :=
          s.expired_terminal_jobs ++ rest.filter (fun job => !stays job && terminal job) } := by
  induction rest generalizing s with
  | nil =>
    simp only [List.append_nil] at hk hw
    simp [← hk, ← hw]
  | cons job rest ih =>
    by_cases hs : stays job = true
    · have hstep : sweep_step stays terminal s job = { s with queued := s.queued ++ [job] } := by
        simp [sweep_step, hs]
      rw [List.foldl_cons, hstep, ih]
      · simp [hs]
      · simpa using hk
      · simpa using hw
      · simpa using hkn
      · simpa using hwn
    · have hk' := toFinset_erase_key hkn
      have hw' := toFinset_erase_key hwn
      have hsub : (s.queued ++ rest).Sublist (s.queued ++ job :: rest) :=
        (List.sublist_cons_self job rest).append_left s.queued
      have hkn' := hkn.sublist (hsub.map _)
      have hwn' := hwn.sublist (hsub.map _)
      by_cases ht : terminal job = true
      · have hstep : sweep_step stays terminal s job =
            { s.unindex job with
              expired_terminal_jobs := s.expired_terminal_jobs ++ [job] } := by
          simp [sweep_step, hs, ht, TranslationScheduler.unindex]
        rw [List.foldl_cons, hstep, ih]
        · simp [TranslationScheduler.unindex, hs, ht]
        · simpa [TranslationScheduler.unindex, hk] using hk'
        · simpa [TranslationScheduler.unindex, hw] using hw'
        · exact hkn'
        · exact hwn'
      · have hstep : sweep_step stays terminal s job = s.unindex job := by
          simp [sweep_step, hs, ht]
        rw [List.foldl_cons, hstep, ih]
        · simp [TranslationScheduler.unindex, hs, ht]
        · simpa [TranslationScheduler.unindex, hk] using hk'
        · simpa [TranslationScheduler.unindex, hw] using hw'
        · exact hkn'
        · exact hwn'

theorem sweep_spec (h : Indexed s) (stays terminal : TranslationJob → Bool) :
    s.sweep stays terminal =
      { s with
        queued := s.queued.filter stays
        queued_keys := ((s.queued.filter stays).map (·.key)).toFinset
        queued_sentence_keys :=
          ((s.queued.filter stays).map translation_sentence_work_key).toFinset
        expired_terminal_jobs :=
          s.expired_terminal_jobs ++ s.queued.filter (fun job => !stays job && terminal job) } :=
  sweep_loop_spec stays terminal s.queued { s with queued := [] } h.keys h.works h.keys_nodup
    h.works_nodup

theorem Indexed.sweep (h : Indexed s) (stays terminal : TranslationJob → Bool) :
    Indexed (s.sweep stays terminal) := by
  rw [sweep_spec h]
  exact h.shrink List.filter_sublist rfl rfl rfl

/-- The jobs that are not previews. -/
def finals (jobs : List TranslationJob) : List TranslationJob :=
  jobs.filter (!·.result.is_forced)

@[simp] theorem finals_append (a b : List TranslationJob) :
    finals (a ++ b) = finals a ++ finals b := by
  simp [finals]

/-- Only previews left the queue, and nothing else changed but the key sets. -/
structure Evicted (s s' : TranslationScheduler) : Prop where
  indexed : Indexed s'
  finals : finals s'.queued = finals s.queued
  sublist : s'.queued.Sublist s.queued
  in_flight : s'.in_flight = s.in_flight
  expired : s'.expired_terminal_jobs = s.expired_terminal_jobs

theorem Evicted.refl (h : Indexed s) : Evicted s s :=
  ⟨h, rfl, List.Sublist.refl _, rfl, rfl⟩

theorem Evicted.trans {s s' s'' : TranslationScheduler} (h : Evicted s s') (h' : Evicted s' s'') :
    Evicted s s'' :=
  ⟨h'.indexed, h'.finals.trans h.finals, h'.sublist.trans h.sublist,
    h'.in_flight.trans h.in_flight, h'.expired.trans h.expired⟩

/-- A removal by key takes out the job with the key, if there is one. -/
theorem remove_queued_by_key_cases (s : TranslationScheduler) (key : String) :
    s.remove_queued_by_key key = s ∧ (∀ job ∈ s.queued, job.key ≠ key) ∨
    ∃ i job, s.queued[i]? = some job ∧ job.key = key ∧
      s.remove_queued_by_key key = { s with queued := s.queued.eraseIdx i }.unindex job := by
  unfold remove_queued_by_key
  split
  · rename_i hf
    left
    refine ⟨rfl, ?_⟩
    intro job hj hk
    have := List.findIdx?_eq_none_iff.mp hf job hj
    simp [hk] at this
  · rename_i i hf
    right
    obtain ⟨hi, hk, _⟩ := List.findIdx?_eq_some_iff_getElem.mp hf
    refine ⟨i, s.queued[i], List.getElem?_eq_getElem hi, by simpa using hk, ?_⟩
    simp only [List.getElem?_eq_getElem hi]

section

variable (h : Indexed s)

include h

theorem Evicted.remove (key : String)
    (hf : ∀ job ∈ s.queued, job.key = key → job.result.is_forced = true) :
    Evicted s (s.remove_queued_by_key key) := by
  rcases remove_queued_by_key_cases s key with ⟨heq, _⟩ | ⟨i, job, hi, hk, heq⟩
  · rw [heq]
    exact Evicted.refl h
  · rw [heq]
    refine ⟨h.unindex hi, ?_, List.eraseIdx_sublist _ _, rfl, rfl⟩
    obtain ⟨_, _, hq, he⟩ := take_out hi
    have hforced := hf job (List.mem_of_getElem? hi) hk
    change translation_scheduler.finals (s.queued.eraseIdx i) = _
    rw [he, hq]
    simp [translation_scheduler.finals, hforced]

/-- A queued job that is removed by its key is gone, and it alone. -/
theorem remove_queued_by_key_perm (hj : job ∈ s.queued) :
    s.queued.Perm (job :: (s.remove_queued_by_key job.key).queued) := by
  rcases remove_queued_by_key_cases s job.key with ⟨_, hnot⟩ | ⟨_, _, hi, hk, heq⟩
  · exact absurd rfl (hnot job hj)
  · obtain rfl := h.same_job (List.mem_of_getElem? hi) hj hk
    obtain ⟨_, _, hq, he⟩ := take_out hi
    rw [heq]
    rw [he, hq]
    exact List.perm_middle

/-- The loop of `drop_superseded_preview` over keys of previews. -/
theorem Evicted.remove_all (keys : List String)
    (hf : ∀ key ∈ keys, ∀ job ∈ s.queued, job.key = key → job.result.is_forced = true) :
    Evicted s (keys.foldl remove_queued_by_key s) := by
  induction keys generalizing s with
  | nil => exact Evicted.refl h
  | cons key keys ih =>
    have h1 := Evicted.remove h key (hf key List.mem_cons_self)
    refine h1.trans (ih h1.indexed ?_)
    intro key' hk' job hj
    exact hf key' (List.mem_cons_of_mem _ hk') job (h1.sublist.subset hj)

theorem Evicted.drop_superseded (incoming : TranslationJob) :
    Evicted s (s.drop_superseded_preview incoming) := by
  apply Evicted.remove_all h
  intro key hkey job hj hk
  obtain ⟨_, hp, rfl⟩ := List.mem_map.mp hkey
  obtain ⟨hmem, hprop⟩ := List.mem_filter.mp hp
  obtain rfl := h.same_job hj hmem hk
  simp only [decide_eq_true_eq] at hprop
  exact hprop.2.2

theorem Evicted.evict {o : Option TranslationJob}
    (ho : ∀ job, o = some job → job ∈ s.queued ∧ job.result.is_forced = true) :
    Evicted s (s.evict o).1 ∧ ((s.evict o).2 = true → ∃ job, o = some job ∧
      s.queued.Perm (job :: (s.evict o).1.queued)) := by
  cases o with
  | none => exact ⟨Evicted.refl h, by simp [TranslationScheduler.evict]⟩
  | some job =>
    obtain ⟨hj, hforced⟩ := ho job rfl
    refine ⟨Evicted.remove h job.key ?_, fun _ => ⟨job, rfl, remove_queued_by_key_perm h hj⟩⟩
    intro job' hj' hk
    rw [h.same_job hj' hj hk]
    exact hforced

/-- Room for a cue: previews at most have left, and a cue with room has fewer jobs than its
bound. -/
theorem make_room_for_cue (cue_id : String) :
    let r := s.make_room (s.queued_for_cue cue_id ≥ MAX_QUEUED_TRANSLATIONS_PER_CUE)
      (·.evict_preview_for_cue cue_id)
    Evicted s r.1 ∧
      (r.2 = true → r.1.queued_for_cue cue_id < MAX_QUEUED_TRANSLATIONS_PER_CUE) := by
  unfold make_room
  split
  · obtain ⟨he, hroom⟩ := Evicted.evict h
      (o := s.queued.find? fun job => job.cue_id = cue_id ∧ job.result.is_forced) (by
        intro job ho
        have hp := List.find?_some ho
        simp only [decide_eq_true_eq] at hp
        exact ⟨List.mem_of_find?_eq_some ho, hp.2⟩)
    refine ⟨he, ?_⟩
    intro hr
    obtain ⟨job, ho, hperm⟩ := hroom hr
    have hp := List.find?_some ho
    simp only [decide_eq_true_eq] at hp
    have hlen := (hperm.filter fun job => job.cue_id = cue_id).length_eq
    have hcue := h.per_cue cue_id
    simp only [queued_for_cue, hlen, List.filter_cons, hp.1, decide_true, if_true,
      List.length_cons] at hcue ⊢
    exact hcue
  · rename_i hfull
    refine ⟨Evicted.refl h, fun _ => ?_⟩
    simpa using hfull

theorem make_room_in_queue :
    let r := s.make_room (s.queued.length ≥ MAX_QUEUED_TRANSLATIONS) evict_oldest_preview
    Evicted s r.1 ∧ (r.2 = true → r.1.queued.length < MAX_QUEUED_TRANSLATIONS) := by
  unfold make_room
  split
  · obtain ⟨he, hroom⟩ := Evicted.evict h
      (o := (s.queued.filter (·.result.is_forced)).argmin fun job =>
        toLex (job.created_at, job.sequence)) (by
        intro job ho
        exact List.mem_filter.mp (List.argmin_mem ho))
    refine ⟨he, ?_⟩
    intro hr
    obtain ⟨job, _, hperm⟩ := hroom hr
    have hlen := hperm.length_eq
    have htotal := h.total
    simp only [hlen, List.length_cons] at htotal
    exact htotal
  · rename_i hfull
    refine ⟨Evicted.refl h, fun _ => ?_⟩
    simpa using hfull

/-! ## The way in -/

theorem Indexed.push_back (hkey : job.key ∉ s.queued_keys) (hfly : job.key ∉ s.in_flight)
    (hwork : translation_sentence_work_key job ∉ s.queued_sentence_keys)
    (hwfly : ∀ entry ∈ s.in_flight.entries,
      entry.2.sentence_work_key ≠ translation_sentence_work_key job)
    (hcue : s.queued_for_cue job.cue_id < MAX_QUEUED_TRANSLATIONS_PER_CUE)
    (htotal : s.queued.length < MAX_QUEUED_TRANSLATIONS) : Indexed (s.push_back job) := by
  rw [h.keys, List.mem_toFinset] at hkey
  rw [h.works, List.mem_toFinset] at hwork
  refine ⟨?_, ?_, ?_, ?_, ?_, ?_, ?_, ?_⟩
  · simp only [TranslationScheduler.push_back, h.keys]
    simp
  · simp only [TranslationScheduler.push_back, h.works]
    simp
  · simp only [TranslationScheduler.push_back, List.map_append, List.map_cons, List.map_nil]
    simpa using h.keys_nodup.concat hkey
  · simp only [TranslationScheduler.push_back, List.map_append, List.map_cons, List.map_nil]
    simpa using h.works_nodup.concat hwork
  · intro job' hj'
    rcases List.mem_append.mp hj' with hj' | hj'
    · exact h.idle_keys job' hj'
    · rw [List.mem_singleton.mp hj']
      exact hfly
  · intro job' hj'
    rcases List.mem_append.mp hj' with hj' | hj'
    · exact h.idle_works job' hj'
    · rw [List.mem_singleton.mp hj']
      exact hwfly
  · simp only [TranslationScheduler.push_back, List.length_append, List.length_singleton]
    omega
  · intro cue_id
    have hold := h.per_cue cue_id
    simp only [queued_for_cue, TranslationScheduler.push_back, List.filter_append,
      List.length_append] at hold hcue ⊢
    by_cases hc : job.cue_id = cue_id
    · subst hc
      simp only [List.filter_cons, decide_true, if_true, List.filter_nil, List.length_singleton]
      omega
    · simp only [List.filter_cons, hc, decide_false, Bool.false_eq_true, if_false,
        List.filter_nil, List.length_nil]
      omega

end

/-- A job that was no duplicate before an eviction is none after it. -/
theorem Evicted.push_back {s s' : TranslationScheduler} (h : Evicted s s') (hs : Indexed s)
    (hdup : s.is_duplicate job = false)
    (hcue : s'.queued_for_cue job.cue_id < MAX_QUEUED_TRANSLATIONS_PER_CUE)
    (htotal : s'.queued.length < MAX_QUEUED_TRANSLATIONS) : Indexed (s'.push_back job) := by
  simp only [is_duplicate, hs.keys, hs.works, List.mem_toFinset, decide_eq_false_iff_not,
    not_or, List.any_eq_true, decide_eq_true_eq, not_exists, not_and] at hdup
  obtain ⟨hkey, hfly, hwork, hwfly⟩ := hdup
  apply h.indexed.push_back
  · rw [h.indexed.keys, List.mem_toFinset]
    exact fun hmem => hkey ((h.sublist.map _).subset hmem)
  · rw [h.in_flight]
    exact hfly
  · rw [h.indexed.works, List.mem_toFinset]
    exact fun hmem => hwork ((h.sublist.map _).subset hmem)
  · rw [h.in_flight]
    exact hwfly
  · exact hcue
  · exact htotal

/-- What an enqueue does after the purge: previews at most leave the queue, and an accepted
job joins it. -/
theorem enqueue_spec (h : Indexed s) (job : TranslationJob) (now : Instant) :
    ∃ s₁, Evicted (s.drop_expired_queued_at now) s₁ ∧
      ((s.enqueue_with_result_at job now).2 = .Enqueued ∧
          (s.enqueue_with_result_at job now).1 = s₁.push_back job ∧
          Indexed (s₁.push_back job) ∨
        (s.enqueue_with_result_at job now).2 ≠ .Enqueued ∧
          (s.enqueue_with_result_at job now).1 = s₁) := by
  have h0 : Indexed (s.drop_expired_queued_at now) := h.sweep _ _
  unfold enqueue_with_result_at
  generalize s.drop_expired_queued_at now = s at h0
  simp only
  split
  · exact ⟨s, Evicted.refl h0, Or.inr ⟨by simp, rfl⟩⟩
  · split
    · exact ⟨s, Evicted.refl h0, Or.inr ⟨by simp, rfl⟩⟩
    · rename_i hdup
      have h1 := Evicted.drop_superseded h0 job
      obtain ⟨h2, hcue⟩ := make_room_for_cue h1.indexed job.cue_id
      split
      · exact ⟨_, h1.trans h2, Or.inr ⟨by simp, rfl⟩⟩
      · rename_i hroom
        obtain ⟨h3, htotal⟩ := make_room_in_queue h2.indexed
        split
        · exact ⟨_, (h1.trans h2).trans h3, Or.inr ⟨by simp, rfl⟩⟩
        · rename_i hroom'
          refine ⟨_, (h1.trans h2).trans h3, Or.inl ⟨rfl, rfl, ?_⟩⟩
          apply ((h1.trans h2).trans h3).push_back h0
          · simpa using hdup
          · have hle := (h3.sublist.filter fun queued => queued.cue_id = job.cue_id).length_le
            exact Nat.lt_of_le_of_lt hle (hcue (by simpa using hroom))
          · exact htotal (by simpa using hroom')

/-! ## Dispatch -/

theorem Indexed.launch (h : Indexed s) {i : Nat} (hi : s.queued[i]? = some job) :
    Indexed (s.launch i job) := by
  have h1 := h.unindex hi
  obtain ⟨_, _, hq, he⟩ := take_out hi
  -- the other queued jobs have other keys
  have hkeys : job.key ∉ (s.queued.eraseIdx i).map (·.key) := by
    rw [he]
    exact key_not_mem_rest (hq ▸ h.keys_nodup)
  have hworks : translation_sentence_work_key job ∉
      (s.queued.eraseIdx i).map translation_sentence_work_key := by
    rw [he]
    exact key_not_mem_rest (hq ▸ h.works_nodup)
  refine ⟨h1.keys, h1.works, h1.keys_nodup, h1.works_nodup, ?_, ?_, h1.total, h1.per_cue⟩
  · intro job' hj'
    have hne : job'.key ≠ job.key := by
      intro heq
      apply hkeys
      rw [← heq]
      exact List.mem_map_of_mem hj'
    simp only [TranslationScheduler.launch, TranslationScheduler.unindex, AList.mem_insert,
      not_or]
    exact ⟨hne, h1.idle_keys job' hj'⟩
  · intro job' hj' entry hentry
    have hne : translation_sentence_work_key job ≠ translation_sentence_work_key job' := by
      intro heq
      apply hworks
      rw [heq]
      exact List.mem_map_of_mem hj'
    rcases List.mem_cons.mp hentry with rfl | hentry
    · exact hne
    · exact h1.idle_works job' hj' entry ((List.kerase_sublist _ _).subset hentry)

/-- The dispatch loop keeps the invariant, and the jobs it takes off the queue are those it
spawns. -/
theorem dispatch_loop_spec (fuel : Nat) (h : Indexed s) :
    Indexed (dispatch_loop fuel s).1 ∧
      s.queued.Perm ((dispatch_loop fuel s).2 ++ (dispatch_loop fuel s).1.queued) ∧
      (dispatch_loop fuel s).1.expired_terminal_jobs = s.expired_terminal_jobs := by
  induction fuel generalizing s with
  | zero => exact ⟨h, List.Perm.refl _, rfl⟩
  | succ fuel ih =>
    unfold dispatch_loop
    split
    · exact ⟨h, List.Perm.refl _, rfl⟩
    · rename_i i _
      split
      · exact ⟨h, List.Perm.refl _, rfl⟩
      · rename_i job hi
        obtain ⟨h1, hperm, hexp⟩ := ih (h.launch hi)
        refine ⟨h1, ?_, hexp⟩
        obtain ⟨l₁, l₂, hq, he⟩ := take_out hi
        calc s.queued.Perm (job :: (l₁ ++ l₂)) := by rw [hq]; exact List.perm_middle
          _ = job :: s.queued.eraseIdx i := by rw [he]
          _ |>.Perm _ := hperm.cons job

/-! ## Runs -/

/-- One call of the scheduler, with the clock readings it makes. -/
inductive Op
  | enqueue (job : TranslationJob) (now : Instant)
  | dispatch_ready (purge_now now : Instant)
  | finish (key : String)
  | drop_queued_for_cue (cue_id : String)
  | take_expired_terminal_jobs
  | set_max_concurrent (max_concurrent : Nat)
  | defer_dispatch_for (delay : Duration) (now : Instant)

/-- A scheduler with a record of what went in and out: the jobs accepted, handed to `spawn`,
returned as expired, and dropped with the cue they were dropped for. -/
structure Recorded where
  scheduler : TranslationScheduler
  accepted : List TranslationJob
  spawned : List TranslationJob
  returned : List TranslationJob
  dropped : List (String × TranslationJob)

namespace Recorded

def new (max_concurrent max_concurrent_forced : Nat) : Recorded :=
  ⟨TranslationScheduler.new max_concurrent max_concurrent_forced, [], [], [], []⟩

def step (r : Recorded) : Op → Recorded
  | .enqueue job now =>
    let (scheduler, result) := r.scheduler.enqueue_with_result_at job now
    { r with
      scheduler
      accepted := if result = .Enqueued then r.accepted ++ [job] else r.accepted }
  | .dispatch_ready purge_now now =>
    let (scheduler, spawned) := r.scheduler.dispatch_ready purge_now now
    { r with scheduler, spawned := r.spawned ++ spawned }
  | .finish key => { r with scheduler := r.scheduler.finish key }
  | .drop_queued_for_cue cue_id =>
    { r with
      scheduler := r.scheduler.drop_queued_for_cue cue_id
      dropped := r.dropped ++
        (r.scheduler.queued.filter fun job => job.cue_id = cue_id).map fun job => (cue_id, job) }
  | .take_expired_terminal_jobs =>
    let (scheduler, returned) := r.scheduler.take_expired_terminal_jobs
    { r with scheduler, returned := r.returned ++ returned }
  | .set_max_concurrent n => { r with scheduler := r.scheduler.set_max_concurrent n }
  | .defer_dispatch_for delay now =>
    { r with scheduler := r.scheduler.defer_dispatch_for delay now }

end Recorded

theorem finals_split (stays : TranslationJob → Bool) (jobs : List TranslationJob) :
    (finals jobs).Perm (finals (jobs.filter stays) ++ finals (jobs.filter (!stays ·))) := by
  have h := List.filter_append_perm stays jobs
  have := h.filter (!·.result.is_forced)
  rw [List.filter_append] at this
  exact this.symm

/-- A purge moves the finals that expired to the terminal jobs. -/
theorem drop_expired_perm (h : Indexed s) (now : Instant) :
    (finals s.queued ++ s.expired_terminal_jobs).Perm
      (finals (s.drop_expired_queued_at now).queued ++
        (s.drop_expired_queued_at now).expired_terminal_jobs) := by
  have hsplit := finals_split (fun job => job.deadline_at > now) s.queued
  unfold drop_expired_queued_at
  rw [sweep_spec h]
  have hterm : s.queued.filter (fun job => !decide (job.deadline_at > now) &&
      !job.result.is_forced) =
        finals (s.queued.filter fun job => !decide (job.deadline_at > now)) := by
    simp only [finals, List.filter_filter, Bool.and_comm]
  simp only [hterm]
  rw [List.perm_iff_count] at hsplit ⊢
  intro job
  have := hsplit job
  simp only [List.count_append] at this ⊢
  omega

/-- Every accepted job that is not a preview is in one place: queued, spawned, expired,
returned as expired, or dropped for its own cue. -/
structure Accounted (r : Recorded) : Prop where
  indexed : Indexed r.scheduler
  balance : (finals r.accepted).Perm (finals r.scheduler.queued ++ finals r.spawned ++
    r.scheduler.expired_terminal_jobs ++ r.returned ++ finals (r.dropped.map Prod.snd))
  own_cue : ∀ d ∈ r.dropped, d.2.cue_id = d.1

theorem accounted_new : Accounted (Recorded.new max_concurrent max_concurrent_forced) :=
  ⟨indexed_new _ _, List.Perm.refl _, by simp [Recorded.new]⟩

variable {r : Recorded}

theorem Accounted.enqueue (h : Accounted r) (job : TranslationJob) (now : Instant) :
    Accounted (r.step (.enqueue job now)) := by
  obtain ⟨_, hev, hres⟩ := enqueue_spec h.indexed job now
  have hbal := List.perm_iff_count.mp h.balance
  have hpurge := List.perm_iff_count.mp (drop_expired_perm h.indexed now)
  rw [← hev.finals, ← hev.expired] at hpurge
  rcases hres with ⟨hr, hs, hindexed⟩ | ⟨hr, hs⟩
  · refine ⟨?_, ?_, h.own_cue⟩
    · simp only [Recorded.step, hs]
      exact hindexed
    · simp only [Recorded.step, hs, hr, if_true, push_back, finals_append]
      rw [List.perm_iff_count]
      intro a
      have h1 := hbal a
      have h2 := hpurge a
      simp only [List.count_append] at h1 h2 ⊢
      omega
  · refine ⟨?_, ?_, h.own_cue⟩
    · simp only [Recorded.step, hs]
      exact hev.indexed
    · simp only [Recorded.step, hs, if_neg hr]
      rw [List.perm_iff_count]
      intro a
      have h1 := hbal a
      have h2 := hpurge a
      simp only [List.count_append] at h1 h2 ⊢
      omega

theorem Accounted.dispatch (h : Accounted r) (purge_now now : Instant) :
    Accounted (r.step (.dispatch_ready purge_now now)) := by
  have hbal := List.perm_iff_count.mp h.balance
  have hpurge := List.perm_iff_count.mp (drop_expired_perm h.indexed purge_now)
  have h1 : Indexed (r.scheduler.drop_expired_queued_at purge_now) := h.indexed.sweep _ _
  simp only [Recorded.step, dispatch_ready]
  generalize r.scheduler.drop_expired_queued_at purge_now = s at hpurge h1
  split
  · refine ⟨h1, ?_, h.own_cue⟩
    rw [List.perm_iff_count]
    intro a
    have h2 := hbal a
    have h3 := hpurge a
    simp only [List.count_append, List.append_nil] at h2 h3 ⊢
    omega
  · have hs : Indexed { s with dispatch_not_before := none } :=
      h1.shrink (List.Sublist.refl _) h1.keys h1.works rfl
    obtain ⟨h2, hperm, hexp⟩ := dispatch_loop_spec s.queued.length hs
    have hfin := List.perm_iff_count.mp (hperm.filter (!·.result.is_forced))
    refine ⟨h2, ?_, h.own_cue⟩
    rw [List.perm_iff_count]
    intro a
    have h3 := hbal a
    have h4 := hpurge a
    have h5 := hfin a
    simp only [finals, hexp, List.filter_append, List.count_append] at h3 h4 h5 ⊢
    omega

theorem Accounted.drop_cue (h : Accounted r) (cue_id : String) :
    Accounted (r.step (.drop_queued_for_cue cue_id)) := by
  have hbal := List.perm_iff_count.mp h.balance
  have hsplit := List.perm_iff_count.mp
    (finals_split (fun job => job.cue_id ≠ cue_id) r.scheduler.queued)
  refine ⟨h.indexed.sweep _ _, ?_, ?_⟩
  · simp only [Recorded.step, drop_queued_for_cue, sweep_spec h.indexed]
    have hdrop : (r.scheduler.queued.filter fun job => !decide (job.cue_id ≠ cue_id)) =
        r.scheduler.queued.filter fun job => job.cue_id = cue_id := by
      simp
    rw [hdrop] at hsplit
    rw [List.perm_iff_count]
    intro a
    have h1 := hbal a
    have h2 := hsplit a
    simp only [List.map_append, List.map_map, finals_append, List.count_append,
      Bool.and_false, List.filter_false, List.append_nil] at h1 h2 ⊢
    simp only [Function.comp_def, List.map_id'] at h1 h2 ⊢
    omega
  · intro d hd
    rcases List.mem_append.mp hd with hd | hd
    · exact h.own_cue d hd
    · obtain ⟨job, hj, rfl⟩ := List.mem_map.mp hd
      simpa using (List.mem_filter.mp hj).2

theorem Indexed.finish (h : Indexed s) (key : String) : Indexed (s.finish key) := by
  refine ⟨h.keys, h.works, h.keys_nodup, h.works_nodup, ?_, ?_, h.total, h.per_cue⟩
  · intro job hj hmem
    exact h.idle_keys job hj (AList.mem_erase.mp hmem).2
  · intro job hj entry hentry
    exact h.idle_works job hj entry ((List.kerase_sublist _ _).subset hentry)

theorem Accounted.step (h : Accounted r) (op : Op) : Accounted (r.step op) := by
  cases op with
  | enqueue job now => exact h.enqueue job now
  | dispatch_ready purge_now now => exact h.dispatch purge_now now
  | finish key => exact ⟨h.indexed.finish key, h.balance, h.own_cue⟩
  | drop_queued_for_cue cue_id => exact h.drop_cue cue_id
  | take_expired_terminal_jobs =>
    refine ⟨h.indexed.shrink (List.Sublist.refl _) h.indexed.keys h.indexed.works rfl, ?_,
      h.own_cue⟩
    refine h.balance.trans ?_
    rw [List.perm_iff_count]
    simp only [Recorded.step, take_expired_terminal_jobs, List.count_append, List.count_nil]
    omega
  | set_max_concurrent _ =>
    exact ⟨h.indexed.shrink (List.Sublist.refl _) h.indexed.keys h.indexed.works rfl, h.balance,
      h.own_cue⟩
  | defer_dispatch_for _ now =>
    simp only [Recorded.step, defer_dispatch_for]
    split
    · exact h
    · exact ⟨h.indexed.shrink (List.Sublist.refl _) h.indexed.keys h.indexed.works rfl,
        h.balance, h.own_cue⟩

theorem accounted_run (ops : List Op) :
    Accounted (run Recorded.step (Recorded.new max_concurrent max_concurrent_forced) ops) :=
  run_keeps Recorded.step Accounted (fun _ op h => h.step op) (accounted_new _ _) ops

/-- After any calls, the key sets are the keys of the queue, all keys are distinct, and the
queue keeps its bounds. -/
theorem the_key_sets_match_the_queue (max_concurrent max_concurrent_forced : Nat)
    (ops : List Op) :
    Indexed (run Recorded.step (Recorded.new max_concurrent max_concurrent_forced)
      ops).scheduler :=
  (accounted_run max_concurrent max_concurrent_forced ops).indexed

/-- What one call records stays recorded. -/
structure Extends (r r' : Recorded) : Prop where
  accepted : r.accepted <+: r'.accepted
  spawned : r.spawned <+: r'.spawned
  returned : r.returned <+: r'.returned
  dropped : r.dropped <+: r'.dropped

theorem Extends.step (r : Recorded) (op : Op) : Extends r (r.step op) := by
  cases op with
  | enqueue _ now =>
    refine ⟨?_, List.prefix_rfl, List.prefix_rfl, List.prefix_rfl⟩
    simp only [Recorded.step]
    split
    · exact List.prefix_append _ _
    · exact List.prefix_rfl
  | dispatch_ready _ now =>
    exact ⟨List.prefix_rfl, List.prefix_append _ _, List.prefix_rfl, List.prefix_rfl⟩
  | drop_queued_for_cue _ =>
    exact ⟨List.prefix_rfl, List.prefix_rfl, List.prefix_rfl, List.prefix_append _ _⟩
  | take_expired_terminal_jobs =>
    exact ⟨List.prefix_rfl, List.prefix_rfl, List.prefix_append _ _, List.prefix_rfl⟩
  | finish _ => exact ⟨List.prefix_rfl, List.prefix_rfl, List.prefix_rfl, List.prefix_rfl⟩
  | set_max_concurrent _ =>
    exact ⟨List.prefix_rfl, List.prefix_rfl, List.prefix_rfl, List.prefix_rfl⟩
  | defer_dispatch_for _ now =>
    exact ⟨List.prefix_rfl, List.prefix_rfl, List.prefix_rfl, List.prefix_rfl⟩

theorem Extends.trans {r r' r'' : Recorded} (h : Extends r r') (h' : Extends r' r'') :
    Extends r r'' :=
  ⟨h.accepted.trans h'.accepted, h.spawned.trans h'.spawned, h.returned.trans h'.returned,
    h.dropped.trans h'.dropped⟩

/-- After any calls, every accepted job that is not a preview is in exactly one place, and
what is recorded as spawned, returned or dropped stays so whatever is called next. -/
theorem every_final_job_is_in_one_place (max_concurrent max_concurrent_forced : Nat)
    (ops more : List Op) :
    let r := run Recorded.step (Recorded.new max_concurrent max_concurrent_forced) ops
    (finals r.accepted).Perm (finals r.scheduler.queued ++ finals r.spawned ++
        r.scheduler.expired_terminal_jobs ++ r.returned ++ finals (r.dropped.map Prod.snd)) ∧
      (∀ d ∈ r.dropped, d.2.cue_id = d.1) ∧
      Extends r (run Recorded.step (Recorded.new max_concurrent max_concurrent_forced)
        (ops ++ more)) := by
  intro r
  have h := accounted_run max_concurrent max_concurrent_forced ops
  refine ⟨h.balance, h.own_cue, ?_⟩
  rw [run_append]
  exact run_keeps Recorded.step (Extends r) (fun _ op hr => hr.trans (Extends.step _ op))
    ⟨List.prefix_rfl, List.prefix_rfl, List.prefix_rfl, List.prefix_rfl⟩ more

end omni_translate.translation_scheduler

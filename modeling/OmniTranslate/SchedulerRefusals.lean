-- What a refused job leaves behind: nothing but the purge. The bounds of the
-- queue are what keeps a preview from leaving for a job that is then refused.
import OmniTranslate.SchedulerLaws

namespace omni_translate.translation_scheduler

open runs TranslationScheduler
open sentence (Instant Duration)

/-- There is room for one more job of the cue, and one more job at all. -/
structure Roomy (s : TranslationScheduler) (cue_id : String) : Prop where
  per_cue : s.queued_for_cue cue_id < MAX_QUEUED_TRANSLATIONS_PER_CUE
  total : s.queued.length < MAX_QUEUED_TRANSLATIONS

theorem Roomy.shrink {s s' : TranslationScheduler} {cue_id : String} (h : Roomy s cue_id)
    (hsub : s'.queued.Sublist s.queued) : Roomy s' cue_id := by
  constructor
  · have hle := (hsub.filter fun job => job.cue_id = cue_id).length_le
    exact Nat.lt_of_le_of_lt hle h.per_cue
  · exact Nat.lt_of_le_of_lt hsub.length_le h.total

variable {s : TranslationScheduler}

theorem Roomy.of_remove (h : Indexed s) {job : TranslationJob} (hj : job ∈ s.queued) :
    Roomy (s.remove_queued_by_key job.key) job.cue_id := by
  have hperm := remove_queued_by_key_perm h hj
  constructor
  · have hlen := (hperm.filter fun queued => queued.cue_id = job.cue_id).length_eq
    have hcue := h.per_cue job.cue_id
    simp only [List.filter_cons, decide_true, if_true, List.length_cons] at hlen
    simp only [queued_for_cue] at hcue ⊢
    omega
  · have hlen := hperm.length_eq
    have htotal := h.total
    simp only [List.length_cons] at hlen
    omega

/-- Superseded previews leave, and then there is room, or there are none. -/
theorem drop_superseded_preview_cases (h : Indexed s) (incoming : TranslationJob) :
    s.drop_superseded_preview incoming = s ∨
      Roomy (s.drop_superseded_preview incoming) incoming.cue_id := by
  have hout := Evicted.drop_superseded h incoming
  unfold drop_superseded_preview at hout ⊢
  cases hp : s.queued.filter fun job =>
      translation_supersession_key job = translation_supersession_key incoming ∧
        (translation_rank job.result).value ≤ (translation_rank incoming.result).value ∧
        job.result.is_forced with
  | nil => exact Or.inl rfl
  | cons preview previews =>
    right
    simp only [List.map_cons, List.foldl_cons]
    have hmem : preview ∈ s.queued.filter _ := hp ▸ List.mem_cons_self
    obtain ⟨hj, hsame⟩ := List.mem_filter.mp hmem
    simp only [decide_eq_true_eq, translation_supersession_key, Prod.mk.injEq] at hsame
    have hroom := Roomy.of_remove h hj
    rw [hsame.1.1] at hroom
    -- the first removal makes the room, and the others only shrink the queue
    have h1 : Evicted s (s.remove_queued_by_key preview.key) := by
      apply Evicted.remove h
      intro job hjob hk
      rw [h.same_job hjob hj hk]
      exact hsame.2.2
    refine hroom.shrink (Evicted.remove_all h1.indexed (previews.map (·.key)) ?_).sublist
    intro key hkey job hjob hk
    obtain ⟨other, ho, rfl⟩ := List.mem_map.mp hkey
    have hother : other ∈ s.queued.filter _ := hp ▸ List.mem_cons_of_mem _ ho
    obtain ⟨hmem', hprop⟩ := List.mem_filter.mp hother
    rw [h.same_job (h1.sublist.subset hjob) hmem' hk]
    simp only [decide_eq_true_eq] at hprop
    exact hprop.2.2

theorem evict_fails {o : Option TranslationJob} (h : (s.evict o).2 = false) :
    (s.evict o).1 = s := by
  cases o with
  | none => rfl
  | some job => cases h

/-- An eviction that succeeds makes the queue one job shorter. -/
theorem evict_shortens (h : Indexed s) {o : Option TranslationJob}
    (ho : ∀ job, o = some job → job ∈ s.queued) (hroom : (s.evict o).2 = true) :
    s.queued.length = (s.evict o).1.queued.length + 1 := by
  cases o with
  | none => cases hroom
  | some job => exact (remove_queued_by_key_perm h (ho job rfl)).length_eq

/-- A cue is refused room only when it has none, and then nothing left. -/
theorem cue_room_fails {cue_id : String}
    (h : (s.make_room (s.queued_for_cue cue_id ≥ MAX_QUEUED_TRANSLATIONS_PER_CUE)
      (·.evict_preview_for_cue cue_id)).2 = false) :
    ¬ Roomy s cue_id ∧ (s.make_room (s.queued_for_cue cue_id ≥ MAX_QUEUED_TRANSLATIONS_PER_CUE)
      (·.evict_preview_for_cue cue_id)).1 = s := by
  unfold make_room at h ⊢
  split at h
  · rename_i hfull
    rw [if_pos hfull]
    refine ⟨?_, evict_fails h⟩
    intro hroom
    exact absurd hroom.per_cue (Nat.not_lt.mpr (by simpa using hfull))
  · cases h

/-- Room for a cue costs a job of the queue, or nothing. -/
theorem cue_room_found (h : Indexed s) (cue_id : String)
    (hroom : (s.make_room (s.queued_for_cue cue_id ≥ MAX_QUEUED_TRANSLATIONS_PER_CUE)
      (·.evict_preview_for_cue cue_id)).2 = true) :
    (s.make_room (s.queued_for_cue cue_id ≥ MAX_QUEUED_TRANSLATIONS_PER_CUE)
        (·.evict_preview_for_cue cue_id)).1 = s ∨
      (s.make_room (s.queued_for_cue cue_id ≥ MAX_QUEUED_TRANSLATIONS_PER_CUE)
        (·.evict_preview_for_cue cue_id)).1.queued.length < MAX_QUEUED_TRANSLATIONS := by
  unfold make_room at hroom ⊢
  split at hroom
  · rename_i hfull
    right
    rw [if_pos hfull]
    have hlen := evict_shortens h (fun job ho => List.mem_of_find?_eq_some ho) hroom
    have htotal := h.total
    rw [hlen] at htotal
    exact htotal
  · rename_i hfull
    rw [if_neg hfull]
    exact Or.inl rfl

/-- The queue is refused room only when it is full, and then nothing left. -/
theorem queue_room_fails
    (h : (s.make_room (s.queued.length ≥ MAX_QUEUED_TRANSLATIONS) evict_oldest_preview).2 =
      false) :
    MAX_QUEUED_TRANSLATIONS ≤ s.queued.length ∧
      (s.make_room (s.queued.length ≥ MAX_QUEUED_TRANSLATIONS) evict_oldest_preview).1 = s := by
  unfold make_room at h ⊢
  split at h
  · rename_i hfull
    rw [if_pos hfull]
    exact ⟨by simpa using hfull, evict_fails h⟩
  · cases h

/-- A refused job leaves the purged queue as it was. -/
theorem Indexed.refused (h : Indexed s) (job : TranslationJob) (now : Instant)
    (hres : (s.enqueue_with_result_at job now).2 ≠ .Enqueued) :
    (s.enqueue_with_result_at job now).1 = s.drop_expired_queued_at now := by
  have h0 : Indexed (s.drop_expired_queued_at now) := h.sweep _ _
  unfold enqueue_with_result_at at hres ⊢
  simp only at hres ⊢
  split at hres
  · rename_i hexpired
    rw [if_pos hexpired]
  rename_i hlive
  rw [if_neg hlive]
  split at hres
  · rename_i hdup
    rw [if_pos hdup]
  rename_i hdup
  rw [if_neg hdup]
  have h1 := (Evicted.drop_superseded h0 job).indexed
  have hsuperseded := drop_superseded_preview_cases h0 job
  split at hres
  · rename_i hcue
    rw [if_pos hcue]
    obtain ⟨hfull, hsame⟩ := cue_room_fails (by simpa using hcue)
    rw [hsame]
    exact hsuperseded.resolve_right hfull
  rename_i hcue
  rw [if_neg hcue]
  split at hres
  · rename_i hqueue
    rw [if_pos hqueue]
    obtain ⟨hfull, hsame⟩ := queue_room_fails (by simpa using hqueue)
    rw [hsame]
    rcases cue_room_found h1 job.cue_id (by simpa using hcue) with hcue | hcue
    · rw [hcue] at hfull ⊢
      apply hsuperseded.resolve_right
      intro hroom
      exact absurd hroom.total (Nat.not_lt.mpr hfull)
    · exact absurd hcue (Nat.not_lt.mpr hfull)
  · exact absurd rfl hres

/-- After any calls, a job that is not enqueued, whatever the reason, leaves the scheduler as
the expiry purge alone leaves it. -/
theorem a_refused_job_costs_nothing (max_concurrent max_concurrent_forced : Nat) (ops : List Op)
    (job : TranslationJob) (now : Instant) :
    let s := (run Recorded.step (Recorded.new max_concurrent max_concurrent_forced)
      ops).scheduler
    let r := s.enqueue_with_result_at job now
    r.2 = .Duplicate ∨ r.2 = .RejectedExpired ∨ r.2 = .RejectedOverflow →
      r.1 = s.drop_expired_queued_at now := by
  intro s r hres
  apply (the_key_sets_match_the_queue max_concurrent max_concurrent_forced ops).refused
  intro heq
  rw [heq] at hres
  rcases hres with hres | hres | hres <;> cases hres

/-- A preview of one cue, due at a time. -/
def preview (deadline_at : Instant) : TranslationJob :=
  ⟨"key", 0, 0, 0, "cue", ⟨['h', 'i'], [], true, false, none⟩, 0, deadline_at⟩

/-- A second enqueue of a queued preview is a duplicate, and the first stays queued. -/
theorem the_queued_preview_stays :
    let s := (run Recorded.step (Recorded.new 1 0) [.enqueue (preview 5) 0]).scheduler
    let r := s.enqueue_with_result_at (preview 5) 1
    (r.2 = .Duplicate ∨ r.2 = .RejectedExpired ∨ r.2 = .RejectedOverflow) ∧
      r.1 = s.drop_expired_queued_at 1 ∧ s.queued = [preview 5] :=
  have hres : ((run Recorded.step (Recorded.new 1 0)
      [.enqueue (preview 5) 0]).scheduler.enqueue_with_result_at (preview 5) 1).2 =
      .Duplicate := by
    decide +kernel
  ⟨Or.inl hres, a_refused_job_costs_nothing 1 0 [.enqueue (preview 5) 0] (preview 5) 1
    (Or.inl hres), by decide +kernel⟩

end omni_translate.translation_scheduler

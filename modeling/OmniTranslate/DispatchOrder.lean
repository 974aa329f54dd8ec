-- The order and the stop of one dispatch: the most urgent jobs first, under
-- both caps, and no free slot is left to a job that may take it.
import OmniTranslate.SchedulerLaws

namespace omni_translate.translation_scheduler

open places runs TranslationScheduler
open sentence (Instant Duration)

/-- The key of `min_by_key`: the rank in reverse, the deadline, the sequence. -/
abbrev urgency (job : TranslationJob) : ℕᵒᵈ ×ₗ (Instant ×ₗ ℕ) :=
  toLex (OrderDual.toDual (translation_rank job.result).value,
    toLex (job.deadline_at, job.sequence))

abbrev InFlight := AList fun _ : String => InFlightJob

/-- The number of forced jobs in flight. -/
def forced_in (in_flight : InFlight) : Nat := (in_flight.entries.filter (·.2.is_forced)).length

/-- One more job in flight. -/
def take_off (in_flight : InFlight) (job : TranslationJob) : InFlight :=
  in_flight.insert job.key ⟨job.cue_id, job.result.is_forced, translation_sentence_work_key job⟩

/-- The jobs in flight once some more were spawned. -/
def in_flight_after (in_flight : InFlight) (jobs : List TranslationJob) : InFlight :=
  jobs.foldl take_off in_flight

/-- The filter of `next_dispatch_index`. -/
def eligible (s : TranslationScheduler) (job : TranslationJob) : Bool :=
  !job.result.is_forced || s.forced_in_flight_count < s.max_concurrent_forced

/-! ## One turn -/

variable {s : TranslationScheduler}

theorem next_dispatch_index_none (h : s.next_dispatch_index = none) :
    s.max_concurrent ≤ s.in_flight.entries.length ∨
      ∀ job ∈ s.queued, eligible s job = false := by
  unfold next_dispatch_index at h
  split at h
  · rename_i hfull
    exact Or.inl hfull
  · right
    intro job hj
    rw [Option.map_eq_none_iff, List.argmin_eq_none, List.filter_eq_nil_iff] at h
    obtain ⟨i, hi⟩ := List.mem_iff_getElem?.mp hj
    have hmem : (job, i) ∈ s.queued.zipIdx := List.mem_zipIdx_iff_getElem?.mpr hi
    simpa [eligible] using h _ hmem

/-- The chosen job is eligible, and the most urgent one that is. -/
theorem next_dispatch_index_some {i : Nat} (h : s.next_dispatch_index = some i) :
    s.in_flight.entries.length < s.max_concurrent ∧
      ∃ job, s.queued[i]? = some job ∧ eligible s job = true ∧
        ∀ other ∈ s.queued, eligible s other = true → urgency job ≤ urgency other := by
  unfold next_dispatch_index at h
  split at h
  · cases h
  · rename_i hfree
    refine ⟨Nat.lt_of_not_ge hfree, ?_⟩
    obtain ⟨⟨job, j⟩, hmin, hj⟩ := Option.map_eq_some_iff.mp h
    subst hj
    obtain ⟨hmem, hready⟩ := List.mem_filter.mp (List.argmin_mem hmin)
    refine ⟨job, List.mem_zipIdx_iff_getElem?.mp hmem, hready, ?_⟩
    intro other ho hother
    obtain ⟨k, hk⟩ := List.mem_iff_getElem?.mp ho
    have hin : (other, k) ∈ s.queued.zipIdx := List.mem_zipIdx_iff_getElem?.mpr hk
    have hle := List.le_of_mem_argmin (List.mem_filter.mpr ⟨hin, by simpa [eligible] using hother⟩)
      (Option.mem_def.mpr hmin)
    exact hle

theorem forced_in_take_off {in_flight : InFlight} {job : TranslationJob}
    (hnew : job.key ∉ in_flight) :
    forced_in (take_off in_flight job) =
      forced_in in_flight + if job.result.is_forced then 1 else 0 := by
  have herase : in_flight.entries.kerase job.key = in_flight.entries :=
    List.kerase_of_notMem_keys hnew
  unfold forced_in take_off
  rw [AList.entries_insert, herase, List.filter_cons]
  split <;> simp

/-- What is eligible after a launch was eligible before it. -/
theorem eligible_of_launch (h : Indexed s) {i : Nat} {job : TranslationJob}
    (hi : s.queued[i]? = some job) {other : TranslationJob}
    (hother : eligible (s.launch i job) other = true) : eligible s other = true := by
  have hcount : (s.launch i job).forced_in_flight_count =
      s.forced_in_flight_count + if job.result.is_forced then 1 else 0 :=
    forced_in_take_off (h.idle_keys job (List.mem_of_getElem? hi))
  have hcap : (s.launch i job).max_concurrent_forced = s.max_concurrent_forced := rfl
  simp only [eligible, hcount, hcap, Bool.or_eq_true, Bool.not_eq_true', decide_eq_true_eq]
    at hother ⊢
  rcases hother with hother | hother
  · exact Or.inl hother
  · exact Or.inr (by omega)

/-! ## The loop -/

/-- What a dispatch from a scheduler does: the most urgent jobs first, each under both caps at
its start, and at the end no job that may start and a slot for it. -/
structure Dispatched (s s' : TranslationScheduler) (spawned : List TranslationJob) : Prop where
  order : spawned.Pairwise fun a b => urgency a ≤ urgency b
  capped : ∀ before job after, spawned = before ++ job :: after →
    (in_flight_after s.in_flight before).entries.length < s.max_concurrent ∧
      (job.result.is_forced = true →
        forced_in (in_flight_after s.in_flight before) < s.max_concurrent_forced)
  flight : s'.in_flight = in_flight_after s.in_flight spawned
  taken : s.queued.Perm (spawned ++ s'.queued)
  stop : s.max_concurrent ≤ s'.in_flight.entries.length ∨
    ∀ job ∈ s'.queued, job.result.is_forced = true ∧
      s.max_concurrent_forced ≤ forced_in s'.in_flight

/-- The jobs that a loop spawns were all eligible at its start. -/
theorem dispatch_loop_eligible (fuel : Nat) (h : Indexed s) :
    ∀ job ∈ (dispatch_loop fuel s).2, job ∈ s.queued ∧ eligible s job = true := by
  induction fuel generalizing s with
  | zero => simp [dispatch_loop]
  | succ fuel ih =>
    unfold dispatch_loop
    split
    · simp
    · rename_i i hnext
      obtain ⟨_, job, hi, hready, _⟩ := next_dispatch_index_some hnext
      rw [hi]
      intro other ho
      rcases List.mem_cons.mp ho with rfl | ho
      · exact ⟨List.mem_of_getElem? hi, hready⟩
      · obtain ⟨hmem, hother⟩ := ih (h.launch hi) other ho
        exact ⟨(List.eraseIdx_sublist s.queued i).subset hmem, eligible_of_launch h hi hother⟩

theorem dispatch_loop_dispatched (fuel : Nat) (h : Indexed s) (hfuel : s.queued.length ≤ fuel) :
    Dispatched s (dispatch_loop fuel s).1 (dispatch_loop fuel s).2 := by
  induction fuel generalizing s with
  | zero =>
    have hempty : s.queued = [] := List.length_eq_zero_iff.mp (Nat.le_zero.mp hfuel)
    refine ⟨List.Pairwise.nil, by simp [dispatch_loop], rfl, List.Perm.refl _, Or.inr ?_⟩
    simp [dispatch_loop, hempty]
  | succ fuel ih =>
    unfold dispatch_loop
    split
    · rename_i hnext
      refine ⟨List.Pairwise.nil, by simp, rfl, List.Perm.refl _, ?_⟩
      rcases next_dispatch_index_none hnext with hfull | hnone
      · exact Or.inl hfull
      · refine Or.inr fun job hj => ?_
        have hnot := hnone job hj
        simp only [eligible, Bool.or_eq_false_iff, Bool.not_eq_false', decide_eq_false_iff_not,
          Nat.not_lt] at hnot
        exact hnot
    · rename_i i hnext
      obtain ⟨hfree, job, hi, hready, hfirst⟩ := next_dispatch_index_some hnext
      rw [hi]
      have hlaunch := h.launch hi
      have hlen : (s.launch i job).queued.length ≤ fuel := by
        have hlt := (List.getElem?_eq_some_iff.mp hi).1
        change (s.queued.eraseIdx i).length ≤ fuel
        rw [List.length_eraseIdx_of_lt hlt]
        omega
      have hrest := ih hlaunch hlen
      refine ⟨?_, ?_, hrest.flight, ?_, hrest.stop⟩
      · refine List.Pairwise.cons ?_ hrest.order
        intro other ho
        obtain ⟨hmem, hother⟩ := dispatch_loop_eligible fuel hlaunch other ho
        exact hfirst other ((List.eraseIdx_sublist s.queued i).subset hmem)
          (eligible_of_launch h hi hother)
      · intro before next after hsplit
        cases before with
        | nil =>
          obtain ⟨rfl, _⟩ := List.cons.inj hsplit
          refine ⟨hfree, fun hforced => ?_⟩
          simp only [eligible, hforced, Bool.not_true, Bool.false_or, decide_eq_true_eq] at hready
          exact hready
        | cons first before =>
          obtain ⟨rfl, hrun⟩ := List.cons.inj hsplit
          exact hrest.capped before next after hrun
      · obtain ⟨l₁, l₂, hq, he⟩ := take_out hi
        calc s.queued.Perm (job :: (l₁ ++ l₂)) := by rw [hq]; exact List.perm_middle
          _ = job :: s.queued.eraseIdx i := by rw [he]
          _ |>.Perm _ := hrest.taken.cons job

/-- After any calls, a deferred dispatch only purges the queue. One that is not deferred spawns
the purged queue's most urgent jobs first, starts none above a cap, and stops only at
`max_concurrent` or with forced jobs alone left at their cap. -/
theorem the_urgent_go_first (max_concurrent max_concurrent_forced : Nat) (ops : List Op)
    (purge_now now : Instant) :
    let s := (run Recorded.step (Recorded.new max_concurrent max_concurrent_forced)
      ops).scheduler
    let purged := s.drop_expired_queued_at purge_now
    let r := s.dispatch_ready purge_now now
    if s.dispatch_not_before.any (now < ·) then r = (purged, [])
    else Dispatched purged r.1 r.2 := by
  intro s purged r
  have h := the_key_sets_match_the_queue max_concurrent max_concurrent_forced ops
  have h1 : Indexed purged := h.sweep _ _
  have hdefer : purged.dispatch_not_before = s.dispatch_not_before := by
    change (s.sweep _ _).dispatch_not_before = _
    rw [sweep_spec h]
  split
  · rename_i hlater
    simp only [r, dispatch_ready]
    rw [hdefer, if_pos hlater]
  · rename_i hnow
    have hr : r = dispatch_loop purged.queued.length { purged with dispatch_not_before := none } := by
      simp only [r, dispatch_ready]
      rw [hdefer, if_neg hnow]
    have hs : Indexed { purged with dispatch_not_before := none } :=
      h1.shrink (List.Sublist.refl _) h1.keys h1.works rfl
    rw [hr]
    have hall := dispatch_loop_dispatched purged.queued.length hs (Nat.le_refl _)
    exact ⟨hall.order, hall.capped, hall.flight, hall.taken, hall.stop⟩

end omni_translate.translation_scheduler

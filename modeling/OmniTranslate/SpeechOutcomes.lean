-- Runs of the worker that speaks: each clause that is admitted has an outcome of
-- its own before it is hidden, and none is played twice, as long as push-to-talk
-- never leaves a clause of a cue of which another one has its outcome.
import OmniTranslate.SpeechMemories
import Mathlib.Data.Finset.Card

namespace omni_translate.speech_dispatch

open overtaking runs
open translation_lifecycle (SubtitleCue)

/-! ## Clauses -/

/-- What a task speaks. -/
def clause (task : SpeechDispatchTask) : String × Nat × List Char × List Char :=
  (task.cue.cue_id, task.segment_index, task.source_text, task.translated_text)

/-- A task, first seen at another time. -/
def SpeechDispatchTask.at (task : SpeechDispatchTask) (queued_at : Nat) : SpeechDispatchTask := { task with queued_at }

variable {task : SpeechDispatchTask}

section

variable {finish : List Hashed → UInt64} {outside : PollOutside}

@[simp] theorem at_clause (task : SpeechDispatchTask) (n : Nat) : clause (task.at n) = clause task := rfl

theorem unplayed_cue {cue : SubtitleCue} {config : SpeechConfig} {now : Nat}
    (h : task ∈ unplayed_tasks cue config now) : task.cue = cue := by
  unfold unplayed_tasks at h
  split at h
  · cases h
  · split at h
    · split at h
      · cases h
      · obtain ⟨part, -, rfl⟩ := List.mem_map.mp h
        rfl
    · split at h
      · rw [List.mem_singleton.mp h]
        rfl
      · cases h

/-- The clauses of a cue are those of another poll whose configuration splits cues the same way. -/
theorem unplayed_again {cue : SubtitleCue} {config config' : SpeechConfig} {now now' : Nat}
    (h : task ∈ unplayed_tasks cue config now)
    (hsame : config'.secondary_segment_tts_enabled = config.secondary_segment_tts_enabled) :
    task.at now' ∈ unplayed_tasks cue config' now' := by
  unfold unplayed_tasks at h ⊢
  rw [hsame]
  split at h
  · cases h
  · next hready =>
    rw [if_neg hready]
    split at h
    · next hsegments =>
      rw [if_pos hsegments]
      split at h
      · cases h
      · obtain ⟨part, hpart, rfl⟩ := List.mem_map.mp h
        exact List.mem_map_of_mem hpart
    · next hsegments =>
      rw [if_neg hsegments]
      split at h
      · next hspeech =>
        rw [List.mem_singleton.mp h, if_pos hspeech]
        exact List.mem_singleton_self _
      · cases h

theorem mem_all_tasks :
    task ∈ all_tasks outside ↔ ∃ cue ∈ outside.window, task ∈ unplayed_tasks cue outside.config outside.now := by
  unfold all_tasks
  simp only [List.mem_flatMap, List.mem_reverse]

variable {queue : SpeechDispatchQueue}

theorem mem_discovered :
    task ∈ discovered finish outside queue ↔
      outside.config.enabled = true ∧ task ∈ all_tasks outside ∧ queue.contains finish task = false := by
  unfold discovered
  split
  · next henabled =>
    rw [List.mem_filter, Bool.not_eq_true', List.mem_flatMap, mem_all_tasks]
    simp only [List.mem_reverse]
    constructor
    · rintro ⟨⟨cue, hcue, htask⟩, hhidden⟩
      refine ⟨henabled, ⟨cue, hcue, ?_⟩, hhidden⟩
      unfold speech_dispatch_tasks_for_cue at htask
      split at htask
      · cases htask
      · exact htask
    · rintro ⟨-, ⟨cue, hcue, htask⟩, hhidden⟩
      refine ⟨⟨cue, hcue, ?_⟩, hhidden⟩
      unfold speech_dispatch_tasks_for_cue
      rw [if_neg]
      · exact htask
      · intro hplayed
        rw [← unplayed_cue htask] at hplayed
        exact Bool.eq_false_iff.mp hhidden ((contains_iff queue task).mpr (.inl hplayed))
  · next henabled => exact ⟨nofun, fun h => absurd h.1 henabled⟩

/-! ## What is admitted -/

/-- What is found in a poll, each task with the time at which it was first seen. -/
def found (finish : List Hashed → UInt64) (outside : PollOutside) (queue : SpeechDispatchQueue) :
    List SpeechDispatchTask :=
  (queue_at_poll outside queue).since_first_seen finish outside.now
    (discovered finish outside (queue_at_poll outside queue))

theorem admitted_tasks (queue : SpeechDispatchQueue) :
    (admitted finish outside queue).1.2 ++ (admitted finish outside queue).1.1 = found finish outside queue :=
  List.take_append_drop _ _

theorem found_keys (queue : SpeechDispatchQueue) :
    (found finish outside queue).map (dispatch_key finish) =
      (discovered finish outside (queue_at_poll outside queue)).map (dispatch_key finish) := by
  unfold found SpeechDispatchQueue.since_first_seen
  rw [List.map_map]
  rfl

theorem mem_found (h : task ∈ found finish outside queue) :
    ∃ seen ∈ discovered finish outside (queue_at_poll outside queue), ∃ n, task = seen.at n := by
  obtain ⟨seen, hseen, rfl⟩ := List.mem_map.mp h
  exact ⟨seen, hseen, _, rfl⟩

theorem found_of_discovered (h : task ∈ discovered finish outside (queue_at_poll outside queue)) :
    ∃ n, task.at n ∈ found finish outside queue :=
  ⟨_, List.mem_map_of_mem h⟩

/-- The queue that waits hides what was hidden, and what is hidden by the tasks that were too many. -/
theorem contains_admitted {b : SpeechDispatchTask}
    (h : (admitted finish outside queue).2.contains finish b = true) :
    (queue_at_poll outside queue).contains finish b = true ∨
      ∃ a ∈ (admitted finish outside queue).1.2, Hides finish a b := by
  have hhidden := contains_remember_all h
  exact hhidden

theorem processed_remember_all (tasks : List SpeechDispatchTask) (queue : SpeechDispatchQueue) :
    (tasks.foldl (SpeechDispatchQueue.remember finish) queue).processed =
      (tasks.map (dispatch_key finish)).foldl History.remember queue.processed := by
  induction tasks generalizing queue with
  | nil => rfl
  | cons task tasks ih =>
    rw [List.foldl_cons, List.map_cons, List.foldl_cons, ih]
    rfl

theorem processed_admitted (queue : SpeechDispatchQueue) :
    (admitted finish outside queue).2.processed =
      ((admitted finish outside queue).1.2.map (dispatch_key finish)).foldl History.remember queue.processed := by
  have hqueue : (queue_at_poll outside queue).processed = queue.processed := by
    unfold queue_at_poll
    split <;> rfl
  rw [← hqueue]
  exact processed_remember_all _ _

/-! ## A poll -/

/-- What a poll adds to the outcomes. -/
def new_outcomes (finish : List Hashed → UInt64) (outside : PollOutside) (worker : SpeechDispatchWorker) :
    List (SpeechDispatchTask × SpeechOutcome) :=
  (admitted finish outside worker.queue).1.2.map (fun task => (task, .queue_overflow)) ++
    (conducted finish outside worker).outcomes.map fun outcome => (outcome.1.1, outcome.2)

section

variable {worker : SpeechDispatchWorker}

/-- Nothing waits in a poll of a worker that is switched off. -/
theorem none_waits (h : outside.config.enabled = false ∨ (admitted finish outside worker.queue).1.1 = []) :
    conducted finish outside worker = ⟨[], (admitted finish outside worker.queue).2, []⟩ := by
  have hnone : (admitted finish outside worker.queue).1.1 = [] := by
    rcases h with hoff | hnone
    · have hfound : found finish outside worker.queue = [] := by
        unfold found discovered
        rw [if_neg (by rw [hoff]; exact Bool.false_ne_true)]
        rfl
      have htasks := @admitted_tasks finish outside worker.queue
      rw [hfound] at htasks
      exact (List.append_eq_nil_iff.mp htasks).2
    · exact hnone
  unfold conducted waiting
  rw [hnone]
  rfl

theorem poll_spec (h : worker.stuck = false) :
    (poll finish outside worker).queue = (conducted finish outside worker).queue ∧
      (poll finish outside worker).outcomes = worker.outcomes ++ new_outcomes finish outside worker := by
  unfold poll new_outcomes
  rw [if_neg (by rw [h]; exact Bool.false_ne_true)]
  dsimp only
  split
  · next hnone =>
    rw [none_waits hnone]
    exact ⟨rfl, by simp⟩
  · exact ⟨rfl, by rw [List.append_assoc]; rfl⟩

theorem poll_stuck (h : worker.stuck = true) : poll finish outside worker = worker := by
  exact if_pos h

theorem remembers_conducted (worker : SpeechDispatchWorker) :
    Remembers finish (admitted finish outside worker.queue).2 (conducted finish outside worker) :=
  Remembers.run_pipeline _ ⟨fun _ => .inl, rfl⟩

/-- Each new outcome is of a task that was found. -/
theorem new_outcome_found {outcome : SpeechDispatchTask × SpeechOutcome}
    (h : outcome ∈ new_outcomes finish outside worker) : outcome.1 ∈ found finish outside worker.queue := by
  rw [← admitted_tasks]
  rcases List.mem_append.mp h with hover | hended
  · obtain ⟨task, htask, rfl⟩ := List.mem_map.mp hover
    exact List.mem_append_left _ htask
  · obtain ⟨o, ho, rfl⟩ := List.mem_map.mp hended
    have hin := (conducted_tasks worker).mem_iff.mp (List.mem_map_of_mem ho)
    exact List.mem_append_right _ (List.fst_mem_of_mem_zipIdx (ended_subset worker hin))

theorem found_nodup (hown : ((all_tasks outside).map (dispatch_key finish)).Nodup) (queue : SpeechDispatchQueue) :
    ((found finish outside queue).map (dispatch_key finish)).Nodup := by
  rw [found_keys]
  exact hown.sublist ((discovered_sublist _).map _)

theorem new_outcomes_nodup (hown : ((all_tasks outside).map (dispatch_key finish)).Nodup) :
    ((new_outcomes finish outside worker).map fun outcome => dispatch_key finish outcome.1).Nodup := by
  have hfound := found_nodup hown worker.queue
  rw [← admitted_tasks, List.map_append] at hfound
  obtain ⟨hover, hpending, happart⟩ := List.nodup_append.mp hfound
  have hwaiting : ((waiting finish outside worker).map fun task => dispatch_key finish task.1).Nodup := by
    unfold waiting
    change (List.map (dispatch_key finish ∘ Prod.fst) _).Nodup
    rw [← List.map_map, List.zipIdx_map_fst]
    exact hpending
  have hended : ((ended outside (waiting finish outside worker)).map fun task => dispatch_key finish task.1).Nodup := by
    refine (ended_nodup worker).map_on fun a ha b hb hab => ?_
    exact List.inj_on_of_nodup_map hwaiting (ended_subset worker ha) (ended_subset worker hb) hab
  have hkeys := (@conducted_tasks finish outside worker).map fun task => dispatch_key finish task.1
  unfold new_outcomes
  rw [List.map_append, List.map_map, List.map_map]
  refine List.nodup_append.mpr ⟨hover, ?_, ?_⟩
  · rw [List.map_map] at hkeys
    exact hkeys.nodup_iff.mpr hended
  · rintro a ha b hb hab
    refine happart a ha b ?_ hab
    rw [List.map_map] at hkeys
    obtain ⟨task, htask, rfl⟩ := List.mem_map.mp (hkeys.mem_iff.mp hb)
    exact List.mem_map_of_mem (List.fst_mem_of_mem_zipIdx (ended_subset worker htask))

end

end

/-- As long as there are few, all keys are remembered. -/
theorem remembered_all {keys : List String} (hnodup : keys.Nodup) (hfew : keys.length ≤ MAX_PROCESSED_CUES) :
    keys.foldl History.remember ⟨∅, []⟩ = ⟨keys.toFinset, keys⟩ := by
  induction keys using List.reverseRecOn with
  | nil => rfl
  | append_singleton keys key ih =>
    have hshorter : keys.length ≤ MAX_PROCESSED_CUES := by
      rw [List.length_append] at hfew
      exact Nat.le_of_add_right_le hfew
    rw [List.foldl_append, ih (hnodup.sublist (List.sublist_append_left keys [key])) hshorter, List.foldl_cons,
      List.foldl_nil]
    unfold History.remember
    dsimp only
    rw [Nat.sub_eq_zero_of_le hfew, List.take_zero, List.drop_zero, List.foldl_nil, List.toFinset_append,
      List.toFinset_cons, List.toFinset_nil, insert_empty_eq, Finset.union_comm, ← Finset.insert_eq]

/-! ## Runs -/

/-- The worker after some polls. -/
def after (finish : List Hashed → UInt64) (polls : List PollOutside) : SpeechDispatchWorker :=
  run (fun worker outside => poll finish outside worker) new polls

/-- The speech configuration stays but for push-to-talk, there is no reconnect, distinct tasks have distinct keys, and
the processed history remembers them all. -/
structure Steady (finish : List Hashed → UInt64) (polls : List PollOutside) : Prop where
  same_config : ∀ p ∈ polls, ∀ q ∈ polls, p.config.enabled = q.config.enabled ∧
    p.config.secondary_segment_tts_enabled = q.config.secondary_segment_tts_enabled
  no_reconnect : ∀ p ∈ polls, p.reconnected = false
  own_keys : ∀ p ∈ polls, ((all_tasks p).map (dispatch_key finish)).Nodup
  same_clause : ∀ p ∈ polls, ∀ q ∈ polls, ∀ a ∈ all_tasks p, ∀ b ∈ all_tasks q,
    dispatch_key finish a = dispatch_key finish b → clause a = clause b
  few : ∃ keys : Finset String, keys.card ≤ MAX_PROCESSED_CUES ∧
    ∀ p ∈ polls, ∀ task ∈ all_tasks p, dispatch_key finish task ∈ keys

/-- The outcomes so far: of clauses of the polls, all processed, and none twice. -/
structure Reached (finish : List Hashed → UInt64) (polls : List PollOutside) (worker : SpeechDispatchWorker) :
    Prop where
  found : ∀ outcome ∈ worker.outcomes, ∃ p ∈ polls, ∃ task ∈ all_tasks p,
    dispatch_key finish task = dispatch_key finish outcome.1 ∧ clause task = clause outcome.1
  processed : worker.queue.processed =
    (worker.outcomes.map fun outcome => dispatch_key finish outcome.1).foldl History.remember ⟨∅, []⟩
  once : (worker.outcomes.map fun outcome => dispatch_key finish outcome.1).Nodup

section

variable {finish : List Hashed → UInt64} {polls : List PollOutside} {worker : SpeechDispatchWorker}

theorem Reached.processed_keys (h : Reached finish polls worker) (hsteady : Steady finish polls) :
    worker.queue.processed.keys = (worker.outcomes.map fun outcome => dispatch_key finish outcome.1).toFinset := by
  obtain ⟨keys, hcard, hkeys⟩ := hsteady.few
  have hsubset : (worker.outcomes.map fun outcome => dispatch_key finish outcome.1).toFinset ⊆ keys := by
    intro key hkey
    obtain ⟨outcome, houtcome, rfl⟩ := List.mem_map.mp (List.mem_toFinset.mp hkey)
    obtain ⟨p, hp, task, htask, hsame, -⟩ := h.found outcome houtcome
    exact hsame ▸ hkeys p hp task htask
  have hfew := (Finset.card_le_card hsubset).trans hcard
  rw [List.toFinset_card_of_nodup h.once] at hfew
  rw [h.processed, remembered_all h.once hfew]

variable {outside : PollOutside}

theorem queue_at_poll_same (h : outside.reconnected = false) (queue : SpeechDispatchQueue) :
    queue_at_poll outside queue = queue := by
  unfold queue_at_poll
  rw [h]
  rfl

/-- A new outcome is of a clause of the poll that was not hidden. -/
theorem new_outcome_seen (hreconnect : outside.reconnected = false) {outcome : SpeechDispatchTask × SpeechOutcome}
    (h : outcome ∈ new_outcomes finish outside worker) :
    ∃ seen ∈ all_tasks outside, worker.queue.contains finish seen = false ∧
      dispatch_key finish seen = dispatch_key finish outcome.1 ∧ clause seen = clause outcome.1 := by
  obtain ⟨seen, hseen, n, hat⟩ := mem_found (new_outcome_found h)
  rw [queue_at_poll_same hreconnect] at hseen
  obtain ⟨-, hall, hhidden⟩ := mem_discovered.mp hseen
  rw [hat]
  exact ⟨seen, hall, hhidden, rfl, rfl⟩

theorem Reached.poll (h : Reached finish polls worker) (hsteady : Steady finish polls) (hin : outside ∈ polls) : Reached finish polls (poll finish outside worker) := by
  cases hstuck : worker.stuck with
  | true =>
    rw [poll_stuck hstuck]
    exact h
  | false =>
    obtain ⟨hqueue, houtcomes⟩ := @poll_spec finish outside worker hstuck
    have hreconnect := hsteady.no_reconnect outside hin
    refine ⟨fun outcome ho => ?_, ?_, ?_⟩
    · rw [houtcomes] at ho
      rcases List.mem_append.mp ho with hold | hnew
      · exact h.found outcome hold
      · obtain ⟨seen, hall, -, hsame⟩ := new_outcome_seen hreconnect hnew
        exact ⟨outside, hin, seen, hall, hsame⟩
    · rw [hqueue, (remembers_conducted worker).processed, processed_admitted, h.processed, houtcomes, new_outcomes,
        List.map_append, List.map_append, List.foldl_append, List.foldl_append, List.map_map, List.map_map]
      rfl
    · rw [houtcomes, List.map_append]
      refine List.nodup_append.mpr ⟨h.once, new_outcomes_nodup (hsteady.own_keys outside hin), ?_⟩
      rintro key hkey other hother rfl
      obtain ⟨outcome, hnew, rfl⟩ := List.mem_map.mp hother
      obtain ⟨seen, -, hhidden, hsame, -⟩ := new_outcome_seen hreconnect hnew
      refine Bool.eq_false_iff.mp hhidden ((contains_iff worker.queue seen).mpr (.inr (.inl ?_)))
      rw [h.processed_keys hsteady, hsame]
      exact List.mem_toFinset.mpr hkey

theorem Reached.new (finish : List Hashed → UInt64) (polls : List PollOutside) : Reached finish polls new :=
  ⟨nofun, rfl, List.nodup_nil⟩

theorem reached (hsteady : Steady finish polls) {some_polls : List PollOutside} (hsub : some_polls ⊆ polls) :
    Reached finish polls (after finish some_polls) := by
  induction some_polls using List.reverseRecOn with
  | nil => exact .new finish polls
  | append_singleton some_polls outside ih =>
    unfold after
    rw [run_snoc]
    refine (ih fun p hp => hsub (List.mem_append_left _ hp)).poll hsteady (hsub ?_)
    exact List.mem_append_right _ (List.mem_singleton_self _)

/-! ## What push-to-talk cuts -/

/-- Of two tasks of a committed cue, or of a slot, push-to-talk does not leave one when the other has its outcome. -/
def NothingCut (finish : List Hashed → UInt64) (outside : PollOutside) (worker : SpeechDispatchWorker) : Prop :=
  ∀ done ∈ (admitted finish outside worker.queue).1.2 ++ (ended outside (waiting finish outside worker)).map (·.1),
    ∀ left ∈ (left_behind outside (waiting finish outside worker)).map (·.1), ¬ Shares finish done left

instance (outside : PollOutside) : Decidable (NothingCut finish outside worker) := by
  unfold NothingCut
  infer_instance

/-- The clause has an outcome, or it is not hidden. -/
def Settled (finish : List Hashed → UInt64) (task : SpeechDispatchTask) (worker : SpeechDispatchWorker) : Prop :=
  (∃ outcome ∈ worker.outcomes, dispatch_key finish outcome.1 = dispatch_key finish task) ∨
    worker.queue.contains finish task = false

/-- A clause that is in the window of a poll stays settled. -/
theorem Settled.poll (h : Settled finish task worker) (hreconnect : outside.reconnected = false)
    (henabled : outside.config.enabled = true) (hin : ∃ n, task.at n ∈ all_tasks outside)
    (hkept : NothingCut finish outside worker) : Settled finish task (poll finish outside worker) := by
  cases hstuck : worker.stuck with
  | true =>
    rw [poll_stuck hstuck]
    exact h
  | false =>
    obtain ⟨hqueue, houtcomes⟩ := @poll_spec finish outside worker hstuck
    by_cases hnew : ∃ outcome ∈ new_outcomes finish outside worker,
        dispatch_key finish outcome.1 = dispatch_key finish task
    · obtain ⟨outcome, ho, hsame⟩ := hnew
      exact .inl ⟨outcome, houtcomes ▸ List.mem_append_right _ ho, hsame⟩
    rcases h with ⟨outcome, ho, hsame⟩ | hshown
    · exact .inl ⟨outcome, houtcomes ▸ List.mem_append_left _ ho, hsame⟩
    -- The clause waits, has no outcome, and so it is left.
    have hover (a : SpeechDispatchTask) (ha : a ∈ (admitted finish outside worker.queue).1.2) :
        dispatch_key finish a ≠ dispatch_key finish task := fun hsame =>
      hnew ⟨(a, .queue_overflow), List.mem_append_left _ (List.mem_map_of_mem ha), hsame⟩
    have hended (a : Numbered) (ha : a ∈ ended outside (waiting finish outside worker)) :
        dispatch_key finish a.1 ≠ dispatch_key finish task := by
      intro hsame
      obtain ⟨o, ho, rfl⟩ := List.mem_map.mp ((conducted_tasks worker).mem_iff.mpr ha)
      exact hnew ⟨(o.1.1, o.2), List.mem_append_right _ (List.mem_map_of_mem ho), hsame⟩
    obtain ⟨m, hall⟩ := hin
    have hdiscovered : task.at m ∈ discovered finish outside (queue_at_poll outside worker.queue) := by
      rw [queue_at_poll_same hreconnect]
      exact mem_discovered.mpr ⟨henabled, hall, hshown⟩
    obtain ⟨n, hfound⟩ := found_of_discovered hdiscovered
    rw [← admitted_tasks] at hfound
    have hpending : (task.at m).at n ∈ (admitted finish outside worker.queue).1.1 :=
      (List.mem_append.mp hfound).resolve_left fun h => hover _ h rfl
    obtain ⟨k, hk⟩ := List.getElem?_of_mem hpending
    have hwaits : ((task.at m).at n, k) ∈ waiting finish outside worker := List.mk_mem_zipIdx_iff_getElem?.mpr hk
    have hleft := (ended_or_left worker hwaits).resolve_left fun h => hended _ h rfl
    -- So what has an outcome does not hide it.
    have hapart (done) (hdone : done ∈ (admitted finish outside worker.queue).1.2 ++
        (ended outside (waiting finish outside worker)).map (·.1)) : ¬ Shares finish done task :=
      hkept done hdone ((task.at m).at n) (List.mem_map_of_mem hleft)
    refine .inr (Bool.eq_false_iff.mpr fun hhidden => ?_)
    rw [hqueue] at hhidden
    rcases (remembers_conducted worker).hides task hhidden with hbefore | ⟨outcome, ho, hsame | hshares⟩
    · rcases contains_admitted hbefore with hbefore | ⟨a, ha, hsame | hshares⟩
      · rw [queue_at_poll_same hreconnect, hshown] at hbefore
        cases hbefore
      · exact hover a ha hsame
      · exact hapart a (List.mem_append_left _ ha) hshares
    · exact hended outcome.1 ((conducted_tasks worker).mem_iff.mp (List.mem_map_of_mem ho)) hsame
    · refine hapart outcome.1.1 (List.mem_append_right _ (List.mem_map_of_mem ?_)) hshares
      exact (conducted_tasks worker).mem_iff.mp (List.mem_map_of_mem ho)

theorem settled_run (h : Settled finish task worker)
    (hkept : Along (fun worker outside => poll finish outside worker)
      (fun worker outside => NothingCut finish outside worker) worker polls)
    (hpolls : ∀ p ∈ polls, p.reconnected = false ∧ p.config.enabled = true ∧ ∃ n, task.at n ∈ all_tasks p) :
    Settled finish task (run (fun worker outside => poll finish outside worker) worker polls) := by
  induction polls generalizing worker with
  | nil => exact h
  | cons p polls ih =>
    obtain ⟨hreconnect, henabled, hin⟩ := hpolls p List.mem_cons_self
    exact ih (h.poll hreconnect henabled hin hkept.1) hkept.2 fun q hq => hpolls q (List.mem_cons_of_mem p hq)

/-- Each task that is admitted, and is not found in a later poll although its cue was in the window all the time, has
an outcome of its own by then; and no dispatch key is played twice. -/
structure OwnOutcomes (finish : List Hashed → UInt64) (polls : List PollOutside) : Prop where
  each : ∀ before outside between last rest, polls = before ++ outside :: (between ++ last :: rest) →
    (after finish before).stuck = false →
    ∀ task ∈ (admitted finish outside (after finish before).queue).1.2 ++
        (admitted finish outside (after finish before).queue).1.1,
      (∀ p ∈ outside :: (between ++ [last]), task.cue ∈ p.window) →
      (∀ seen ∈ discovered finish last (queue_at_poll last (after finish (before ++ outside :: between)).queue),
        clause seen ≠ clause task) →
      ∃ outcome ∈ (after finish (before ++ outside :: between)).outcomes, clause outcome.1 = clause task
  once : (((after finish polls).outcomes.filter fun outcome => outcome.2.is_played).map
    fun outcome => dispatch_key finish outcome.1).Nodup

/-- As long as push-to-talk never leaves a clause that another one hides, each clause has its own outcome. -/
theorem each_clause_has_its_own_outcome (hsteady : Steady finish polls)
    (hkept : Along (fun worker outside => poll finish outside worker)
      (fun worker outside => NothingCut finish outside worker) new polls) : OwnOutcomes finish polls where
  once := (reached hsteady (List.Subset.refl polls)).once.sublist (List.filter_sublist.map _)
  each before outside between last rest hsplit hrunning task htask hwindow hgone := by
    subst hsplit
    have hinside (p) (hp : p ∈ outside :: (between ++ [last])) :
        p ∈ before ++ outside :: (between ++ last :: rest) := by
      refine List.mem_append_right before ?_
      rcases List.mem_cons.mp hp with rfl | hp
      · exact List.mem_cons_self
      · rw [List.append_cons between last rest]
        exact List.mem_cons_of_mem _ (List.mem_append_left rest hp)
    rw [admitted_tasks] at htask
    obtain ⟨seen, hseen, n, rfl⟩ := mem_found htask
    have hfirst := hinside outside List.mem_cons_self
    rw [queue_at_poll_same (hsteady.no_reconnect outside hfirst)] at hseen
    obtain ⟨henabled, hall, hshown⟩ := mem_discovered.mp hseen
    obtain ⟨cue, -, hcue⟩ := mem_all_tasks.mp hall
    have hpolls (p) (hp : p ∈ outside :: (between ++ [last])) :
        p.reconnected = false ∧ p.config.enabled = true ∧ seen.at p.now ∈ all_tasks p := by
      obtain ⟨hon, hsegments⟩ := hsteady.same_config p (hinside p hp) outside hfirst
      refine ⟨hsteady.no_reconnect p (hinside p hp), hon.trans henabled, mem_all_tasks.mpr ⟨cue, ?_, ?_⟩⟩
      · exact unplayed_cue hcue ▸ hwindow p hp
      · exact unplayed_again hcue hsegments
    have hbetween (p) (hp : p ∈ outside :: between) : p ∈ outside :: (between ++ [last]) := by
      exact List.mem_append_left _ hp
    have hlast : last ∈ outside :: (between ++ [last]) :=
      List.mem_cons_of_mem _ (List.mem_append_right _ (List.mem_singleton_self last))
    have hcut : Along (fun worker outside => poll finish outside worker)
        (fun worker outside => NothingCut finish outside worker) (after finish before) (outside :: between) := by
      exact (Along.append.mp (Along.append.mp hkept).2).1
    have hsettled : Settled finish seen (after finish (before ++ outside :: between)) := by
      unfold after
      rw [run_append]
      refine settled_run (.inr hshown) hcut fun p hp => ?_
      obtain ⟨hreconnect, hon, hin⟩ := hpolls p (hbetween p hp)
      exact ⟨hreconnect, hon, _, hin⟩
    obtain ⟨hreconnect, hon, hin⟩ := hpolls last hlast
    rcases hsettled with ⟨outcome, ho, hsame⟩ | hshown
    · refine ⟨outcome, ho, ?_⟩
      have hpart : before ++ outside :: between ⊆ before ++ outside :: (between ++ last :: rest) := by
        intro p hp
        rcases List.mem_append.mp hp with hbefore | hp
        · exact List.mem_append_left _ hbefore
        · exact hinside p (hbetween p hp)
      obtain ⟨q, hq, t, ht, hkey, hclause⟩ := (reached hsteady hpart).found outcome ho
      rw [at_clause, ← hclause]
      exact hsteady.same_clause q hq outside hfirst t ht seen hall (hkey.trans hsame)
    · rw [queue_at_poll_same hreconnect] at hgone
      exact absurd rfl (hgone (seen.at last.now) (mem_discovered.mpr ⟨hon, hin, hshown⟩))

end

/-! ## Two clauses of a cue, and push-to-talk -/

/-- Each part of `Steady`, with the keys of all clauses. -/
theorem steady_of_keys {finish : List Hashed → UInt64} {polls : List PollOutside}
    (hconfig : ∀ p ∈ polls, ∀ q ∈ polls, p.config.enabled = q.config.enabled ∧
      p.config.secondary_segment_tts_enabled = q.config.secondary_segment_tts_enabled)
    (hreconnect : ∀ p ∈ polls, p.reconnected = false)
    (hown : ∀ p ∈ polls, ((all_tasks p).map (dispatch_key finish)).Nodup)
    (hclause : ∀ p ∈ polls, ∀ q ∈ polls, ∀ a ∈ all_tasks p, ∀ b ∈ all_tasks q,
      dispatch_key finish a = dispatch_key finish b → clause a = clause b)
    (hfew : (polls.flatMap all_tasks).length ≤ MAX_PROCESSED_CUES) : Steady finish polls where
  same_config := hconfig
  no_reconnect := hreconnect
  own_keys := hown
  same_clause := hclause
  few := by
    refine ⟨((polls.flatMap all_tasks).map (dispatch_key finish)).toFinset, ?_, fun p hp task htask => ?_⟩
    · refine (List.toFinset_card_le _).trans ?_
      rw [List.length_map]
      exact hfew
    · exact List.mem_toFinset.mpr (List.mem_map_of_mem (List.mem_flatMap.mpr ⟨p, hp, htask⟩))

/-- Two polls without push-to-talk. -/
theorem both_clauses_are_heard : OwnOutcomes sum_hash [second_one_first, second_one_first] :=
  each_clause_has_its_own_outcome
    (steady_of_keys (by decide +kernel) (by decide +kernel) (by decide +kernel) (by decide +kernel) (by decide +kernel))
    (by decide +kernel)

/-- An outbound cue of one clause. -/
def spoken_cue : SubtitleCue :=
  { two_clauses with
    cue_id := "o"
    route_direction := "outbound"
    display_segments := [⟨"three!".toList, "三。".toList, false⟩] }

/-- An outbound cue came in after the one with two clauses, and push-to-talk is not open. -/
def held_back : PollOutside :=
  { second_one_first with
    window := [spoken_cue, two_clauses]
    config := ⟨true, true, true, "idle"⟩
    younger_first := fun _ _ => false }

def second_clause : SpeechDispatchTask := segment_task two_clauses 0 0 (("two!".toList, "二。".toList), 1)

/-- The first clause is played, push-to-talk cuts the poll short, and the second clause is never heard. -/
theorem the_second_clause_is_lost :
    ¬ ∀ (finish : List Hashed → UInt64) (polls : List PollOutside), Steady finish polls → OwnOutcomes finish polls := by
  intro hall
  have hsteady : Steady sum_hash [held_back, held_back] :=
    steady_of_keys (by decide +kernel) (by decide +kernel) (by decide +kernel) (by decide +kernel) (by decide +kernel)
  have hlost : ¬ ∃ outcome ∈ (after sum_hash [held_back]).outcomes, clause outcome.1 = clause second_clause := by
    decide +kernel
  exact hlost ((hall sum_hash _ hsteady).each [] held_back [] held_back [] rfl rfl second_clause (by decide +kernel)
    (by decide +kernel) (by decide +kernel))

end omni_translate.speech_dispatch

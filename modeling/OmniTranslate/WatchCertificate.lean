-- What the snapshot of a strict watch run certifies: the trail that the calls
-- leave, what the ledger knows of it, and when the snapshot says all of it.
import OmniTranslate.WatchCalls

namespace omni_translate.watch_terminal_lifecycle

open calls json runs translation_lifecycle StrictWatchTerminalLifecycleState
open Watch (step)

/-! ## The trail of a run -/

/-- What a call leaves behind. -/
inductive Note where
  | append (samples : Nat)
  | finish
  | failure
  | submitted (cue_id response_id : String)
  | acknowledged (cue_id receipt_id : String)
  | completed (response_id : String)
  | finished
  | other
deriving DecidableEq

/-- Calls that are not answered leave nothing, but an append counts when it is tried. -/
def note : Op × Bool → Note
  | (.provider_append samples _, _) => .append samples
  | (.session_finish_sent _, true) => .finish
  | (.response_failed _ _, true) | (.renderer_failure _ _, true) => .failure
  | (.renderer_cue_submitted cue_id response_id _, true) => .submitted cue_id response_id
  | (.renderer_ack cue_id _ receipt_id _ _, true) => .acknowledged cue_id receipt_id
  | (.response_terminal _ response_id _, true) => .completed response_id
  | (.session_finished_received _, true) => .finished
  | _ => .other

def Watch.trail (watch : Watch) : List Note := watch.log.map note

/-- The cue was acknowledged under a receipt that was not used before. -/
def Acknowledged (trail : List Note) (cue_id : String) : Prop :=
  ∃ before after receipt_id, trail = before ++ .acknowledged cue_id receipt_id :: after ∧
    ∀ other, .acknowledged other receipt_id ∉ before

/-- The cue was the last one to be submitted for the first time. -/
def LastCue (trail : List Note) (cue_id response_id : String) : Prop :=
  ∃ before after, trail = before ++ .submitted cue_id response_id :: after ∧
    (∀ response, .submitted cue_id response ∉ before) ∧
    ∀ other response, .submitted other response ∈ after →
      other = cue_id ∨ ∃ response', .submitted other response' ∈ before

/-- What the snapshot is to certify. -/
structure Certified (trail : List Note) (snapshot : StrictWatchTerminalLifecycleSnapshot) : Prop where
  one_finish : trail.count .finish = 1
  no_append : Each (fun before n => ∀ samples, n = .append samples → .finish ∉ before) trail
  in_order : snapshot.session_updated_received.source_sequence
        < snapshot.last_provider_append.source_sequence ∧
      snapshot.last_provider_append.source_sequence < snapshot.session_finish_sent.source_sequence ∧
      snapshot.session_finish_sent.source_sequence < snapshot.session_finished_received.source_sequence
  no_failure : .failure ∉ trail
  acknowledged : ∀ cue_id response_id, .submitted cue_id response_id ∈ trail → Acknowledged trail cue_id
  completed : ∃ cue_id response_id before after, LastCue trail cue_id response_id ∧
    trail = before ++ .completed response_id :: after ∧ .finished ∉ before ∧ .finished ∈ after

/-- Every cue but the last was acknowledged under a receipt of its own. -/
def EarlierCuesAcknowledged (trail : List Note) : Prop :=
  ∀ cue_id response_id, .submitted cue_id response_id ∈ trail →
    (∀ response, ¬ LastCue trail cue_id response) → Acknowledged trail cue_id

/-- No append without samples is tried after the finish. -/
def NoEmptyAppend (trail : List Note) : Prop :=
  Each (fun before n => n = .append 0 → .finish ∉ before) trail

variable {s s' : StrictWatchTerminalLifecycleState} {op : Op} {ok : Bool} {trail : List Note} {n : Note}

theorem note_unanswered (hop : ∀ samples now, op ≠ .provider_append samples now) :
    note (op, false) = .other := by
  cases op <;> first | rfl | exact absurd rfl (hop _ _)

theorem note_drained (hop : op.drained = true) : note (op, ok) = .other := by
  cases op <;> first | rfl | simp [Op.drained] at hop

theorem count_other {m : Note} (h : n ≠ m) : (trail ++ [n]).count m = trail.count m := by
  simp [h]

theorem mem_other {m : Note} (h : n ≠ m) : m ∈ trail ++ [n] ↔ m ∈ trail := by
  simp [Ne.symm h]

/-! ## The provider -/

/-- What the ledger knows of the provider. -/
structure ProviderSide (s : StrictWatchTerminalLifecycleState) (trail : List Note) : Prop where
  finish : trail.count .finish = if s.session_finish_sent.isSome = true then 1 else 0
  writes : s.provider_writes_after_finish = 0 →
    Each (fun before n => ∀ samples, n = .append samples → samples ≠ 0 → .finish ∉ before) trail
  failure : .failure ∈ trail → s.failed_response_statuses.entries ≠ [] ∨ s.renderer_failures.entries ≠ []
  completed : ∀ response ∈ s.response_terminals, .completed response ∈ trail
  in_order : Each (fun before n => ∀ response, n = .completed response → .finished ∉ before) trail
  finished : .finished ∈ trail ↔ s.session_finished_received.isSome = true

section

variable (h : ProviderSide s trail)

include h

/-- A call that leaves nothing behind and touches none of it. -/
theorem ProviderSide.quiet (hnote : ∀ samples, n = .append samples → samples = 0)
    (hother : n ≠ .finish ∧ n ≠ .failure ∧ (∀ response, n ≠ .completed response) ∧ n ≠ .finished)
    (hsent : s'.session_finish_sent = s.session_finish_sent)
    (hwrites : s'.provider_writes_after_finish = s.provider_writes_after_finish)
    (hfailed : s'.failed_response_statuses = s.failed_response_statuses)
    (hfailures : s'.renderer_failures = s.renderer_failures)
    (hterminals : s'.response_terminals = s.response_terminals)
    (hfinished : s'.session_finished_received = s.session_finished_received) :
    ProviderSide s' (trail ++ [n]) where
  finish := by rw [hsent, ← h.finish, count_other hother.1]
  writes := by
    intro hzero
    rw [hwrites] at hzero
    refine Each.snoc.mpr ⟨h.writes hzero, fun samples hn hpos => ?_⟩
    exact absurd (hnote samples hn) hpos
  failure := by
    rw [hfailed, hfailures]
    exact fun hmem => h.failure ((mem_other hother.2.1).mp hmem)
  completed := by
    rw [hterminals]
    intro response hr
    exact List.mem_append_left _ (h.completed response hr)
  in_order := Each.snoc.mpr ⟨h.in_order, fun response hn => absurd hn (hother.2.2.1 response)⟩
  finished := by
    rw [hfinished, ← h.finished]
    exact mem_other hother.2.2.2

theorem ProviderSide.other (hnote : note (op, ok) = .other)
    (hsent : s'.session_finish_sent = s.session_finish_sent)
    (hwrites : s'.provider_writes_after_finish = s.provider_writes_after_finish)
    (hfailed : s'.failed_response_statuses = s.failed_response_statuses)
    (hfailures : s'.renderer_failures = s.renderer_failures)
    (hterminals : s'.response_terminals = s.response_terminals)
    (hfinished : s'.session_finished_received = s.session_finished_received) :
    ProviderSide s' (trail ++ [note (op, ok)]) := by
  rw [hnote]
  exact h.quiet (by simp) (by simp) hsent hwrites hfailed hfailures hterminals hfinished

theorem ProviderSide.unfinished (hnone : s.session_finish_sent = none) : .finish ∉ trail := by
  rw [← List.count_eq_zero, h.finish, hnone]
  rfl

theorem ProviderSide.running (hnone : s.session_finished_received = none) : .finished ∉ trail := by
  rw [h.finished, hnone]
  simp

theorem ProviderSide.appended (hnone : s.session_finish_sent = none) (samples count total : Nat)
    (evidence : StrictWatchProviderAppendEvidence) :
    ProviderSide
      { s.sequenced with
        append_count := count, accepted_samples_total := total, last_provider_append := some evidence }
      (trail ++ [.append samples]) where
  finish := (count_other (by simp)).trans h.finish
  writes hzero := Each.snoc.mpr ⟨h.writes hzero, fun _ _ _ => h.unfinished hnone⟩
  failure hmem := h.failure ((mem_other (by simp)).mp hmem)
  completed response hr := List.mem_append_left _ (h.completed response hr)
  in_order := Each.snoc.mpr ⟨h.in_order, by simp⟩
  finished := (mem_other (by simp)).trans h.finished

theorem ProviderSide.late (samples : Nat) :
    ProviderSide { s with provider_writes_after_finish := saturating_succ s.provider_writes_after_finish }
      (trail ++ [.append samples]) where
  finish := (count_other (by simp)).trans h.finish
  writes hzero := by
    unfold saturating_succ at hzero
    split at hzero
    · simp at hzero
    · rename_i hmax
      rw [hzero] at hmax
      exact absurd (by decide) hmax
  failure hmem := h.failure ((mem_other (by simp)).mp hmem)
  completed response hr := List.mem_append_left _ (h.completed response hr)
  in_order := Each.snoc.mpr ⟨h.in_order, by simp⟩
  finished := (mem_other (by simp)).trans h.finished

theorem ProviderSide.finish_sent (hnone : s.session_finish_sent = none) (count : Nat)
    (evidence : StrictWatchSessionFinishEvidence) :
    ProviderSide
      { (s.gated .finish_sent).sequenced with finish_count := count, session_finish_sent := some evidence }
      (trail ++ [.finish]) where
  finish := by
    have hzero := List.count_eq_zero.mpr (h.unfinished hnone)
    simp [hzero]
  writes hzero := Each.snoc.mpr ⟨h.writes hzero, by simp⟩
  failure hmem := h.failure ((mem_other (by simp)).mp hmem)
  completed response hr := List.mem_append_left _ (h.completed response hr)
  in_order := Each.snoc.mpr ⟨h.in_order, by simp⟩
  finished := (mem_other (by simp)).trans h.finished

theorem ProviderSide.completes (hnone : s.session_finished_received = none) (stage : ResponseStage)
    (evidence : StrictWatchResponseTerminalEvidence) :
    ProviderSide
      (keep_terminal (enter_stage s evidence.response_id stage).stirred_if_drained.sequenced evidence)
      (trail ++ [.completed evidence.response_id]) where
  finish := (count_other (by simp)).trans h.finish
  writes hzero := Each.snoc.mpr ⟨h.writes hzero, by simp⟩
  failure hmem := h.failure ((mem_other (by simp)).mp hmem)
  completed response hr := by
    rcases (AList.mem_insert _).mp hr with rfl | hold
    · simp
    · exact List.mem_append_left _ (h.completed response hold)
  in_order := Each.snoc.mpr ⟨h.in_order, fun _ _ => h.running hnone⟩
  finished := (mem_other (by simp)).trans h.finished

/-- A response that fails takes its terminals with it. -/
theorem ProviderSide.fails (response_id status : String) :
    ProviderSide
      (revoke { s with failed_response_statuses := s.failed_response_statuses.insert response_id status }
        response_id) (trail ++ [.failure]) where
  finish := (count_other (by simp)).trans h.finish
  writes hzero := Each.snoc.mpr ⟨h.writes hzero, by simp⟩
  failure _ := .inl (maps.entries_insert_ne_nil _ _ _)
  completed response hr := List.mem_append_left _ (h.completed response (AList.mem_erase.mp hr).2)
  in_order := Each.snoc.mpr ⟨h.in_order, by simp⟩
  finished := (mem_other (by simp)).trans h.finished

theorem ProviderSide.ends (evidence : StrictWatchProviderTerminalEvidence) :
    ProviderSide { s.sequenced.gated .finished with session_finished_received := some evidence }
      (trail ++ [.finished]) where
  finish := (count_other (by simp)).trans h.finish
  writes hzero := Each.snoc.mpr ⟨h.writes hzero, by simp⟩
  failure hmem := h.failure ((mem_other (by simp)).mp hmem)
  completed response hr := List.mem_append_left _ (h.completed response hr)
  in_order := Each.snoc.mpr ⟨h.in_order, by simp⟩
  finished := by simp

/-- A call leaves a failure and the failures are not empty after it. -/
theorem ProviderSide.renderer_fails (failures : AList (fun _ : Nat => RendererFailure))
    (hsome : failures.entries ≠ []) :
    ProviderSide { s with renderer_failures := failures } (trail ++ [.failure]) where
  finish := (count_other (by simp)).trans h.finish
  writes hzero := Each.snoc.mpr ⟨h.writes hzero, by simp⟩
  failure _ := .inr hsome
  completed response hr := List.mem_append_left _ (h.completed response hr)
  in_order := Each.snoc.mpr ⟨h.in_order, by simp⟩
  finished := (mem_other (by simp)).trans h.finished

theorem ProviderSide.done (hdone : Done s op s' ok) :
    ProviderSide s' (trail ++ [note (op, ok)]) := by
  cases hdone with
  | refused op hop =>
    by_cases happend : ∃ samples now, op = .provider_append samples now
    · obtain ⟨samples, now, rfl⟩ := happend
      have hzero : samples = 0 := hop samples now rfl
      subst hzero
      exact h.quiet (by simp [note]) (by simp [note]) rfl rfl rfl rfl rfl rfl
    · exact h.other (note_unanswered fun samples now heq => happend ⟨samples, now, heq⟩) rfl rfl rfl rfl rfl rfl
  | idle op hop => exact h.other (note_drained hop) rfl rfl rfl rfl rfl rfl
  | violated op _ _ hop => exact h.other (note_unanswered hop) rfl rfl rfl rfl rfl rfl
  | late_append samples now hsent => exact h.late samples
  | append samples now count total evidence hnone => exact h.appended hnone samples count total evidence
  | finish now evidence _ _ hnone happend => exact h.finish_sent hnone _ evidence
  | terminal stage response_id now evidence hevidence hunfinished =>
    subst hevidence
    exact h.completes hunfinished stage evidence
  | failed response_id status hunfinished => exact h.fails response_id status
  | failed_again response_id status _ =>
    have hne := maps.entries_insert_ne_nil s.failed_response_statuses response_id status
    refine ⟨(count_other (by simp [note])).trans h.finish, fun hzero => Each.snoc.mpr ⟨h.writes hzero, by simp [note]⟩,
      fun _ => .inl hne, fun response hr => List.mem_append_left _ (h.completed response hr),
      Each.snoc.mpr ⟨h.in_order, by simp [note]⟩, (mem_other (by simp [note])).trans h.finished⟩
  | finished now evidence hnone hsent => exact h.ends evidence
  | failure_known cue_id reason sequence _ hexisting =>
    refine h.renderer_fails s.renderer_failures fun hnil => ?_
    exact maps.entries_eq_nil.mp hnil sequence (maps.mem_of_lookup hexisting)
  | failure cue_id reason sequence failure => exact h.renderer_fails _ (maps.entries_insert_ne_nil _ _ _)
  | fresh op hop => exact h.other (note_drained hop) rfl rfl rfl rfl rfl rfl
  | cue cue_id response_id now _ _ =>
    exact h.quiet (by simp [note]) (by simp [note]) rfl rfl rfl rfl rfl rfl
  | cue_known cue_id response_id now sequence _ _ =>
    exact h.quiet (by simp [note]) (by simp [note]) rfl rfl rfl rfl rfl rfl
  | ack cue_id authority receipt_id =>
    exact h.quiet (by simp [note]) (by simp [note]) rfl rfl rfl rfl rfl rfl
  | ack_known cue_id authority receipt_id =>
    exact h.quiet (by simp [note]) (by simp [note]) rfl rfl rfl rfl rfl rfl
  | bindings _ => exact h.other (note_drained rfl) rfl rfl rfl rfl rfl rfl
  | _ => exact h.other rfl rfl rfl rfl rfl rfl rfl

end

/-! ## The cues -/

theorem Acknowledged.snoc {cue_id : String} :
    Acknowledged (trail ++ [n]) cue_id ↔ Acknowledged trail cue_id ∨
      ∃ receipt_id, n = .acknowledged cue_id receipt_id ∧
        ∀ other, .acknowledged other receipt_id ∉ trail := by
  constructor
  · rintro ⟨before, after, receipt_id, htrail, hfresh⟩
    rcases split_snoc htrail with ⟨-, rfl, rfl⟩ | ⟨rest, -, hold⟩
    · exact .inr ⟨receipt_id, rfl, hfresh⟩
    · exact .inl ⟨before, rest, receipt_id, hold, hfresh⟩
  · rintro (⟨before, after, receipt_id, htrail, hfresh⟩ | ⟨receipt_id, rfl, hfresh⟩)
    · exact ⟨before, after ++ [n], receipt_id, by simp [htrail], hfresh⟩
    · exact ⟨trail, [], receipt_id, rfl, hfresh⟩

theorem Acknowledged.mem {cue_id : String} (h : Acknowledged trail cue_id) :
    ∃ receipt_id, .acknowledged cue_id receipt_id ∈ trail := by
  obtain ⟨_, _, receipt_id, htrail, -⟩ := h
  exact ⟨receipt_id, by simp [htrail]⟩

variable {cue_id response_id : String}

theorem LastCue.mem (h : LastCue trail cue_id response_id) : .submitted cue_id response_id ∈ trail := by
  obtain ⟨_, _, htrail, -⟩ := h
  simp [htrail]

/-- A cue stays the last one until another is submitted. -/
theorem LastCue.snoc (h : LastCue trail cue_id response_id)
    (hold : ∀ other response, n = .submitted other response →
      ∃ response', .submitted other response' ∈ trail) : LastCue (trail ++ [n]) cue_id response_id := by
  obtain ⟨before, after, htrail, hfirst, hafter⟩ := h
  refine ⟨before, after ++ [n], by simp [htrail], hfirst, fun other response hmem => ?_⟩
  rcases List.mem_append.mp hmem with hmem | hmem
  · exact hafter other response hmem
  · obtain ⟨response', hin⟩ := hold other response (List.mem_singleton.mp hmem).symm
    rw [htrail, List.mem_append, List.mem_cons] at hin
    rcases hin with hin | hin | hin
    · exact .inr ⟨response', hin⟩
    · rw [Note.submitted.injEq] at hin
      exact .inl hin.1
    · exact hafter other response' hin

/-- A cue that was submitted is the last one or was there before it. -/
theorem LastCue.before {cue_id response_id other response : String} {before after : List Note}
    (htrail : trail = before ++ .submitted cue_id response_id :: after)
    (hafter : ∀ other response, .submitted other response ∈ after →
      other = cue_id ∨ ∃ response', .submitted other response' ∈ before)
    (hne : other ≠ cue_id) (hmem : .submitted other response ∈ trail) :
    ∃ response', .submitted other response' ∈ before := by
  rw [htrail, List.mem_append, List.mem_cons, Note.submitted.injEq] at hmem
  rcases hmem with hmem | hmem | hmem
  · exact ⟨response, hmem⟩
  · exact absurd hmem.1 hne
  · exact (hafter other response hmem).resolve_left hne

theorem LastCue.unique {cue_id response_id other response : String} (h : LastCue trail cue_id response_id)
    (h' : LastCue trail other response) : cue_id = other := by
  by_contra hne
  have hmem := h.mem
  have hmem' := h'.mem
  obtain ⟨before, _, htrail, hfirst, hafter⟩ := h
  obtain ⟨_, _, htrail', hfirst', hafter'⟩ := h'
  obtain ⟨_, hin⟩ := LastCue.before htrail hafter (Ne.symm hne) hmem'
  obtain ⟨_, hin'⟩ := LastCue.before htrail' hafter' hne hmem
  -- one of the two histories goes on from the other
  rcases List.prefix_or_prefix_of_prefix ⟨_, htrail.symm⟩ ⟨_, htrail'.symm⟩ with hle | hle
  · exact hfirst' _ (hle.subset hin)
  · exact hfirst _ (hle.subset hin')

/-- What the ledger knows of the cues. -/
structure CueSide (s : StrictWatchTerminalLifecycleState) (trail : List Note) : Prop where
  known : ∀ cue_id, cue_id ∈ s.cue_sequences ↔ ∃ response_id, .submitted cue_id response_id ∈ trail
  lineage : ∀ cue_id response_id, .submitted cue_id response_id ∈ trail →
    s.cue_response_ids.lookup cue_id = some response_id
  numbered : ∀ cue_id number, s.cue_sequences.lookup cue_id = some number → number ≤ s.next_cue_sequence
  apart : ∀ cue_id other number, s.cue_sequences.lookup cue_id = some number →
    s.cue_sequences.lookup other = some number → cue_id = other
  last : s.last_cue_sequence = s.next_cue_sequence
  latest : s.last_cue_sequence ≠ 0 → ∃ cue_id response_id, LastCue trail cue_id response_id ∧
    s.cue_sequences.lookup cue_id = some s.last_cue_sequence
  heard : ∀ cue_id receipt_id, .acknowledged cue_id receipt_id ∈ trail → cue_id ∈ s.cue_sequences
  receipts : ∀ receipt_id, receipt_id ∈ s.renderer_receipt_ids ↔
    ∃ cue_id, .acknowledged cue_id receipt_id ∈ trail
  acknowledged : ∀ cue_id number, s.cue_sequences.lookup cue_id = some number →
    (number ∈ s.renderer_acks ↔ Acknowledged trail cue_id)
  ack : ∀ number ack, s.renderer_acks.lookup number = some ack → ∃ cue_id,
    s.cue_sequences.lookup cue_id = some number ∧ s.cue_response_ids.lookup cue_id = some ack.response_id

/-- The cues are as they were. -/
structure SameCues (s s' : StrictWatchTerminalLifecycleState) : Prop where
  cue_sequences : s'.cue_sequences = s.cue_sequences
  cue_response_ids : s'.cue_response_ids = s.cue_response_ids
  next_cue_sequence : s'.next_cue_sequence = s.next_cue_sequence
  last_cue_sequence : s'.last_cue_sequence = s.last_cue_sequence
  renderer_acks : s'.renderer_acks = s.renderer_acks
  renderer_receipt_ids : s'.renderer_receipt_ids = s.renderer_receipt_ids

/-- A call that submits no new cue and acknowledges none. -/
theorem CueSide.quiet (h : CueSide s trail) (hsame : SameCues s s')
    (hsubmitted : ∀ cue_id response_id, n = .submitted cue_id response_id →
      s.cue_response_ids.lookup cue_id = some response_id ∧ cue_id ∈ s.cue_sequences)
    (hacknowledged : ∀ cue_id receipt_id, n = .acknowledged cue_id receipt_id →
      cue_id ∈ s.cue_sequences ∧ receipt_id ∈ s.renderer_receipt_ids) :
    CueSide s' (trail ++ [n]) := by
  obtain ⟨hcues, hresponses, hnext, hlast, hacks, hreceipts⟩ := hsame
  have hold : ∀ m, m ∈ trail → m ∈ trail ++ [n] := fun m hm => List.mem_append_left _ hm
  have hcases : ∀ m, m ∈ trail ++ [n] → m ∈ trail ∨ n = m := by
    intro m hm
    rcases List.mem_append.mp hm with hm | hm
    · exact .inl hm
    · exact .inr (List.mem_singleton.mp hm).symm
  refine ⟨fun cue_id => ?_, fun cue_id response_id hmem => ?_, ?_, ?_, ?_, fun hne => ?_,
    fun cue_id receipt_id hmem => ?_, fun receipt_id => ?_, fun cue_id number hnumber => ?_, ?_⟩
  · rw [hcues, h.known cue_id]
    constructor
    · rintro ⟨response_id, hmem⟩
      exact ⟨response_id, hold _ hmem⟩
    · rintro ⟨response_id, hmem⟩
      rcases hcases _ hmem with hmem | hn
      · exact ⟨response_id, hmem⟩
      · exact (h.known cue_id).mp (hsubmitted _ _ hn).2
  · rw [hresponses]
    rcases hcases _ hmem with hmem | hn
    · exact h.lineage cue_id response_id hmem
    · exact (hsubmitted _ _ hn).1
  · rw [hcues, hnext]; exact h.numbered
  · rw [hcues]; exact h.apart
  · rw [hlast, hnext]; exact h.last
  · rw [hlast] at hne ⊢
    rw [hcues]
    obtain ⟨cue_id, response_id, hcue, hnumber⟩ := h.latest hne
    refine ⟨cue_id, response_id, hcue.snoc fun other _ hn => ?_, hnumber⟩
    exact (h.known other).mp (hsubmitted _ _ hn).2
  · rw [hcues]
    rcases hcases _ hmem with hmem | hn
    · exact h.heard cue_id receipt_id hmem
    · exact (hacknowledged _ _ hn).1
  · rw [hreceipts, h.receipts receipt_id]
    constructor
    · rintro ⟨cue_id, hmem⟩
      exact ⟨cue_id, hold _ hmem⟩
    · rintro ⟨cue_id, hmem⟩
      rcases hcases _ hmem with hmem | hn
      · exact ⟨cue_id, hmem⟩
      · exact (h.receipts receipt_id).mp (hacknowledged _ _ hn).2
  · rw [hcues] at hnumber
    rw [hacks, h.acknowledged cue_id number hnumber, Acknowledged.snoc]
    refine ⟨.inl, fun hor => ?_⟩
    rcases hor with hack | ⟨receipt_id, hn, hfresh⟩
    · exact hack
    · -- the receipt was used before
      obtain ⟨other, hmem⟩ := (h.receipts receipt_id).mp (hacknowledged _ _ hn).2
      exact absurd hmem (hfresh other)
  · rw [hacks, hcues, hresponses]; exact h.ack

theorem CueSide.submit (h : CueSide s trail) (hnew : s.cue_sequences.lookup cue_id = none)
    (hcues : s'.cue_sequences = s.cue_sequences.insert cue_id (s.next_cue_sequence + 1))
    (hresponses : s'.cue_response_ids = s.cue_response_ids.insert cue_id response_id)
    (hnext : s'.next_cue_sequence = s.next_cue_sequence + 1)
    (hlast : s'.last_cue_sequence = s.next_cue_sequence + 1) (hacks : s'.renderer_acks = s.renderer_acks)
    (hreceipts : s'.renderer_receipt_ids = s.renderer_receipt_ids) :
    CueSide s' (trail ++ [.submitted cue_id response_id]) := by
  have hunknown : cue_id ∉ s.cue_sequences := AList.lookup_eq_none.mp hnew
  have hunseen : ∀ response, .submitted cue_id response ∉ trail := fun response hmem =>
    hunknown ((h.known cue_id).mpr ⟨response, hmem⟩)
  -- the number is new too
  have hfresh : ∀ other, s.cue_sequences.lookup other ≠ some (s.next_cue_sequence + 1) := by
    intro other hother
    have := h.numbered other _ hother
    omega
  have hlookup : ∀ other number, s'.cue_sequences.lookup other = some number →
      (other = cue_id ∧ number = s.next_cue_sequence + 1) ∨
        (other ≠ cue_id ∧ s.cue_sequences.lookup other = some number) := by
    intro other number hother
    rw [hcues] at hother
    by_cases heq : other = cue_id
    · subst heq
      rw [AList.lookup_insert] at hother
      exact .inl ⟨rfl, (Option.some.inj hother).symm⟩
    · rw [AList.lookup_insert_ne heq] at hother
      exact .inr ⟨heq, hother⟩
  have hkeep : ∀ other number, s.cue_sequences.lookup other = some number →
      s'.cue_sequences.lookup other = some number := by
    intro other number hother
    have hne : other ≠ cue_id := by
      rintro rfl
      simp [hnew] at hother
    rw [hcues, AList.lookup_insert_ne hne]
    exact hother
  refine ⟨fun other => ?_, fun other response hmem => ?_, fun other number hother => ?_,
    fun first second number h1 h2 => ?_, ?_, fun _ => ?_, fun other receipt_id hmem => ?_,
    fun receipt_id => ?_, fun other number hother => ?_, fun number ack hack => ?_⟩
  · rw [hcues, AList.mem_insert, h.known other]
    constructor
    · rintro (rfl | ⟨response, hmem⟩)
      · exact ⟨response_id, by simp⟩
      · exact ⟨response, List.mem_append_left _ hmem⟩
    · rintro ⟨response, hmem⟩
      rcases List.mem_append.mp hmem with hmem | hmem
      · exact .inr ⟨response, hmem⟩
      · rw [List.mem_singleton, Note.submitted.injEq] at hmem
        exact .inl hmem.1
  · rw [hresponses]
    rcases List.mem_append.mp hmem with hold | hn
    · have hne : other ≠ cue_id := by
        rintro rfl
        exact hunseen response hold
      rw [AList.lookup_insert_ne hne]
      exact h.lineage other response hold
    · rw [List.mem_singleton, Note.submitted.injEq] at hn
      rw [hn.1, hn.2, AList.lookup_insert]
  · rw [hnext]
    rcases hlookup other number hother with ⟨-, rfl⟩ | ⟨-, hold⟩
    · exact le_refl _
    · exact Nat.le_succ_of_le (h.numbered other number hold)
  · rcases hlookup first number h1 with ⟨rfl, rfl⟩ | ⟨-, hfirst⟩
    · rcases hlookup second _ h2 with ⟨rfl, -⟩ | ⟨-, hsecond⟩
      · rfl
      · exact absurd hsecond (hfresh second)
    · rcases hlookup second number h2 with ⟨rfl, rfl⟩ | ⟨-, hsecond⟩
      · exact absurd hfirst (hfresh first)
      · exact h.apart first second number hfirst hsecond
  · rw [hlast, hnext]
  · refine ⟨cue_id, response_id, ⟨trail, [], rfl, hunseen, by simp⟩, ?_⟩
    rw [hlast, hcues, AList.lookup_insert]
  · rw [hcues, AList.mem_insert]
    exact .inr (h.heard other receipt_id ((mem_other (by simp)).mp hmem))
  · rw [hreceipts, h.receipts receipt_id]
    simp
  · rw [hacks, Acknowledged.snoc]
    rcases hlookup other number hother with ⟨rfl, rfl⟩ | ⟨-, hold⟩
    · refine ⟨fun hmem => ?_, fun hack => ?_⟩
      · obtain ⟨ack, hack⟩ := Option.isSome_iff_exists.mp (AList.lookup_isSome.mpr hmem)
        obtain ⟨cue, hcue, -⟩ := h.ack _ ack hack
        exact absurd hcue (hfresh cue)
      · rcases hack with hack | ⟨receipt_id, hn, -⟩
        · obtain ⟨receipt_id, hmem⟩ := hack.mem
          exact absurd (h.heard other receipt_id hmem) hunknown
        · cases hn
    · rw [h.acknowledged other number hold]
      simp
  · rw [hacks] at hack
    obtain ⟨cue, hcue, hresponse⟩ := h.ack number ack hack
    refine ⟨cue, hkeep cue number hcue, ?_⟩
    have hne : cue ≠ cue_id := by
      rintro rfl
      simp [hnew] at hcue
    rw [hresponses, AList.lookup_insert_ne hne]
    exact hresponse

/-- A cue is acknowledged under a receipt that is new. -/
theorem CueSide.acknowledge (h : CueSide s trail) {cue_id receipt_id response_id : String} {number : Nat}
    {evidence : RendererAck} (hnumber : s.cue_sequences.lookup cue_id = some number)
    (hresponse : s.cue_response_ids.lookup cue_id = some response_id)
    (hevidence : evidence.response_id = response_id) (hnew : receipt_id ∉ s.renderer_receipt_ids)
    (hcues : s'.cue_sequences = s.cue_sequences) (hresponses : s'.cue_response_ids = s.cue_response_ids)
    (hnext : s'.next_cue_sequence = s.next_cue_sequence) (hlast : s'.last_cue_sequence = s.last_cue_sequence)
    (hacks : s'.renderer_acks = s.renderer_acks.insert number evidence)
    (hreceipts : s'.renderer_receipt_ids = insert receipt_id s.renderer_receipt_ids) :
    CueSide s' (trail ++ [.acknowledged cue_id receipt_id]) := by
  have hcue : cue_id ∈ s.cue_sequences := maps.mem_of_lookup hnumber
  have hfresh : ∀ other, .acknowledged other receipt_id ∉ trail := fun other hmem =>
    hnew ((h.receipts receipt_id).mpr ⟨other, hmem⟩)
  refine ⟨fun other => ?_, fun other response hmem => ?_, ?_, ?_, ?_, fun hne => ?_,
    fun other receipt hmem => ?_, fun receipt => ?_, fun other number' hother => ?_,
    fun number' ack hack => ?_⟩
  · rw [hcues, h.known other]
    simp
  · rw [hresponses]
    exact h.lineage other response ((mem_other (by simp)).mp hmem)
  · rw [hcues, hnext]; exact h.numbered
  · rw [hcues]; exact h.apart
  · rw [hlast, hnext]; exact h.last
  · rw [hlast] at hne ⊢
    rw [hcues]
    obtain ⟨cue, response, hlatest, hcue'⟩ := h.latest hne
    exact ⟨cue, response, hlatest.snoc (by simp), hcue'⟩
  · rw [hcues]
    rcases List.mem_append.mp hmem with hmem | hmem
    · exact h.heard other receipt hmem
    · rw [List.mem_singleton, Note.acknowledged.injEq] at hmem
      rw [hmem.1]
      exact hcue
  · rw [hreceipts, Finset.mem_insert, h.receipts receipt]
    constructor
    · rintro (rfl | ⟨cue, hmem⟩)
      · exact ⟨cue_id, by simp⟩
      · exact ⟨cue, List.mem_append_left _ hmem⟩
    · rintro ⟨cue, hmem⟩
      rcases List.mem_append.mp hmem with hmem | hmem
      · exact .inr ⟨cue, hmem⟩
      · rw [List.mem_singleton, Note.acknowledged.injEq] at hmem
        exact .inl hmem.2
  · rw [hcues] at hother
    rw [hacks, AList.mem_insert, h.acknowledged other number' hother, Acknowledged.snoc]
    constructor
    · rintro (rfl | hack)
      · exact .inr ⟨receipt_id, by rw [h.apart cue_id other number' hnumber hother], hfresh⟩
      · exact .inl hack
    · rintro (hack | ⟨receipt, hn, -⟩)
      · exact .inr hack
      · rw [Note.acknowledged.injEq] at hn
        rw [← hn.1, hnumber] at hother
        exact .inl (Option.some.inj hother).symm
  · rw [hcues, hresponses]
    rw [hacks] at hack
    by_cases heq : number' = number
    · subst heq
      rw [AList.lookup_insert] at hack
      exact ⟨cue_id, hnumber, by rw [← Option.some.inj hack, hevidence, hresponse]⟩
    · rw [AList.lookup_insert_ne heq] at hack
      exact h.ack number' ack hack

theorem CueSide.done (h : CueSide s trail) (hdone : Done s op s' ok) :
    CueSide s' (trail ++ [note (op, ok)]) := by
  have hother : note (op, ok) = .other → SameCues s s' → CueSide s' (trail ++ [note (op, ok)]) := by
    intro hnote hsame
    rw [hnote]
    exact h.quiet hsame (by simp) (by simp)
  cases hdone with
  | refused op hop =>
    by_cases happend : ∃ samples now, op = .provider_append samples now
    · obtain ⟨samples, now, rfl⟩ := happend
      exact h.quiet ⟨rfl, rfl, rfl, rfl, rfl, rfl⟩ (by simp [note]) (by simp [note])
    · exact hother (note_unanswered fun samples now heq => happend ⟨samples, now, heq⟩)
        ⟨rfl, rfl, rfl, rfl, rfl, rfl⟩
  | idle op hop => exact hother (note_drained hop) ⟨rfl, rfl, rfl, rfl, rfl, rfl⟩
  | violated op _ _ hop => exact hother (note_unanswered hop) ⟨rfl, rfl, rfl, rfl, rfl, rfl⟩
  | fresh op hop => exact hother (note_drained hop) ⟨rfl, rfl, rfl, rfl, rfl, rfl⟩
  | bindings _ => exact hother (note_drained rfl) ⟨rfl, rfl, rfl, rfl, rfl, rfl⟩
  | cue_known cue_id response_id now _ hsequence hresponse =>
    refine h.quiet ⟨rfl, rfl, rfl, rfl, rfl, rfl⟩ (fun other _ hn => ?_) (by simp [note])
    obtain ⟨rfl, rfl⟩ := Note.submitted.injEq _ _ _ _ ▸ hn
    exact ⟨hresponse, maps.mem_of_lookup hsequence⟩
  | cue cue_id response_id now hnew _ => exact h.submit hnew rfl rfl rfl rfl rfl rfl
  | ack_known cue_id authority receipt_id completed_at now hcue hknown =>
    refine h.quiet ⟨rfl, rfl, rfl, rfl, rfl, rfl⟩ (by simp [note]) fun other _ hn => ?_
    obtain ⟨rfl, rfl⟩ := Note.acknowledged.injEq _ _ _ _ ▸ hn
    exact ⟨hcue, hknown⟩
  | ack cue_id authority receipt_id completed_at now number response_id completed evidence hnumber hresponse
      hevidence hnew =>
    exact h.acknowledge hnumber hresponse hevidence hnew rfl rfl rfl rfl rfl rfl
  | _ => exact h.quiet ⟨rfl, rfl, rfl, rfl, rfl, rfl⟩ (by simp [note]) (by simp [note])

/-! ## The snapshot -/

theorem first_failure_none {failures : List RendererFailure} (h : first_failure failures = none) :
    failures = [] := by
  cases failures with
  | nil => rfl
  | cons _ _ => cases h

/-- What the snapshot looks at. -/
structure Checked (s : StrictWatchTerminalLifecycleState) (snapshot : StrictWatchTerminalLifecycleSnapshot) :
    Prop where
  drain : s.check_drain = .ok ()
  responses : s.failed_response_statuses.entries = []
  renderer : s.renderer_failures.entries = []
  sent : s.session_finish_sent.isSome = true
  received : s.session_finished_received.isSome = true
  writes : s.provider_writes_after_finish = 0
  in_order : snapshot.session_updated_received.source_sequence
        < snapshot.last_provider_append.source_sequence ∧
      snapshot.last_provider_append.source_sequence < snapshot.session_finish_sent.source_sequence ∧
      snapshot.session_finish_sent.source_sequence < snapshot.session_finished_received.source_sequence
  cue : s.last_cue_sequence ≠ 0
  ack : ∃ ack, s.renderer_acks.lookup s.last_cue_sequence = some ack ∧ ack.response_id ∈ s.response_terminals

theorem snapshot_checked {snapshot : StrictWatchTerminalLifecycleSnapshot} (h : s.snapshot = .ok snapshot) :
    Checked s snapshot := by
  obtain ⟨_, hdrain, h⟩ := bind_ok h
  obtain ⟨_, hresponses, h⟩ := bind_ok h
  iterate 2 obtain ⟨_, -, h⟩ := bind_ok h
  obtain ⟨_, hsent, h⟩ := bind_ok h
  obtain ⟨_, hreceived, h⟩ := bind_ok h
  obtain ⟨_, horder, h⟩ := bind_ok h
  obtain ⟨_, hcue, h⟩ := bind_ok h
  split at h
  · cases h
  · rename_i hfailure
    obtain ⟨ack, hack, h⟩ := bind_ok h
    obtain ⟨_, hterminal, h⟩ := bind_ok h
    obtain ⟨_, -, h⟩ := bind_ok h
    obtain ⟨-, hwrites, hupdated, -, happend, hfinished⟩ := require_ok horder
    cases Except.ok.inj h
    refine ⟨hdrain, require_ok hresponses, ?_, ?_, ?_, hwrites, ⟨hupdated, happend, hfinished⟩,
      require_ok hcue, ack, expect_ok hack, maps.mem_of_lookup (expect_ok hterminal)⟩
    · simpa using first_failure_none hfailure
    · rw [expect_ok hsent]; rfl
    · rw [expect_ok hreceived]; rfl

/-! ## Whole runs -/

/-- The ledger knows the trail. -/
def Tracked (watch : Watch) : Prop :=
  (watch.lifecycle = none → watch.log = []) ∧
    ∀ s, watch.lifecycle = some s → ProviderSide s watch.trail ∧ CueSide s watch.trail

theorem ProviderSide.new (identity : StrictWatchTerminalIdentity) : ProviderSide { identity } [] := by
  refine ⟨rfl, fun _ => Each.nil _, by simp, by simp, Each.nil _, by simp⟩

theorem CueSide.new (identity : StrictWatchTerminalIdentity) : CueSide { identity } [] := by
  refine ⟨by simp, by simp, by simp, by simp, rfl, by simp, by simp, by simp, by simp, by simp⟩

theorem Tracked.step {sha256 : String → String} {watch : Watch} (h : Tracked watch) (call : WatchCall) :
    Tracked (watch.step sha256 call) := by
  rcases step_cases sha256 watch call with heq | ⟨identity, hnone, heq⟩ |
    ⟨op, s, s', ok, -, hlife, hdone, heq⟩
  · rw [heq]
    exact h
  · rw [heq]
    refine ⟨by simp, fun s hs => ?_⟩
    cases hs
    have hempty : watch.trail = [] := by simp [Watch.trail, h.1 hnone]
    exact ⟨hempty ▸ ProviderSide.new identity, hempty ▸ CueSide.new identity⟩
  · rw [heq]
    refine ⟨by simp, fun _ ht => ?_⟩
    cases ht
    obtain ⟨hprovider, hcues⟩ := h.2 s hlife
    have htrail : Watch.trail ⟨some s', watch.log ++ [(op, ok)]⟩ = watch.trail ++ [note (op, ok)] := by
      simp [Watch.trail]
    rw [htrail]
    exact ⟨hprovider.done hdone, hcues.done hdone⟩

theorem tracked_run (sha256 : String → String) (calls : List WatchCall) :
    Tracked (run (step sha256) Watch.new calls) :=
  run_keeps (step sha256) Tracked (fun _ call h => h.step call) ⟨fun _ => rfl, by simp [Watch.new]⟩ calls

/-- The cue that the snapshot asks for is the last one, and its response was completed. -/
theorem Checked.last_cue {snapshot : StrictWatchTerminalLifecycleSnapshot} (h : Checked s snapshot)
    (hprovider : ProviderSide s trail) (hcues : CueSide s trail) :
    ∃ cue_id response_id, LastCue trail cue_id response_id ∧ Acknowledged trail cue_id ∧
      .completed response_id ∈ trail := by
  obtain ⟨cue_id, response_id, hlast, hnumber⟩ := hcues.latest h.cue
  obtain ⟨ack, hack, hterminal⟩ := h.ack
  refine ⟨cue_id, response_id, hlast, (hcues.acknowledged cue_id _ hnumber).mp (maps.mem_of_lookup hack), ?_⟩
  obtain ⟨other, hother, hresponse⟩ := hcues.ack _ ack hack
  rw [hcues.apart other cue_id _ hother hnumber, hcues.lineage cue_id response_id hlast.mem] at hresponse
  rw [Option.some.inj hresponse]
  exact hprovider.completed _ hterminal

/-- A snapshot certifies the run if and only if every cue but the last was acknowledged and no empty
append came after the finish. -/
theorem snapshot_certifies_iff_earlier_cues_are_acknowledged (sha256 : String → String)
    (calls : List WatchCall) (snapshot : StrictWatchTerminalLifecycleSnapshot)
    (hsnapshot : (run (step sha256) Watch.new calls).lifecycle.snapshot = .ok snapshot) :
    Certified (run (step sha256) Watch.new calls).trail snapshot ↔
      EarlierCuesAcknowledged (run (step sha256) Watch.new calls).trail ∧
        NoEmptyAppend (run (step sha256) Watch.new calls).trail := by
  have htracked := tracked_run sha256 calls
  generalize run (step sha256) Watch.new calls = watch at htracked hsnapshot
  obtain ⟨lifecycle, log⟩ := watch
  cases lifecycle with
  | none => cases hsnapshot
  | some s =>
    obtain ⟨hprovider, hcues⟩ := htracked.2 s rfl
    have hchecked := snapshot_checked hsnapshot
    generalize Watch.trail ⟨some s, log⟩ = trail at hprovider hcues
    obtain ⟨cue_id, response_id, hlast, hack, hcompleted⟩ := hchecked.last_cue hprovider hcues
    constructor
    · intro h
      refine ⟨fun cue response hmem _ => h.acknowledged cue response hmem, fun before n after htrail hn => ?_⟩
      exact h.no_append before n after htrail 0 hn
    · rintro ⟨hearlier, hempty⟩
      refine ⟨?_, ?_, hchecked.in_order, ?_, fun cue response hmem => ?_, ?_⟩
      · rw [hprovider.finish, if_pos hchecked.sent]
      · intro before n after htrail samples hn
        by_cases hzero : samples = 0
        · subst hzero
          exact hempty before n after htrail hn
        · exact hprovider.writes hchecked.writes before n after htrail samples hn hzero
      · intro hmem
        rcases hprovider.failure hmem with hne | hne
        · exact hne hchecked.responses
        · exact hne hchecked.renderer
      · by_cases hcue : ∃ response, LastCue trail cue response
        · obtain ⟨response', hlast'⟩ := hcue
          rw [← hlast.unique hlast']
          exact hack
        · exact hearlier cue response hmem fun response' h' => hcue ⟨response', h'⟩
      · obtain ⟨before, after, htrail⟩ := List.append_of_mem hcompleted
        have hbefore := hprovider.in_order before _ after htrail response_id rfl
        refine ⟨cue_id, response_id, before, after, hlast, htrail, hbefore, ?_⟩
        have hfinished := hprovider.finished.mpr hchecked.received
        rw [htrail] at hfinished
        simpa [hbefore] using hfinished

/-! A run with two cues, in which the first one may go without an acknowledgement, and in which an empty
append may come late. -/

def sample_digest : String := "0123456789abcdef0123456789abcdef0123456789abcdef0123456789abcdef"

def sample_ops (first late : List Op) : List Op :=
  [.session_updated_received sample_digest sample_digest sample_digest 1, .provider_append 480 2,
    .provider_input_closed 3, .response_terminal .response_done "response-1" 4,
    .renderer_cue_submitted "cue-1" "response-1" 5] ++ first ++
  [.response_terminal .response_done "response-2" 7, .renderer_cue_submitted "cue-2" "response-2" 8,
    .renderer_ack "cue-2" "speaker-render-completed" "receipt-2" 9 9, .session_finish_sent 10,
    .session_finished_received 11] ++ late

def sample_watch (ops : List Op) : Watch :=
  run (step id) Watch.new (.begin_lifecycle ⟨"run", "cell", "lease"⟩ :: ops.map .record)

def sample_ack : Op := .renderer_ack "cue-1" "speaker-render-completed" "receipt-1" 6 6

theorem snapshot_of_some (watch : Watch) (h : watch.lifecycle.snapshot.toOption.isSome = true) :
    ∃ snapshot, watch.lifecycle.snapshot = .ok snapshot := by
  cases hs : watch.lifecycle.snapshot with
  | error _ => simp [hs, Except.toOption] at h
  | ok snapshot => exact ⟨snapshot, rfl⟩

theorem sample_watch_is_certified : ∃ snapshot,
    (sample_watch (sample_ops [sample_ack] [])).lifecycle.snapshot = .ok snapshot ∧
      Certified (sample_watch (sample_ops [sample_ack] [])).trail snapshot := by
  obtain ⟨snapshot, hsnapshot⟩ := snapshot_of_some (sample_watch (sample_ops [sample_ack] [])) (by decide +kernel)
  have hiff := snapshot_certifies_iff_earlier_cues_are_acknowledged id _ snapshot hsnapshot
  refine ⟨snapshot, hsnapshot, hiff.mpr ?_⟩
  have htrail : (sample_watch (sample_ops [sample_ack] [])).trail =
      [.other, .append 480, .other, .completed "response-1",
        .submitted "cue-1" "response-1", .acknowledged "cue-1" "receipt-1", .completed "response-2",
        .submitted "cue-2" "response-2", .acknowledged "cue-2" "receipt-2", .finish, .finished] := by
    decide +kernel
  rw [show (run (step id) Watch.new _).trail = _ from htrail]
  constructor
  · intro cue_id response_id hmem _
    simp only [List.mem_cons, List.not_mem_nil, or_false, reduceCtorEq, false_or, Note.submitted.injEq] at hmem
    rcases hmem with ⟨rfl, -⟩ | ⟨rfl, -⟩
    · exact ⟨[.other, .append 480, .other, .completed "response-1", .submitted "cue-1" "response-1"], _,
        "receipt-1", rfl, by simp⟩
    · exact ⟨[.other, .append 480, .other, .completed "response-1", .submitted "cue-1" "response-1",
        .acknowledged "cue-1" "receipt-1", .completed "response-2", .submitted "cue-2" "response-2"], _,
        "receipt-2", rfl, by simp⟩
  · intro before n after hsplit hn
    have hmem : n ∈ before ++ n :: after := by simp
    rw [← hsplit, hn] at hmem
    simp at hmem

/-- The first cue is never acknowledged, or an empty append is tried after the finish, and there is a
snapshot all the same. -/
theorem snapshot_certifies_too_much :
    (∃ snapshot, (sample_watch (sample_ops [] [])).lifecycle.snapshot = .ok snapshot ∧
      ¬ Certified (sample_watch (sample_ops [] [])).trail snapshot) ∧
    ∃ snapshot, (sample_watch (sample_ops [sample_ack] [.provider_append 0 12])).lifecycle.snapshot =
        .ok snapshot ∧
      ¬ Certified (sample_watch (sample_ops [sample_ack] [.provider_append 0 12])).trail snapshot := by
  constructor
  · obtain ⟨snapshot, hsnapshot⟩ := snapshot_of_some (sample_watch (sample_ops [] [])) (by decide +kernel)
    refine ⟨snapshot, hsnapshot, fun h => ?_⟩
    have hmem : Note.submitted "cue-1" "response-1" ∈ (sample_watch (sample_ops [] [])).trail := by
      decide +kernel
    obtain ⟨_, hack⟩ := (h.acknowledged _ _ hmem).mem
    have hnone : ∀ n ∈ (sample_watch (sample_ops [] [])).trail,
        n ∈ [Note.other, .append 480, .completed "response-1", .submitted "cue-1" "response-1",
          .completed "response-2", .submitted "cue-2" "response-2", .acknowledged "cue-2" "receipt-2",
          .finish, .finished] := by
      decide +kernel
    have hin := hnone _ hack
    simp at hin
  · obtain ⟨snapshot, hsnapshot⟩ :=
      snapshot_of_some (sample_watch (sample_ops [sample_ack] [.provider_append 0 12])) (by decide +kernel)
    refine ⟨snapshot, hsnapshot, fun h => ?_⟩
    have hlast : (sample_watch (sample_ops [sample_ack] [.provider_append 0 12])).trail.getLast? =
        some (.append 0) := by decide +kernel
    refine h.no_append.last hlast 0 rfl ?_
    decide +kernel

end omni_translate.watch_terminal_lifecycle

-- The seal of the open input: while the drain is on, the phases come in order,
-- nothing is pending when the output is approved, nothing fresh is let in
-- after it, and an input item belongs to one response between two sockets.
-- And what a call at the end of the session leaves behind when it fails.
import OmniTranslate.WatchCalls

namespace omni_translate.watch_terminal_lifecycle

open calls json runs translation_lifecycle StrictWatchTerminalLifecycleState

/-! ## Runs of the ledger -/

variable (sha256 : String → String) (s : StrictWatchTerminalLifecycleState)

/-- The ledger after a call. -/
def advance (op : Op) : StrictWatchTerminalLifecycleState :=
  match record sha256 op s with
  | .ok _ s' => s'
  | .error _ s' => s'

/-- The call is answered. -/
def Succeeds (op : Op) : Prop :=
  Ends (record sha256 op) (fun _ _ => True) (fun _ => False) s

/-- The call fails. -/
def Fails (op : Op) : Prop :=
  Ends (record sha256 op) (fun _ _ => False) (fun _ => True) s

variable {sha256 : String → String} {s s' : StrictWatchTerminalLifecycleState} {op : Op} {ok : Bool}

theorem advance_done (sha256 : String → String) (s : StrictWatchTerminalLifecycleState) (op : Op) :
    ∃ ok, Done s op (advance sha256 s op) ok := by
  have hdone := record_done (s := s) sha256 op
  unfold Does Ends at hdone
  unfold advance
  cases hr : record sha256 op s with
  | ok _ s' =>
    rw [hr] at hdone
    exact ⟨true, hdone⟩
  | error _ s' =>
    rw [hr] at hdone
    exact ⟨false, hdone⟩

/-- What holds of the ledger however the call ends. -/
theorem advance_ends {P : StrictWatchTerminalLifecycleState → Prop}
    (h : Ends (record sha256 op) (fun _ => P) P s) : P (advance sha256 s op) := by
  unfold Ends at h
  unfold advance
  cases hr : record sha256 op s <;> rw [hr] at h <;> exact h

/-! ## The phases -/

/-- The phase after this one. -/
def StrictWatchOpenInputPhase.next : StrictWatchOpenInputPhase → Option StrictWatchOpenInputPhase
  | opened => some quiescent_approved
  | quiescent_approved => some capture_closed
  | capture_closed => some finish_sent
  | finish_sent => some finished
  | finished => none

/-- The phase stays or goes on by one. -/
def Moves (phase phase' : StrictWatchOpenInputPhase) : Prop := phase' = phase ∨ phase.next = some phase'

/-- How far the session is, the phase says while the drain is on; and the drain comes before the first
append. -/
structure Phased (s : StrictWatchTerminalLifecycleState) : Prop where
  sent : s.aec_open_input_drain = true → s.session_finish_sent.isSome = true →
    s.session_finished_received = none → s.open_input_phase = .finish_sent
  received : s.aec_open_input_drain = true → s.session_finished_received.isSome = true →
    s.open_input_phase = .finished
  finished : s.session_finished_received.isSome = true → s.session_finish_sent.isSome = true
  appended : s.session_finish_sent.isSome = true → s.last_provider_append.isSome = true

theorem Phased.of_same (h : Phased s) (haec : s'.aec_open_input_drain = s.aec_open_input_drain)
    (hphase : s'.open_input_phase = s.open_input_phase)
    (hsent : s'.session_finish_sent = s.session_finish_sent)
    (hreceived : s'.session_finished_received = s.session_finished_received)
    (happend : s.last_provider_append.isSome = true → s'.last_provider_append.isSome = true) : Phased s' := by
  refine ⟨?_, ?_, ?_, ?_⟩
  · rw [haec, hphase, hsent, hreceived]; exact h.sent
  · rw [haec, hphase, hreceived]; exact h.received
  · rw [hsent, hreceived]; exact h.finished
  · rw [hsent]; exact fun hs => happend (h.appended hs)

/-- A gate opens in one phase only, so the session is not yet finished there. -/
theorem Phased.unsent (h : Phased s) {phase : StrictWatchOpenInputPhase} (hpasses : s.Passes phase)
    (hphase : phase ≠ .finish_sent ∧ phase ≠ .finished) (haec : s.aec_open_input_drain = true) :
    s.session_finish_sent = none := by
  have hopen := (hpasses haec).2
  by_contra hsent
  have hsent := Option.isSome_iff_ne_none.mpr hsent
  cases hreceived : s.session_finished_received with
  | none => exact hphase.1 (hopen.symm.trans (h.sent haec hsent hreceived))
  | some _ => exact hphase.2 (hopen.symm.trans (h.received haec (by rw [hreceived]; rfl)))

theorem Phased.of_unsent (h : Phased s) (hnone : s.session_finish_sent = none)
    (hsent : s'.session_finish_sent = s.session_finish_sent)
    (hreceived : s'.session_finished_received = s.session_finished_received) : Phased s' := by
  have hunreceived : ¬ s.session_finished_received.isSome = true := by
    intro hsome
    have := h.finished hsome
    simp [hnone] at this
  refine ⟨?_, ?_, ?_, ?_⟩
  · rw [hsent, hnone]
    simp
  · rw [hreceived]
    exact fun _ hsome => absurd hsome hunreceived
  · rw [hreceived]
    exact fun hsome => absurd hsome hunreceived
  · rw [hsent, hnone]
    simp

theorem gated_phase (phase : StrictWatchOpenInputPhase) (haec : s.aec_open_input_drain = true) :
    (s.gated phase).open_input_phase = phase := if_pos haec

theorem Phased.done (h : Phased s) (hdone : Done s op s' ok) : Phased s' := by
  cases hdone with
  | finish_counted now hgate =>
    by_cases haec : s.aec_open_input_drain = true
    · exact h.of_unsent (h.unsent hgate (by decide) haec) rfl rfl
    · exact h.of_same rfl (if_neg haec) rfl rfl fun hs => hs
  | finish now evidence hgate _ hnone happend =>
    refine ⟨fun haec _ _ => gated_phase .finish_sent haec, fun _ hsome => ?_, fun _ => rfl, fun _ => happend⟩
    have := h.finished hsome
    simp [hnone] at this
  | input_closed now evidence _ hgate =>
    by_cases haec : s.aec_open_input_drain = true
    · exact h.of_unsent (h.unsent hgate (by decide) haec) rfl rfl
    · exact h.of_same rfl (if_neg haec) rfl rfl fun hs => hs
  | finished now evidence hnone hsent =>
    refine ⟨fun _ _ hsome => by simp at hsome, fun haec _ => ?_, fun _ => hsent, fun hs => h.appended hs⟩
    exact gated_phase .finished haec
  | enable happend =>
    refine h.of_unsent ?_ rfl rfl
    by_contra hsent
    have := h.appended (Option.isSome_iff_ne_none.mpr hsent)
    simp [happend] at this
  | approve _ now evidence haec hopen hcheck _ =>
    exact h.of_unsent (h.unsent (fun _ => ⟨hcheck, hopen⟩) (by decide) haec) rfl rfl
  | append _ now _ _ evidence hnone => exact h.of_same rfl rfl rfl rfl fun _ => rfl
  | _ => exact h.of_same rfl rfl rfl rfl fun hs => hs

/-- While the drain is on, every call keeps the phase or leads to the next one. -/
theorem Phased.moves (h : Phased s) (haec : s.aec_open_input_drain = true) (hdone : Done s op s' ok) :
    Moves s.open_input_phase s'.open_input_phase := by
  cases hdone with
  | finish_counted now hgate =>
    refine .inr ?_
    rw [(hgate haec).2]
    exact congrArg some (gated_phase .finish_sent haec).symm
  | finish now evidence hgate _ hnone _ =>
    refine .inr ?_
    rw [(hgate haec).2]
    exact congrArg some (gated_phase .finish_sent haec).symm
  | input_closed now evidence _ hgate =>
    refine .inr ?_
    rw [(hgate haec).2]
    exact congrArg some (gated_phase .capture_closed haec).symm
  | finished now evidence hnone hsent =>
    refine .inr ?_
    rw [h.sent haec hsent hnone]
    exact congrArg some (gated_phase .finished haec).symm
  | approve _ now evidence _ hopen _ _ =>
    refine .inr ?_
    rw [hopen]
    rfl
  | _ => exact .inl rfl

/-! ## After the approval -/

/-- The drain is on and the output approved. -/
def Sealed (s : StrictWatchTerminalLifecycleState) : Prop :=
  s.aec_open_input_drain = true ∧ s.open_input_phase ≠ .opened

theorem drain_stays (hdone : Done s op s' ok) (haec : s.aec_open_input_drain = true) :
    s'.aec_open_input_drain = true := by
  cases hdone with
  | enable => rfl
  | _ => exact haec

theorem Moves.leaves {phase phase' : StrictWatchOpenInputPhase} (h : Moves phase phase')
    (hphase : phase ≠ .opened) : phase' ≠ .opened := by
  rcases h with rfl | hnext
  · exact hphase
  · rintro rfl
    cases phase <;> simp [StrictWatchOpenInputPhase.next] at hnext

theorem Sealed.done (h : Sealed s) (hphased : Phased s) (hdone : Done s op s' ok) : Sealed s' :=
  ⟨drain_stays hdone h.1, (hphased.moves h.1 hdone).leaves h.2⟩

/-- The run cannot succeed any more. -/
def Broken (s : StrictWatchTerminalLifecycleState) : Prop :=
  s.aec_open_input_drain = true ∧ (s.terminal_violation.isSome = true ∨
    (∃ evidence ∈ s.output_quiescent, evidence.activity_generation < s.activity_generation) ∨
    s.failed_response_statuses.entries ≠ [] ∨ s.renderer_failures.entries ≠ [])

/-- The approval is not from a later generation. -/
def Stamped (s : StrictWatchTerminalLifecycleState) : Prop :=
  ∀ evidence ∈ s.output_quiescent, evidence.activity_generation ≤ s.activity_generation

theorem check_ok_iff : s.check_open_input_failure = .ok () ↔ s.terminal_violation = none ∧
    ¬ (s.aec_open_input_drain = true ∧
      ∃ evidence ∈ s.output_quiescent, evidence.activity_generation ≠ s.activity_generation) ∧
    s.failed_response_statuses.entries = [] ∧ s.renderer_failures.entries = [] := by
  unfold StrictWatchTerminalLifecycleState.check_open_input_failure
  cases hviolation : s.terminal_violation with
  | some _ => simp
  | none =>
    by_cases hchanged : s.aec_open_input_drain = true ∧
        ∃ evidence ∈ s.output_quiescent, evidence.activity_generation ≠ s.activity_generation
    · simp only [if_pos hchanged]
      exact iff_of_false (by simp) fun h => h.2.1 hchanged
    · simp only [if_neg hchanged]
      by_cases hresponses : s.failed_response_statuses.entries = []
      · by_cases hrenderer : s.renderer_failures.entries = []
        · exact iff_of_true (by simp [hresponses, hrenderer]) ⟨trivial, hchanged, hresponses, hrenderer⟩
        · simp [hresponses, hrenderer]
      · simp [hresponses]

theorem Broken.check (h : Broken s) : s.check_open_input_failure ≠ .ok () := by
  obtain ⟨haec, h⟩ := h
  intro hok
  obtain ⟨hviolation, hsame, hresponses, hrenderer⟩ := check_ok_iff.mp hok
  rcases h with hsome | ⟨evidence, hevidence, hlt⟩ | hne | hne
  · simp [hviolation] at hsome
  · exact hsame ⟨haec, evidence, hevidence, Nat.ne_of_lt hlt⟩
  · exact hne hresponses
  · exact hne hrenderer

theorem broken_of_check (hstamped : Stamped s) (haec : s.aec_open_input_drain = true)
    (hcheck : s.check_open_input_failure ≠ .ok ()) : Broken s := by
  by_contra hbroken
  refine hcheck (check_ok_iff.mpr ⟨?_, ?_, ?_, ?_⟩)
  · by_contra hne
    exact hbroken ⟨haec, .inl (Option.isSome_iff_ne_none.mpr hne)⟩
  · rintro ⟨-, evidence, hevidence, hne⟩
    have hlt := Nat.lt_of_le_of_ne (hstamped evidence hevidence) hne
    exact hbroken ⟨haec, .inr (.inl ⟨evidence, hevidence, hlt⟩)⟩
  · by_contra hne
    exact hbroken ⟨haec, .inr (.inr (.inl hne))⟩
  · by_contra hne
    exact hbroken ⟨haec, .inr (.inr (.inr hne))⟩

theorem Broken.violated (haec : s.aec_open_input_drain = true) (error : String) : Broken (s.violated error) := by
  refine ⟨haec, .inl ?_⟩
  unfold StrictWatchTerminalLifecycleState.violated
  cases s.terminal_violation <;> rfl

theorem Broken.grow (h : Broken s) (haec : s'.aec_open_input_drain = true)
    (hviolation : s.terminal_violation.isSome = true → s'.terminal_violation.isSome = true)
    (hquiescent : s'.output_quiescent = s.output_quiescent)
    (hgeneration : s.activity_generation ≤ s'.activity_generation)
    (hresponses : s.failed_response_statuses.entries ≠ [] → s'.failed_response_statuses.entries ≠ [])
    (hrenderer : s.renderer_failures.entries ≠ [] → s'.renderer_failures.entries ≠ []) : Broken s' := by
  refine ⟨haec, ?_⟩
  rcases h.2 with hsome | ⟨evidence, _, hlt⟩ | hne | hne
  · exact .inl (hviolation hsome)
  · exact .inr (.inl ⟨evidence, by rwa [hquiescent], Nat.lt_of_lt_of_le hlt hgeneration⟩)
  · exact .inr (.inr (.inl (hresponses hne)))
  · exact .inr (.inr (.inr (hrenderer hne)))

theorem stirred_generation (s : StrictWatchTerminalLifecycleState) :
    s.activity_generation ≤ s.stirred_if_drained.activity_generation := by
  unfold stirred_if_drained
  split
  · exact Nat.le_succ _
  · exact le_refl _

theorem Broken.done (h : Broken s) (hdone : Done s op s' ok) : Broken s' := by
  have haec := drain_stays hdone h.1
  cases hdone with
  | violated op error _ hop => exact Broken.violated h.1 error
  | terminal stage response_id now evidence hevidence hunfinished =>
    exact h.grow haec (fun hs => hs) rfl (stirred_generation (enter_stage s response_id stage))
      (fun hs => hs) fun hs => hs
  | failed response_id status hunfinished =>
    exact h.grow haec (fun hs => hs) rfl (le_refl _) (fun _ => maps.entries_insert_ne_nil _ _ _) fun hs => hs
  | failed_again response_id status _ =>
    exact h.grow haec (fun hs => hs) rfl (le_refl _) (fun _ => maps.entries_insert_ne_nil _ _ _) fun hs => hs
  | failure cue_id _ _ failure =>
    exact h.grow haec (fun hs => hs) rfl (le_refl _) (fun hs => hs) fun _ => maps.entries_insert_ne_nil _ _ _
  | cue_exhausted cue_id response_id now =>
    exact h.grow haec (fun hs => hs) rfl (stirred_generation s) (fun hs => hs) fun hs => hs
  | cue cue_id response_id now _ hopen =>
    exact h.grow haec (fun hs => hs) rfl (stirred_generation s) (fun hs => hs) fun hs => hs
  | ack cue_id _ _ =>
    exact h.grow haec (fun hs => hs) rfl (stirred_generation s) (fun hs => hs) fun hs => hs
  | fresh op hop _ hopen speech _ _ _ _ _ owners hgrown =>
    exact h.grow haec (fun hs => hs) rfl (Nat.le_succ _) (fun hs => hs) fun hs => hs
  | approve generation now evidence _ hopen hcheck hevidence => exact absurd hcheck h.check
  | bindings _ now generation _ speech owners error ok _ hgeneration hgrown =>
    refine h.grow haec (fun hs => ?_) rfl hgeneration (fun hs => hs) fun hs => hs
    obtain ⟨_, hviolation⟩ := Option.isSome_iff_exists.mp hs
    simp [hviolation]
  | _ => exact h.grow haec (fun hs => hs) rfl (le_refl _) (fun hs => hs) fun hs => hs

theorem Stamped.done (h : Stamped s) (hdone : Done s op s' ok) : Stamped s' := by
  have hgrow : s'.output_quiescent = s.output_quiescent → s.activity_generation ≤ s'.activity_generation →
      Stamped s' := by
    intro hsame hle evidence hevidence
    rw [hsame] at hevidence
    exact (h evidence hevidence).trans hle
  cases hdone with
  | terminal stage response_id now evidence hevidence _ =>
    exact hgrow rfl (stirred_generation (enter_stage s response_id stage))
  | cue_exhausted cue_id response_id now => exact hgrow rfl (stirred_generation s)
  | cue cue_id response_id now _ hopen => exact hgrow rfl (stirred_generation s)
  | ack cue_id _ _ => exact hgrow rfl (stirred_generation s)
  | fresh op _ _ hopen => exact hgrow rfl (Nat.le_succ _)
  | approve generation now evidence _ hopen _ hevidence =>
    intro other hother
    rw [← Option.some.inj hother, hevidence]
    exact le_refl s.activity_generation
  | bindings _ now generation _ _ _ _ ok _ hgeneration => exact hgrow rfl hgeneration
  | _ => exact hgrow rfl (le_refl _)

/-! ## What is fresh -/

/-- The call brings something new: speech or a binding, output, a response, a cue, or sound. -/
def Fresh (s : StrictWatchTerminalLifecycleState) : Op → Prop
  | .input_speech _ _ _ | .source_activity _ _ => True
  | .input_response_bindings bindings _ => ∃ binding ∈ bindings, ¬ s.Bound binding.1 binding.2
  | .response_started response_id _ | .nonempty_output response_id _ => blank response_id = false
  | .renderer_cue_submitted cue_id response_id _ =>
    blank cue_id = false ∧ blank response_id = false ∧ cue_id ∉ s.cue_sequences
  | .renderer_started cue_id _ => cue_id ∈ s.cue_sequences
  | .renderer_frames cue_id frames _ => frames ≠ 0 ∧ cue_id ∈ s.cue_sequences
  | _ => False

/-- The call fails and breaks the run. -/
abbrev Breaks (s : StrictWatchTerminalLifecycleState) {α : Type} (x : Ledger α) : Prop :=
  Ends x (fun _ _ => False) Broken s

theorem Sealed.activity (h : Sealed s) (owner : String) (now : Nat)
    {ok : StrictWatchActivityEvidence → StrictWatchTerminalLifecycleState → Prop} :
    Ends (activity owner true now) ok Broken s := by
  unfold watch_terminal_lifecycle.activity
  simp only [Ends.bind, Ends.get, Ends.ite, Ends.violate]
  exact ⟨fun _ => Broken.violated h.1 _, fun hnot => absurd ⟨h.1, trivial, h.2⟩ hnot⟩

/-- One pair is bound already, or it breaks the run. -/
theorem Sealed.bind_input (h : Sealed s) (now : Nat) (binding : String × String) :
    Ends (bind_input now binding) (fun _ s' => s' = s ∧ s.Bound binding.1 binding.2) Broken s := by
  unfold watch_terminal_lifecycle.bind_input ownership_failure
  simp only [Ends.bind, Ends.get, Ends.ite, Ends.pure, Ends.violate, Ends.modify]
  refine ⟨fun _ => Broken.violated h.1 _, fun _ => ⟨fun hbound => ⟨trivial, hbound⟩, fun _ => ⟨fun _ => ?_,
    fun _ => ⟨fun _ => ?_, fun _ => h.activity _ _⟩⟩⟩⟩
  · exact Broken.violated h.1 _
  · exact Broken.violated h.1 _

theorem Sealed.bind_inputs (h : Sealed s) (now : Nat) (bindings : List (String × String)) :
    Ends (bindings.forM (watch_terminal_lifecycle.bind_input now))
      (fun _ s' => s' = s ∧ ∀ binding ∈ bindings, s.Bound binding.1 binding.2) Broken s := by
  induction bindings with
  | nil => exact ⟨rfl, by simp⟩
  | cons binding _ ih =>
    simp only [List.forM_eq_forM, List.forM_cons, Ends.bind]
    refine (h.bind_input now binding).imp ?_ fun _ hb => hb
    rintro _ s' ⟨rfl, hbound⟩
    refine ih.imp (fun _ _ hs => ⟨hs.1, ?_⟩) fun _ hb => hb
    rintro other (_ | ⟨_, hother⟩)
    · exact hbound
    · exact hs.2 other hother

theorem Sealed.fresh (h : Sealed s) (hstamped : Stamped s) (sha256 : String → String) (hop : Fresh s op) :
    Breaks s (record sha256 op) := by
  have haec : ¬ s.aec_open_input_drain = false := by simp [h.1]
  have hcheck := broken_of_check hstamped h.1
  cases op with
  | input_speech item_id _ now =>
    unfold Breaks record record_input_speech ownership_failure
    simp only [Ends.bind, Ends.get, Ends.ite, Ends.check, Ends.pure, Ends.violate]
    refine ⟨fun hoff => haec hoff, fun _ => ⟨fun _ => ⟨fun _ => ?_, fun _ => ⟨fun _ => ?_, fun _ => ?_⟩⟩, hcheck⟩⟩
    · exact Broken.violated h.1 _
    · exact Broken.violated h.1 _
    · exact h.activity _ _
  | source_activity item_id now =>
    unfold Breaks record record_source_activity ownership_failure
    simp only [Ends.bind, Ends.get, Ends.ite, Ends.check, Ends.pure, Ends.violate]
    refine ⟨fun hoff => haec hoff, fun _ => ⟨fun _ => ⟨fun _ => ?_, fun _ => h.activity _ _⟩, hcheck⟩⟩
    exact Broken.violated h.1 _
  | input_response_bindings bindings now =>
    unfold Breaks record record_input_response_bindings
    simp only [Ends.bind, Ends.get, Ends.ite, Ends.check, Ends.pure]
    refine ⟨fun hoff => haec hoff, fun _ => ⟨fun _ => ?_, hcheck⟩⟩
    obtain ⟨binding, hmem, hunbound⟩ := hop
    exact (h.bind_inputs now bindings).imp (fun _ _ hs => hunbound (hs.2 binding hmem)) fun _ hb => hb
  | response_started response_id now =>
    unfold Breaks record record_response_started
    simp only [Ends.bind, Ends.get, Ends.ite, Ends.ensure, Ends.pure]
    exact ⟨fun hoff => haec hoff, fun _ => ⟨fun _ => h.activity _ _, fun hblank => absurd hop hblank⟩⟩
  | nonempty_output response_id now =>
    unfold Breaks record record_nonempty_output
    simp only [Ends.bind, Ends.get, Ends.ite, Ends.ensure, Ends.pure]
    exact ⟨fun hoff => haec hoff, fun _ => ⟨fun _ => h.activity _ _, fun hblank => absurd hop hblank⟩⟩
  | renderer_cue_submitted cue_id response_id now =>
    obtain ⟨hcue, hresponse, hnew⟩ := hop
    unfold Breaks record
    rw [Ends.discard]
    unfold cue_sequence
    simp only [Ends.bind, Ends.get, Ends.ensure, AList.lookup_eq_none.mpr hnew]
    refine ⟨fun _ => ⟨fun _ => ?_, fun hblank => absurd hresponse hblank⟩, fun hblank => absurd hcue hblank⟩
    unfold drain_activity
    simp only [Ends.bind, Ends.get, Ends.ite, Ends.map, Ends.pure]
    exact ⟨fun _ => h.activity _ _, fun hoff => absurd h.1 hoff⟩
  | renderer_started cue_id now =>
    unfold Breaks record record_renderer_started
    simp only [Ends.bind, Ends.get, Ends.ite, Ends.ensure, Ends.pure]
    exact ⟨fun hoff => haec hoff, fun _ => ⟨fun _ => h.activity _ _, fun hcue => absurd hop hcue⟩⟩
  | renderer_frames cue_id _ now =>
    unfold Breaks record record_renderer_frames
    simp only [Ends.bind, Ends.get, Ends.ite, Ends.ensure, Ends.pure]
    refine ⟨fun hoff => ?_, fun _ => ⟨fun _ => h.activity _ _, fun hcue => absurd hop.2 hcue⟩⟩
    rcases hoff with hoff | hzero
    · exact haec hoff
    · exact hop.1 hzero
  | _ => exact absurd hop (by simp [Fresh])

/-! ## What a broken run refuses -/

/-- No snapshot, no end of the capture and no end of the session is to be had. -/
structure Shut (sha256 : String → String) (s : StrictWatchTerminalLifecycleState) : Prop where
  snapshot : ∀ snapshot, s.snapshot ≠ .ok snapshot
  input_closed : ∀ now, Fails sha256 s (.provider_input_closed now)
  finish_sent : ∀ now, Fails sha256 s (.session_finish_sent now)
  finished : ∀ now, Fails sha256 s (.session_finished_received now)

theorem Broken.gate (h : Broken s) {phase next : StrictWatchOpenInputPhase} {message : String}
    {ok : Unit → StrictWatchTerminalLifecycleState → Prop} :
    Ends (pass_gate phase message next) ok (fun _ => True) s :=
  Ends.pass_gate (fun hpasses => absurd (hpasses h.1).1 h.check) fun _ => trivial

theorem Broken.shut (h : Broken s) (sha256 : String → String) : Shut sha256 s := by
  refine ⟨fun _ hsnapshot => ?_, fun now => ?_, fun now => ?_, fun now => ?_⟩
  · obtain ⟨_, hdrain, -⟩ := bind_ok hsnapshot
    unfold check_drain at hdrain
    rw [if_pos h.1] at hdrain
    exact h.check hdrain
  · unfold Fails record
    rw [Ends.discard]
    unfold record_provider_input_closed
    simp only [Ends.bind, Ends.get, Ends.ensure]
    exact ⟨fun _ => h.gate, fun _ => trivial⟩
  · unfold Fails record record_session_finish_sent
    rw [Ends.bind]
    exact h.gate
  · unfold Fails record record_session_finished_received enter_finished
    simp only [Ends.bind, Ends.get, Ends.ensure, Ends.next_source_sequence, Ends.ite, Ends.check]
    refine ⟨fun _ => ⟨fun _ => ⟨fun _ => ⟨fun _ => ⟨fun hok => ?_, fun _ => trivial⟩, fun hoff => ?_⟩,
      fun _ => trivial⟩, fun _ => trivial⟩, fun _ => trivial⟩
    · exact absurd hok h.check
    · exact absurd h.1 hoff

/-! ## Input items and responses -/

theorem Grown.bound {item response : String} (h : Grown s.input_response_owners s'.input_response_owners)
    (hbound : s.Bound item response) : s'.Bound item response := h.kept item response hbound

/-- Only a new socket forgets to whom the items belong. -/
theorem owners_grow (hdone : Done s op s' ok) (hop : op ≠ .reset_provider_socket) :
    Grown s.input_response_owners s'.input_response_owners := by
  cases hdone with
  | fresh op hop _ _ speech _ _ _ _ _ owners hgrown => exact hgrown
  | bindings _ _ _ _ speech owners _ ok _ _ hgrown => exact hgrown
  | reset => exact absurd rfl hop
  | _ => exact Grown.refl _

theorem apart_done (h : Apart s.input_response_owners) (hdone : Done s op s' ok) :
    Apart s'.input_response_owners := by
  by_cases hop : op = .reset_provider_socket
  · subst hop
    cases hdone with
    | reset =>
      intro item other response hitem
      simp at hitem
    | fresh _ _ _ _ _ _ _ _ _ _ _ hgrown => exact hgrown.apart h
    | _ => exact h
  · exact (owners_grow hdone hop).apart h

/-! ## The approval -/

/-- Nothing is pending: no speech, no response, no input that waits for its response, and no cue that
waits to be acknowledged. -/
structure Quiet (s : StrictWatchTerminalLifecycleState) (generation : Nat) : Prop where
  speech : s.active_speech = ∅
  responses : s.active_responses = ∅
  items : ∀ item ∈ s.input_response_owners, ∃ response, s.Bound item response ∧ response ∈ s.response_done_ids
  acks : ∀ cue_id number, s.cue_sequences.lookup cue_id = some number → number ∈ s.renderer_acks
  generation : s.activity_generation = generation

theorem owned_of_no_pending (h : s.pending_input_segments = 0) {item : String}
    (hitem : item ∈ s.input_response_owners) :
    ∃ response, s.Bound item response ∧ response ∈ s.response_done_ids := by
  obtain ⟨owner, howner⟩ := Option.isSome_iff_exists.mp (AList.lookup_isSome.mpr hitem)
  have hentry := List.countP_eq_zero.mp h _ (AList.mem_lookup_iff.mp howner)
  cases owner with
  | none => simp at hentry
  | some response => exact ⟨response, howner, by simpa using hentry⟩

theorem approve_ends {generation now : Nat} (h : Succeeds sha256 s (.approve_output_quiescence generation now)) :
    Quiet s generation ∧ Sealed (advance sha256 s (.approve_output_quiescence generation now)) := by
  have hends : Ends (record sha256 (.approve_output_quiescence generation now))
      (fun _ s' => Quiet s generation ∧ Sealed s') (fun _ => True) s := by
    unfold record approve_output_quiescence
    simp only [Ends.bind, Ends.get, Ends.check, Ends.ensure, Ends.modify, Ends.next_source_sequence]
    refine ⟨fun _ => ⟨?_, fun _ => trivial⟩, fun _ => trivial⟩
    rintro ⟨haec, -, -, hgeneration, hspeech, hresponses, hitems, hacks⟩
    refine ⟨⟨hspeech, hresponses, fun _ hitem => owned_of_no_pending hitems hitem,
      fun cue_id number hnumber => ?_, hgeneration⟩, haec, by simp⟩
    by_contra hpending
    exact hacks ⟨⟨cue_id, number⟩, AList.mem_lookup_iff.mp hnumber, hpending⟩
  unfold Succeeds Ends at h
  unfold Ends at hends
  unfold advance
  cases hr : record sha256 (.approve_output_quiescence generation now) s with
  | ok _ s' =>
    rw [hr] at hends
    exact hends
  | error _ s' =>
    rw [hr] at h
    exact absurd h id

/-! ## Whole runs -/

/-- What every ledger of a run keeps. -/
structure Kept (s : StrictWatchTerminalLifecycleState) : Prop where
  phased : Phased s
  stamped : Stamped s
  apart : Apart s.input_response_owners

theorem Kept.new (identity : StrictWatchTerminalIdentity) : Kept { identity } := by
  refine ⟨⟨by simp, by simp, by simp, by simp⟩, ?_, ?_⟩
  · intro evidence hevidence
    simp at hevidence
  · intro item other response hitem
    simp at hitem

theorem Kept.advance (h : Kept s) (op : Op) : Kept (advance sha256 s op) := by
  obtain ⟨_, hdone⟩ := advance_done sha256 s op
  exact ⟨h.phased.done hdone, h.stamped.done hdone, apart_done h.apart hdone⟩

theorem Kept.run (h : Kept s) (ops : List Op) : Kept (run (watch_terminal_lifecycle.advance sha256) s ops) :=
  run_keeps _ Kept (fun _ op hs => hs.advance op) h ops

theorem Sealed.run (h : Sealed s) (hkept : Kept s) (ops : List Op) :
    Sealed (run (advance sha256) s ops) := by
  refine (run_keeps (advance sha256) (fun t => Kept t ∧ Sealed t) (fun t op ht => ?_) ⟨hkept, h⟩ ops).2
  obtain ⟨_, hdone⟩ := advance_done sha256 t op
  exact ⟨ht.1.advance op, ht.2.done ht.1.phased hdone⟩

theorem Broken.run (h : Broken s) (ops : List Op) : Broken (run (advance sha256) s ops) := by
  refine run_keeps (advance sha256) Broken (fun t op ht => ?_) h ops
  obtain ⟨_, hdone⟩ := advance_done sha256 t op
  exact ht.done hdone

theorem grown_run (sha256 : String → String) (ops : List Op) (hops : ∀ op ∈ ops, op ≠ .reset_provider_socket) :
    Grown s.input_response_owners (run (advance sha256) s ops).input_response_owners := by
  induction ops generalizing s with
  | nil => exact Grown.refl _
  | cons op ops ih =>
    obtain ⟨_, hdone⟩ := advance_done sha256 s op
    refine (owners_grow hdone (hops op List.mem_cons_self)).trans ?_
    exact ih fun other hother => hops other (List.mem_cons_of_mem op hother)

/-- What the drain promises of a ledger that a run has reached. -/
structure Drained (sha256 : String → String) (s : StrictWatchTerminalLifecycleState) : Prop where
  phases : ∀ op, s.aec_open_input_drain = true → Moves s.open_input_phase (advance sha256 s op).open_input_phase
  approval : ∀ generation now, Succeeds sha256 s (.approve_output_quiescence generation now) →
    Quiet s generation
  sealed : ∀ generation now, Succeeds sha256 s (.approve_output_quiescence generation now) →
    ∀ later op, Fresh (run (advance sha256) s (.approve_output_quiescence generation now :: later)) op →
      Fails sha256 (run (advance sha256) s (.approve_output_quiescence generation now :: later)) op ∧
        ∀ rest, Shut sha256
          (run (advance sha256) s (.approve_output_quiescence generation now :: later ++ op :: rest))

/-- In every run: the phases come in order, the output is approved only when nothing is pending, nothing
fresh is let in after that, and until the next socket an item belongs to one response and a response to
one item. -/
theorem open_input_drain_seals_the_run (sha256 : String → String) (identity : StrictWatchTerminalIdentity)
    (ops : List Op) :
    Drained sha256 (run (advance sha256) { identity } ops) ∧
      ∀ later, (∀ op ∈ later, op ≠ .reset_provider_socket) → ∀ item response item' response',
        (run (advance sha256) { identity } ops).Bound item response →
        (run (advance sha256) { identity } (ops ++ later)).Bound item' response' →
        (item = item' ↔ response = response') := by
  have hkept : Kept (run (advance sha256) { identity } ops) := (Kept.new identity).run ops
  refine ⟨⟨fun op haec => ?_, fun generation now h => (approve_ends h).1, fun generation now h later op hfresh => ?_⟩,
    fun later hlater item response item' response' hitem hitem' => ?_⟩
  · obtain ⟨_, hdone⟩ := advance_done sha256 (run (advance sha256) { identity } ops) op
    exact hkept.phased.moves haec hdone
  · have hsealed : Sealed (run (advance sha256) _ (.approve_output_quiescence generation now :: later)) :=
      Sealed.run (approve_ends h).2 (hkept.advance _) later
    have hbreaks := hsealed.fresh (hkept.run _).stamped sha256 hfresh
    refine ⟨hbreaks.imp (fun _ _ h => h) fun _ _ => trivial, fun rest => ?_⟩
    rw [run_append, run_cons]
    have hbroken := advance_ends (hbreaks.imp (fun _ _ h => absurd h id) fun _ h => h)
    exact (hbroken.run rest).shut sha256
  · rw [run_append] at hitem'
    have hitem := (grown_run sha256 later hlater).bound hitem
    have hapart : Apart (run (advance sha256) (run (advance sha256) { identity } ops) later).input_response_owners :=
      (hkept.run later).apart
    constructor
    · rintro rfl
      exact Option.some.inj (Option.some.inj (hitem.symm.trans hitem'))
    · rintro rfl
      exact hapart item item' response hitem hitem'

/-! A run that is approved, and one that starts on a second socket. -/

instance (sha256 : String → String) (s : StrictWatchTerminalLifecycleState) (op : Op) :
    Decidable (Succeeds sha256 s op) :=
  inferInstanceAs (Decidable (Ends (record sha256 op) (fun _ _ => True) (fun _ => False) s))

instance (sha256 : String → String) (s : StrictWatchTerminalLifecycleState) (op : Op) :
    Decidable (Fails sha256 s op) :=
  inferInstanceAs (Decidable (Ends (record sha256 op) (fun _ _ => False) (fun _ => True) s))

instance (s : StrictWatchTerminalLifecycleState) (item response : String) : Decidable (s.Bound item response) := by
  unfold StrictWatchTerminalLifecycleState.Bound
  infer_instance

def quiet_ops : List Op :=
  [.enable_aec_open_input_drain, .provider_append 480 1, .input_speech "item" true 2,
    .input_speech "item" false 3, .input_response_bindings [("item", "response")] 4,
    .response_terminal .response_done "response" 5, .media_complete 6]

/-- The approval succeeds, output after it is refused, and the capture can no longer be closed. -/
theorem quiet_ops_are_sealed :
    Succeeds id (run (advance id) { identity := ⟨"run", "cell", "lease"⟩ } quiet_ops)
        (.approve_output_quiescence 4 7) ∧
      Fails id (run (advance id) { identity := ⟨"run", "cell", "lease"⟩ }
        (quiet_ops ++ [.approve_output_quiescence 4 7])) (.nonempty_output "response" 8) ∧
      Fails id (run (advance id) { identity := ⟨"run", "cell", "lease"⟩ }
        (quiet_ops ++ [.approve_output_quiescence 4 7, .nonempty_output "response" 8]))
        (.provider_input_closed 9) := by
  have happroved : Succeeds id (run (advance id) { identity := ⟨"run", "cell", "lease"⟩ } quiet_ops)
      (.approve_output_quiescence 4 7) := by decide +kernel
  have h := (open_input_drain_seals_the_run id ⟨"run", "cell", "lease"⟩ quiet_ops).1.sealed 4 7 happroved []
    (.nonempty_output "response" 8) (show blank "response" = false by decide +kernel)
  rw [run_append, run_append]
  exact ⟨happroved, h.1, (h.2 []).input_closed 9⟩

/-- On a second socket the item is bound to another response. -/
theorem item_is_bound_again_on_a_new_socket :
    (run (advance id) { identity := ⟨"run", "cell", "lease"⟩ }
        [.enable_aec_open_input_drain, .input_response_bindings [("item", "response-1")] 1]).Bound
        "item" "response-1" ∧
      (run (advance id) { identity := ⟨"run", "cell", "lease"⟩ }
        [.enable_aec_open_input_drain, .input_response_bindings [("item", "response-1")] 1,
          .reset_provider_socket, .input_response_bindings [("item", "response-2")] 2]).Bound
        "item" "response-2" := by
  decide +kernel

/-! ## Calls that fail at the end of the session -/

/-- What each call at the end of the session needs. -/
def Ready (s : StrictWatchTerminalLifecycleState) : Op → Prop
  | .provider_input_closed _ =>
    s.provider_input_closed_source_sequence = none ∧ s.Passes .quiescent_approved
  | .session_finish_sent _ =>
    s.Passes .capture_closed ∧ saturating_succ s.finish_count = 1 ∧ s.session_finish_sent = none ∧
      s.last_provider_append.isSome = true ∧ s.provider_input_closed_source_sequence.isSome = true
  | .session_finished_received _ =>
    s.session_finished_received = none ∧ s.session_finish_sent.isSome = true ∧
      (s.last_response_audio_done.isSome = true ∨ s.last_response_done.isSome = true) ∧
      (s.aec_open_input_drain = true → s.check_open_input_failure = .ok ())
  | _ => False

/-- Nothing has changed but the next sequence number. -/
def Unchanged (s s' : StrictWatchTerminalLifecycleState) : Prop :=
  { s' with next_source_sequence := s.next_source_sequence } = s

/-- A call that is ready is answered, and one that is not leaves the state that is given. -/
abbrev Tried (s : StrictWatchTerminalLifecycleState) (ready : Prop)
    (left : StrictWatchTerminalLifecycleState → Prop) {α : Type} (x : Ledger α) : Prop :=
  Ends x (fun _ _ => ready) (fun s' => ¬ ready ∧ left s') s

theorem provider_input_closed_tried (now : Nat) :
    Tried s (Ready s (.provider_input_closed now)) (fun s' => s' = s) (record_provider_input_closed now) := by
  unfold Tried record_provider_input_closed
  simp only [Ends.bind, Ends.get, Ends.ensure, Ends.modify, Ends.next_source_sequence, Ends.pure,
    Option.isNone_iff_eq_none]
  refine ⟨fun hnone => Ends.pass_gate (fun hpasses => ⟨hnone, hpasses⟩) fun hshut => ?_, fun hsome => ?_⟩
  · exact ⟨fun h => hshut h.2, rfl⟩
  · exact ⟨fun h => hsome h.1, trivial⟩

theorem session_finished_tried (now : Nat) :
    Tried s (Ready s (.session_finished_received now)) (Unchanged s) (record_session_finished_received now) := by
  unfold Tried record_session_finished_received enter_finished
  simp only [Ends.bind, Ends.get, Ends.ensure, Ends.ite, Ends.check, Ends.modify, Ends.next_source_sequence,
    Ends.pure, Option.isNone_iff_eq_none]
  refine ⟨fun hnone => ⟨fun hsent => ⟨fun hterminal => ⟨fun haec => ⟨fun hcheck => ?_, fun hcheck => ?_⟩,
    fun haec => ?_⟩, fun hterminal => ?_⟩, fun hsent => ?_⟩, fun hsome => ?_⟩
  · exact ⟨hnone, hsent, hterminal, fun _ => hcheck⟩
  · exact ⟨fun h => hcheck (h.2.2.2 haec), rfl⟩
  · exact ⟨hnone, hsent, hterminal, fun h => absurd h haec⟩
  · exact ⟨fun h => hterminal h.2.2.1, rfl⟩
  · exact ⟨fun h => hsent h.2.1, rfl⟩
  · exact ⟨fun h => hsome h.1, rfl⟩

theorem session_finish_tried (now : Nat) :
    Tried s (Ready s (.session_finish_sent now))
      (fun s' => (¬ s.Passes .capture_closed → s' = s) ∧
        (s.Passes .capture_closed →
          s' = { s.gated .finish_sent with finish_count := saturating_succ s.finish_count }))
      (record_session_finish_sent now) := by
  unfold Tried record_session_finish_sent
  simp only [Ends.bind, Ends.modify, Ends.get, Ends.ensure, Ends.demand, Ends.next_source_sequence]
  refine Ends.pass_gate (fun hgate => ?_) fun hshut => ?_
  · have hcounted : ¬ Ready s (.session_finish_sent now) → ¬ Ready s (.session_finish_sent now) ∧
        (¬ s.Passes .capture_closed →
          { s.gated .finish_sent with finish_count := saturating_succ s.finish_count } = s) ∧
        (s.Passes .capture_closed →
          { s.gated .finish_sent with finish_count := saturating_succ s.finish_count } =
            { s.gated .finish_sent with finish_count := saturating_succ s.finish_count }) :=
      fun hready => ⟨hready, fun hshut => absurd hgate hshut, fun _ => rfl⟩
    refine ⟨fun hfirst => ⟨fun append happend => ⟨fun closed hclosed => ?_, fun hnone => ?_⟩, fun hnone => ?_⟩,
      fun hagain => ?_⟩
    · refine ⟨hgate, hfirst.1, Option.isNone_iff_eq_none.mp hfirst.2, ?_, ?_⟩
      · rw [show s.last_provider_append = some append from happend]; rfl
      · rw [show s.provider_input_closed_source_sequence = some closed from hclosed]; rfl
    · refine hcounted fun h => ?_
      have hsome := h.2.2.2.2
      rw [show s.provider_input_closed_source_sequence = none from hnone] at hsome
      cases hsome
    · refine hcounted fun h => ?_
      have hsome := h.2.2.2.1
      rw [show s.last_provider_append = none from hnone] at hsome
      cases hsome
    · exact hcounted fun h => hagain ⟨h.2.1, Option.isNone_iff_eq_none.mpr h.2.2.1⟩
  · exact ⟨fun h => hshut h.1, fun _ => rfl, fun h => absurd h hshut⟩

theorem Tried.run {ready : Prop} {left : StrictWatchTerminalLifecycleState → Prop}
    (h : Tried s ready left (record sha256 op)) :
    (Succeeds sha256 s op ↔ ready) ∧ (Fails sha256 s op ↔ ¬ ready) ∧ (¬ ready → left (advance sha256 s op)) := by
  unfold Tried Ends at h
  unfold Succeeds Fails Ends advance
  cases hr : record sha256 op s with
  | ok _ s' =>
    rw [hr] at h
    exact ⟨iff_of_true trivial h, iff_of_false id (not_not.mpr h), fun hn => absurd h hn⟩
  | error _ s' =>
    rw [hr] at h
    exact ⟨iff_of_false id h.1, iff_of_true trivial h.1, fun _ => h.2⟩

theorem saturating_succ_le (n : Nat) : n ≤ saturating_succ n := by
  unfold saturating_succ
  split
  · exact Nat.le_succ n
  · exact le_refl n

theorem one_lt_saturating_succ {n : Nat} (h : n ≠ 0) : 1 < saturating_succ n := by
  unfold saturating_succ
  split
  · omega
  · have : 1 < U64_MAX := by decide
    omega

theorem finish_count_done (hdone : Done s op s' ok) : s.finish_count ≤ s'.finish_count := by
  cases hdone with
  | finish_counted | finish => exact saturating_succ_le _
  | _ => exact le_refl _

/-- A finish that was recorded was counted. -/
def Counted (s : StrictWatchTerminalLifecycleState) : Prop :=
  s.session_finish_sent.isSome = true → s.finish_count ≠ 0

theorem Counted.done (h : Counted s) (hdone : Done s op s' ok) : Counted s' := by
  have hcount := finish_count_done hdone
  have hsame : s'.session_finish_sent = s.session_finish_sent → Counted s' := by
    intro hsent hsome
    rw [hsent] at hsome
    have := h hsome
    omega
  cases hdone with
  | finish _ _ _ hone _ _ =>
    intro _
    rw [show saturating_succ s.finish_count = 1 from hone]
    exact Nat.one_ne_zero
  | _ => exact hsame rfl

theorem counted_run (sha256 : String → String) (identity : StrictWatchTerminalIdentity) (ops : List Op) :
    Counted (run (advance sha256) { identity } ops) := by
  refine run_keeps (advance sha256) Counted (fun s op h => ?_) (fun hsome => by simp at hsome) ops
  obtain ⟨_, hdone⟩ := advance_done sha256 s op
  exact h.done hdone

theorem no_snapshot_of_count (h : 1 < s.finish_count) (ops : List Op)
    (snapshot : StrictWatchTerminalLifecycleSnapshot) : (run (advance sha256) s ops).snapshot ≠ .ok snapshot := by
  have hcount : 1 < (run (advance sha256) s ops).finish_count := by
    refine run_keeps (advance sha256) (fun t => 1 < t.finish_count) (fun t op ht => ?_) h ops
    obtain ⟨ok, hdone⟩ := advance_done sha256 t op
    exact Nat.lt_of_lt_of_le ht (finish_count_done hdone)
  intro hsnapshot
  iterate 6 obtain ⟨_, -, hsnapshot⟩ := bind_ok hsnapshot
  obtain ⟨_, horder, -⟩ := bind_ok hsnapshot
  have hone := (require_ok horder).1
  omega

/-- What a call at the end of the session leaves when it fails, and when it succeeds. -/
structure Retried (sha256 : String → String) (s : StrictWatchTerminalLifecycleState) : Prop where
  input_closed : ∀ now, Fails sha256 s (.provider_input_closed now) →
    advance sha256 s (.provider_input_closed now) = s
  finished : ∀ now, Fails sha256 s (.session_finished_received now) →
    Unchanged s (advance sha256 s (.session_finished_received now))
  finish_refused : ∀ now, ¬ s.Passes .capture_closed → Fails sha256 s (.session_finish_sent now) ∧
    advance sha256 s (.session_finish_sent now) = s
  finish_again : ∀ now, s.session_finish_sent.isSome = true → Fails sha256 s (.session_finish_sent now) ∧
    { advance sha256 s (.session_finish_sent now) with finish_count := s.finish_count } = s ∧
    (s.aec_open_input_drain = false → ∀ later snapshot,
      (run (advance sha256) s (.session_finish_sent now :: later)).snapshot ≠ .ok snapshot)
  ready : ∀ now, (Succeeds sha256 s (.provider_input_closed now) ↔ Ready s (.provider_input_closed now)) ∧
    (Succeeds sha256 s (.session_finish_sent now) ↔ Ready s (.session_finish_sent now)) ∧
    (Succeeds sha256 s (.session_finished_received now) ↔ Ready s (.session_finished_received now))

/-- In every ledger that a run has reached, the end of the capture and of the session leave nothing
behind when they fail, a finish leaves nothing when the drain refuses it and only its count when it was
recorded before, and each of them succeeds once it is ready. -/
theorem failed_terminal_calls_leave_the_ledger (sha256 : String → String)
    (identity : StrictWatchTerminalIdentity) (ops : List Op) :
    Retried sha256 (run (advance sha256) { identity } ops) := by
  have hkept : Kept (run (advance sha256) { identity } ops) := (Kept.new identity).run ops
  have hcounted := counted_run sha256 identity ops
  generalize run (advance sha256) { identity } ops = s at hkept hcounted
  have hclosed : ∀ now, Tried s (Ready s (.provider_input_closed now)) (fun s' => s' = s)
      (record sha256 (.provider_input_closed now)) := fun now =>
    Ends.discard.mpr (provider_input_closed_tried now)
  have hfinished : ∀ now, Tried s (Ready s (.session_finished_received now)) (Unchanged s)
      (record sha256 (.session_finished_received now)) := fun now => session_finished_tried now
  have hfinish : ∀ now, Tried s (Ready s (.session_finish_sent now)) _
      (record sha256 (.session_finish_sent now)) := fun now => session_finish_tried now
  refine ⟨fun now hfails => ?_, fun now hfails => ?_, fun now hshut => ?_, fun now hsent => ?_, fun now => ?_⟩
  · exact (hclosed now).run.2.2 ((hclosed now).run.2.1.mp hfails)
  · exact (hfinished now).run.2.2 ((hfinished now).run.2.1.mp hfails)
  · have hready : ¬ Ready s (.session_finish_sent now) := fun h => hshut h.1
    exact ⟨(hfinish now).run.2.1.mpr hready, ((hfinish now).run.2.2 hready).1 hshut⟩
  · have hready : ¬ Ready s (.session_finish_sent now) := by
      intro h
      simp [h.2.2.1] at hsent
    refine ⟨(hfinish now).run.2.1.mpr hready, ?_⟩
    have hleft := (hfinish now).run.2.2 hready
    by_cases haec : s.aec_open_input_drain = true
    · -- the drain has left the phase in which it lets a finish pass
      have hshut : ¬ s.Passes .capture_closed := by
        intro hpasses
        have hnone := hkept.phased.unsent hpasses (by decide) haec
        simp [hnone] at hsent
      rw [hleft.1 hshut]
      exact ⟨rfl, fun hoff => by simp [haec] at hoff⟩
    · have hpasses : s.Passes .capture_closed := fun h => absurd h haec
      have hcount : advance sha256 s (.session_finish_sent now)
          = { s with finish_count := saturating_succ s.finish_count } := by
        rw [hleft.2 hpasses, gated_off .finish_sent haec]
      refine ⟨by rw [hcount], fun _ later snapshot => ?_⟩
      rw [run_cons, hcount]
      exact no_snapshot_of_count (one_lt_saturating_succ (hcounted hsent)) later snapshot
  · exact ⟨(hclosed now).run.1, (hfinish now).run.1, (hfinished now).run.1⟩

/-- A finish that is sent again is counted, though the call fails. -/
theorem second_finish_is_counted :
    Fails id (run (advance id) { identity := ⟨"run", "cell", "lease"⟩ }
        [.provider_append 480 1, .provider_input_closed 2, .session_finish_sent 3]) (.session_finish_sent 4) ∧
      (run (advance id) { identity := ⟨"run", "cell", "lease"⟩ }
        [.provider_append 480 1, .provider_input_closed 2, .session_finish_sent 3]).finish_count = 1 ∧
      (run (advance id) { identity := ⟨"run", "cell", "lease"⟩ }
        [.provider_append 480 1, .provider_input_closed 2, .session_finish_sent 3,
          .session_finish_sent 4]).finish_count = 2 := by
  decide +kernel

end omni_translate.watch_terminal_lifecycle

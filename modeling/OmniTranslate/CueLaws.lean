-- What becomes of an accepted cue. A cue is tracked by the queue, by the ledger of streams
-- or by the ledger of the virtual microphone, and a step that lets go of it emits its
-- terminal status, except where a ledger is reset first.
import OmniTranslate.StreamOrder
import OmniTranslate.VirtualMic

namespace omni_translate.playback

open runs
open bridge_playback_ack (TranslationPlaybackStatusKind TranslationPlaybackAuthority)
open BridgeService (takes is_blank)

variable {S : Type}

/-! ## The property -/

/-- A cue that the Bridge tracks: it plays or waits in the queue, or its stream is in the ledger. -/
def tracks (s : Bridge S) (c : String) : Prop :=
  (∃ active, s.translation_queue.active = some active ∧ active.cue_id = some c) ∨
    (∃ job ∈ s.translation_queue.pending, job.cue_id = some c) ∨
    c ∈ s.state.physical_translation_stream_ledger.active

/-- A cue that the service tracks, in the Bridge or in the ledger of the virtual microphone. -/
def is_tracked (s : BridgeService S) (c : String) : Prop :=
  tracks s.bridge c ∨ ∃ key ∈ s.virtual_mic_cue_ledger.active, key.cue_id = c

/-- The next step of the worker applies a rebind. -/
def applies_rebind (s : Bridge S) : Bool :=
  (s.worker.place = .control ∨ s.worker.place = .control_again) ∧
    s.controls.head?.any fun
      | .RebindPhysicalOutput _ => true
      | _ => false

/-- The condition on a step: a shutdown finds both ledgers empty, an init that resets the ledger of
the virtual microphone finds that one empty, and a rebind finds the queue empty. -/
def forgets_nothing (s : BridgeService S) : ServiceOp S → Prop
  | .bridge_shutdown => s.bridge.state.physical_translation_stream_ledger.active.keys = [] ∧
      s.virtual_mic_cue_ledger.active.keys = []
  | .bridge_init _ _ capture_or_session_changed virtual_mic_output_requested =>
      (capture_or_session_changed = true ∨
        s.virtual_mic_output_requested ≠ virtual_mic_output_requested) →
      s.virtual_mic_cue_ledger.active.keys = []
  | .work _ => applies_rebind s.bridge = true →
      s.bridge.translation_queue.active.isNone ∧ s.bridge.translation_queue.pending.isEmpty
  | _ => True

/-! ## Steps that answer for their cues -/

/-- The status ends the cue. -/
def ends (c : String) (status : TranslationStatus) : Prop :=
  status.cue_id = some c ∧ status.status.is_terminal = true

/-- Statuses are added, and every cue that was held before is held after or is ended. -/
def Answered (old all : List TranslationStatus) (before after : String → Prop) : Prop :=
  ∃ new, all = old ++ new ∧ ∀ c, before c → after c ∨ ∃ status ∈ new, ends c status

theorem Answered.refl (old : List TranslationStatus) (held : String → Prop) :
    Answered old old held held :=
  ⟨[], (List.append_nil _).symm, fun _ hc => Or.inl hc⟩

theorem Answered.trans {old mid all : List TranslationStatus} {before between after : String → Prop}
    (h : Answered old mid before between) (h' : Answered mid all between after) :
    Answered old all before after := by
  obtain ⟨new, heq, hcues⟩ := h
  obtain ⟨new', heq', hcues'⟩ := h'
  refine ⟨new ++ new', by rw [heq', heq, List.append_assoc], ?_⟩
  intro c hc
  obtain hin | ⟨status, hs, he⟩ := hcues c hc
  · obtain hin' | ⟨status, hs, he⟩ := hcues' c hin
    · exact Or.inl hin'
    · exact Or.inr ⟨status, List.mem_append_right _ hs, he⟩
  · exact Or.inr ⟨status, List.mem_append_left _ hs, he⟩

/-- The state emits, and every stream stays in the ledger or is ended. -/
def StreamsAnswer (b b' : BridgeState) : Prop :=
  Answered b.statuses b'.statuses (· ∈ b.physical_translation_stream_ledger.active)
    (· ∈ b'.physical_translation_stream_ledger.active)

/-- The Bridge emits, and every cue stays tracked or is ended. -/
def Answers (s t : Bridge S) : Prop :=
  Answered s.state.statuses t.state.statuses (tracks s) (tracks t)

theorem StreamsAnswer.refl (b : BridgeState) : StreamsAnswer b b := Answered.refl _ _

theorem StreamsAnswer.emit (b : BridgeState) (cue_id : Option String)
    (status : TranslationPlaybackStatusKind) (reason : String) :
    StreamsAnswer b (b.emit_translation_status cue_id status reason) :=
  ⟨_, rfl, fun _ hc => Or.inl hc⟩

variable {status : TranslationPlaybackStatusKind}

theorem StreamsAnswer.claim (b : BridgeState) (cue_id : String) (generation : Nat)
    (hterminal : status.is_terminal = true) (reason : String) :
    StreamsAnswer b (b.claim_terminal_status cue_id generation status reason) := by
  unfold BridgeState.claim_terminal_status PhysicalTranslationStreamLedger.claim_terminal
  dsimp only
  split
  · refine ⟨_, rfl, ?_⟩
    intro c hc
    by_cases hcue : c = cue_id
    · rw [hcue]
      exact Or.inr ⟨_, List.mem_singleton_self _, rfl, hterminal⟩
    · exact Or.inl (AList.mem_erase.mpr ⟨hcue, hc⟩)
  · exact .refl b

theorem Answers.of_streams {s t : Bridge S} (h : StreamsAnswer s.state t.state)
    (hq : t.translation_queue = s.translation_queue) : Answers s t := by
  obtain ⟨new, heq, hcues⟩ := h
  refine ⟨new, heq, ?_⟩
  rintro c (hactive | hpending | hstream)
  · rw [← hq] at hactive
    exact Or.inl (Or.inl hactive)
  · rw [← hq] at hpending
    exact Or.inl (Or.inr (Or.inl hpending))
  · exact (hcues c hstream).imp (fun hin => Or.inr (Or.inr hin)) id

theorem Answers.refl (s : Bridge S) : Answers s s := .of_streams (.refl _) rfl

/-! ## The worker's streams -/

/-- Whatever the worker reports answers for the streams. -/
theorem Reports.answers {b b' : BridgeState} (h : Reports b b') : StreamsAnswer b b' := by
  induction h with
  | nothing => exact .refl b
  | emit _ cue_id status reason ih => exact Answered.trans ih (StreamsAnswer.emit _ cue_id status reason)
  | claim _ cue_id generation hterminal reason ih =>
    exact Answered.trans ih (StreamsAnswer.claim _ cue_id generation hterminal reason)

/-! ## The queue -/

variable (s : Bridge S)

variable {queue : TranslationPlaybackQueue S}

theorem drop_jobs_answers {jobs : List (PlaybackJob S)} (hterminal : status.is_terminal = true)
    (reason : String)
    (hactive : ∀ active, s.translation_queue.active = some active → queue.active = some active)
    (hjobs : ∀ job ∈ s.translation_queue.pending, job ∈ jobs ∨ job ∈ queue.pending ∨
      ∃ active, queue.active = some active ∧ active.cue_id = job.cue_id) :
    Answers s (Bridge.drop_jobs { s with translation_queue := queue } jobs status reason) := by
  rw [Bridge.drop_jobs_eq]
  refine ⟨_, rfl, ?_⟩
  rintro _ (⟨active, ha, hcue⟩ | ⟨job, hj, hcue⟩ | hstream)
  · exact Or.inl (Or.inl ⟨active, hactive active ha, hcue⟩)
  · obtain hdropped | hkept | ⟨active, ha, hsame⟩ := hjobs job hj
    · exact Or.inr ⟨_, List.mem_map_of_mem hdropped, hcue, hterminal⟩
    · exact Or.inl (Or.inr (Or.inl ⟨job, hkept, hcue⟩))
    · exact Or.inl (Or.inl ⟨active, ha, hsame.trans hcue⟩)
  · exact Or.inl (Or.inr (Or.inr hstream))

theorem emit_answers (cue_id : Option String) (status : TranslationPlaybackStatusKind)
    (reason : String) :
    Answers s { s with state := s.state.emit_translation_status cue_id status reason } :=
  .of_streams (.emit _ _ _ _) rfl

theorem try_send_answers (command : PlaybackCommand S) :
    Answers s ((s.try_send command).getD s) := by
  unfold Bridge.try_send
  split
  · exact .of_streams (.refl _) rfl
  · exact .of_streams (.refl _) rfl

theorem enqueue_jobs (queue : TranslationPlaybackQueue S) (job : PlaybackJob S) (now_ms : Nat) :
    (queue.enqueue job now_ms).1.active = queue.active ∧
      ∀ old ∈ queue.pending, old ∈ (queue.enqueue job now_ms).2.1 ∨
        old ∈ (queue.enqueue job now_ms).1.pending := by
  have hparts : ∀ old ∈ queue.pending,
      old ∈ (TranslationPlaybackQueue.drain_jobs (queue.active_end_ms now_ms) queue.pending).2 ∨
        old ∈ (TranslationPlaybackQueue.drain_jobs (queue.active_end_ms now_ms) queue.pending).1 :=
    fun old hold => (TranslationPlaybackQueue.mem_drain_jobs _ hold).symm
  unfold TranslationPlaybackQueue.enqueue TranslationPlaybackQueue.drain_expired_pending
  dsimp only
  split
  · exact ⟨rfl, hparts⟩
  split
  · exact ⟨rfl, hparts⟩
  · exact ⟨rfl, fun old hold => (hparts old hold).imp id (List.mem_append_left _)⟩

variable (frame : TranslationFrame S) (e : Outside) (now_ms : Nat)

theorem complete_frame_answers : Answers s (s.handle_complete_frame frame now_ms) := by
  unfold Bridge.handle_complete_frame
  split
  · apply emit_answers
  dsimp only
  have harrival : Answers s s.next_arrival := .of_streams ⟨[], by simp [Bridge.next_arrival],
    fun _ hc => Or.inl hc⟩ rfl
  obtain ⟨hactive, hjobs⟩ := enqueue_jobs s.next_arrival.translation_queue
    (s.job_of frame now_ms) now_ms
  have hdropped : Answers s (Bridge.drop_jobs { s.next_arrival with
      translation_queue :=
        (s.next_arrival.translation_queue.enqueue (s.job_of frame now_ms) now_ms).1 }
      (s.next_arrival.translation_queue.enqueue (s.job_of frame now_ms) now_ms).2.1
      .StaleDropped "realtime-budget") := by
    apply harrival.trans
    apply drop_jobs_answers _ rfl
    · intro active ha
      rw [hactive, ha]
    · intro job hj
      exact (hjobs job hj).imp id Or.inl
  split
  · exact hdropped.trans (emit_answers _ _ _ _)
  · exact (hdropped.trans (try_send_answers _ _)).trans (emit_answers _ _ _ _)

theorem start_next_jobs (queue : TranslationPlaybackQueue S) (now_ms : Nat) :
    (∀ active, queue.active = some active →
        (queue.start_next now_ms).1.active = some active) ∧
      ∀ old ∈ queue.pending, old ∈ (queue.start_next now_ms).2.2 ∨
        old ∈ (queue.start_next now_ms).1.pending ∨
        ∃ active, (queue.start_next now_ms).1.active = some active ∧ active.cue_id = old.cue_id := by
  unfold TranslationPlaybackQueue.start_next TranslationPlaybackQueue.drain_expired_pending
  dsimp only
  split
  · exact ⟨fun _ ha => ha, fun old hold => Or.inr (Or.inl hold)⟩
  · rename_i hnone
    refine ⟨fun active ha => absurd (by rw [ha]; rfl) hnone, ?_⟩
    intro old hold
    have hparts := TranslationPlaybackQueue.mem_drain_jobs (queue.active_end_ms now_ms) hold
    split
    · rename_i hnil
      rw [hnil] at hparts
      exact Or.inl (hparts.resolve_left (List.not_mem_nil))
    · rename_i _ pending hcons
      rw [hcons] at hparts
      obtain hkept | hdropped := hparts
      · obtain rfl | hin := List.mem_cons.mp hkept
        · exact Or.inr (Or.inr ⟨_, rfl, rfl⟩)
        · exact Or.inr (Or.inl hin)
      · exact Or.inl hdropped

theorem start_next_active {now_ms : Nat} {job : PlaybackJob S}
    (h : (queue.start_next now_ms).2.1 = some job) :
    ∃ active, (queue.start_next now_ms).1.active = some active ∧ active.cue_id = job.cue_id := by
  unfold TranslationPlaybackQueue.start_next at *
  split at h
  · cases h
  · rename_i hnone
    rw [if_neg hnone]
    dsimp only at *
    split at h
    · cases h
    · cases h
      exact ⟨_, rfl, rfl⟩

/-- The complete cue that plays is ended with a status. -/
theorem end_active_answers {cue_id : Option String} (hterminal : status.is_terminal = true)
    (reason : String)
    (hcue : ∀ active, s.translation_queue.active = some active → active.cue_id = cue_id) :
    Answers s { s with
      translation_queue := { s.translation_queue with active := none }
      state := s.state.emit_translation_status cue_id status reason } := by
  refine ⟨_, rfl, ?_⟩
  rintro _ (⟨active, ha, hc⟩ | hpending | hstream)
  · rw [hcue active ha] at hc
    exact Or.inr ⟨_, List.mem_singleton_self _, hc, hterminal⟩
  · exact Or.inl (Or.inr (Or.inl hpending))
  · exact Or.inl (Or.inr (Or.inr hstream))

theorem finish_translation_answers : Answers s (s.finish_completed_translation e) := by
  unfold Bridge.finish_completed_translation
  split
  · exact .refl s
  split
  · exact .refl s
  · rename_i _ hcompleted
    apply end_active_answers s rfl
    intro active ha
    rw [hcompleted] at ha
    cases ha
    rfl

theorem start_next_answers : Answers s (s.start_next_translation e) := by
  obtain ⟨hactive, hjobs⟩ := start_next_jobs s.translation_queue e.now_ms
  have hdropped : Answers s (Bridge.drop_jobs
      { s with translation_queue := (s.translation_queue.start_next e.now_ms).1 }
      (s.translation_queue.start_next e.now_ms).2.2 .StaleDropped
      "realtime-budget-before-start") :=
    drop_jobs_answers s rfl _ hactive hjobs
  unfold Bridge.start_next_translation
  dsimp only
  split
  · exact hdropped
  rename_i _ hjob
  split
  · apply hdropped.trans
    apply end_active_answers _ rfl
    intro active ha
    obtain ⟨_, hstarted, hcue⟩ := start_next_active hjob
    rw [Bridge.drop_jobs_eq] at ha
    rw [hstarted] at ha
    cases ha
    exact hcue
  · apply hdropped.trans
    exact Answers.of_streams (.emit _ _ _ _) rfl

/-! ## Stops -/

theorem stop_answers (reason : String) (error_code : Option String) :
    Answers s (s.request_playback_stop reason error_code) := by
  have hterminal : (Bridge.translation_terminal_status error_code).is_terminal = true := by
    unfold Bridge.translation_terminal_status
    split
    · rfl
    · rfl
  unfold Bridge.request_playback_stop
  dsimp only
  rw [BridgeState.emit_all]
  refine ⟨_, rfl, ?_⟩
  intro c hc
  right
  refine ⟨⟨some c, _, reason⟩, List.mem_map.mpr ⟨some c, ?_, rfl⟩, rfl, hterminal⟩
  obtain ⟨active, ha, hcue⟩ | ⟨job, hj, hcue⟩ | hstream := hc
  · simp [ha, hcue]
  · have hin : some c ∈ s.translation_queue.pending.map (·.cue_id) :=
      List.mem_map.mpr ⟨job, hj, hcue⟩
    simp only [List.mem_append]
    exact Or.inl (Or.inr hin)
  · have hin : some c ∈ s.state.physical_translation_stream_ledger.active.keys.map some :=
      List.mem_map.mpr ⟨c, hstream, rfl⟩
    simp only [List.mem_append]
    exact Or.inr hin

theorem reset_answers (h : s.state.physical_translation_stream_ledger.active.keys = []) :
    Answers s s.reset_streams := by
  refine Answers.of_streams ⟨[], by simp [Bridge.reset_streams], ?_⟩ rfl
  intro c hc
  change c ∈ s.state.physical_translation_stream_ledger.active.keys at hc
  rw [h] at hc
  cases hc

theorem init_answers (device_id : String) (reason : Option String) (reset : Bool) :
    Answers s (s.handle_bridge_init device_id reason reset) := by
  have hdevice : Answers s { s with
      state := { s.state with physical_playback_device_id := device_id } } :=
    .of_streams ⟨[], by simp, fun _ hc => Or.inl hc⟩ rfl
  unfold Bridge.handle_bridge_init
  dsimp only
  split
  · exact hdevice.trans (stop_answers _ _ _)
  rename_i hidle
  split
  · apply reset_answers
    unfold Bridge.accepted_translation_work at hidle
    simp only [decide_eq_true_eq, not_or, Decidable.not_not] at hidle
    simpa using hidle.1
  · exact hdevice

/-! ## The worker -/

theorem apply_control_answers (next : Place) (h : (s.controls.head?.any fun
      | .RebindPhysicalOutput _ => true
      | _ => false) = true →
      s.translation_queue.active.isNone ∧ s.translation_queue.pending.isEmpty) :
    Answers s (s.apply_playback_control_commands e next) := by
  unfold Bridge.apply_playback_control_commands
  split
  · exact .of_streams (.refl _) rfl
  · rename_i command controls hcontrols
    unfold Bridge.apply_playback_control_command
    cases command with
    | StopAll | TerminateTranslationStream => exact .of_streams (.refl _) rfl
    | RebindPhysicalOutput _ =>
      obtain ⟨hactive, hpending⟩ := h (by rw [hcontrols]; rfl)
      refine ⟨[], by simp, ?_⟩
      rintro _ (⟨active, ha, -⟩ | ⟨_, hj, -⟩ | hstream)
      · rw [ha] at hactive
        cases hactive
      · rw [List.isEmpty_iff.mp hpending] at hj
        cases hj
      · exact Or.inl (Or.inr (Or.inr hstream))

theorem receive_answers : Answers s (s.receive e) := by
  unfold Bridge.receive
  split
  · exact .refl s
  · rename_i command _ _
    cases command with
    | Play | TranslationQueued | FlushSource => exact .of_streams (.refl _) rfl
    | TranslationStream command =>
      dsimp only
      unfold Bridge.receive_stream_command
      split
      · exact .of_streams (.refl _) rfl
      · exact .of_streams (PlaybackWorker.play_serves _ _ _ _).state.answers rfl

theorem goto_answers (place : Place) : Answers s (s.goto place) := .of_streams (.refl _) rfl

theorem work_answers (h : applies_rebind s = true →
      s.translation_queue.active.isNone ∧ s.translation_queue.pending.isEmpty) :
    Answers s (s.run_playback_worker e) := by
  unfold Bridge.run_playback_worker
  split
  · rename_i hplace
    apply apply_control_answers
    intro hrebind
    apply h
    simp [applies_rebind, hplace, hrebind]
  · exact Answers.of_streams (PlaybackWorker.start_buffered_serves _ _ _).state.answers rfl
  · exact Answers.of_streams (PlaybackWorker.finish_stream_serves _ _ _).state.answers rfl
  · exact (finish_translation_answers s e).trans (goto_answers _ _)
  · unfold Bridge.take_ready
    split
    · exact Answers.of_streams (PlaybackWorker.play_serves _ _ _ _).state.answers rfl
    · exact goto_answers _ _
  · exact (receive_answers s e).trans (goto_answers _ _)
  · rename_i hplace
    apply apply_control_answers
    intro hrebind
    apply h
    simp [applies_rebind, hplace, hrebind]
  · unfold Bridge.check_complete
    split
    · exact goto_answers _ _
    · exact goto_answers _ _
  · exact (start_next_answers s e).trans (goto_answers _ _)

/-! ## Streams -/

/-- An admitted frame keeps all streams in the ledger, and its own is one of them. -/
theorem admit_frame_keeps {ledger next : PhysicalTranslationStreamLedger} {cue_id : String}
    {chunk_index generation : Nat} {state : TranslationStreamState}
    {admission : PhysicalStreamAdmission}
    (h : ledger.admit_frame cue_id chunk_index state generation = some (next, admission))
    (hnew : admission ≠ .Duplicate) (habort : state ≠ .Abort) :
    cue_id ∈ next.active ∧ ∀ c ∈ ledger.active, c ∈ next.active := by
  obtain ⟨-, -, hcases⟩ := admit_frame_cases h hnew habort
  obtain ⟨-, -, -, hactive⟩ | ⟨_, -, -, -, -, ⟨-, hactive⟩ | ⟨-, hactive⟩⟩ := hcases
  all_goals
    rw [hactive]
    refine ⟨(AList.mem_insert _).mpr (Or.inl rfl), fun c hc => ?_⟩
    exact (AList.mem_insert _).mpr (Or.inr hc)

/-- A stream frame answers for all cues, and a start that goes to the channel is tracked. -/
theorem admit_answers (cue_id : String) (chunk_index : Nat) (stream_state : TranslationStreamState)
    (now_ms : Nat) :
    Answers s (s.admit_stream_frame frame cue_id chunk_index stream_state now_ms) ∧
      (s.admitted.length < (s.admit_stream_frame frame cue_id chunk_index stream_state
          now_ms).admitted.length →
        tracks (s.admit_stream_frame frame cue_id chunk_index stream_state now_ms) cue_id) := by
  unfold Bridge.admit_stream_frame
  split
  · exact ⟨.refl s, fun hlt => absurd hlt (Nat.lt_irrefl _)⟩
  · exact ⟨.refl s, fun hlt => absurd hlt (Nat.lt_irrefl _)⟩
  rename_i _ _ hnew hentry
  split
  · exact ⟨.of_streams (.claim _ _ _ rfl _) rfl, fun hlt => absurd hlt (Nat.lt_irrefl _)⟩
  rename_i habort
  dsimp only
  have harrival : Answers s s.next_arrival :=
    .of_streams ⟨[], by simp [Bridge.next_arrival], fun _ hc => Or.inl hc⟩ rfl
  cases hsend : s.next_arrival.try_send
      (.TranslationStream ⟨s.job_of frame now_ms, stream_state⟩) with
  | none => exact ⟨harrival, fun hlt => absurd hlt (Nat.lt_irrefl _)⟩
  | some _ =>
    unfold Bridge.try_send at hsend
    split at hsend
    · cases hsend
      obtain ⟨hin, hkeeps⟩ := admit_frame_keeps hentry hnew habort
      refine ⟨.of_streams ⟨[], by simp [Bridge.next_arrival], fun c hc => Or.inl ?_⟩ rfl,
        fun _ => Or.inr (Or.inr hin)⟩
      exact hkeeps c hc
    · cases hsend

theorem stream_frame_answers (stream_state : TranslationStreamState) (now_ms : Nat) :
    Answers s (s.handle_physical_translation_stream_frame frame stream_state now_ms) ∧
      (s.admitted.length < (s.handle_physical_translation_stream_frame frame stream_state
          now_ms).admitted.length →
        ∃ c, frame.cue_id = some c ∧
          tracks (s.handle_physical_translation_stream_frame frame stream_state now_ms) c) := by
  have hsame : Answers s s ∧ (s.admitted.length < s.admitted.length →
      ∃ c, frame.cue_id = some c ∧ tracks s c) :=
    ⟨.refl s, fun hlt => absurd hlt (Nat.lt_irrefl _)⟩
  unfold Bridge.handle_physical_translation_stream_frame
  split
  · rename_i cue_id chunk_index hcue _
    split
    · exact hsame
    split
    · exact hsame
    split
    · exact hsame
    split
    · exact hsame
    · obtain ⟨hanswers, htracks⟩ := admit_answers s frame cue_id chunk_index stream_state now_ms
      exact ⟨hanswers, fun hlt => ⟨cue_id, hcue, htracks hlt⟩⟩
  · exact hsame

theorem enqueue_accepted {job : PlaybackJob S} {now_ms : Nat}
    (h : (queue.enqueue job now_ms).2.2 = none) : job ∈ (queue.enqueue job now_ms).1.pending := by
  unfold TranslationPlaybackQueue.enqueue at *
  dsimp only at *
  split at h
  · cases h
  rename_i hroom
  rw [if_neg hroom]
  split at h
  · cases h
  rename_i hbudget
  rw [if_neg hbudget]
  exact List.mem_append_right _ (List.mem_singleton_self _)

theorem try_send_queue (command : PlaybackCommand S) :
    ((s.try_send command).getD s).translation_queue = s.translation_queue := by
  unfold Bridge.try_send
  split
  · rfl
  · rfl

variable {c : String}

theorem complete_frame_tracks (hcue : frame.cue_id = some c)
    (hqueued : ⟨frame.cue_id, .Queued, "accepted"⟩ ∈
      (s.handle_complete_frame frame now_ms).state.statuses.drop s.state.statuses.length) :
    tracks (s.handle_complete_frame frame now_ms) c := by
  unfold Bridge.handle_complete_frame at *
  split at hqueued
  · simp [BridgeState.emit_translation_status] at hqueued
  dsimp only at *
  split at hqueued
  · rw [Bridge.drop_jobs_eq] at hqueued
    simp [BridgeState.emit_translation_status, Bridge.next_arrival] at hqueued
  · rename_i haccepted
    right
    left
    refine ⟨s.job_of frame now_ms, ?_, hcue⟩
    rw [try_send_queue, Bridge.drop_jobs_eq]
    exact enqueue_accepted haccepted

theorem frame_answers : Answers s (s.handle_physical_translation_frame frame now_ms) := by
  unfold Bridge.handle_physical_translation_frame
  split
  · exact .refl s
  split
  · exact (stream_frame_answers s _ _ _).1
  · exact complete_frame_answers s _ _

theorem takes_nothing : takes s s frame = false := by
  unfold takes
  split
  · simp
  · rfl
  · simp

theorem frame_tracks (hcue : frame.cue_id = some c)
    (htakes : takes s (s.handle_physical_translation_frame frame now_ms) frame) :
    tracks (s.handle_physical_translation_frame frame now_ms) c := by
  unfold Bridge.handle_physical_translation_frame at *
  by_cases hready : frame.translation_playback_enabled = true ∧
      frame.translated_audio_enabled = true ∧ ¬ frame.physical_playback_ready = true
  · rw [if_pos hready, takes_nothing] at htakes
    cases htakes
  rw [if_neg hready] at *
  cases hstate : frame.stream_state with
  | some stream_state =>
    unfold takes at htakes
    rw [hstate] at htakes
    cases stream_state with
    | Start =>
      obtain ⟨_, hc', htracks⟩ := (stream_frame_answers s frame .Start now_ms).2
        (by simpa using htakes)
      rw [hcue] at hc'
      cases hc'
      exact htracks
    | Chunk => cases htakes
    | End => cases htakes
    | Abort => cases htakes
  | none =>
    unfold takes at htakes
    rw [hstate] at htakes
    exact complete_frame_tracks s frame now_ms hcue (by simpa using htakes)

/-! ## The service -/

/-- Every cue that is owed a terminal status is tracked and has an authority for it. -/
structure Accounts (v : BridgeService S) : Prop where
  tracked : ∀ c ∈ v.owed, is_tracked v c
  bound : ∀ c ∈ v.owed, c ∈ v.translation_cue_authorities

section

variable {v : BridgeService S}

theorem accounts_new (device_id : String) (authority : TranslationPlaybackAuthority) :
    Accounts (BridgeService.new device_id authority : BridgeService S) where
  tracked _ hc := absurd hc (Finset.notMem_empty _)
  bound _ hc := absurd hc (Finset.notMem_empty _)

/-- What an emission leaves owed: what was owed before and is not ended by it. -/
structure Settles (new : List TranslationStatus) (v v' : BridgeService S) : Prop where
  owed : ∀ c ∈ v'.owed, c ∈ v.owed ∧ ∀ status ∈ new, ¬ ends c status
  bound : ∀ c ∈ v'.owed, c ∈ v'.translation_cue_authorities
  bridge : v'.bridge = v.bridge
  ledger : v'.virtual_mic_cue_ledger = v.virtual_mic_cue_ledger

theorem Settles.trans {new new' : List TranslationStatus} {v' v'' : BridgeService S}
    (h : Settles new v v') (h' : Settles new' v' v'') : Settles (new ++ new') v v'' where
  owed c hc := by
    obtain ⟨hmid, hnot'⟩ := h'.owed c hc
    obtain ⟨hin, hnot⟩ := h.owed c hmid
    refine ⟨hin, fun status hs => ?_⟩
    obtain hs | hs := List.mem_append.mp hs
    · exact hnot status hs
    · exact hnot' status hs
  bound := h'.bound
  bridge := h'.bridge.trans h.bridge
  ledger := h'.ledger.trans h.ledger

theorem Settles.nothing (v : BridgeService S)
    (h : ∀ c ∈ v.owed, c ∈ v.translation_cue_authorities) : Settles [] v v :=
  ⟨fun _ hc => ⟨hc, fun _ hs => by cases hs⟩, h, rfl, rfl⟩

theorem Settles.with_authority (v : BridgeService S)
    (h : ∀ c ∈ v.owed, c ∈ v.translation_cue_authorities)
    (authority : TranslationPlaybackAuthority) (status : TranslationStatus) :
    Settles [status] v (v.emit_translation_status_with_authority authority status) := by
  have howed : ∀ c ∈ (v.emit_translation_status_with_authority authority status).owed,
      c ∈ v.owed ∧ ¬ ends c status := by
    intro c hc
    unfold BridgeService.emit_translation_status_with_authority at hc
    unfold ends
    split at hc
    · rename_i _ hcue
      split at hc
      · obtain ⟨hne, hin⟩ := Finset.mem_erase.mp hc
        refine ⟨hin, fun he => hne ?_⟩
        rw [hcue] at he
        exact (Option.some.inj he.1).symm
      · rename_i hstatus
        exact ⟨hc, fun he => hstatus he.2⟩
    · rename_i hcue
      refine ⟨hc, fun he => ?_⟩
      rw [hcue] at he
      cases he.1
  refine ⟨fun c hc => ⟨(howed c hc).1, ?_⟩, fun c hc => h c (howed c hc).1, rfl, rfl⟩
  intro status' hs
  rw [List.mem_singleton.mp hs]
  exact (howed c hc).2

theorem Settles.emit (v : BridgeService S)
    (h : ∀ c ∈ v.owed, c ∈ v.translation_cue_authorities)
    (status : TranslationStatus) : Settles [status] v (v.emit_translation_status status) := by
  unfold BridgeService.emit_translation_status
  split
  · rename_i hcue
    refine ⟨fun c hc => ⟨hc, ?_⟩, h, rfl, rfl⟩
    intro status' hs he
    rw [List.mem_singleton.mp hs, ends, hcue] at he
    cases he.1
  · rename_i _ hcue
    split
    · rename_i hlookup
      -- without an authority the cue is not owed a status
      refine ⟨fun c hc => ⟨hc, ?_⟩, h, rfl, rfl⟩
      intro status' hs he
      rw [List.mem_singleton.mp hs, ends, hcue] at he
      cases he.1
      exact AList.lookup_eq_none.mp hlookup (h _ hc)
    · rename_i authority hlookup
      have hsettles := Settles.with_authority v h authority status
      refine ⟨hsettles.owed, ?_, rfl, rfl⟩
      intro c hc
      obtain ⟨hin, hnot⟩ := hsettles.owed c hc
      split
      · rename_i hterminal
        refine AList.mem_erase.mpr ⟨fun hce => hnot status (List.mem_singleton_self _) ?_, h c hin⟩
        rw [hce]
        exact ⟨hcue, hterminal⟩
      · exact h c hin

theorem Settles.emit_all (v : BridgeService S)
    (h : ∀ c ∈ v.owed, c ∈ v.translation_cue_authorities) (new : List TranslationStatus) :
    Settles new v (new.foldl BridgeService.emit_translation_status v) := by
  induction new generalizing v with
  | nil => exact .nothing v h
  | cons status new ih =>
    have hfirst := Settles.emit v h status
    exact hfirst.trans (ih _ hfirst.bound)

variable {bridge : Bridge S}

/-- A cue that is owed a status is tracked after the step of the Bridge, or the step ends it. -/
theorem Accounts.of_report (hbound : ∀ c ∈ v.owed, c ∈ v.translation_cue_authorities)
    (hcues : ∀ c ∈ v.owed, is_tracked { v with bridge } c ∨
      ∃ status ∈ bridge.state.statuses.drop v.bridge.state.statuses.length, ends c status) :
    Accounts (v.report bridge) := by
  have hsettles := Settles.emit_all { v with bridge } hbound
    (bridge.state.statuses.drop v.bridge.state.statuses.length)
  refine ⟨?_, hsettles.bound⟩
  intro c hc
  obtain ⟨hin, hnot⟩ := hsettles.owed c hc
  obtain htracked | ⟨status, hs, he⟩ := hcues c hin
  · unfold is_tracked at *
    unfold BridgeService.report
    rw [hsettles.bridge, hsettles.ledger]
    exact htracked
  · exact absurd he (hnot status hs)

theorem Accounts.report (h : Accounts v) (hanswers : Answers v.bridge bridge) :
    Accounts (v.report bridge) := by
  obtain ⟨_, heq, hcues⟩ := hanswers
  apply Accounts.of_report h.bound
  intro c hc
  rw [heq, List.drop_left]
  obtain htracks | hmic := h.tracked c hc
  · exact (hcues c htracks).imp Or.inl id
  · exact Or.inl (Or.inr hmic)

/-- The ledger of the virtual microphone lets go of one cue, and its status is emitted. -/
theorem Accounts.release (h : Accounts v) {ledger : VirtualMicCueLedger} {key : VirtualMicKey}
    (hkeys : ∀ k ∈ v.virtual_mic_cue_ledger.active, k = key ∨ k ∈ ledger.active)
    {new : List TranslationStatus} {v' : BridgeService S}
    (hsettles : Settles new { v with virtual_mic_cue_ledger := ledger } v')
    (hends : ∃ status ∈ new, ends key.cue_id status) : Accounts v' := by
  refine ⟨?_, hsettles.bound⟩
  intro c hc
  obtain ⟨hin, hnot⟩ := hsettles.owed c hc
  unfold is_tracked
  rw [hsettles.bridge, hsettles.ledger]
  obtain htracks | ⟨k, hk, hcue⟩ := h.tracked c hin
  · exact Or.inl htracks
  · obtain rfl | hk' := hkeys k hk
    · obtain ⟨status, hs, he⟩ := hends
      rw [hcue] at he
      exact absurd he (hnot status hs)
    · exact Or.inr ⟨k, hk', hcue⟩

/-- The ledger of the virtual microphone keeps its cues. -/
theorem Accounts.set_ledger (h : Accounts v) {ledger : VirtualMicCueLedger}
    (hkeys : ∀ k ∈ v.virtual_mic_cue_ledger.active, k ∈ ledger.active) :
    Accounts { v with virtual_mic_cue_ledger := ledger } where
  tracked c hc := (h.tracked c hc).imp id fun ⟨k, hk, hcue⟩ => ⟨k, hkeys k hk, hcue⟩
  bound := h.bound

theorem Accounts.settle (h : Accounts v) {new : List TranslationStatus} {v' : BridgeService S}
    (hsettles : Settles new v v') : Accounts v' := by
  refine ⟨fun c hc => ?_, hsettles.bound⟩
  unfold is_tracked
  rw [hsettles.bridge, hsettles.ledger]
  exact h.tracked c (hsettles.owed c hc).1

/-! ## The virtual microphone -/

theorem complete_terminal_keys (ledger : VirtualMicCueLedger) (key : VirtualMicKey) :
    ∀ k ∈ ledger.active, k = key ∨ k ∈ (ledger.complete_terminal key).1.active := by
  intro k hk
  unfold VirtualMicCueLedger.complete_terminal
  split
  · exact Or.inr hk
  · by_cases hkey : k = key
    · exact Or.inl hkey
    · exact Or.inr (AList.mem_erase.mpr ⟨hkey, hk⟩)

theorem Accounts.end_cue (h : Accounts v) (key : VirtualMicKey)
    (hterminal : status.is_terminal = true) (reason : String) :
    Accounts (v.end_virtual_mic_cue key status reason) := by
  unfold BridgeService.end_virtual_mic_cue
  dsimp only
  split
  · have hemit := Settles.emit { v with virtual_mic_cue_ledger :=
      (v.virtual_mic_cue_ledger.complete_terminal key).1 } h.bound
      ⟨some key.cue_id, status, reason⟩
    exact h.release (complete_terminal_keys _ key) hemit
      ⟨_, List.mem_singleton_self _, rfl, hterminal⟩
  · rename_i hended
    apply h.set_ledger
    intro k hk
    unfold VirtualMicCueLedger.complete_terminal at *
    split
    · exact hk
    · rename_i hnew
      rw [if_neg hnew] at hended
      exact absurd rfl hended

theorem begin_keys {ledger next : VirtualMicCueLedger} {key : VirtualMicKey}
    {chunk_index chunk_count : Nat} {admission : VirtualMicChunkAdmission}
    (h : ledger.begin key chunk_index chunk_count = .ok (next, admission)) :
    (∀ k ∈ ledger.active, k ∈ next.active) ∧
      ∀ emit_queued, admission = .Write emit_queued → key ∈ next.active := by
  unfold VirtualMicCueLedger.begin at h
  split at h
  · cases h
    exact ⟨fun _ hk => hk, fun _ heq => by cases heq⟩
  split at h
  · split at h
    · cases h
    · cases h
      refine ⟨fun k hk => (AList.mem_insert _).mpr (Or.inr hk), fun _ _ => ?_⟩
      exact (AList.mem_insert _).mpr (Or.inl rfl)
  · split at h
    · cases h
    split at h
    · cases h
      exact ⟨fun _ hk => hk, fun _ heq => by cases heq⟩
    split at h
    · cases h
    · cases h
      refine ⟨fun k hk => (AList.mem_insert _).mpr (Or.inr hk), fun _ _ => ?_⟩
      exact (AList.mem_insert _).mpr (Or.inl rfl)

theorem Accounts.accept (h : Accounts v) {o : Option String}
    (hcue : ∀ c, o = some c → is_blank c = false →
      is_tracked v c ∧ c ∈ v.translation_cue_authorities) : Accounts (v.accept o) := by
  unfold BridgeService.accept
  split
  · exact h
  · rename_i cue_id
    split
    · exact h
    · rename_i hblank
      obtain ⟨htracked, hbound⟩ := hcue cue_id rfl (by simpa using hblank)
      refine ⟨fun c hc => ?_, fun c hc => ?_⟩
      · obtain rfl | hin := Finset.mem_insert.mp hc
        · exact htracked
        · exact h.tracked c hin
      · obtain rfl | hin := Finset.mem_insert.mp hc
        · exact hbound
        · exact h.bound c hin

theorem Accounts.virtual_mic_frame (h : Accounts v) (authority : TranslationPlaybackAuthority)
    (frame : VirtualMicFrame S)
    (hbound : is_blank frame.cue_id = false →
      frame.cue_id ∈ v.translation_cue_authorities) :
    Accounts (v.handle_virtual_mic_frame authority frame) := by
  unfold BridgeService.handle_virtual_mic_frame
  dsimp only
  split
  · exact h.end_cue _ rfl _
  split
  · exact h.end_cue _ rfl _
  · exact h
  · rename_i ledger emit_queued hbegin
    obtain ⟨hkeys, hkey⟩ := begin_keys hbegin
    have hbegun := h.set_ledger hkeys
    split
    · exact hbegun.end_cue _ rfl _
    · have hqueued : Accounts (if emit_queued = true then
          (BridgeService.accept { v with virtual_mic_cue_ledger := ledger }
            (some frame.cue_id)).emit_translation_status
              ⟨some frame.cue_id, .Queued, "virtual-mic-write-queued"⟩
          else { v with virtual_mic_cue_ledger := ledger }) := by
        split
        · have haccepted := hbegun.accept (o := some frame.cue_id) fun _ hc hblank => by
            cases hc
            exact ⟨Or.inr ⟨_, hkey _ rfl, rfl⟩, hbound hblank⟩
          exact haccepted.settle (Settles.emit _ haccepted.bound _)
        · exact hbegun
      exact ⟨hqueued.tracked, hqueued.bound⟩

theorem complete_success_keys (ledger : VirtualMicCueLedger) (key : VirtualMicKey)
    (chunk_index : Nat) :
    ∀ k ∈ ledger.active, k ∈ (ledger.complete_success key chunk_index).1.active ∨
      (k = key ∧ ((ledger.complete_success key chunk_index).2.getD (false, false)).2 = true) := by
  intro k hk
  unfold VirtualMicCueLedger.complete_success
  split
  · exact Or.inl hk
  split
  · exact Or.inl hk
  dsimp only
  split
  · by_cases hkey : k = key
    · exact Or.inr ⟨hkey, rfl⟩
    · exact Or.inl (AList.mem_erase.mpr ⟨hkey, hk⟩)
  · exact Or.inl ((AList.mem_insert _).mpr (Or.inr hk))

theorem Accounts.finish_write (h : Accounts v) (w : VirtualMicWrite) (succeeds : Bool) :
    Accounts (v.finish_write w succeeds) := by
  unfold BridgeService.finish_write
  split
  · have hemit := Settles.with_authority { v with virtual_mic_cue_ledger :=
      (v.virtual_mic_cue_ledger.complete_terminal w.key).1 } h.bound w.key.authority
      ⟨some w.key.cue_id, .RouteFailed, "virtual-mic-authority-superseded-during-write"⟩
    exact h.release (complete_terminal_keys _ w.key) hemit
      ⟨_, List.mem_singleton_self _, rfl, rfl⟩
  split
  · exact h.end_cue _ rfl _
  dsimp only
  have hkeys := complete_success_keys v.virtual_mic_cue_ledger w.key w.chunk_index
  have hstarted : ∃ new, Settles new { v with virtual_mic_cue_ledger :=
      (v.virtual_mic_cue_ledger.complete_success w.key w.chunk_index).1 }
      (if ((v.virtual_mic_cue_ledger.complete_success w.key w.chunk_index).2.getD
          (false, false)).1 = true then
        BridgeService.emit_translation_status { v with virtual_mic_cue_ledger :=
          (v.virtual_mic_cue_ledger.complete_success w.key w.chunk_index).1 }
          ⟨some w.key.cue_id, .Started, "virtual-mic-write-started"⟩
      else { v with virtual_mic_cue_ledger :=
        (v.virtual_mic_cue_ledger.complete_success w.key w.chunk_index).1 }) := by
    have hemit := Settles.emit { v with virtual_mic_cue_ledger :=
      (v.virtual_mic_cue_ledger.complete_success w.key w.chunk_index).1 } h.bound
      ⟨some w.key.cue_id, .Started, "virtual-mic-write-started"⟩
    split
    · exact ⟨_, hemit⟩
    · exact ⟨_, Settles.nothing _ h.bound⟩
  obtain ⟨new, hsettles⟩ := hstarted
  split
  · have hended := hsettles.trans (Settles.emit _ hsettles.bound
      ⟨some w.key.cue_id, .Completed, "virtual-mic-written"⟩)
    exact h.release (fun k hk => ((hkeys k hk).imp id And.left).symm) hended
      ⟨_, List.mem_append_right _ (List.mem_singleton_self _), rfl, rfl⟩
  · rename_i hgoing
    refine Accounts.settle (h.set_ledger fun k hk => ?_) hsettles
    exact (hkeys k hk).resolve_right fun hdone => hgoing hdone.2

/-! ## The steps of the service -/

theorem Accounts.bind (h : Accounts v) (o : Option String)
    (authority : TranslationPlaybackAuthority) :
    Accounts (v.bind_translation_cue_authority o authority) := by
  unfold BridgeService.bind_translation_cue_authority
  split
  · exact h
  split
  · exact h
  · exact ⟨h.tracked, fun c hc => (AList.mem_insert _).mpr (Or.inr (h.bound c hc))⟩

theorem bind_binds (hblank : is_blank c = false)
    (authority : TranslationPlaybackAuthority) :
    c ∈ (v.bind_translation_cue_authority (some c) authority).translation_cue_authorities := by
  unfold BridgeService.bind_translation_cue_authority
  dsimp only
  rw [if_neg (by rw [hblank]; exact Bool.false_ne_true)]
  exact (AList.mem_insert _).mpr (Or.inl rfl)

section

variable (h : Accounts v)

include h

/-- A cue is accepted in the step of the Bridge that takes it. -/
theorem Accounts.accept_report (hanswers : Answers v.bridge bridge) {o : Option String}
    (hcue : ∀ c, o = some c → is_blank c = false →
      tracks bridge c ∧ c ∈ v.translation_cue_authorities) :
    Accounts ((v.accept o).report bridge) := by
  unfold BridgeService.accept
  split
  · exact h.report hanswers
  rename_i cue_id
  split
  · exact h.report hanswers
  rename_i hblank
  obtain ⟨htracks, hbound⟩ := hcue cue_id rfl (by simpa using hblank)
  obtain ⟨_, heq, hcues⟩ := hanswers
  apply Accounts.of_report
  · intro c hc
    obtain rfl | hin := Finset.mem_insert.mp hc
    · exact hbound
    · exact h.bound c hin
  · intro c hc
    obtain rfl | hin := Finset.mem_insert.mp hc
    · exact Or.inl (Or.inl htracks)
    · rw [heq, List.drop_left]
      obtain htracks | hmic := h.tracked c hin
      · exact (hcues c htracks).imp Or.inl id
      · exact Or.inl (Or.inr hmic)

theorem Accounts.physical_frame (authority : TranslationPlaybackAuthority)
    (frame : TranslationFrame S) (now_ms : Nat) :
    Accounts (v.handle_physical_frame authority frame now_ms) := by
  unfold BridgeService.handle_physical_frame
  split
  · exact h
  split
  · exact h
  dsimp only
  have hbind := h.bind frame.cue_id authority
  have hanswers := frame_answers
    (v.bind_translation_cue_authority frame.cue_id authority).bridge frame now_ms
  split
  · rename_i htakes
    apply hbind.accept_report hanswers
    intro c hc hblank
    refine ⟨frame_tracks _ frame now_ms hc htakes, ?_⟩
    rw [hc]
    exact bind_binds hblank authority
  · exact hbind.report hanswers

theorem Accounts.virtual_mic_client (authority : TranslationPlaybackAuthority)
    (frame : VirtualMicFrame S) : Accounts (v.handle_virtual_mic_client authority frame) := by
  unfold BridgeService.handle_virtual_mic_client
  split
  · exact h
  split
  · exact h
  · exact (h.bind _ authority).virtual_mic_frame authority frame fun hblank =>
      bind_binds hblank authority

theorem Accounts.init (device_id : String) (reason : Option String) (reset requested : Bool)
    (hempty : (reset = true ∨ v.virtual_mic_output_requested ≠ requested) →
      v.virtual_mic_cue_ledger.active.keys = []) :
    Accounts (v.handle_bridge_init device_id reason reset requested) := by
  have hledger : Accounts { v with
      virtual_mic_cue_ledger :=
        if reset = true ∨ v.virtual_mic_output_requested ≠ requested then .new
        else v.virtual_mic_cue_ledger } := by
    apply h.set_ledger
    intro k hk
    split
    · rename_i hreset
      rw [AList.mem_keys, hempty hreset] at hk
      cases hk
    · exact hk
  have hset : Accounts { v with
      virtual_mic_cue_ledger :=
        if reset = true ∨ v.virtual_mic_output_requested ≠ requested then .new
        else v.virtual_mic_cue_ledger
      virtual_mic_output_requested := requested } := ⟨hledger.tracked, hledger.bound⟩
  exact hset.report (init_answers v.bridge device_id reason reset)

theorem Accounts.shutdown
    (hstreams : v.bridge.state.physical_translation_stream_ledger.active.keys = [])
    (hempty : v.virtual_mic_cue_ledger.active.keys = []) : Accounts v.handle_bridge_shutdown := by
  have hledger : Accounts { v with virtual_mic_cue_ledger := .new } := by
    apply h.set_ledger
    intro k hk
    rw [AList.mem_keys, hempty] at hk
    cases hk
  exact hledger.report ((reset_answers v.bridge hstreams).trans (stop_answers _ _ _))

theorem Accounts.step (op : ServiceOp S) (hok : forgets_nothing v op) :
    Accounts (ServiceOp.step v op) := by
  cases op with
  | physical_frame authority frame now_ms => exact h.physical_frame authority frame now_ms
  | virtual_mic_frame authority frame => exact h.virtual_mic_client authority frame
  | written i succeeds =>
    unfold ServiceOp.step
    dsimp only
    split
    · exact h
    · have hwrites : Accounts { v with writes := v.writes.eraseIdx i } := ⟨h.tracked, h.bound⟩
      exact hwrites.finish_write _ succeeds
  | bridge_init device_id reason reset requested => exact h.init device_id reason reset requested hok
  | bridge_shutdown => exact h.shutdown hok.1 hok.2
  | request_playback_stop reason error_code =>
    exact h.report (stop_answers v.bridge reason error_code)
  | rebind device_id => exact h.report (.of_streams (.refl _) rfl)
  | source_frame => exact h.report (try_send_answers v.bridge _)
  | flush_source => exact h.report (try_send_answers v.bridge _)
  | set_authority authority => exact ⟨h.tracked, h.bound⟩
  | work e => exact h.report (work_answers v.bridge e hok)

end

end

/-! ## Main results -/

/-- In a run that forgets nothing, a cue that was accepted is tracked until its terminal status. -/
theorem accepted_cues_are_tracked_until_their_end (device_id : String)
    (authority : TranslationPlaybackAuthority) (ops : List (ServiceOp S))
    (hops : Along ServiceOp.step forgets_nothing (BridgeService.new device_id authority) ops) :
    ∀ c ∈ (run ServiceOp.step (BridgeService.new device_id authority) ops).owed,
      is_tracked (run ServiceOp.step (BridgeService.new device_id authority) ops) c :=
  (hops.keeps Accounts (fun _ op h hok => h.step op hok) (accounts_new device_id authority)).tracked

instance (s : BridgeService S) : (op : ServiceOp S) → Decidable (forgets_nothing s op)
  | .bridge_shutdown => inferInstanceAs (Decidable (_ ∧ _))
  | .bridge_init _ _ _ _ => inferInstanceAs (Decidable (_ → _))
  | .work _ => inferInstanceAs (Decidable (_ → _))
  | .physical_frame _ _ _ => isTrue trivial
  | .virtual_mic_frame _ _ => isTrue trivial
  | .written _ _ => isTrue trivial
  | .request_playback_stop _ _ => isTrue trivial
  | .rebind _ => isTrue trivial
  | .source_frame => isTrue trivial
  | .flush_source => isTrue trivial
  | .set_authority _ => isTrue trivial

def an_authority : TranslationPlaybackAuthority := ⟨"session", "bridge", 1, "token", 1, "speakers"⟩

/-- The start of a stream for the physical output. -/
def a_stream_start : ServiceOp Nat :=
  .physical_frame an_authority
    ⟨some "stream", [1], none, some .Start, some 0, true, true, true⟩ 5000

/-- The Bridge is shut down while a stream is active: nothing tracks the cue any more, and no
terminal status has been emitted. -/
theorem a_shutdown_forgets_an_active_stream :
    ∃ v, v = run ServiceOp.step (BridgeService.new "speakers" an_authority)
        [a_stream_start, .bridge_shutdown] ∧
      "stream" ∈ v.owed ∧ (∀ status ∈ v.emitted, status.2.status.is_terminal = false) ∧
        ¬ is_tracked v "stream" := by
  refine ⟨_, rfl, by decide +kernel, by decide +kernel, ?_⟩
  rintro ((⟨active, hactive, -⟩ | ⟨job, hjob, -⟩ | hstream) | ⟨key, hkey, -⟩)
  · have hidle : (run ServiceOp.step (BridgeService.new "speakers" an_authority)
        [a_stream_start, .bridge_shutdown]).bridge.translation_queue.active.isNone = true := by
      decide +kernel
    rw [hactive] at hidle
    cases hidle
  · exact absurd (List.isEmpty_eq_false_iff_exists_mem.mpr ⟨job, hjob⟩) (by decide +kernel)
  · exact absurd hstream (by decide +kernel)
  · rw [AList.mem_keys] at hkey
    exact absurd (List.isEmpty_eq_false_iff_exists_mem.mpr ⟨key, hkey⟩) (by decide +kernel)

/-- A stream is stopped, a cue is written to the virtual microphone, and then the Bridge is shut
down. -/
def a_stop_before_the_shutdown : List (ServiceOp Nat) :=
  [.bridge_init "speakers" none false true, a_stream_start,
    .virtual_mic_frame an_authority ⟨"voice", 0, 1, [1], true⟩,
    .request_playback_stop "stopped" none, .written 0 true, .bridge_shutdown]

theorem a_stopped_stream_is_ended :
    (∀ c ∈ (run ServiceOp.step (BridgeService.new "speakers" an_authority)
        a_stop_before_the_shutdown).owed,
      is_tracked (run ServiceOp.step (BridgeService.new "speakers" an_authority)
        a_stop_before_the_shutdown) c) ∧
      (run ServiceOp.step (BridgeService.new "speakers" an_authority)
        a_stop_before_the_shutdown).emitted.map (fun status => (status.2.cue_id, status.2.status)) =
        [(some "voice", .Queued), (some "stream", .StaleDropped), (some "voice", .Started),
          (some "voice", .Completed)] :=
  ⟨accepted_cues_are_tracked_until_their_end "speakers" an_authority a_stop_before_the_shutdown
    (by decide +kernel), by decide +kernel⟩

end omni_translate.playback

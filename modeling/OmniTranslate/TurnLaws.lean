-- Whose turn it is. A stream and a complete cue are never active together, and the two kinds
-- start in the order of their arrival, unless the complete cues before a stream expire
-- between the comparison of the two heads and the start.
import OmniTranslate.StreamOrder

namespace omni_translate.playback

open runs
open bridge_playback_ack (TranslationPlaybackStatusKind)

variable {S : Type}

/-! ## What the handlers do to the queue -/

/-- A handler leaves the worker alone. It may drop cues that wait, end the one that is active, and
append one that arrives. -/
structure Arrives (s t : Bridge S) : Prop where
  worker : t.worker = s.worker
  active : t.translation_queue.active = s.translation_queue.active ∨
    t.translation_queue.active = none
  sequence : s.state.translation_arrival_sequence ≤ t.state.translation_arrival_sequence
  pending : ∃ kept, kept.Sublist s.translation_queue.pending ∧
    (t.translation_queue.pending = kept ∨
      ∃ job, t.translation_queue.pending = kept ++ [job] ∧
        s.state.translation_arrival_sequence < job.translation_arrival_sequence ∧
        job.translation_arrival_sequence ≤ t.state.translation_arrival_sequence)

section

variable (s : Bridge S)

theorem Arrives.of_state {t : Bridge S} (hworker : t.worker = s.worker)
    (hqueue : t.translation_queue = s.translation_queue)
    (hsequence : s.state.translation_arrival_sequence ≤ t.state.translation_arrival_sequence) :
    Arrives s t where
  worker := hworker
  active := Or.inl (by rw [hqueue])
  sequence := hsequence
  pending := ⟨_, List.Sublist.refl _, Or.inl (by rw [hqueue])⟩

theorem Arrives.refl : Arrives s s := .of_state s rfl rfl (Nat.le_refl _)

theorem try_send_arrives (command : PlaybackCommand S) :
    Arrives s ((s.try_send command).getD s) := by
  unfold Bridge.try_send
  split
  · exact .of_state s rfl rfl (Nat.le_refl _)
  · exact .refl s

variable (frame : TranslationFrame S)

theorem admit_stream_frame_arrives (cue_id : String) (chunk_index : Nat)
    (stream_state : TranslationStreamState) (now_ms : Nat) :
    Arrives s (s.admit_stream_frame frame cue_id chunk_index stream_state now_ms) := by
  unfold Bridge.admit_stream_frame
  split
  · exact .refl s
  · exact .refl s
  split
  · exact .of_state s rfl rfl (Nat.le_of_eq (BridgeState.claim_terminal_status_sequence _ _ _ _ _).symm)
  dsimp only
  unfold Bridge.try_send
  split
  · rename_i hsent
    split at hsent
    · cases hsent
    · exact .of_state s rfl rfl (Nat.le_succ _)
  · rename_i _ hsent
    split at hsent
    · cases hsent
      exact .of_state s rfl rfl (Nat.le_succ _)
    · cases hsent

theorem stream_frame_arrives (stream_state : TranslationStreamState) (now_ms : Nat) :
    Arrives s (s.handle_physical_translation_stream_frame frame stream_state now_ms) := by
  unfold Bridge.handle_physical_translation_stream_frame
  split
  · split
    · exact .refl s
    split
    · exact .refl s
    split
    · exact .refl s
    split
    · exact .refl s
    · apply admit_stream_frame_arrives
  · exact .refl s

theorem drain_jobs_sublist (projected_start_ms : Nat) (jobs : List (PlaybackJob S)) :
    (TranslationPlaybackQueue.drain_jobs projected_start_ms jobs).1.Sublist jobs := by
  induction jobs generalizing projected_start_ms with
  | nil => exact List.Sublist.refl _
  | cons job jobs ih =>
    unfold TranslationPlaybackQueue.drain_jobs
    split
    · exact (ih _).cons job
    · exact (ih _).cons_cons job

theorem enqueue_sublist (queue : TranslationPlaybackQueue S) (job : PlaybackJob S) (now_ms : Nat) :
    (queue.enqueue job now_ms).1.active = queue.active ∧
      ∃ kept, kept.Sublist queue.pending ∧ ((queue.enqueue job now_ms).1.pending = kept ∨
        (queue.enqueue job now_ms).1.pending = kept ++ [job]) := by
  have hkept := drain_jobs_sublist (queue.active_end_ms now_ms) queue.pending
  unfold TranslationPlaybackQueue.enqueue TranslationPlaybackQueue.drain_expired_pending
  dsimp only
  split
  · exact ⟨rfl, _, hkept, Or.inl rfl⟩
  split
  · exact ⟨rfl, _, hkept, Or.inl rfl⟩
  · exact ⟨rfl, _, hkept, Or.inr rfl⟩

theorem complete_frame_arrives (now_ms : Nat) :
    Arrives s (s.handle_complete_frame frame now_ms) := by
  unfold Bridge.handle_complete_frame
  split
  · exact .of_state s rfl rfl (Nat.le_refl _)
  obtain ⟨hactive, kept, hkept, hpending⟩ :=
    enqueue_sublist s.translation_queue (s.job_of frame now_ms) now_ms
  -- whatever the answer, the queue is the one that `enqueue` leaves
  have hfields : ∀ t : Bridge S, t.worker = s.worker →
      t.translation_queue = (s.translation_queue.enqueue (s.job_of frame now_ms) now_ms).1 →
      t.state.translation_arrival_sequence = s.state.translation_arrival_sequence + 1 →
      Arrives s t := by
    intro t hworker hqueue hsequence
    refine ⟨hworker, Or.inl (by rw [hqueue, hactive]), by omega, kept, hkept, ?_⟩
    rw [hqueue]
    refine hpending.imp id fun heq => ⟨_, heq, ?_, ?_⟩
    · exact Nat.lt_succ_self _
    · rw [hsequence]
      exact Nat.le_refl _
  dsimp only
  rw [Bridge.drop_jobs_eq]
  split
  · exact hfields _ rfl rfl rfl
  · unfold Bridge.try_send
    split
    · exact hfields _ rfl rfl rfl
    · exact hfields _ rfl rfl rfl

theorem frame_arrives (now_ms : Nat) :
    Arrives s (s.handle_physical_translation_frame frame now_ms) := by
  unfold Bridge.handle_physical_translation_frame
  split
  · exact .refl s
  split
  · apply stream_frame_arrives
  · apply complete_frame_arrives

theorem stop_arrives (reason : String) (error_code : Option String) :
    Arrives s (s.request_playback_stop reason error_code) := by
  unfold Bridge.request_playback_stop
  dsimp only
  rw [BridgeState.emit_all]
  exact ⟨rfl, Or.inr rfl, Nat.le_refl _, [], List.nil_sublist _, Or.inl rfl⟩

theorem init_arrives (device_id : String) (reason : Option String) (reset : Bool) :
    Arrives s (s.handle_bridge_init device_id reason reset) := by
  unfold Bridge.handle_bridge_init
  dsimp only
  split
  · have hstop := stop_arrives
      { s with state := { s.state with physical_playback_device_id := device_id } }
      (reason.getD "bridge-init-owner-change") none
    exact ⟨hstop.worker, hstop.active, hstop.sequence, hstop.pending⟩
  split
  · exact .of_state s rfl rfl (Nat.le_refl _)
  · exact .of_state s rfl rfl (Nat.le_refl _)

end

/-! ## The invariant -/

/-- The two kinds exclude each other, and the complete cues wait in the order of their arrival. -/
structure Turns (s : Bridge S) : Prop where
  exclusive : s.worker.physical_stream.isSome → s.translation_queue.active = none
  chosen : s.worker.place = .start_next →
    s.worker.physical_stream = none ∧ s.translation_queue.active = none
  ordered : s.translation_queue.pending.Pairwise
    fun earlier later =>
      earlier.translation_arrival_sequence < later.translation_arrival_sequence
  arrived : ∀ job ∈ s.translation_queue.pending,
    job.translation_arrival_sequence ≤ s.state.translation_arrival_sequence

variable {command : PhysicalTranslationStreamCommand S}

section

variable {s : Bridge S}

theorem turns_new (device_id : String) : Turns (Bridge.new device_id : Bridge S) where
  exclusive h := by cases h
  chosen h := by cases h
  ordered := List.Pairwise.nil
  arrived _ hj := by cases hj

section

variable (h : Turns s)

include h

theorem Turns.arrive {t : Bridge S} (ha : Arrives s t) : Turns t := by
  have hactive : s.translation_queue.active = none → t.translation_queue.active = none := by
    intro hnone
    obtain heq | heq := ha.active
    · rw [heq, hnone]
    · exact heq
  obtain ⟨kept, hkept, hpending⟩ := ha.pending
  have hbefore : ∀ job ∈ kept,
      job.translation_arrival_sequence ≤ s.state.translation_arrival_sequence :=
    fun job hj => h.arrived job (hkept.subset hj)
  refine ⟨?_, ?_, ?_, ?_⟩
  · intro hstream
    rw [ha.worker] at hstream
    exact hactive (h.exclusive hstream)
  · intro hplace
    rw [ha.worker] at *
    exact ⟨(h.chosen hplace).1, hactive (h.chosen hplace).2⟩
  · obtain heq | ⟨job, heq, hlt, -⟩ := hpending
    · rw [heq]
      exact h.ordered.sublist hkept
    · rw [heq, List.pairwise_append]
      refine ⟨h.ordered.sublist hkept, List.pairwise_singleton _ _, ?_⟩
      intro earlier he later hl
      rw [List.mem_singleton.mp hl]
      exact Nat.lt_of_le_of_lt (hbefore earlier he) hlt
  · intro job hj
    obtain heq | ⟨_, heq, -, hle⟩ := hpending
    · rw [heq] at hj
      exact (hbefore job hj).trans ha.sequence
    · rw [heq, List.mem_append, List.mem_singleton] at hj
      obtain hin | rfl := hj
      · exact (hbefore job hin).trans ha.sequence
      · exact hle

/-- The worker goes to another place and may drop its stream; the queue stays. -/
theorem Turns.set_worker {w : PlaybackWorker S} {b : BridgeState}
    (hstream : w.physical_stream.isSome → s.translation_queue.active = none)
    (hplace : w.place = .start_next →
      w.physical_stream = none ∧ s.translation_queue.active = none)
    (hsequence : b.translation_arrival_sequence = s.state.translation_arrival_sequence) :
    Turns { s with worker := w, state := b } where
  exclusive := hstream
  chosen := hplace
  ordered := h.ordered
  arrived job hj := (h.arrived job hj).trans (Nat.le_of_eq hsequence.symm)

/-- The queue keeps a part of its cues and is idle or as it was. -/
theorem Turns.set_queue {q : TranslationPlaybackQueue S}
    (hactive : q.active = s.translation_queue.active ∨ q.active = none)
    (hpending : q.pending.Sublist s.translation_queue.pending) :
    Turns { s with translation_queue := q } :=
  h.arrive ⟨rfl, hactive, Nat.le_refl _, _, hpending, Or.inl rfl⟩

theorem Turns.goto {place : Place} (hplace : place = .start_next →
      s.worker.physical_stream = none ∧ s.translation_queue.active = none) :
    Turns (s.goto place) := by
  have hworker := h.set_worker (w := { s.worker with place }) (b := s.state) h.exclusive hplace rfl
  exact hworker

/-! ## The places of the loop -/

/-- The worker leaves the queue alone and goes to a place before the choice. -/
theorem Turns.move {t : Bridge S} {place : Place}
    (hqueue : t.translation_queue = s.translation_queue)
    (hsequence : t.state.translation_arrival_sequence = s.state.translation_arrival_sequence)
    (hstream : t.worker.physical_stream.isSome → s.translation_queue.active = none)
    (hplace : place ≠ .start_next) : Turns (t.goto place) where
  exclusive hsome := by
    rw [← hqueue] at hstream
    exact hstream hsome
  chosen heq := absurd heq hplace
  ordered := by
    have hordered := h.ordered
    rw [← hqueue] at hordered
    exact hordered
  arrived job hj := by
    have harrived := h.arrived job
    rw [← hqueue, ← hsequence] at harrived
    exact harrived hj

variable (e : Outside)

theorem Turns.apply_control {next : Place} (hnext : next ≠ .start_next)
    (hplace : s.worker.place ≠ .start_next) : Turns (s.apply_playback_control_commands e next) := by
  unfold Bridge.apply_playback_control_commands
  split
  · exact h.goto fun heq => absurd heq hnext
  rename_i command controls _
  have hidle : ∀ w : PlaybackWorker S, w.physical_stream = none → w.place = s.worker.place →
      Turns { s with worker := w, controls := controls } := by
    intro w hw hp
    have hworker := h.set_worker (w := w) (b := s.state) (by simp [hw])
      (fun heq => absurd (hp ▸ heq) hplace) rfl
    exact ⟨hworker.exclusive, hworker.chosen, hworker.ordered, hworker.arrived⟩
  cases command with
  | StopAll _ => exact hidle _ rfl rfl
  | RebindPhysicalOutput device_id =>
    have hrebound := hidle (s.worker.rebind_physical_output device_id e) rfl rfl
    exact hrebound.set_queue (Or.inr rfl) (List.nil_sublist _)
  | TerminateTranslationStream cue_id =>
    have hworker := h.set_worker (w := s.worker.terminate_translation_stream cue_id) (b := s.state)
      (by
        unfold PlaybackWorker.terminate_translation_stream
        split
        · exact fun hstream => by cases hstream
        · exact h.exclusive)
      (by
        intro heq
        refine absurd ?_ hplace
        rw [← heq]
        unfold PlaybackWorker.terminate_translation_stream
        split
        · rfl
        · rfl) rfl
    exact ⟨hworker.exclusive, hworker.chosen, hworker.ordered, hworker.arrived⟩

theorem Turns.start_stream :
    Turns ((s.with_worker (s.worker.start_buffered_physical_stream_if_ready s.state e)).goto
      .finish_stream) := by
  apply h.move
  · rfl
  · exact (s.worker.start_buffered_serves s.state e).state.sequence
  · intro hsome
    obtain heq | ⟨_, hstream, -⟩ := s.worker.start_buffered_cases s.state e
    · rw [heq] at hsome
      exact h.exclusive hsome
    · exact h.exclusive (by rw [hstream]; rfl)
  · decide

theorem Turns.finish_stream :
    Turns ((s.with_worker (s.worker.finish_completed_physical_stream s.state e)).goto
      .finish_translation) := by
  apply h.move
  · rfl
  · exact (s.worker.finish_stream_serves s.state e).state.sequence
  · intro hsome
    unfold Bridge.with_worker PlaybackWorker.finish_completed_physical_stream at hsome
    split at hsome
    · exact h.exclusive hsome
    split at hsome
    · exact h.exclusive hsome
    · cases hsome
  · decide

theorem Turns.finish_translation : Turns ((s.finish_completed_translation e).goto .take) := by
  have hmove : ∀ {t : Bridge S}, Turns t → Turns (t.goto .take) :=
    fun ht => ht.goto fun heq => by cases heq
  unfold Bridge.finish_completed_translation
  split
  · exact hmove h
  split
  · exact hmove h
  · have hidle := h.set_queue (q := { s.translation_queue with active := none }) (Or.inr rfl)
      (List.Sublist.refl _)
    exact hmove ⟨hidle.exclusive, hidle.chosen, hidle.ordered, hidle.arrived⟩

/-- A stream command is ready only while no complete cue is active. -/
theorem Turns.ready
    (hready : PlaybackWorker.pending_physical_stream_command_is_ready s.active_cue_id (some command)
      s.complete_playback_active s.pending_complete_sequence = true) :
    s.translation_queue.active = none := by
  unfold PlaybackWorker.pending_physical_stream_command_is_ready Bridge.active_cue_id at hready
  cases hstream : s.worker.physical_stream with
  | some _ => exact h.exclusive (by rw [hstream]; rfl)
  | none =>
    rw [hstream] at hready
    have hidle := (of_decide_eq_true hready).1
    simpa [Bridge.complete_playback_active] using hidle

end

theorem take_ready_is_ready {active_cue_id : Option String}
    {commands rest : List (PhysicalTranslationStreamCommand S)} {active : Bool}
    {sequence : Option Nat}
    (h : PlaybackWorker.take_ready_physical_stream_command active_cue_id commands active sequence =
      some (command, rest)) :
    PlaybackWorker.pending_physical_stream_command_is_ready active_cue_id (some command) active
      sequence = true := by
  unfold PlaybackWorker.take_ready_physical_stream_command at h
  cases active_cue_id with
  | some _ =>
    dsimp only at h
    split at h
    · cases h
    · rename_i _ hfound
      cases h
      have hcue := List.find?_some hfound
      simp only [decide_eq_true_eq] at hcue
      simp [PlaybackWorker.pending_physical_stream_command_is_ready, hcue]
  | none =>
    dsimp only at h
    split at h
    · cases h
    split at h
    · rename_i hready
      cases h
      exact hready
    · cases h

theorem Turns.take_ready (h : Turns s) (e : Outside) : Turns (s.take_ready e) := by
  unfold Bridge.take_ready
  split
  · rename_i _ _ htake
    apply h.move
    · rfl
    · exact (PlaybackWorker.play_serves _ _ _ _).state.sequence
    · exact fun _ => h.ready (take_ready_is_ready htake)
    · decide
  · exact h.goto fun heq => by cases heq

theorem Turns.receive (h : Turns s) (e : Outside) :
    Turns ((s.receive e).goto .control_again) := by
  unfold Bridge.receive
  split
  · exact h.goto fun heq => by cases heq
  dsimp only
  have hkeep : ∀ t : Bridge S, t.translation_queue = s.translation_queue → t.state = s.state →
      t.worker.physical_stream = s.worker.physical_stream → Turns (t.goto .control_again) := by
    intro t hqueue hstate hstream
    refine h.move hqueue (by rw [hstate]) ?_ (by decide)
    rw [hstream]
    exact h.exclusive
  split
  · exact hkeep _ rfl rfl rfl
  · unfold Bridge.receive_stream_command
    split
    · exact hkeep _ rfl rfl rfl
    · rename_i hready
      apply h.move
      · rfl
      · exact (PlaybackWorker.play_serves _ _ _ _).state.sequence
      · exact fun _ => h.ready (Decidable.not_not.mp hready)
      · decide
  · exact hkeep _ rfl rfl rfl
  · exact hkeep _ rfl rfl rfl

theorem Turns.check_complete (h : Turns s) : Turns s.check_complete := by
  unfold Bridge.check_complete
  split
  · rename_i hready
    apply h.goto
    unfold PlaybackWorker.complete_translation_command_is_ready at hready
    split at hready
    · cases hready
    · rename_i hidle
      simpa [Bridge.complete_playback_active] using hidle
  · exact h.goto fun heq => by cases heq

theorem start_next_sublist (queue : TranslationPlaybackQueue S) (now_ms : Nat) :
    (queue.start_next now_ms).1.pending.Sublist queue.pending := by
  have hkept := drain_jobs_sublist (queue.active_end_ms now_ms) queue.pending
  unfold TranslationPlaybackQueue.start_next TranslationPlaybackQueue.drain_expired_pending
  dsimp only
  split
  · exact List.Sublist.refl _
  split
  · rename_i hnil
    rw [hnil]
    exact List.nil_sublist _
  · rename_i job pending hcons
    rw [hcons] at hkept
    exact (List.sublist_cons_self job pending).trans hkept

theorem Turns.start_next_translation (h : Turns s) (e : Outside)
    (hplace : s.worker.place = .start_next) :
    Turns ((s.start_next_translation e).goto .control) := by
  obtain ⟨hstream, -⟩ := h.chosen hplace
  have hpending := start_next_sublist s.translation_queue e.now_ms
  -- no stream is active, so any active cue may follow
  have hfields : ∀ t : Bridge S, t.worker.physical_stream = none →
      t.translation_queue.pending = (s.translation_queue.start_next e.now_ms).1.pending →
      t.state.translation_arrival_sequence = s.state.translation_arrival_sequence →
      Turns (t.goto .control) := by
    intro t hidle hqueue hsequence
    refine ⟨fun hsome => ?_, (fun heq => by cases heq), ?_, fun job hj => ?_⟩
    · rw [Bridge.goto, hidle] at hsome
      cases hsome
    · change t.translation_queue.pending.Pairwise _
      rw [hqueue]
      exact h.ordered.sublist hpending
    · change job ∈ t.translation_queue.pending at hj
      rw [hqueue] at hj
      exact (h.arrived job (hpending.subset hj)).trans (Nat.le_of_eq hsequence.symm)
  unfold Bridge.start_next_translation
  dsimp only
  rw [Bridge.drop_jobs_eq]
  split
  · exact hfields _ hstream rfl rfl
  split
  · exact hfields _ hstream rfl rfl
  · exact hfields _ hstream rfl rfl

theorem Turns.work (h : Turns s) (e : Outside) : Turns (s.run_playback_worker e) := by
  unfold Bridge.run_playback_worker
  split
  · rename_i hplace
    exact h.apply_control e (by decide) (by rw [hplace]; decide)
  · exact h.start_stream e
  · exact h.finish_stream e
  · exact h.finish_translation e
  · exact h.take_ready e
  · exact h.receive e
  · rename_i hplace
    exact h.apply_control e (by decide) (by rw [hplace]; decide)
  · exact h.check_complete
  · rename_i hplace
    exact h.start_next_translation e hplace

theorem Turns.step (h : Turns s) (op : Op S) : Turns (step s op) := by
  cases op with
  | translation_frame frame now_ms => exact h.arrive (frame_arrives s frame now_ms)
  | source_frame | flush_source => exact h.arrive (try_send_arrives s _)
  | request_playback_stop reason error_code => exact h.arrive (stop_arrives s reason error_code)
  | bridge_shutdown =>
    have hreset : Turns s.reset_streams := ⟨h.exclusive, h.chosen, h.ordered, h.arrived⟩
    exact hreset.arrive (stop_arrives s.reset_streams _ _)
  | bridge_init device_id reason reset => exact h.arrive (init_arrives s device_id reason reset)
  | rebind device_id => exact ⟨h.exclusive, h.chosen, h.ordered, h.arrived⟩
  | work e => exact h.work e

end

theorem turns_run (device_id : String) (ops : List (Op S)) :
    Turns (run step (Bridge.new device_id) ops) :=
  run_keeps step Turns (fun _ op h => h.step op) (turns_new device_id) ops

/-- A stream and a complete cue are never active at the same time. -/
theorem stream_and_complete_cue_exclude_each_other (device_id : String) (ops : List (Op S)) :
    (run step (Bridge.new device_id) ops).worker.physical_stream.isSome →
      (run step (Bridge.new device_id) ops).translation_queue.active = none :=
  (turns_run device_id ops).exclusive

/-- A stream is active while a complete cue waits. -/
def a_stream_before_a_cue : List (Op Nat) :=
  steps 5 true 5000 ++ [a_stream_frame .Start 0 [1], a_complete_frame "next" 5000 5000] ++
    steps 12 true 5000

theorem an_active_stream_keeps_a_cue_waiting :
    (run step (Bridge.new "speakers") a_stream_before_a_cue).worker.physical_stream.isSome ∧
      (run step (Bridge.new "speakers") a_stream_before_a_cue).translation_queue.active = none ∧
      (run step (Bridge.new "speakers") a_stream_before_a_cue).translation_queue.pending.length =
        1 :=
  ⟨by decide +kernel, stream_and_complete_cue_exclude_each_other "speakers" a_stream_before_a_cue
    (by decide +kernel), by decide +kernel⟩

/-! ## The order across the two kinds -/

/-- A cue that could still start in time. -/
def is_timely (now_ms : Nat) (job : PlaybackJob S) : Bool :=
  !translation_would_miss_realtime_budget job.created_at_ms now_ms

variable (s : Bridge S)

/-- The step hands out the complete cue to be started. -/
def begins_complete (e : Outside) (job : PlaybackJob S) : Prop :=
  s.worker.place = .start_next ∧ (s.translation_queue.start_next e.now_ms).2.1 = some job

/-- The step plays the command, and a stream becomes active. -/
def begins_stream (e : Outside) (command : PhysicalTranslationStreamCommand S) : Prop :=
  s.worker.physical_stream = none ∧ (s.run_playback_worker e).worker.physical_stream.isSome ∧
    (s.run_playback_worker e).worker.played = s.worker.played ++ [command]

/-- The command would start a stream of the current generation in time. -/
def is_waiting_start (now_ms : Nat) (command : PhysicalTranslationStreamCommand S) : Bool :=
  command.state = .Start ∧ command.job.translation_generation = s.state.translation_generation ∧
    is_timely now_ms command.job

def is_waiting_job (now_ms : Nat) (job : PlaybackJob S) : Bool :=
  job.translation_generation = s.state.translation_generation ∧ is_timely now_ms job

/-- No cue is started by the step while one of the other kind waits that arrived before it. -/
def in_acceptance_order : Op S → Prop
  | .work e =>
    (∀ job, begins_complete s e job → ∀ command ∈ s.worker.pending_physical_streams,
      is_waiting_start s e.now_ms command →
        ¬ command.job.translation_arrival_sequence < job.translation_arrival_sequence) ∧
    ∀ command, begins_stream s e command → ∀ job ∈ s.translation_queue.pending,
      is_waiting_job s e.now_ms job →
        ¬ job.translation_arrival_sequence < command.job.translation_arrival_sequence
  | _ => True

/-- The condition on a step: when a complete cue is to be started while a stream waits, some complete
cue that did not arrive after the stream is still timely, or none is timely at all. -/
def earlier_cue_is_timely : Op S → Prop
  | .work e => s.worker.place = .start_next →
    ∀ command ∈ s.worker.pending_physical_streams, is_waiting_start s e.now_ms command →
      (∃ job ∈ s.translation_queue.pending, is_timely e.now_ms job ∧
        ¬ command.job.translation_arrival_sequence < job.translation_arrival_sequence) ∨
      ∀ job ∈ s.translation_queue.pending, is_timely e.now_ms job = false
  | _ => True

/-- The first job that stays is the first that is timely, since the jobs dropped before it do not
move the projected start. -/
theorem drain_jobs_head (now_ms : Nat) (jobs : List (PlaybackJob S)) :
    (TranslationPlaybackQueue.drain_jobs now_ms jobs).1.head? = jobs.find? (is_timely now_ms) := by
  induction jobs with
  | nil => rfl
  | cons job jobs ih =>
    unfold TranslationPlaybackQueue.drain_jobs
    cases hmiss : translation_would_miss_realtime_budget job.created_at_ms now_ms with
    | true =>
      have hlate : ¬ is_timely now_ms job = true := by simp [is_timely, hmiss]
      rw [List.find?_cons_of_neg hlate, if_pos rfl]
      exact ih
    | false =>
      have htimely : is_timely now_ms job = true := by simp [is_timely, hmiss]
      rw [List.find?_cons_of_pos htimely, if_neg Bool.false_ne_true]
      rfl

theorem start_next_job (queue : TranslationPlaybackQueue S) (now_ms : Nat)
    (hidle : queue.active = none) :
    (queue.start_next now_ms).2.1 = queue.pending.find? (is_timely now_ms) := by
  have hend : queue.active_end_ms now_ms = now_ms := by
    simp [TranslationPlaybackQueue.active_end_ms, hidle]
  rw [← drain_jobs_head now_ms queue.pending]
  unfold TranslationPlaybackQueue.start_next TranslationPlaybackQueue.drain_expired_pending
  rw [hidle, hend, if_neg (by simp)]
  dsimp only
  split
  · rename_i hnil
    rw [hnil]
    rfl
  · rename_i _ pending hcons
    rw [hcons]
    rfl

/-- In a queue in order of arrival, the first timely job arrived before the others. -/
theorem find_timely_first {jobs : List (PlaybackJob S)} {now_ms : Nat} {first : PlaybackJob S}
    (hordered : jobs.Pairwise fun earlier later =>
      earlier.translation_arrival_sequence < later.translation_arrival_sequence)
    (hfind : jobs.find? (is_timely now_ms) = some first) :
    ∀ job ∈ jobs, is_timely now_ms job = true →
      first.translation_arrival_sequence ≤ job.translation_arrival_sequence := by
  obtain ⟨-, _, _, heq, hlate⟩ := List.find?_eq_some_iff_append.mp hfind
  intro job hj htimely
  rw [heq, List.mem_append, List.mem_cons] at hj
  obtain hbefore | rfl | hafter := hj
  · have hnot := hlate job hbefore
    rw [htimely] at hnot
    cases hnot
  · exact Nat.le_refl _
  · rw [heq, List.pairwise_append, List.pairwise_cons] at hordered
    exact Nat.le_of_lt (hordered.2.1.1 job hafter)

section

variable {s : Bridge S}

/-- A complete cue starts in order exactly when an earlier cue is timely. -/
theorem Turns.complete_in_order (h : Turns s) (e : Outside) :
    (∀ job, begins_complete s e job → ∀ command ∈ s.worker.pending_physical_streams,
      is_waiting_start s e.now_ms command →
        ¬ command.job.translation_arrival_sequence < job.translation_arrival_sequence) ↔
      earlier_cue_is_timely s (.work e) := by
  constructor
  · intro horder hplace command hcommand hwaits
    have hjob := start_next_job s.translation_queue e.now_ms (h.chosen hplace).2
    cases hfind : s.translation_queue.pending.find? (is_timely e.now_ms) with
    | none => exact Or.inr fun job hj => by simpa using List.find?_eq_none.mp hfind job hj
    | some first =>
      rw [hfind] at hjob
      exact Or.inl ⟨first, List.mem_of_find?_eq_some hfind, List.find?_some hfind,
        horder first ⟨hplace, hjob⟩ command hcommand hwaits⟩
  · rintro hok job ⟨hplace, hstarts⟩ command hcommand hwaits
    rw [start_next_job s.translation_queue e.now_ms (h.chosen hplace).2] at hstarts
    obtain ⟨other, hin, htimely, _⟩ | hlate := hok hplace command hcommand hwaits
    · have hfirst := find_timely_first h.ordered hstarts other hin htimely
      omega
    · have htimely := List.find?_some hstarts
      rw [hlate job (List.mem_of_find?_eq_some hstarts)] at htimely
      cases htimely

/-! ## Streams start in order -/

theorem control_starts_none (h : s.worker.physical_stream = none) (e : Outside) (next : Place) :
    (s.apply_playback_control_commands e next).worker.physical_stream = none := by
  unfold Bridge.apply_playback_control_commands
  split
  · exact h
  rename_i control _ _
  cases control with
  | StopAll | RebindPhysicalOutput => rfl
  | TerminateTranslationStream _ =>
    simp [Bridge.apply_playback_control_command, PlaybackWorker.terminate_translation_stream, h]

/-- Nor do the places at which the worker plays no stream command. -/
theorem other_places_start_none (h : s.worker.physical_stream = none) {e : Outside}
    (htake : s.worker.place ≠ .take) (hreceive : s.worker.place ≠ .receive) :
    (s.run_playback_worker e).worker.physical_stream = none := by
  unfold Bridge.run_playback_worker
  split
  · exact control_starts_none h e _
  · simp [Bridge.goto, Bridge.with_worker, PlaybackWorker.start_buffered_physical_stream_if_ready, h]
  · simp [Bridge.goto, Bridge.with_worker, PlaybackWorker.finish_completed_physical_stream, h]
  · unfold Bridge.finish_completed_translation
    split
    · exact h
    split
    · exact h
    · exact h
  · rename_i hplace
    exact absurd hplace htake
  · rename_i hplace
    exact absurd hplace hreceive
  · exact control_starts_none h e _
  · unfold Bridge.check_complete
    split
    · exact h
    · exact h
  · unfold Bridge.start_next_translation
    dsimp only
    split
    · exact h
    split
    · exact h
    · exact h

/-- A command that starts a stream was ready when it was played. -/
theorem started_stream_is_ready {e : Outside} (h : begins_stream s e command) :
    PlaybackWorker.pending_physical_stream_command_is_ready s.active_cue_id (some command)
      s.complete_playback_active s.pending_complete_sequence = true := by
  obtain ⟨hnone, hsome, hplayed⟩ := h
  -- a step that leaves the worker without a stream starts none
  have hidle : ∀ w : PlaybackWorker S, w.physical_stream = none →
      w.physical_stream.isSome = true → False := by
    intro w hw hs
    rw [hw] at hs
    cases hs
  by_cases htake : s.worker.place = .take
  · unfold Bridge.run_playback_worker at hsome hplayed
    rw [htake] at hsome hplayed
    dsimp only at hsome hplayed
    unfold Bridge.take_ready at hsome hplayed
    split at hsome
    · rename_i taken pending hready
      rw [hready] at hplayed
      have htaken := (PlaybackWorker.play_serves
        { s.worker with pending_physical_streams := pending } s.state taken e).played
      have heq : s.worker.played ++ [taken] = s.worker.played ++ [command] :=
        htaken.symm.trans hplayed
      cases List.append_cancel_left heq
      exact take_ready_is_ready hready
    · exact absurd hsome (hidle _ hnone)
  by_cases hreceive : s.worker.place = .receive
  · unfold Bridge.run_playback_worker at hsome hplayed
    rw [hreceive] at hsome hplayed
    dsimp only at hsome hplayed
    unfold Bridge.receive at hsome hplayed
    split at hsome
    · exact absurd hsome (hidle _ hnone)
    rename_i received _ hcommands
    rw [hcommands] at hplayed
    cases received with
    | Play | TranslationQueued | FlushSource => exact absurd hsome (hidle _ hnone)
    | TranslationStream received =>
      dsimp only at hsome hplayed
      unfold Bridge.receive_stream_command at hsome hplayed
      split at hsome
      · exact absurd hsome (hidle _ hnone)
      · rename_i hready
        rw [if_neg hready] at hplayed
        have heq : s.worker.played ++ [received] = s.worker.played ++ [command] :=
          (PlaybackWorker.play_serves _ _ _ _).played.symm.trans hplayed
        cases List.append_cancel_left heq
        exact Decidable.not_not.mp hready
  · exact absurd hsome (hidle _ (other_places_start_none hnone htake hreceive))

/-- A stream starts before every complete cue that arrived earlier and waits. -/
theorem Turns.stream_in_order (h : Turns s) {e : Outside} (hstarts : begins_stream s e command) :
    ∀ job ∈ s.translation_queue.pending,
      ¬ job.translation_arrival_sequence < command.job.translation_arrival_sequence := by
  intro job hj
  have hready := started_stream_is_ready hstarts
  unfold PlaybackWorker.pending_physical_stream_command_is_ready Bridge.active_cue_id
    Bridge.pending_complete_sequence at hready
  rw [hstarts.1] at hready
  have hhead := (of_decide_eq_true hready).2
  have hordered := h.ordered
  cases hpending : s.translation_queue.pending with
  | nil =>
    rw [hpending] at hj
    cases hj
  | cons _ _ =>
    rw [hpending] at hj hhead hordered
    simp only [List.head?_cons, Option.map_some, Option.all_some, decide_eq_true_eq] at hhead
    obtain rfl | hin := List.mem_cons.mp hj
    · omega
    · have hlt := (List.pairwise_cons.mp hordered).1 job hin
      omega

theorem Turns.in_order_iff (h : Turns s) (op : Op S) :
    in_acceptance_order s op ↔ earlier_cue_is_timely s op := by
  cases op with
  | work e =>
    refine Iff.trans (and_iff_left ?_) (h.complete_in_order e)
    exact fun _ hstarts job hj _ => h.stream_in_order hstarts job hj
  | _ => exact Iff.rfl

end

/-- A run starts the cues of the two kinds in the order of their acceptance exactly when no complete
cue is started over a waiting stream because those before the stream have expired. -/
theorem cues_start_in_acceptance_order_iff (device_id : String) (ops : List (Op S)) :
    Along step in_acceptance_order (Bridge.new device_id) ops ↔
      Along step earlier_cue_is_timely (Bridge.new device_id) ops :=
  Along.congr Turns (turns_new device_id)
    (Along.of_forall (fun _ _ => True) (fun _ _ => trivial) _ _) (fun _ op h _ => h.in_order_iff op)
    (fun _ op h _ _ => h.step op)

instance (s : Bridge S) : (op : Op S) → Decidable (earlier_cue_is_timely s op)
  | .work _ => inferInstanceAs (Decidable (_ → _))
  | .translation_frame _ _ => isTrue trivial
  | .source_frame => isTrue trivial
  | .flush_source => isTrue trivial
  | .request_playback_stop _ _ => isTrue trivial
  | .bridge_shutdown => isTrue trivial
  | .bridge_init _ _ _ => isTrue trivial
  | .rebind _ => isTrue trivial

/-- While one cue plays, the complete cue "old", a stream and the complete cue "new" arrive. When
the worker comes to start "old", it has expired. -/
def a_cue_expires_before_a_stream : List (Op Nat) :=
  steps 5 true 5000 ++ [a_complete_frame "first" 5000 5000] ++ steps 4 true 5000 ++
    [a_complete_frame "old" 1 5000, a_stream_frame .Start 0 [1],
      a_complete_frame "new" 5000 5000] ++ steps 16 false 5000 ++ steps 8 true 5000

theorem a_later_cue_overtakes_a_stream :
    ¬ Along step in_acceptance_order (Bridge.new "speakers")
      (a_cue_expires_before_a_stream ++ [.work ⟨true, none, 0, 5002⟩]) := by
  intro h
  have hlast := Along.at h
  rw [(turns_run "speakers" a_cue_expires_before_a_stream).in_order_iff] at hlast
  revert hlast
  decide +kernel

end omni_translate.playback

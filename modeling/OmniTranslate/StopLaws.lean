-- What a stop of playback removes. A stop begins a new generation and travels over
-- the control channel; frames of the new generation are admitted at once and travel
-- over the playback channel, so the worker may take them in before it applies the stop.
import OmniTranslate.PlaybackWorker

namespace omni_translate.playback

open runs

variable {S : Type}

/-! ## What a stop may remove -/

variable (s : Bridge S)

/-- The next step of the worker applies this stop. -/
def applies_stop (request : PlaybackStopRequest) : Prop :=
  (s.worker.place = .control ∨ s.worker.place = .control_again) ∧
    s.controls.head? = some (.StopAll request)

/-- Between two states, all work of generations after `g` is left: the stream, the buffered
commands, the audio of the player, and what still waits in the channel and in the queue. -/
structure Spares (g : Nat) (s t : Bridge S) : Prop where
  stream : ∀ stream ∈ s.worker.physical_stream, g < stream.translation_generation →
    t.worker.physical_stream = some stream
  pending : t.worker.pending_physical_streams.filter (g < ·.job.translation_generation) =
    s.worker.pending_physical_streams.filter (g < ·.job.translation_generation)
  player : ∀ output ∈ s.worker.output, ∀ generation ∈ output.translation_generation,
    g < generation → t.worker.output = some output
  commands : t.commands = s.commands
  queue : t.translation_queue = s.translation_queue

/-! ## What the worker takes in -/

/-- A command that begins a stream when it is played. -/
def starts_stream (command : PhysicalTranslationStreamCommand S) (e : Outside) : Bool :=
  command.state = .Start ∧
    command.job.translation_generation = s.state.translation_generation ∧
    command.job.cue_id.getD "" ∉ s.worker.cancelled_physical_streams ∧
    s.worker.physical_stream.isNone ∧
    (s.worker.output_for command.job.device_id e).toOption.isSome

/-- The generation of the stream command that the worker comes to hold at a step: one that it
receives and buffers, or one that begins a stream. -/
def stream_taken (e : Outside) : Option Nat :=
  match s.worker.place, s.commands with
  | .receive, .TranslationStream command :: _ =>
    if PlaybackWorker.pending_physical_stream_command_is_ready s.active_cue_id (some command)
        s.complete_playback_active s.pending_complete_sequence ∧ ¬ starts_stream s command e then
      none
    else some command.job.translation_generation
  | _, _ => none

/-- The generation of the complete cue that the worker appends to the player at a step. -/
def complete_taken (e : Outside) : Option Nat :=
  match s.worker.place, (s.translation_queue.start_next e.now_ms).2.1 with
  | .start_next, some job =>
    if (s.worker.output_for job.device_id e).toOption.isSome then some job.translation_generation
    else none
  | _, _ => none

/-- A stop that waits is not older than what the worker takes in: not than a stream command and, if
the stop recreates the output, not than a complete cue. -/
def no_older_than (stream complete : Option Nat) : PlaybackControlCommand → Prop
  | .StopAll request =>
    (∀ generation ∈ stream, generation ≤ request.stop_through_generation) ∧
      (request.recreate_output → ∀ generation ∈ complete,
        generation ≤ request.stop_through_generation)
  | _ => True

/-- The condition on a step: the worker takes nothing in that is newer than a stop that waits, and
a stop does not wrap the generation. -/
def heeds_stops (s : Bridge S) : Op S → Prop
  | .work e => ∀ control ∈ s.controls, no_older_than (stream_taken s e) (complete_taken s e) control
  | .request_playback_stop _ _ => s.state.translation_generation + 1 < 2 ^ 64
  | .bridge_shutdown => s.state.translation_generation + 1 < 2 ^ 64
  | .bridge_init _ _ _ => s.state.translation_generation + 1 < 2 ^ 64
  | _ => True

instance (stream complete : Option Nat) :
    (control : PlaybackControlCommand) → Decidable (no_older_than stream complete control)
  | .StopAll _ => inferInstanceAs (Decidable (_ ∧ _))
  | .RebindPhysicalOutput _ => isTrue trivial
  | .TerminateTranslationStream _ => isTrue trivial

instance (s : Bridge S) : (op : Op S) → Decidable (heeds_stops s op)
  | .work _ => inferInstanceAs (Decidable (∀ _ ∈ _, _))
  | .request_playback_stop _ _ => inferInstanceAs (Decidable (_ < _))
  | .bridge_shutdown => inferInstanceAs (Decidable (_ < _))
  | .bridge_init _ _ _ => inferInstanceAs (Decidable (_ < _))
  | .translation_frame _ _ => isTrue trivial
  | .source_frame => isTrue trivial
  | .flush_source => isTrue trivial
  | .rebind _ => isTrue trivial

/-! ## What the worker holds -/

/-- The worker holds no stream work of a generation after `n`, nor, if `o` says so, such audio in
its player. -/
structure Within (n : Nat) (o : Prop) (w : PlaybackWorker S) : Prop where
  stream : ∀ stream ∈ w.physical_stream, stream.translation_generation ≤ n
  pending : ∀ command ∈ w.pending_physical_streams, command.job.translation_generation ≤ n
  output : o → ∀ output ∈ w.output, ∀ generation ∈ output.translation_generation, generation ≤ n

section

variable {n : Nat} {o : Prop} {w : PlaybackWorker S} {b : BridgeState}

theorem Within.mono {m : Nat} (h : Within n o w) (hm : n ≤ m) : Within m o w where
  stream stream hs := (h.stream stream hs).trans hm
  pending command hc := (h.pending command hc).trans hm
  output ho output hout generation hg := (h.output ho output hout generation hg).trans hm

theorem Within.start_buffered (h : Within n o w) (e : Outside) :
    Within n o (w.start_buffered_physical_stream_if_ready b e).1 := by
  obtain heq | ⟨stream, hstream, heq⟩ := w.start_buffered_cases b e
  · rw [heq]
    exact h
  · rw [heq]
    refine { h with stream := ?_ }
    intro stream' hs
    cases hs
    exact h.stream stream hstream

theorem Within.append_audio (h : Within n o w) (job : PlaybackJob S) (cue_id : String)
    (e : Outside) : Within n o (w.append_stream_audio b job cue_id e).1 := by
  unfold PlaybackWorker.append_stream_audio
  split
  · rename_i stream _ hstream _
    split
    · rename_i hcue
      have hn := h.stream stream hstream
      apply Within.start_buffered
      refine ⟨?_, h.pending, ?_⟩
      · intro stream' hs
        cases hs
        exact hn
      · intro ho output' hout generation hg
        cases hout
        cases hg
        rw [← hcue.2]
        exact hn
    · exact h
  · exact h

/-- Only a start of the current generation that finds an output makes a stream of its own. -/
theorem Within.play (h : Within n o w) (command : PhysicalTranslationStreamCommand S) (e : Outside)
    (hstart : command.state = .Start → command.job.translation_generation = b.translation_generation →
      command.job.cue_id.getD "" ∉ w.cancelled_physical_streams → w.physical_stream = none →
      (w.output_for command.job.device_id e).toOption.isSome →
      command.job.translation_generation ≤ n) :
    Within n o (w.play_physical_translation_stream b command e).1 := by
  unfold PlaybackWorker.play_physical_translation_stream PlaybackWorker.play_command
  dsimp only
  split
  · exact ⟨h.stream, h.pending, h.output⟩
  rename_i hgen
  split
  · split
    · exact ⟨h.stream, h.pending, h.output⟩
    · exact ⟨h.stream, h.pending, h.output⟩
  rename_i hcancelled
  cases hstate : command.state with
  | Abort =>
    dsimp only
    unfold PlaybackWorker.abort_physical_stream
    split
    · refine ⟨fun _ hs => (by cases hs), h.pending, ?_⟩
      intro ho output hout generation hg
      obtain ⟨output', hout', rfl⟩ := Option.mem_map.mp hout
      exact h.output ho output' hout' generation hg
    · exact ⟨h.stream, h.pending, h.output⟩
  | End =>
    apply Within.start_buffered
    refine ⟨?_, h.pending, h.output⟩
    intro stream hs
    obtain ⟨stream', hs', rfl⟩ := Option.mem_map.mp hs
    have hn := h.stream stream' hs'
    split
    · exact hn
    · exact hn
  | Start =>
    dsimp only
    unfold PlaybackWorker.start_physical_stream
    split
    · exact ⟨h.stream, h.pending, h.output⟩
    rename_i hnone
    split
    · exact ⟨h.stream, h.pending, h.output⟩
    rename_i output hout
    have hn : command.job.translation_generation ≤ n := by
      refine hstart hstate (Decidable.not_not.mp hgen) hcancelled ?_ ?_
      · exact Option.not_isSome_iff_eq_none.mp hnone
      · change (w.output_for _ e) = _ at hout
        rw [hout]
        rfl
    apply Within.append_audio
    refine ⟨?_, h.pending, ?_⟩
    · intro stream hs
      cases hs
      exact hn
    · intro ho output' hout' generation hg
      cases hout'
      obtain hold | rfl := w.output_for_cases hout
      · exact h.output ho output hold generation hg
      · cases hg
  | Chunk =>
    apply Within.append_audio
    exact ⟨h.stream, h.pending, h.output⟩

end

variable {command : PhysicalTranslationStreamCommand S}

theorem take_ready_mem {active_cue_id : Option String}
    {pending rest : List (PhysicalTranslationStreamCommand S)} {complete_playback_active : Bool}
    {sequence : Option Nat}
    (h : PlaybackWorker.take_ready_physical_stream_command active_cue_id pending
      complete_playback_active sequence = some (command, rest)) :
    command ∈ pending ∧ rest ⊆ pending := by
  unfold PlaybackWorker.take_ready_physical_stream_command at h
  split at h
  · split at h
    · cases h
    · rename_i _ hfound
      cases h
      exact ⟨List.mem_of_find?_eq_some hfound, List.eraseP_subset⟩
  · split at h
    · cases h
    · split at h
      · cases h
        exact ⟨List.mem_cons_self, List.subset_cons_self _ _⟩
      · cases h

/-! ## The invariant -/

/-- Nothing is newer than the current generation, and what the worker holds is not newer than any
stop that waits. -/
structure Dated (s : Bridge S) : Prop where
  commands : ∀ command, .TranslationStream command ∈ s.commands →
    command.job.translation_generation ≤ s.state.translation_generation
  queue : ∀ job ∈ s.translation_queue.pending,
    job.translation_generation ≤ s.state.translation_generation
  worker : Within s.state.translation_generation True s.worker
  stops : ∀ request, .StopAll request ∈ s.controls →
    Within request.stop_through_generation request.recreate_output s.worker

theorem dated_new (device_id : String) : Dated (Bridge.new device_id : Bridge S) where
  commands _ hc := by cases hc
  queue _ hj := by cases hj
  worker := ⟨fun _ hs => (by cases hs), fun _ hc => (by cases hc), fun _ _ hout => (by cases hout)⟩
  stops _ hr := by cases hr

variable {s : Bridge S}

/-! ## The handlers -/

section

variable (h : Dated s)

include h

theorem Dated.set_state {state : BridgeState}
    (hg : state.translation_generation = s.state.translation_generation) :
    Dated { s with state } where
  commands := hg ▸ h.commands
  queue := hg ▸ h.queue
  worker := hg ▸ h.worker
  stops := h.stops

theorem Dated.set_queue {q : TranslationPlaybackQueue S}
    (hq : ∀ job ∈ q.pending, job.translation_generation ≤ s.state.translation_generation) :
    Dated { s with translation_queue := q } where
  commands := h.commands
  queue := hq
  worker := h.worker
  stops := h.stops

theorem Dated.push_control {control : PlaybackControlCommand}
    (hc : ∀ request, control ≠ .StopAll request) :
    Dated { s with controls := s.controls ++ [control] } where
  commands := h.commands
  queue := h.queue
  worker := h.worker
  stops request hr := by
    obtain hold | hnew := List.mem_append.mp hr
    · exact h.stops request hold
    · exact absurd (List.mem_singleton.mp hnew).symm (hc request)

theorem Dated.next_arrival : Dated s.next_arrival := h.set_state rfl

theorem Dated.try_send {command : PlaybackCommand S} {t : Bridge S}
    (hc : ∀ stream, command = .TranslationStream stream →
      stream.job.translation_generation ≤ s.state.translation_generation)
    (ht : s.try_send command = some t) : Dated t := by
  unfold Bridge.try_send at ht
  split at ht
  · cases ht
    refine ⟨?_, h.queue, h.worker, h.stops⟩
    intro stream hstream
    obtain hold | hnew := List.mem_append.mp hstream
    · exact h.commands stream hold
    · exact hc stream (List.mem_singleton.mp hnew).symm
  · cases ht

theorem Dated.try_send_getD {c : PlaybackCommand S} (hc : ∀ stream, c ≠ .TranslationStream stream) :
    Dated ((s.try_send c).getD s) := by
  cases ht : s.try_send c with
  | none => exact h
  | some _ => exact h.try_send (fun stream heq => absurd heq (hc stream)) ht

variable (frame : TranslationFrame S)

theorem Dated.admit_stream_frame (cue_id : String) (chunk_index : Nat)
    (stream_state : TranslationStreamState) (now_ms : Nat) :
    Dated (s.admit_stream_frame frame cue_id chunk_index stream_state now_ms) := by
  unfold Bridge.admit_stream_frame
  split
  · exact h
  · exact h
  split
  · have hcontrol : Dated { s with
        controls := s.controls ++ [.TerminateTranslationStream cue_id] } :=
      h.push_control fun _ hne => by cases hne
    exact hcontrol.set_state (BridgeState.claim_terminal_status_generation _ _ _ _ _)
  · dsimp only
    split
    · exact h.next_arrival
    · rename_i t ht
      have hd : Dated t := by
        refine h.next_arrival.try_send ?_ ht
        intro stream heq
        cases heq
        exact le_rfl
      exact ⟨hd.commands, hd.queue, hd.worker, hd.stops⟩

theorem Dated.stream_frame (stream_state : TranslationStreamState) (now_ms : Nat) :
    Dated (s.handle_physical_translation_stream_frame frame stream_state now_ms) := by
  unfold Bridge.handle_physical_translation_stream_frame
  split
  · split
    · exact h
    split
    · exact h
    split
    · exact h
    split
    · exact h
    · exact h.admit_stream_frame _ _ _ _ _
  · exact h

theorem Dated.complete_frame (now_ms : Nat) : Dated (s.handle_complete_frame frame now_ms) := by
  unfold Bridge.handle_complete_frame
  split
  · exact h.set_state rfl
  dsimp only
  have hq : Dated { s.next_arrival with
      translation_queue :=
        (s.next_arrival.translation_queue.enqueue (s.job_of frame now_ms) now_ms).1 } := by
    apply h.next_arrival.set_queue
    intro job hj
    obtain hold | hnew := List.mem_append.mp (TranslationPlaybackQueue.enqueue_pending _ _ _ hj)
    · exact h.queue job hold
    · rw [List.mem_singleton.mp hnew]
      exact le_rfl
  split
  · exact (hq.set_state (Bridge.drop_jobs_generation _ _ _ _)).set_state rfl
  · have hdropped := hq.set_state (Bridge.drop_jobs_generation _
      (s.next_arrival.translation_queue.enqueue (s.job_of frame now_ms) now_ms).2.1 .StaleDropped
      "realtime-budget")
    have hsent := hdropped.try_send_getD (c := .TranslationQueued) fun _ hne => by cases hne
    exact hsent.set_state rfl

theorem Dated.translation_frame (now_ms : Nat) :
    Dated (s.handle_physical_translation_frame frame now_ms) := by
  unfold Bridge.handle_physical_translation_frame
  split
  · exact h
  · split
    · exact h.stream_frame _ _ _
    · exact h.complete_frame _ _

section

variable (hwrap : s.state.translation_generation + 1 < 2 ^ 64)

include hwrap

/-- A stop dates what the worker holds: it is not newer than the generation that the stop ends. -/
theorem Dated.stop (reason : String) (error_code : Option String) :
    Dated (s.request_playback_stop reason error_code) := by
  have hnext : (s.state.translation_generation + 1) % 2 ^ 64 = s.state.translation_generation + 1 :=
    Nat.mod_eq_of_lt hwrap
  unfold Bridge.request_playback_stop
  refine ⟨?_, ?_, ?_, ?_⟩
  · intro command hc
    have hle := h.commands command hc
    dsimp only
    omega
  · intro job hj
    cases hj
  · rw [hnext]
    exact h.worker.mono (Nat.le_succ _)
  · intro request hr
    obtain hold | hnew := List.mem_append.mp hr
    · exact h.stops request hold
    · cases List.mem_singleton.mp hnew
      exact ⟨h.worker.stream, h.worker.pending, fun _ => h.worker.output trivial⟩

theorem Dated.shutdown : Dated s.handle_bridge_shutdown := by
  have hreset : Dated s.reset_streams := h.set_state rfl
  exact hreset.stop hwrap _ _

theorem Dated.init (device_id : String) (reason : Option String) (reset : Bool) :
    Dated (s.handle_bridge_init device_id reason reset) := by
  have hdevice : Dated { s with
      state := { s.state with physical_playback_device_id := device_id } } := h.set_state rfl
  unfold Bridge.handle_bridge_init
  dsimp only
  split
  · exact hdevice.stop hwrap _ _
  split
  · exact hdevice.set_state rfl
  · exact hdevice

end

/-! ## The worker -/

theorem Dated.set_worker {w : PlaybackWorker S}
    (hcurrent : Within s.state.translation_generation True w)
    (hstops : ∀ request, .StopAll request ∈ s.controls →
      Within request.stop_through_generation request.recreate_output w) :
    Dated { s with worker := w } where
  commands := h.commands
  queue := h.queue
  worker := hcurrent
  stops := hstops

/-- The worker may change in every way that keeps what it holds within all bounds. -/
theorem Dated.keep {r : PlaybackWorker S × BridgeState}
    (hw : ∀ n o, Within n o s.worker → Within n o r.1)
    (hg : r.2.translation_generation = s.state.translation_generation) : Dated (s.with_worker r) :=
  (h.set_worker (hw _ _ h.worker) fun request hr => hw _ _ (h.stops request hr)).set_state hg

theorem Dated.goto (place : Place) : Dated (s.goto place) :=
  h.keep (r := ({ s.worker with place }, s.state))
    (fun _ _ hw => ⟨hw.stream, hw.pending, hw.output⟩) rfl

end

variable {w : PlaybackWorker S}

theorem Within.stop_all {n : Nat} {o : Prop} (h : Within n o w) (request : PlaybackStopRequest) : Within n o (w.stop_all request) where
  stream _ hs := by cases hs
  pending _ hc := by cases hc
  output ho output hout generation hg := by
    unfold PlaybackWorker.stop_all at hout
    split at hout
    · cases hout
    · obtain ⟨_, hout', heq⟩ := Option.mem_map.mp hout
      split at heq
      · rw [← heq] at hg
        cases hg
      · rw [heq] at hout'
        exact h.output ho output hout' generation hg

theorem Within.rebind {n : Nat} {o : Prop} (device_id : String) (e : Outside) : Within n o (w.rebind_physical_output device_id e) where
  stream _ hs := by cases hs
  pending _ hc := by cases hc
  output _ output hout generation hg := by
    unfold PlaybackWorker.rebind_physical_output PlaybackWorker.open_playback_output at hout
    split at hout
    · cases hout
      cases hg
    · cases hout

theorem Within.terminate {n : Nat} {o : Prop} (h : Within n o w) (cue_id : String) : Within n o (w.terminate_translation_stream cue_id) := by
  unfold PlaybackWorker.terminate_translation_stream
  split
  · refine ⟨fun _ hs => (by cases hs), ?_, ?_⟩
    · intro command hc
      exact h.pending command (List.mem_of_mem_filter hc)
    · intro ho output hout generation hg
      obtain ⟨output', hout', rfl⟩ := Option.mem_map.mp hout
      exact h.output ho output' hout' generation hg
  · exact ⟨h.stream, fun command hc => h.pending command (List.mem_of_mem_filter hc), h.output⟩

theorem Dated.apply_control (h : Dated s) (e : Outside) (next : Place) :
    Dated (s.apply_playback_control_commands e next) := by
  unfold Bridge.apply_playback_control_commands
  split
  · exact h.goto next
  · rename_i command controls hcontrols
    have hrest : Dated { s with controls } := by
      refine ⟨h.commands, h.queue, h.worker, ?_⟩
      intro request hr
      apply h.stops request
      rw [hcontrols]
      exact List.mem_cons_of_mem command hr
    cases command with
    | StopAll request =>
      exact hrest.keep (r := (s.worker.stop_all request, s.state))
        (fun _ _ hw => hw.stop_all request) rfl
    | RebindPhysicalOutput device_id =>
      have hempty := hrest.set_queue (q := ⟨[], none⟩) fun _ hj => by cases hj
      exact hempty.keep (r := (s.worker.rebind_physical_output device_id e, s.state))
        (fun _ _ _ => Within.rebind device_id e) rfl
    | TerminateTranslationStream cue_id =>
      exact hrest.keep (r := (s.worker.terminate_translation_stream cue_id, s.state))
        (fun _ _ hw => hw.terminate cue_id) rfl

theorem Dated.finish_stream (h : Dated s) (e : Outside) :
    Dated (s.with_worker (s.worker.finish_completed_physical_stream s.state e)) := by
  refine h.keep ?_ (PlaybackWorker.finish_stream_generation _ _ _)
  intro n o hw
  unfold PlaybackWorker.finish_completed_physical_stream
  split
  · exact hw
  split
  · exact hw
  · refine ⟨fun _ hs => (by cases hs), hw.pending, ?_⟩
    intro ho output hout generation hg
    obtain ⟨_, _, rfl⟩ := Option.mem_map.mp hout
    cases hg

theorem Dated.finish_translation (h : Dated s) (e : Outside) :
    Dated (s.finish_completed_translation e) := by
  unfold Bridge.finish_completed_translation
  split
  · exact h
  split
  · exact h
  · exact (h.set_queue (q := { s.translation_queue with active := none }) h.queue).set_state rfl

/-- A command leaves the buffer for the player, both within the bounds of the buffer. -/
theorem Dated.take_ready (h : Dated s) (e : Outside) : Dated (s.take_ready e) := by
  unfold Bridge.take_ready
  split
  · rename_i command pending htake
    obtain ⟨hc, hsub⟩ := take_ready_mem htake
    refine Dated.goto (h.keep ?_ (PlaybackWorker.play_generation _ _ _ _)) _
    intro n o hw
    have hrest : Within n o { s.worker with pending_physical_streams := pending } :=
      ⟨hw.stream, fun command' hc' => hw.pending command' (hsub hc'), hw.output⟩
    exact hrest.play command e fun _ _ _ _ _ => hw.pending command hc
  · exact h.goto _

variable {commands : List (PlaybackCommand S)} {e : Outside}

theorem stream_taken_le {n : Nat} (hplace : s.worker.place = .receive)
    (hcommands : s.commands = .TranslationStream command :: commands)
    (hn : ∀ generation ∈ stream_taken s e, generation ≤ n)
    (htaken : PlaybackWorker.pending_physical_stream_command_is_ready s.active_cue_id (some command)
      s.complete_playback_active s.pending_complete_sequence → starts_stream s command e) :
    command.job.translation_generation ≤ n := by
  apply hn
  unfold stream_taken
  rw [hplace, hcommands]
  dsimp only
  rw [if_neg fun hnot => hnot.2 (htaken hnot.1)]
  rfl

theorem Dated.drop_command {command : PlaybackCommand S} (h : Dated s)
    (hcommands : s.commands = command :: commands) : Dated { s with commands } where
  commands stream hstream := by
    apply h.commands
    rw [hcommands]
    exact List.mem_cons_of_mem command hstream
  queue := h.queue
  worker := h.worker
  stops := h.stops

theorem Dated.receive_stream (h : Dated s) (hok : heeds_stops s (.work e))
    (hplace : s.worker.place = .receive)
    (hcommands : s.commands = .TranslationStream command :: commands) :
    Dated (Bridge.receive_stream_command { s with commands } command e) := by
  have hcurrent : command.job.translation_generation ≤ s.state.translation_generation := by
    apply h.commands
    rw [hcommands]
    exact List.mem_cons_self
  have hstop : ∀ request, .StopAll request ∈ s.controls →
      ∀ generation ∈ stream_taken s e, generation ≤ request.stop_through_generation :=
    fun request hr => (hok _ hr).1
  unfold Bridge.receive_stream_command
  split
  · -- the command has to wait
    rename_i hready
    have hbuffer : ∀ n o, Within n o s.worker → command.job.translation_generation ≤ n →
        Within n o { s.worker with
          pending_physical_streams := s.worker.pending_physical_streams ++ [command] } := by
      intro n o hw hn
      refine ⟨hw.stream, ?_, hw.output⟩
      intro command' hc
      obtain hold | hnew := List.mem_append.mp hc
      · exact hw.pending command' hold
      · rw [List.mem_singleton.mp hnew]
        exact hn
    apply (h.drop_command hcommands).set_worker (hbuffer _ _ h.worker hcurrent)
    intro request hr
    apply hbuffer _ _ (h.stops request hr)
    exact stream_taken_le hplace hcommands (hstop request hr) fun hr => absurd hr hready
  · -- the command is played
    have hplay : ∀ n o, Within n o s.worker → (starts_stream s command e = true →
        command.job.translation_generation ≤ n) →
        Within n o (s.worker.play_physical_translation_stream s.state command e).1 := by
      intro n o hw hstart
      apply hw.play command e
      intro hstate hgen hcancelled hnone hopen
      apply hstart
      simp [starts_stream, hstate, hgen, hcancelled, hnone, hopen]
    have hheld := (h.drop_command hcommands).set_worker (hplay _ _ h.worker fun _ => hcurrent)
      fun request hr => hplay _ _ (h.stops request hr) fun hstart =>
        stream_taken_le hplace hcommands (hstop request hr) fun _ => hstart
    exact hheld.set_state (s.worker.play_generation s.state command e)

theorem Dated.receive (h : Dated s) (hok : heeds_stops s (.work e))
    (hplace : s.worker.place = .receive) : Dated (s.receive e) := by
  unfold Bridge.receive
  split
  · exact h
  · rename_i command _ hcommands
    have hrest := h.drop_command hcommands
    cases command with
    | Play device_id =>
      refine hrest.keep (r := ({ s.worker with
        output := (s.worker.output_for device_id e).toOption.or s.worker.output }, s.state)) ?_ rfl
      intro n o hw
      refine ⟨hw.stream, hw.pending, ?_⟩
      intro ho output hout generation hg
      cases hfor : s.worker.output_for device_id e with
      | error error =>
        rw [hfor] at hout
        exact hw.output ho output hout generation hg
      | ok _ =>
        rw [hfor] at hout
        cases hout
        obtain hold | rfl := s.worker.output_for_cases hfor
        · exact hw.output ho output hold generation hg
        · cases hg
    | TranslationQueued => exact hrest
    | TranslationStream command => exact h.receive_stream hok hplace hcommands
    | FlushSource => exact hrest

theorem Dated.start_next_translation (h : Dated s) (hok : heeds_stops s (.work e))
    (hplace : s.worker.place = .start_next) : Dated (s.start_next_translation e) := by
  obtain ⟨hsub, hmem⟩ := s.translation_queue.start_next_pending e.now_ms
  have hdropped : Dated (Bridge.drop_jobs
      { s with translation_queue := (s.translation_queue.start_next e.now_ms).1 }
      (s.translation_queue.start_next e.now_ms).2.2 .StaleDropped
      "realtime-budget-before-start") := by
    refine Dated.set_state ?_ (Bridge.drop_jobs_generation _ _ _ _)
    apply h.set_queue
    intro job hj
    exact h.queue job (hsub hj)
  unfold Bridge.start_next_translation
  dsimp only
  split
  · exact hdropped
  · rename_i job hjob
    split
    · exact (hdropped.set_queue (q := { (s.translation_queue.start_next e.now_ms).1 with
        active := none }) hdropped.queue).set_state rfl
    · rename_i output hout
      have hplay : ∀ n o, Within n o s.worker → (o → job.translation_generation ≤ n) →
          Within n o { s.worker with output := some { output with
            translation_generation := some job.translation_generation
            translation_player := (if output.translation_generation.isSome ∧
              output.translation_generation ≠ some job.translation_generation then []
              else output.translation_player) ++ [job.samples] } } := by
        intro n o hw hn
        refine ⟨hw.stream, hw.pending, ?_⟩
        intro ho output' hout' generation hg
        cases hout'
        cases hg
        exact hn ho
      have hcurrent : job.translation_generation ≤ s.state.translation_generation :=
        h.queue job (hmem job hjob)
      have htaken : complete_taken s e = some job.translation_generation := by
        have hopen : s.worker.output_for job.device_id e = .ok output := hout
        unfold complete_taken
        rw [hplace, hjob]
        dsimp only
        rw [hopen]
        rfl
      have hheld := hdropped.set_worker
        (hplay _ _ hdropped.worker fun _ => (Bridge.drop_jobs_generation _ _ _ _).symm ▸ hcurrent)
        fun request hr => hplay _ _ (h.stops request hr) fun hrecreate =>
          (hok _ hr).2 hrecreate _ htaken
      exact hheld.set_state rfl

/-- Every step that heeds the stops keeps all work dated. -/
theorem Dated.step {op : Op S} (h : Dated s) (hok : heeds_stops s op) : Dated (step s op) := by
  cases op with
  | translation_frame frame now_ms => exact h.translation_frame frame now_ms
  | source_frame | flush_source => exact h.try_send_getD fun _ hne => by cases hne
  | request_playback_stop reason error_code => exact h.stop hok reason error_code
  | bridge_shutdown => exact h.shutdown hok
  | bridge_init device_id reason reset => exact h.init hok device_id reason reset
  | rebind device_id => exact h.push_control fun _ hne => by cases hne
  | work e =>
    unfold playback.step Bridge.run_playback_worker
    dsimp only
    split
    · exact h.apply_control e _
    · exact (h.keep (fun _ _ hw => hw.start_buffered e)
        (PlaybackWorker.start_buffered_generation _ _ _)).goto _
    · exact (h.finish_stream e).goto _
    · exact (h.finish_translation e).goto _
    · exact h.take_ready e
    · rename_i hplace
      exact (h.receive hok hplace).goto _
    · exact h.apply_control e _
    · unfold Bridge.check_complete
      split
      · exact h.goto _
      · exact h.goto _
    · rename_i hplace
      exact (h.start_next_translation hok hplace).goto _

/-! ## A stop spares later work -/

theorem Spares.of_dated {request : PlaybackStopRequest} (h : Dated s)
    (happlies : applies_stop s request) (e : Outside) :
    Spares request.stop_through_generation s (step s (.work e)) := by
  obtain ⟨hplace, hhead⟩ := happlies
  obtain ⟨controls, hcontrols⟩ : ∃ controls, s.controls = .StopAll request :: controls := by
    cases hc : s.controls with
    | nil => rw [hc] at hhead; cases hhead
    | cons _ controls =>
      rw [hc] at hhead
      cases hhead
      exact ⟨controls, rfl⟩
  have hstep : step s (.work e) = { s with controls, worker := s.worker.stop_all request } := by
    unfold playback.step Bridge.run_playback_worker
    obtain hp | hp := hplace
    · rw [hp]
      dsimp only [Bridge.apply_playback_control_commands]
      rw [hcontrols]
      rfl
    · rw [hp]
      dsimp only [Bridge.apply_playback_control_commands]
      rw [hcontrols]
      rfl
  have hwithin := h.stops request (by rw [hcontrols]; exact List.mem_cons_self)
  rw [hstep]
  refine ⟨?_, ?_, ?_, rfl, rfl⟩
  · intro stream hs hlater
    exact absurd (hwithin.stream stream hs) (Nat.not_le.mpr hlater)
  · symm
    apply List.filter_eq_nil_iff.mpr
    intro command hc
    have hle := hwithin.pending command hc
    simpa using hle
  · intro output hout generation hg hlater
    unfold PlaybackWorker.stop_all
    have hrecreate : request.recreate_output = false := by
      cases hr : request.recreate_output with
      | false => rfl
      | true => exact absurd (hwithin.output hr output hout generation hg) (Nat.not_le.mpr hlater)
    rw [hrecreate, Option.mem_def.mp hout]
    simp [Option.mem_def.mp hg, Nat.not_le.mpr hlater]

/-- In every run of which each step heeds the stops, each stop that is applied spares all work of
later generations. -/
theorem a_heeded_stop_spares_later_work (device_id : String) (ops : List (Op S))
    (hok : Along step heeds_stops (Bridge.new device_id) ops) (request : PlaybackStopRequest)
    (happlies : applies_stop (run step (Bridge.new device_id) ops) request) (e : Outside) :
    Spares request.stop_through_generation (run step (Bridge.new device_id) ops)
      (step (run step (Bridge.new device_id) ops) (.work e)) := by
  have hdated : Dated (run step (Bridge.new device_id) ops) :=
    hok.keeps Dated (fun _ _ h hok => h.step hok) (dated_new device_id)
  exact Spares.of_dated hdated happlies e

/-- A step at which the device opens and nothing is left to play. -/
def idle : Outside := ⟨true, none, 0, 0⟩

/-- A start frame of a stream, with one sample. -/
def start_frame (cue_id : String) : Op Nat :=
  .translation_frame ⟨some cue_id, [0], none, some .Start, some 0, true, true, true⟩ 0

/-- The worker waits for a command when the shutdown asks for a stop and a client starts a cue. -/
def a_cue_after_the_stop : List (Op Nat) :=
  [.work idle, .work idle, .work idle, .work idle, .work idle, .bridge_shutdown,
    start_frame "later", .work idle]

/-- The cue is of generation one. It plays when the worker applies the stop of generation zero,
and is gone after it, without a status. -/
theorem a_stop_removes_a_later_stream :
    applies_stop (run step (Bridge.new "speakers") a_cue_after_the_stop) ⟨false, 0⟩ ∧
      ¬ Spares 0 (run step (Bridge.new "speakers") a_cue_after_the_stop)
        (step (run step (Bridge.new "speakers") a_cue_after_the_stop) (.work idle)) ∧
      (step (run step (Bridge.new "speakers") a_cue_after_the_stop) (.work idle)).state.statuses =
        (run step (Bridge.new "speakers") a_cue_after_the_stop).state.statuses := by
  refine ⟨⟨Or.inr (by decide +kernel), rfl⟩, ?_, by decide +kernel⟩
  intro h
  have hstream := h.stream ⟨"later", 0, 1, false, false⟩ rfl (by decide)
  cases hstream

/-- A cue plays when the stop is asked for, and the next cue waits in the channel. -/
def a_cue_before_the_stop : List (Op Nat) :=
  [.work idle, .work idle, .work idle, .work idle, .work idle, start_frame "first", .work idle,
    .bridge_shutdown, start_frame "later"]

theorem a_heeded_stop_spares_the_next_cue :
    Spares 0 (run step (Bridge.new "speakers") a_cue_before_the_stop)
      (step (run step (Bridge.new "speakers") a_cue_before_the_stop) (.work idle)) :=
  a_heeded_stop_spares_later_work "speakers" a_cue_before_the_stop (by decide +kernel) ⟨false, 0⟩
    ⟨Or.inr (by decide +kernel), rfl⟩ idle

end omni_translate.playback

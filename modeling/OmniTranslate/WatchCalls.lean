-- The calls on the terminal ledger of a strict watch run, and what each of
-- them can do to it.
import OmniTranslate.Maps
import OmniTranslate.Runs
import OmniTranslate.WatchLifecycle

namespace omni_translate.watch_terminal_lifecycle

open calls json runs translation_lifecycle StrictWatchTerminalLifecycleState

/-! ## Calls -/

inductive Op where
  | session_updated_received (session_identity sent echoed : String) (now : Nat)
  | provider_append (samples now : Nat)
  | session_finish_sent (now : Nat)
  | provider_input_closed (now : Nat)
  | response_terminal (stage : ResponseStage) (response_id : String) (now : Nat)
  | response_failed (response_id status : String)
  | session_finished_received (now : Nat)
  | renderer_cue_submitted (cue_id response_id : String) (now : Nat)
  | renderer_ack (cue_id receipt_authority receipt_id : String) (completed_at now : Nat)
  | renderer_failure (cue_id reason : String)
  | provider_call_started (qpc_now_100ns : Option Nat)
  | provider_session_created (provider_session_id : String)
  | enable_aec_open_input_drain
  | reset_provider_socket
  | media_complete (now : Nat)
  | response_started (response_id : String) (now : Nat)
  | nonempty_output (response_id : String) (now : Nat)
  | renderer_started (cue_id : String) (now : Nat)
  | renderer_frames (cue_id : String) (frames now : Nat)
  | approve_output_quiescence (generation now : Nat)
  | input_speech (item_id : String) (active : Bool) (now : Nat)
  | source_activity (item_id : String) (now : Nat)
  | input_response_bindings (bindings : List (String × String)) (now : Nat)

def record (sha256 : String → String) : Op → Ledger Unit
  | .session_updated_received session_identity sent echoed now =>
    record_session_updated_received sha256 session_identity sent echoed now
  | .provider_append samples now => record_provider_append samples now
  | .session_finish_sent now => record_session_finish_sent now
  | .provider_input_closed now => discard (record_provider_input_closed now)
  | .response_terminal stage response_id now => record_response_terminal stage response_id now
  | .response_failed response_id status => record_response_failed response_id status
  | .session_finished_received now => record_session_finished_received now
  | .renderer_cue_submitted cue_id response_id now => discard (cue_sequence cue_id response_id now)
  | .renderer_ack cue_id receipt_authority receipt_id completed_at now =>
    record_renderer_ack cue_id receipt_authority receipt_id completed_at now
  | .renderer_failure cue_id reason => record_renderer_failure cue_id reason
  | .provider_call_started qpc_now_100ns => record_provider_call_started qpc_now_100ns
  | .provider_session_created provider_session_id => record_provider_session_created provider_session_id
  | .enable_aec_open_input_drain => watch_terminal_lifecycle.enable_aec_open_input_drain
  | .reset_provider_socket => watch_terminal_lifecycle.reset_provider_socket
  | .media_complete now => record_media_complete now
  | .response_started response_id now => record_response_started response_id now
  | .nonempty_output response_id now => record_nonempty_output response_id now
  | .renderer_started cue_id now => record_renderer_started cue_id now
  | .renderer_frames cue_id frames now => record_renderer_frames cue_id frames now
  | .approve_output_quiescence generation now =>
    watch_terminal_lifecycle.approve_output_quiescence generation now
  | .input_speech item_id active now => record_input_speech item_id active now
  | .source_activity item_id now => record_source_activity item_id now
  | .input_response_bindings bindings now => record_input_response_bindings bindings now

/-- A call on the lifecycle. -/
inductive WatchCall where
  | begin_lifecycle (identity : StrictWatchTerminalIdentity)
  | record (op : Op)

/-- The lifecycle and the calls on its ledger so far, with whether they were answered. -/
structure Watch where
  lifecycle : StrictWatchTerminalLifecycle
  log : List (Op × Bool)

namespace Watch

def new : Watch := ⟨none, []⟩

def step (sha256 : String → String) (watch : Watch) : WatchCall → Watch
  | .begin_lifecycle identity =>
    match watch_terminal_lifecycle.begin_lifecycle identity watch.lifecycle with
    | .ok _ next => { watch with lifecycle := next }
    | .error _ next => { watch with lifecycle := next }
  | .record op =>
    match watch.lifecycle with
    | none => watch
    | some _ =>
      match with_active_mut (watch_terminal_lifecycle.record sha256 op) () watch.lifecycle with
      | .ok _ next => ⟨next, watch.log ++ [(op, true)]⟩
      | .error _ next => ⟨next, watch.log ++ [(op, false)]⟩

end Watch

/-! ## What a call can do -/

/-- The calls that do something only while the drain is on. -/
def Op.drained : Op → Bool
  | provider_call_started _ | provider_session_created _ | reset_provider_socket
  | response_started _ _ | nonempty_output _ _ | renderer_started _ _ | renderer_frames _ _ _
  | input_speech _ _ _ | source_activity _ _ | input_response_bindings _ _ => true
  | _ => false

namespace StrictWatchTerminalLifecycleState

variable (s : StrictWatchTerminalLifecycleState)

def violated (error : String) : StrictWatchTerminalLifecycleState :=
  { s with terminal_violation := s.terminal_violation.or (some error) }

/-- The next sequence number is taken. -/
def sequenced : StrictWatchTerminalLifecycleState :=
  { s with next_source_sequence := s.next_source_sequence + 1 }

/-- An activity is noted. -/
def stirred : StrictWatchTerminalLifecycleState :=
  { s with
    activity_generation := s.activity_generation + 1
    next_source_sequence := s.next_source_sequence + 1 }

/-- An activity is noted if the drain is on. -/
def stirred_if_drained : StrictWatchTerminalLifecycleState :=
  { s with
    activity_generation :=
      if s.aec_open_input_drain = true then s.activity_generation + 1 else s.activity_generation
    next_source_sequence :=
      if s.aec_open_input_drain = true then s.next_source_sequence + 1 else s.next_source_sequence }

variable (phase : StrictWatchOpenInputPhase)

/-- The phase that a gate of the drain leads to. -/
def gated : StrictWatchTerminalLifecycleState :=
  { s with open_input_phase := if s.aec_open_input_drain = true then phase else s.open_input_phase }

variable {s}

theorem stirred_on (haec : s.aec_open_input_drain = true) : s.stirred_if_drained = s.stirred := by
  unfold stirred_if_drained
  rw [if_pos haec, if_pos haec]
  rfl

theorem stirred_off (haec : ¬ s.aec_open_input_drain = true) : s.stirred_if_drained = s := by
  unfold stirred_if_drained
  rw [if_neg haec, if_neg haec]

theorem gated_on {phase : StrictWatchOpenInputPhase} (haec : s.aec_open_input_drain = true) :
    s.gated phase = { s with open_input_phase := phase } := by
  unfold gated
  rw [if_pos haec]

theorem gated_off (haec : ¬ s.aec_open_input_drain = true) : s.gated phase = s := by
  unfold gated
  rw [if_neg haec]

variable (s)

/-- The drain, if it is on, lets a call pass in this phase. -/
def Passes : Prop :=
  s.aec_open_input_drain = true → s.check_open_input_failure = .ok () ∧ s.open_input_phase = phase

/-- The item is bound to the response. -/
def Bound (item response : String) : Prop := s.input_response_owners.lookup item = some (some response)

end StrictWatchTerminalLifecycleState

/-- No response belongs to two items. -/
def Apart (owners : AList (fun _ : String => Option String)) : Prop :=
  ∀ item other response, owners.lookup item = some (some response) →
    owners.lookup other = some (some response) → item = other

/-- Items keep their responses, and responses keep to one item. -/
structure Grown (owners owners' : AList (fun _ : String => Option String)) : Prop where
  kept : ∀ item response, owners.lookup item = some (some response) →
    owners'.lookup item = some (some response)
  apart : Apart owners → Apart owners'

/-- What a call of each kind can do to the ledger; the last argument says whether it is answered. -/
inductive Done (s : StrictWatchTerminalLifecycleState) :
    Op → StrictWatchTerminalLifecycleState → Bool → Prop
  | refused (op) (hop : ∀ samples now, op = .provider_append samples now → samples = 0) : Done s op s false
  | idle (op) (hop : op.drained = true) : Done s op s true
  | violated (op error) (haec : s.aec_open_input_drain = true)
    (hop : ∀ samples now, op ≠ .provider_append samples now) : Done s op (s.violated error) false
  | session_updated (identity sent echoed now evidence) :
    Done s (.session_updated_received identity sent echoed now)
      { s.sequenced with session_updated_received := some evidence } true
  | late_append (samples now) (hsent : s.session_finish_sent.isSome = true) :
    Done s (.provider_append samples now)
      { s with provider_writes_after_finish := saturating_succ s.provider_writes_after_finish } false
  | append (samples now count total evidence) (hnone : s.session_finish_sent = none) :
    Done s (.provider_append samples now)
      { s.sequenced with
        append_count := count, accepted_samples_total := total, last_provider_append := some evidence }
      true
  | finish_counted (now) (hgate : s.Passes .capture_closed) :
    Done s (.session_finish_sent now)
      { s.gated .finish_sent with finish_count := saturating_succ s.finish_count } false
  | finish (now evidence) (hgate : s.Passes .capture_closed)
    (hcount : saturating_succ s.finish_count = 1) (hnone : s.session_finish_sent = none)
    (happend : s.last_provider_append.isSome = true) :
    Done s (.session_finish_sent now)
      { (s.gated .finish_sent).sequenced with
        finish_count := saturating_succ s.finish_count, session_finish_sent := some evidence } true
  | input_closed (now evidence sequence) (hgate : s.Passes .quiescent_approved) :
    Done s (.provider_input_closed now)
      { (s.gated .capture_closed).sequenced with
        capture_closed := some evidence, provider_input_closed_source_sequence := some sequence } true
  | terminal (stage response_id now evidence) (hevidence : evidence.response_id = response_id)
    (hunfinished : s.session_finished_received = none) :
    Done s (.response_terminal stage response_id now)
      (keep_terminal (enter_stage s response_id stage).stirred_if_drained.sequenced evidence) true
  | terminal_exhausted (stage response_id now) :
    Done s (.response_terminal stage response_id now) (enter_stage s response_id stage) false
  | failed (response_id status) (hunfinished : s.session_finished_received = none) :
    Done s (.response_failed response_id status)
      (revoke { s with failed_response_statuses := s.failed_response_statuses.insert response_id status }
        response_id) true
  | failed_again (response_id status) (hold : response_id ∈ s.failed_response_statuses) :
    Done s (.response_failed response_id status)
      { s with failed_response_statuses := s.failed_response_statuses.insert response_id status } false
  | finished_sequenced (now) : Done s (.session_finished_received now) s.sequenced false
  | finished (now evidence) (hnone : s.session_finished_received = none)
    (hsent : s.session_finish_sent.isSome = true) :
    Done s (.session_finished_received now)
      { s.sequenced.gated .finished with session_finished_received := some evidence } true
  | cue_known (cue_id response_id now) (sequence) (hsequence : s.cue_sequences.lookup cue_id = some sequence)
    (hresponse : s.cue_response_ids.lookup cue_id = some response_id) :
    Done s (.renderer_cue_submitted cue_id response_id now) s true
  | cue_exhausted (cue_id response_id now) :
    Done s (.renderer_cue_submitted cue_id response_id now) s.stirred_if_drained false
  | cue (cue_id response_id now) (hnew : s.cue_sequences.lookup cue_id = none)
    (hopen : s.aec_open_input_drain = true → s.open_input_phase = .opened) :
    Done s (.renderer_cue_submitted cue_id response_id now)
      { s.stirred_if_drained with
        next_cue_sequence := s.next_cue_sequence + 1
        last_cue_sequence := s.next_cue_sequence + 1
        cue_sequences := s.cue_sequences.insert cue_id (s.next_cue_sequence + 1)
        cue_response_ids := s.cue_response_ids.insert cue_id response_id } true
  | ack_known (cue_id authority receipt_id completed_at now) (hcue : cue_id ∈ s.cue_sequences)
    (hknown : receipt_id ∈ s.renderer_receipt_ids) :
    Done s (.renderer_ack cue_id authority receipt_id completed_at now) s true
  | ack (cue_id authority receipt_id completed_at now) (sequence) (response_id) (completed)
    (evidence : RendererAck) (hsequence : s.cue_sequences.lookup cue_id = some sequence)
    (hresponse : s.cue_response_ids.lookup cue_id = some response_id)
    (hevidence : evidence.response_id = response_id) (hnew : receipt_id ∉ s.renderer_receipt_ids) :
    Done s (.renderer_ack cue_id authority receipt_id completed_at now)
      { s.stirred_if_drained.sequenced with
        last_physical_completed := completed
        renderer_acks := s.renderer_acks.insert sequence evidence
        renderer_receipt_ids := insert receipt_id s.renderer_receipt_ids } true
  | failure_known (cue_id reason) (sequence) (existing)
    (hexisting : s.renderer_failures.lookup sequence = some existing) :
    Done s (.renderer_failure cue_id reason) s true
  | failure (cue_id reason) (sequence) (failure) :
    Done s (.renderer_failure cue_id reason)
      { s with renderer_failures := s.renderer_failures.insert sequence failure } true
  | call_started (qpc value) :
    Done s (.provider_call_started qpc) { s with provider_call_started_qpc_100ns := value } true
  | session_created (id) :
    Done s (.provider_session_created id) { s with provider_session_id := some id } true
  | enable (happend : s.last_provider_append = none) :
    Done s .enable_aec_open_input_drain { s with aec_open_input_drain := true } true
  | reset (haec : s.aec_open_input_drain = true) :
    Done s .reset_provider_socket
      { s with
        session_updated_received := none, provider_session_id := none, active_speech := ∅,
        active_responses := ∅, input_response_owners := ∅ } true
  | media (now evidence) :
    Done s (.media_complete now) { s.sequenced with media_complete := some evidence } true
  | fresh (op) (hop : op.drained = true) (haec : s.aec_open_input_drain = true)
    (hopen : s.open_input_phase = .opened) (speech output started frame responses speeches owners)
    (hgrown : Grown s.input_response_owners owners) :
    Done s op
      { s.stirred with
        last_input_speech := speech, last_output := output, last_physical_started := started,
        last_physical_frame := frame, active_responses := responses, active_speech := speeches,
        input_response_owners := owners } true
  | approve (generation now evidence) (haec : s.aec_open_input_drain = true)
    (hopen : s.open_input_phase = .opened) (hcheck : s.check_open_input_failure = .ok ())
    (hevidence : evidence.activity_generation = s.activity_generation) :
    Done s (.approve_output_quiescence generation now)
      { s.sequenced with
        open_input_phase := .quiescent_approved, output_quiescent := some evidence } true
  | bindings (pairs now generation source speech owners error ok) (haec : s.aec_open_input_drain = true)
    (hgeneration : s.activity_generation ≤ generation)
    (hgrown : Grown s.input_response_owners owners) :
    Done s (.input_response_bindings pairs now)
      { s with
        activity_generation := generation, next_source_sequence := source, last_input_speech := speech,
        input_response_owners := owners, terminal_violation := s.terminal_violation.or error } ok

variable {s : StrictWatchTerminalLifecycleState}

/-! ## The parts of a call -/

variable {error : StrictWatchTerminalLifecycleState → Prop}

variable {ok : Unit → StrictWatchTerminalLifecycleState → Prop}

@[simp] theorem Ends.check :
    Ends check_open_input_failure ok error s ↔
      (s.check_open_input_failure = .ok () → ok () s) ∧
        (s.check_open_input_failure ≠ .ok () → error s) := by
  unfold Ends check_open_input_failure
  cases h : s.check_open_input_failure with
  | error _ => simp
  | ok _ => simp

@[simp] theorem Ends.violate {α : Type} {ok : α → StrictWatchTerminalLifecycleState → Prop}
    (message : String) :
    Ends (violate message) ok error s ↔ error (s.violated message) := Iff.rfl

@[simp] theorem Ends.next_source_sequence {ok : Nat → StrictWatchTerminalLifecycleState → Prop} :
    Ends next_source_sequence ok error s ↔ ok (s.next_source_sequence + 1) s.sequenced := Iff.rfl

variable {owner : String} {now : Nat}

/-- A fresh activity outside the open phase is a violation. -/
theorem Ends.activity {ok : StrictWatchActivityEvidence → StrictWatchTerminalLifecycleState → Prop}
    {fresh : Bool}
    (hviolated : s.aec_open_input_drain = true → fresh = true → s.open_input_phase ≠ .opened →
      ∀ message, error (s.violated message))
    (hstirred : (s.aec_open_input_drain = true → fresh = true → s.open_input_phase = .opened) →
      ∀ evidence, ok evidence s.stirred) (hexhausted : error s) :
    Ends (activity owner fresh now) ok error s := by
  unfold watch_terminal_lifecycle.activity
  simp only [Ends.bind, Ends.get, Ends.ite, Ends.violate, Ends.ensure, Ends.modify,
    Ends.next_source_sequence, Ends.pure]
  refine ⟨fun h => hviolated h.1 h.2.1 h.2.2 _, fun h => ⟨fun _ => hstirred (fun ha hf => ?_) _,
    fun _ => hexhausted⟩⟩
  by_contra hopen
  exact h ⟨ha, hf, hopen⟩

theorem Ends.drain_activity
    {ok : Option StrictWatchActivityEvidence → StrictWatchTerminalLifecycleState → Prop}
    {fresh : Bool}
    (hviolated : s.aec_open_input_drain = true → fresh = true → s.open_input_phase ≠ .opened →
      ∀ message, error (s.violated message))
    (hstirred : (s.aec_open_input_drain = true → fresh = true → s.open_input_phase = .opened) →
      ∀ evidence, ok evidence s.stirred_if_drained) (hexhausted : error s) :
    Ends (drain_activity owner fresh now) ok error s := by
  unfold watch_terminal_lifecycle.drain_activity
  simp only [Ends.bind, Ends.get, Ends.ite, Ends.map, Ends.pure]
  constructor
  · intro haec
    refine Ends.activity hviolated (fun hopen evidence => ?_) hexhausted
    rw [← stirred_on haec]
    exact hstirred hopen (some evidence)
  · intro haec
    have hnone := hstirred (fun h => absurd h haec) none
    rwa [stirred_off haec] at hnone

theorem Ends.pass_gate {phase next : StrictWatchOpenInputPhase} {message : String}
    (hpasses : s.Passes phase → ok () (s.gated next)) (herror : ¬ s.Passes phase → error s) :
    Ends (pass_gate phase message next) ok error s := by
  unfold watch_terminal_lifecycle.pass_gate
  simp only [Ends.bind, Ends.get, Ends.ite, Ends.check, Ends.ensure, Ends.modify, Ends.pure]
  refine ⟨fun haec => ⟨fun hcheck => ⟨fun hphase => ?_, fun hphase => ?_⟩, fun hcheck => ?_⟩, fun haec => ?_⟩
  · rw [← gated_on haec]
    exact hpasses fun _ => ⟨hcheck, hphase⟩
  · exact herror fun h => hphase (h haec).2
  · exact herror fun h => hcheck (h haec).1
  · rw [← gated_off next haec]
    exact hpasses fun h => absurd h haec

/-! ## Every call is one of these -/

theorem Done.refuse {op : Op} (hop : ∀ samples now, op ≠ .provider_append samples now) :
    Done s op s false := .refused op fun samples now h => absurd h (hop samples now)

/-- What a call does, as the way it ends. -/
abbrev Does (s : StrictWatchTerminalLifecycleState) (op : Op) {α : Type} (x : Ledger α) : Prop :=
  Ends x (fun _ s' => Done s op s' true) (fun s' => Done s op s' false) s

variable (sha256 : String → String)

theorem session_updated_done (identity sent echoed : String) (now : Nat) :
    Does s (.session_updated_received identity sent echoed now)
      (record_session_updated_received sha256 identity sent echoed now) := by
  have hrefused : Done s (.session_updated_received identity sent echoed now) s false := .refuse (by simp)
  unfold record_session_updated_received
  simp only [Ends.bind, Ends.get, Ends.ensure, Ends.modify, Ends.next_source_sequence]
  -- one goal for each check
  repeat refine ⟨fun _ => ?_, fun _ => hrefused⟩
  exact .session_updated _ _ _ _ _

theorem provider_append_done (samples now : Nat) :
    Does s (.provider_append samples now) (record_provider_append samples now) := by
  unfold record_provider_append
  simp only [Ends.bind, Ends.get, Ends.ensure, Ends.ite, Ends.modify, Ends.next_source_sequence, Ends.throw]
  refine ⟨fun _ => ⟨fun hsent => .late_append samples now hsent, fun hnone => ?_⟩, fun hzero => ?_⟩
  · exact .append samples now _ _ _ (by simpa using hnone)
  · refine .refused _ fun _ _ h => ?_
    cases h
    simpa using hzero

theorem session_finish_done (now : Nat) :
    Does s (.session_finish_sent now) (record_session_finish_sent now) := by
  unfold record_session_finish_sent
  simp only [Ends.bind, Ends.modify, Ends.get, Ends.ensure, Ends.demand, Ends.next_source_sequence]
  refine Ends.pass_gate (fun hgate => ?_) fun _ => .refuse (by simp)
  have hcounted : Done s (.session_finish_sent now)
      { s.gated .finish_sent with finish_count := saturating_succ s.finish_count } false :=
    .finish_counted now hgate
  refine ⟨fun hfirst => ⟨fun append happend => ⟨fun _ _ => ?_, fun _ => hcounted⟩, fun _ => hcounted⟩,
    fun _ => hcounted⟩
  exact .finish now _ hgate hfirst.1 (by simpa [StrictWatchTerminalLifecycleState.gated] using hfirst.2)
    (by rw [show s.last_provider_append = some append from happend]; rfl)

theorem provider_input_closed_done (now : Nat) :
    Does s (.provider_input_closed now) (record_provider_input_closed now) := by
  have hrefused : Done s (.provider_input_closed now) s false := .refuse (by simp)
  unfold record_provider_input_closed
  simp only [Ends.bind, Ends.get, Ends.ensure, Ends.modify, Ends.next_source_sequence, Ends.pure]
  refine ⟨fun _ => Ends.pass_gate (fun hgate => ?_) fun _ => hrefused, fun _ => hrefused⟩
  exact .input_closed now _ _ hgate

theorem response_terminal_done (stage : ResponseStage) (response_id : String) (now : Nat) :
    Does s (.response_terminal stage response_id now) (record_response_terminal stage response_id now) := by
  have hrefused : Done s (.response_terminal stage response_id now) s false := .refuse (by simp)
  unfold record_response_terminal
  simp only [Ends.bind, Ends.get, Ends.ensure, Ends.set, Ends.modify, Ends.next_source_sequence]
  refine ⟨fun _ => ⟨fun hunfinished => ⟨fun _ => ⟨fun _ => ?_, fun _ => hrefused⟩, fun _ => hrefused⟩,
    fun _ => hrefused⟩, fun _ => hrefused⟩
  refine Ends.drain_activity (fun _ h => by simp at h) (fun _ _ => ?_)
    (.terminal_exhausted stage response_id now)
  exact .terminal stage response_id now _ rfl (by simpa using hunfinished)

theorem response_failed_done (response_id status : String) :
    Does s (.response_failed response_id status) (record_response_failed response_id status) := by
  have hrefused : Done s (.response_failed response_id status) s false := .refuse (by simp)
  unfold record_response_failed
  simp only [Ends.bind, Ends.get, Ends.ensure, Ends.modify]
  refine ⟨fun _ => ⟨fun _ => ⟨fun hunfinished => ⟨fun _ => ?_, fun hold => ?_⟩, fun _ => hrefused⟩,
    fun _ => hrefused⟩, fun _ => hrefused⟩
  · exact .failed response_id status (by simpa using hunfinished)
  · exact .failed_again response_id status (not_not.mp hold)

theorem session_finished_done (now : Nat) :
    Does s (.session_finished_received now) (record_session_finished_received now) := by
  have hrefused : Done s (.session_finished_received now) s false := .refuse (by simp)
  have hsequenced : Done s (.session_finished_received now) s.sequenced false := .finished_sequenced now
  unfold record_session_finished_received enter_finished
  simp only [Ends.bind, Ends.get, Ends.ensure, Ends.modify, Ends.next_source_sequence, Ends.ite, Ends.check,
    Ends.pure]
  refine ⟨fun hnone => ⟨fun hsent => ⟨fun _ => ?_, fun _ => hrefused⟩, fun _ => hrefused⟩, fun _ => hrefused⟩
  have hdone := fun evidence => Done.finished (s := s) now evidence (by simpa using hnone) hsent
  refine ⟨fun haec => ⟨fun _ => ?_, fun _ => hsequenced⟩, fun haec => ?_⟩
  · rw [gated_on haec] at hdone
    exact hdone _
  · rw [gated_off .finished haec] at hdone
    exact hdone _

theorem cue_submitted_done (cue_id response_id : String) (now : Nat) :
    Does s (.renderer_cue_submitted cue_id response_id now) (cue_sequence cue_id response_id now) := by
  have hrefused : Done s (.renderer_cue_submitted cue_id response_id now) s false := .refuse (by simp)
  unfold cue_sequence
  simp only [Ends.bind, Ends.get, Ends.ensure]
  refine ⟨fun _ => ⟨fun _ => ?_, fun _ => hrefused⟩, fun _ => hrefused⟩
  cases hlookup : s.cue_sequences.lookup cue_id with
  | some sequence =>
    simp only [Ends.bind, Ends.ensure, Ends.pure]
    exact ⟨fun hresponse => .cue_known cue_id response_id now sequence hlookup hresponse, fun _ => hrefused⟩
  | none =>
    simp only [Ends.bind, Ends.get, Ends.ensure, Ends.modify, Ends.pure]
    refine Ends.drain_activity (fun haec _ _ message => .violated _ message haec (by simp))
      (fun hopen _ => ⟨fun _ => ?_, fun _ => .cue_exhausted cue_id response_id now⟩) hrefused
    exact .cue cue_id response_id now hlookup fun haec => hopen haec rfl

theorem renderer_ack_done (cue_id authority receipt_id : String) (completed_at now : Nat) :
    Does s (.renderer_ack cue_id authority receipt_id completed_at now)
      (record_renderer_ack cue_id authority receipt_id completed_at now) := by
  have hrefused : Done s (.renderer_ack cue_id authority receipt_id completed_at now) s false :=
    .refuse (by simp)
  unfold record_renderer_ack
  simp only [Ends.bind, Ends.get, Ends.ensure, Ends.demand, Ends.ite, Ends.pure, Ends.modify,
    Ends.next_source_sequence]
  refine ⟨fun _ => ⟨fun sequence hsequence => ⟨fun response hresponse => ⟨fun _ => ⟨fun hknown => ?_,
    fun hnew => ?_⟩, fun _ => hrefused⟩, fun _ => hrefused⟩, fun _ => hrefused⟩, fun _ => hrefused⟩
  · exact .ack_known cue_id authority receipt_id completed_at now (maps.mem_of_lookup hsequence) hknown
  · refine Ends.drain_activity (fun _ h => by simp at h) (fun _ _ => ?_) hrefused
    exact .ack cue_id authority receipt_id completed_at now sequence response _ _ hsequence hresponse rfl hnew

theorem renderer_failure_done (cue_id reason : String) :
    Does s (.renderer_failure cue_id reason) (record_renderer_failure cue_id reason) := by
  have hrefused : Done s (.renderer_failure cue_id reason) s false := .refuse (by simp)
  unfold record_renderer_failure
  simp only [Ends.bind, Ends.get, Ends.ensure, Ends.demand]
  refine ⟨fun _ => ⟨fun sequence _ => ⟨fun _ _ => ?_, fun _ => hrefused⟩, fun _ => hrefused⟩,
    fun _ => hrefused⟩
  cases hlookup : s.renderer_failures.lookup sequence with
  | some existing =>
    simp only [Ends.ensure]
    exact ⟨fun _ => .failure_known cue_id reason sequence existing hlookup, fun _ => hrefused⟩
  | none => exact .failure cue_id reason sequence _

theorem provider_call_started_done (qpc : Option Nat) :
    Does s (.provider_call_started qpc) (record_provider_call_started qpc) := by
  unfold record_provider_call_started
  simp only [Ends.bind, Ends.get, Ends.ite, Ends.demand, Ends.modify, Ends.pure]
  exact ⟨fun _ => ⟨fun _ _ => .call_started _ _, fun _ => .refuse (by simp)⟩, fun _ => .idle _ rfl⟩

theorem provider_session_created_done (id : String) :
    Does s (.provider_session_created id) (record_provider_session_created id) := by
  have hrefused : Done s (.provider_session_created id) s false := .refuse (by simp)
  unfold record_provider_session_created
  simp only [Ends.bind, Ends.get, Ends.ite, Ends.ensure, Ends.demand, Ends.modify, Ends.pure]
  exact ⟨fun _ => ⟨fun _ => ⟨fun _ _ => .session_created _, fun _ => hrefused⟩, fun _ => hrefused⟩,
    fun _ => .idle _ rfl⟩

theorem enable_done : Does s .enable_aec_open_input_drain enable_aec_open_input_drain := by
  unfold enable_aec_open_input_drain
  simp only [Ends.bind, Ends.get, Ends.ensure, Ends.modify]
  exact ⟨fun hnone => .enable (by simpa using hnone.2), fun _ => .refuse (by simp)⟩

theorem reset_done : Does s .reset_provider_socket reset_provider_socket := by
  unfold reset_provider_socket
  simp only [Ends.bind, Ends.get, Ends.ite, Ends.modify, Ends.pure, Ends.violate]
  refine ⟨fun _ => .idle _ rfl, fun haec => ⟨fun _ => ?_, fun _ => ?_⟩⟩
  · exact .violated _ _ (by simpa using haec) (by simp)
  · exact .reset (by simpa using haec)

theorem media_complete_done (now : Nat) : Does s (.media_complete now) (record_media_complete now) := by
  have hrefused : Done s (.media_complete now) s false := .refuse (by simp)
  unfold record_media_complete
  simp only [Ends.bind, Ends.get, Ends.check, Ends.ensure, Ends.modify, Ends.next_source_sequence]
  exact ⟨fun _ => ⟨fun _ => .media now _, fun _ => hrefused⟩, fun _ => hrefused⟩

theorem Grown.refl (owners : AList (fun _ : String => Option String)) : Grown owners owners :=
  ⟨fun _ _ h => h, fun h => h⟩

theorem Grown.trans {first second third : AList (fun _ : String => Option String)}
    (h : Grown first second) (h' : Grown second third) : Grown first third :=
  ⟨fun item response hb => h'.kept item response (h.kept item response hb), fun ha => h'.apart (h.apart ha)⟩

theorem Grown.know_item (owners : AList (fun _ : String => Option String)) (item_id : String) :
    Grown owners (know_item owners item_id) := by
  unfold watch_terminal_lifecycle.know_item
  split
  · exact Grown.refl owners
  · rename_i hnew
    -- the new item has no response yet
    have hsame : ∀ item response, (owners.insert item_id none).lookup item = some (some response) ↔
        owners.lookup item = some (some response) := by
      intro item response
      by_cases hitem : item = item_id
      · subst hitem
        rw [AList.lookup_insert, AList.lookup_eq_none.mpr hnew]
        simp
      · rw [AList.lookup_insert_ne hitem]
    refine ⟨fun item response h => (hsame item response).mpr h, fun hapart item other response h h' => ?_⟩
    exact hapart item other response ((hsame item response).mp h) ((hsame other response).mp h')

/-- A new pair: the item has no response and the response no item. -/
theorem Grown.bind {item_id response_id : String} (hfree : (s.input_response_owners.lookup item_id).join = none)
    (helse : ¬ owned_elsewhere s item_id response_id) :
    Grown s.input_response_owners (s.input_response_owners.insert item_id (some response_id)) := by
  have helse : ∀ item, s.input_response_owners.lookup item = some (some response_id) → item = item_id := by
    intro item hitem
    by_contra hne
    exact helse ⟨⟨item, some response_id⟩, AList.mem_lookup_iff.mp hitem, hne, rfl⟩
  refine ⟨fun item response h => ?_, fun hapart item other response h h' => ?_⟩
  · by_cases hitem : item = item_id
    · subst hitem
      simp [h] at hfree
    · rwa [AList.lookup_insert_ne hitem]
  · by_cases hitem : item = item_id
    · by_cases hother : other = item_id
      · rw [hitem, hother]
      · subst hitem
        rw [AList.lookup_insert, Option.some_inj, Option.some_inj] at h
        subst h
        rw [AList.lookup_insert_ne hother] at h'
        exact (helse other h').symm
    · rw [AList.lookup_insert_ne hitem] at h
      by_cases hother : other = item_id
      · subst hother
        rw [AList.lookup_insert, Option.some_inj, Option.some_inj] at h'
        subst h'
        exact helse item h
      · rw [AList.lookup_insert_ne hother] at h'
        exact hapart item other response h h'

/-- A drained call notes a fresh activity and then writes what it is about. -/
theorem fresh_done {op : Op} (hop : op.drained = true) (haec : s.aec_open_input_drain = true)
    {f : StrictWatchActivityEvidence → StrictWatchTerminalLifecycleState → StrictWatchTerminalLifecycleState}
    (hf : s.open_input_phase = .opened → ∀ evidence, Done s op (f evidence s.stirred) true) :
    Does s op (do
      let evidence ← activity owner true now
      modify (f evidence) : Ledger PUnit) := by
  have happend : ∀ samples now, op ≠ .provider_append samples now := by
    rintro samples now rfl
    simp [Op.drained] at hop
  simp only [Ends.bind, Ends.modify]
  exact Ends.activity (fun _ _ _ message => .violated op message haec happend)
    (fun hopen evidence => hf (hopen haec rfl) evidence) (.refuse happend)

theorem response_started_done (response_id : String) (now : Nat) :
    Does s (.response_started response_id now) (record_response_started response_id now) := by
  unfold record_response_started
  simp only [Ends.bind, Ends.get, Ends.ite, Ends.ensure, Ends.pure, Bool.not_eq_false]
  refine ⟨fun _ => .idle _ rfl, fun haec => ⟨fun _ => ?_, fun _ => .refuse (by simp)⟩⟩
  rw [← Ends.bind]
  exact fresh_done rfl haec fun hopen _ => .fresh _ rfl haec hopen _ _ _ _ _ _ _ (Grown.refl _)

theorem nonempty_output_done (response_id : String) (now : Nat) :
    Does s (.nonempty_output response_id now) (record_nonempty_output response_id now) := by
  unfold record_nonempty_output
  simp only [Ends.bind, Ends.get, Ends.ite, Ends.ensure, Ends.pure, Bool.not_eq_false]
  refine ⟨fun _ => .idle _ rfl, fun haec => ⟨fun _ => ?_, fun _ => .refuse (by simp)⟩⟩
  rw [← Ends.bind]
  exact fresh_done rfl haec fun hopen _ => .fresh _ rfl haec hopen _ _ _ _ _ _ _ (Grown.refl _)

theorem renderer_started_done (cue_id : String) (now : Nat) :
    Does s (.renderer_started cue_id now) (record_renderer_started cue_id now) := by
  unfold record_renderer_started
  simp only [Ends.bind, Ends.get, Ends.ite, Ends.ensure, Ends.pure, Bool.not_eq_false]
  refine ⟨fun _ => .idle _ rfl, fun haec => ⟨fun _ => ?_, fun _ => .refuse (by simp)⟩⟩
  rw [← Ends.bind]
  exact fresh_done rfl haec fun hopen _ => .fresh _ rfl haec hopen _ _ _ _ _ _ _ (Grown.refl _)

theorem renderer_frames_done (cue_id : String) (frames now : Nat) :
    Does s (.renderer_frames cue_id frames now) (record_renderer_frames cue_id frames now) := by
  unfold record_renderer_frames
  simp only [Ends.bind, Ends.get, Ends.ite, Ends.ensure, Ends.pure, not_or, Bool.not_eq_false]
  refine ⟨fun _ => .idle _ rfl, fun hon => ⟨fun _ => ?_, fun _ => .refuse (by simp)⟩⟩
  rw [← Ends.bind]
  exact fresh_done rfl hon.1 fun hopen _ => .fresh _ rfl hon.1 hopen _ _ _ _ _ _ _ (Grown.refl _)

theorem approve_done (generation now : Nat) :
    Does s (.approve_output_quiescence generation now) (approve_output_quiescence generation now) := by
  have hrefused : Done s (.approve_output_quiescence generation now) s false := .refuse (by simp)
  unfold approve_output_quiescence
  simp only [Ends.bind, Ends.get, Ends.check, Ends.ensure, Ends.modify, Ends.next_source_sequence]
  refine ⟨fun hcheck => ⟨?_, fun _ => hrefused⟩, fun _ => hrefused⟩
  rintro ⟨haec, hopen, -⟩
  exact .approve generation now _ haec hopen hcheck rfl

theorem input_speech_done (item_id : String) (active : Bool) (now : Nat) :
    Does s (.input_speech item_id active now) (record_input_speech item_id active now) := by
  unfold record_input_speech ownership_failure
  simp only [Ends.bind, Ends.get, Ends.ite, Ends.check, Ends.pure, Ends.violate, Bool.not_eq_false]
  refine ⟨fun _ => .idle _ rfl, fun haec => ⟨fun _ => ⟨fun _ => ?_, fun _ => ⟨fun _ => ?_, fun _ => ?_⟩⟩,
    fun _ => .refuse (by simp)⟩⟩
  · exact .violated _ _ haec (by simp)
  · exact .violated _ _ haec (by simp)
  · rw [← Ends.bind]
    exact fresh_done rfl haec fun hopen _ => .fresh _ rfl haec hopen _ _ _ _ _ _ _ (Grown.know_item _ _)

theorem source_activity_done (item_id : String) (now : Nat) :
    Does s (.source_activity item_id now) (record_source_activity item_id now) := by
  unfold record_source_activity ownership_failure
  simp only [Ends.bind, Ends.get, Ends.ite, Ends.check, Ends.pure, Ends.violate, Bool.not_eq_false]
  refine ⟨fun _ => .idle _ rfl, fun haec => ⟨fun _ => ⟨fun _ => ?_, fun _ => ?_⟩, fun _ => .refuse (by simp)⟩⟩
  · exact .violated _ _ haec (by simp)
  · rw [← Ends.bind]
    exact fresh_done rfl haec fun hopen _ => .fresh _ rfl haec hopen _ _ _ _ _ _ _ (Grown.know_item _ _)

/-- What some of the bindings of a list make of the ledger. -/
def Binding (s s' : StrictWatchTerminalLifecycleState) : Prop :=
  ∃ generation source speech owners error, s.activity_generation ≤ generation ∧
    Grown s.input_response_owners owners ∧
    s' = { s with
      activity_generation := generation, next_source_sequence := source, last_input_speech := speech,
      input_response_owners := owners, terminal_violation := s.terminal_violation.or error }

theorem Binding.refl (s : StrictWatchTerminalLifecycleState) : Binding s s :=
  ⟨s.activity_generation, _, s.last_input_speech, _, none, le_refl _, Grown.refl _, by rw [Option.or_none]⟩

theorem Binding.trans {s' s'' : StrictWatchTerminalLifecycleState} (h : Binding s s') (h' : Binding s' s'') :
    Binding s s'' := by
  obtain ⟨_, _, _, _, error, hle, hgrown, rfl⟩ := h
  obtain ⟨generation', source, speech, owners, error', hle', hgrown', rfl⟩ := h'
  exact ⟨generation', source, speech, owners, error.or error', hle.trans hle', hgrown.trans hgrown', by
    rw [Option.or_assoc]⟩

theorem bind_input_binding (now : Nat) (binding : String × String) :
    Ends (bind_input now binding) (fun _ s' => Binding s s') (Binding s) s := by
  have hviolated : ∀ message, Binding s (s.violated message) := fun message =>
    ⟨_, _, _, _, some message, le_refl _, Grown.refl _, rfl⟩
  unfold bind_input ownership_failure
  simp only [Ends.bind, Ends.get, Ends.ite, Ends.pure, Ends.violate, Ends.modify]
  refine ⟨fun _ => hviolated _, fun _ => ⟨fun _ => Binding.refl s, fun _ => ⟨fun _ => hviolated _,
    fun hfree => ⟨fun _ => hviolated _, fun helse => ?_⟩⟩⟩⟩
  refine Ends.activity (fun _ _ _ message => hviolated message) (fun _ _ => ?_) (Binding.refl s)
  have hgrown := Grown.bind (by simpa using hfree) helse
  exact ⟨_, _, _, _, none, Nat.le_succ _, hgrown, by rw [Option.or_none]; rfl⟩

theorem input_response_bindings_done (bindings : List (String × String)) (now : Nat) :
    Does s (.input_response_bindings bindings now) (record_input_response_bindings bindings now) := by
  unfold record_input_response_bindings
  simp only [Ends.bind, Ends.get, Ends.ite, Ends.check, Ends.pure, Bool.not_eq_false]
  refine ⟨fun _ => .idle _ rfl, fun haec => ⟨fun _ => ?_, fun _ => .refuse (by simp)⟩⟩
  have hdone : ∀ s' ok, Binding s s' → Done s (.input_response_bindings bindings now) s' ok := by
    rintro s' ok ⟨generation, source, speech, owners, error, hle, hgrown, rfl⟩
    exact .bindings bindings now generation source speech owners error ok haec hle hgrown
  have hall : Ends (bindings.forM (bind_input now)) (fun _ s' => Binding s s') (Binding s) s :=
    Ends.forM (Binding s) (fun binding _ s' hs' => (bind_input_binding now binding).imp
      (fun _ s'' h => hs'.trans h) fun s'' h => hs'.trans h) (Binding.refl s)
  exact hall.imp (fun _ s' h => hdone s' true h) fun s' h => hdone s' false h

theorem Ends.discard {α : Type} {x : Ledger α} :
    Ends (discard x) ok error s ↔ Ends x (fun _ s' => ok () s') error s := Ends.map _ x

/-- Every call does one of these. -/
theorem record_done (op : Op) : Does s op (record sha256 op) := by
  cases op with
  | session_updated_received identity sent echoed now => exact session_updated_done sha256 identity sent echoed now
  | provider_append samples now => exact provider_append_done samples now
  | session_finish_sent now => exact session_finish_done now
  | provider_input_closed now => exact Ends.discard.mpr (provider_input_closed_done now)
  | response_terminal stage response_id now => exact response_terminal_done stage response_id now
  | response_failed response_id status => exact response_failed_done response_id status
  | session_finished_received now => exact session_finished_done now
  | renderer_cue_submitted cue_id response_id now => exact Ends.discard.mpr (cue_submitted_done cue_id response_id now)
  | renderer_ack cue_id authority receipt_id completed_at now =>
    exact renderer_ack_done cue_id authority receipt_id completed_at now
  | renderer_failure cue_id reason => exact renderer_failure_done cue_id reason
  | provider_call_started qpc => exact provider_call_started_done qpc
  | provider_session_created id => exact provider_session_created_done id
  | enable_aec_open_input_drain => exact enable_done
  | reset_provider_socket => exact reset_done
  | media_complete now => exact media_complete_done now
  | response_started response_id now => exact response_started_done response_id now
  | nonempty_output response_id now => exact nonempty_output_done response_id now
  | renderer_started cue_id now => exact renderer_started_done cue_id now
  | renderer_frames cue_id frames now => exact renderer_frames_done cue_id frames now
  | approve_output_quiescence generation now => exact approve_done generation now
  | input_speech item_id active now => exact input_speech_done item_id active now
  | source_activity item_id now => exact source_activity_done item_id now
  | input_response_bindings bindings now => exact input_response_bindings_done bindings now

/-- What a call on the lifecycle does: nothing, or the run begins, or one call on the ledger. -/
theorem step_cases (watch : Watch) (call : WatchCall) :
    watch.step sha256 call = watch ∨
      (∃ identity, watch.lifecycle = none ∧
        watch.step sha256 call = { watch with lifecycle := some { identity } }) ∨
      ∃ op s s' ok, call = .record op ∧ watch.lifecycle = some s ∧ Done s op s' ok ∧
        watch.step sha256 call = ⟨some s', watch.log ++ [(op, ok)]⟩ := by
  cases call with
  | begin_lifecycle identity =>
    simp only [Watch.step, begin_lifecycle]
    split
    · rename_i next h
      split at h
      · cases h
      · split at h
        · cases h
        · cases h
          exact .inr (.inl ⟨identity, ‹_›, rfl⟩)
    · rename_i error next h
      have hsame : next = watch.lifecycle := by
        split at h
        · cases h
          rfl
        · split at h
          · cases h
            rfl
          · cases h
      rw [hsame]
      exact .inl rfl
  | record op =>
    obtain ⟨lifecycle, log⟩ := watch
    cases lifecycle with
    | none => exact .inl rfl
    | some s =>
      have hdone := record_done (s := s) sha256 op
      unfold Does Ends at hdone
      cases hr : record sha256 op s with
      | ok _ s' =>
        rw [hr] at hdone
        exact .inr (.inr ⟨op, s, s', true, rfl, rfl, hdone, by simp [Watch.step, with_active_mut, hr]⟩)
      | error _ s' =>
        rw [hr] at hdone
        exact .inr (.inr ⟨op, s, s', false, rfl, rfl, hdone, by simp [Watch.step, with_active_mut, hr]⟩)

end omni_translate.watch_terminal_lifecycle

-- The terminal ledger of a strict watch run, from
-- `audio/state/watch_terminal_lifecycle.rs` with `store_api.rs` and
-- `input_ownership.rs`. A call that fails keeps what it wrote before it
-- failed; the clock, the counter of the machine and the hash are given from
-- outside.
import Mathlib.Data.List.AList
import Mathlib.Data.Finset.Basic
import OmniTranslate.Calls
import OmniTranslate.Json
import OmniTranslate.TranslationLifecycle

namespace omni_translate.watch_terminal_lifecycle

open calls json translation_lifecycle

/-! ## Evidence -/

structure StrictWatchTerminalIdentity where
  run_marker : String
  cell_id : String
  lease_id : String
deriving DecidableEq

structure StrictWatchProviderAppendEvidence where
  source_sequence : Nat
  observed_at_unix_ms : Nat
  append_index : Nat
  samples : Nat
  accepted_samples_total : Nat
deriving DecidableEq

structure StrictWatchSessionUpdatedEvidence where
  source_sequence : Nat
  observed_at_unix_ms : Nat
  session_identity_sha256 : String
  sent_session_config_sha256 : String
  echoed_session_config_sha256 : String
deriving DecidableEq

structure StrictWatchSessionFinishEvidence where
  source_sequence : Nat
  observed_at_unix_ms : Nat
  finish_count : Nat
  last_provider_append_source_sequence : Nat
  provider_input_closed_source_sequence : Nat
  provider_writes_after_finish : Nat
deriving DecidableEq

structure StrictWatchProviderTerminalEvidence where
  source_sequence : Nat
  observed_at_unix_ms : Nat
  finish_count : Nat
  provider_writes_after_finish : Nat
deriving DecidableEq

/-- The two ends of a response that the ledger knows. -/
inductive ResponseStage where
  | last_response_audio_done
  | response_done
deriving DecidableEq

def ResponseStage.text : ResponseStage → String
  | last_response_audio_done => "lastResponseAudioDone"
  | response_done => "responseDone"

structure StrictWatchResponseTerminalEvidence where
  stage : ResponseStage
  source_sequence : Nat
  observed_at_unix_ms : Nat
  response_id : String
deriving DecidableEq

structure StrictWatchActivityEvidence where
  source_sequence : Nat
  activity_generation : Nat
  observed_at_unix_ms : Nat
  owner_id : String
deriving DecidableEq

structure RendererAck where
  source_sequence : Nat
  observed_at_unix_ms : Nat
  cue_id : String
  response_id : String
  cue_sequence : Nat
  receipt_authority : String
  receipt_id : String
deriving DecidableEq

structure RendererFailure where
  cue_id : String
  response_id : String
  cue_sequence : Nat
  reason : String
deriving DecidableEq

structure StrictWatchRendererAckEvidence where
  source_sequence : Nat
  observed_at_unix_ms : Nat
  cue_id : String
  response_id : String
  cue_sequence : Nat
  last_cue_sequence : Nat
  receipt_authority : String
  receipt_id : String
deriving DecidableEq

structure StrictWatchTerminalLifecycleSnapshot where
  identity : StrictWatchTerminalIdentity
  session_updated_received : StrictWatchSessionUpdatedEvidence
  last_provider_append : StrictWatchProviderAppendEvidence
  session_finish_sent : StrictWatchSessionFinishEvidence
  session_finished_received : StrictWatchProviderTerminalEvidence
  last_response_terminal : StrictWatchResponseTerminalEvidence
  final_renderer_ack : StrictWatchRendererAckEvidence
deriving DecidableEq

/-! ## The ledger -/

inductive StrictWatchOpenInputPhase where
  | opened
  | quiescent_approved
  | capture_closed
  | finish_sent
  | finished
deriving DecidableEq

def StrictWatchOpenInputPhase.text : StrictWatchOpenInputPhase → String
  | opened => "Open"
  | quiescent_approved => "QuiescentApproved"
  | capture_closed => "CaptureClosed"
  | finish_sent => "FinishSent"
  | finished => "Finished"

structure StrictWatchTerminalLifecycleState where
  identity : StrictWatchTerminalIdentity
  aec_open_input_drain : Bool := false
  provider_call_started_qpc_100ns : Option Nat := none
  provider_session_id : Option String := none
  open_input_phase : StrictWatchOpenInputPhase := .opened
  activity_generation : Nat := 0
  terminal_violation : Option String := none
  active_speech : Finset String := ∅
  /-- The response of each input item, once it is known. -/
  input_response_owners : AList (fun _ : String => Option String) := ∅
  active_responses : Finset String := ∅
  last_input_speech : Option StrictWatchActivityEvidence := none
  last_output : Option StrictWatchActivityEvidence := none
  last_physical_started : Option StrictWatchActivityEvidence := none
  last_physical_frame : Option StrictWatchActivityEvidence := none
  last_physical_completed : Option StrictWatchActivityEvidence := none
  media_complete : Option StrictWatchActivityEvidence := none
  output_quiescent : Option StrictWatchActivityEvidence := none
  capture_closed : Option StrictWatchActivityEvidence := none
  next_source_sequence : Nat := 0
  append_count : Nat := 0
  accepted_samples_total : Nat := 0
  provider_writes_after_finish : Nat := 0
  finish_count : Nat := 0
  session_updated_received : Option StrictWatchSessionUpdatedEvidence := none
  last_provider_append : Option StrictWatchProviderAppendEvidence := none
  provider_input_closed_source_sequence : Option Nat := none
  session_finish_sent : Option StrictWatchSessionFinishEvidence := none
  session_finished_received : Option StrictWatchProviderTerminalEvidence := none
  last_response_audio_done : Option StrictWatchResponseTerminalEvidence := none
  last_response_done : Option StrictWatchResponseTerminalEvidence := none
  response_terminals : AList (fun _ : String => StrictWatchResponseTerminalEvidence) := ∅
  response_audio_done_ids : Finset String := ∅
  response_done_ids : Finset String := ∅
  failed_response_statuses : AList (fun _ : String => String) := ∅
  next_cue_sequence : Nat := 0
  cue_sequences : AList (fun _ : String => Nat) := ∅
  cue_response_ids : AList (fun _ : String => String) := ∅
  last_cue_sequence : Nat := 0
  renderer_acks : AList (fun _ : Nat => RendererAck) := ∅
  renderer_failures : AList (fun _ : Nat => RendererFailure) := ∅
  renderer_receipt_ids : Finset String := ∅

/-- A call on the ledger. -/
abbrev Ledger := Call StrictWatchTerminalLifecycleState

/-- Fails for good: the first violation is kept. -/
def violate {α : Type} (error : String) : Ledger α := do
  modify fun s => { s with terminal_violation := s.terminal_violation.or (some error) }
  throw error

/-- `saturating_add` of a `u64`. -/
def saturating_add (n m : Nat) : Nat := min (n + m) U64_MAX

namespace StrictWatchTerminalLifecycleState

variable (s : StrictWatchTerminalLifecycleState)

def pending_input_segments : Nat :=
  s.input_response_owners.entries.countP fun entry =>
    match entry.2 with
    | none => true
    | some id => decide (id ∉ s.response_done_ids)

/-- A submitted cue that was not acknowledged. -/
def pending_renderer_ack : Prop :=
  ∃ entry ∈ s.cue_sequences.entries, entry.2 ∉ s.renderer_acks

instance : Decidable s.pending_renderer_ack := by
  unfold pending_renderer_ack
  infer_instance

def check_open_input_failure : Except String Unit :=
  match s.terminal_violation with
  | some error => .error error
  | none =>
    if s.aec_open_input_drain = true ∧
        ∃ sealed ∈ s.output_quiescent, sealed.activity_generation ≠ s.activity_generation then
      .error "watch.aec-activity-generation-changed-after-quiescence"
    else if s.failed_response_statuses.entries ≠ [] then .error "watch.aec-provider-response-failed"
    else if s.renderer_failures.entries ≠ [] then .error "watch.aec-physical-playback-failed"
    else .ok ()

/-- The check of the calls that look at it only while the drain is on. -/
def check_drain : Except String Unit :=
  if s.aec_open_input_drain = true then s.check_open_input_failure else .ok ()

end StrictWatchTerminalLifecycleState

def check_open_input_failure : Ledger Unit := fun s =>
  match s.check_open_input_failure with
  | .ok _ => .ok () s
  | .error error => .error error s

def next_source_sequence : Ledger Nat :=
  modifyGet fun s => (s.next_source_sequence + 1,
    { s with next_source_sequence := s.next_source_sequence + 1 })

def activity (owner_id : String) (fresh : Bool) (now : Nat) : Ledger StrictWatchActivityEvidence := do
  let s ← get
  if s.aec_open_input_drain = true ∧ fresh = true ∧ s.open_input_phase ≠ .opened then
    violate ("watch.aec-output-after-quiescence: owner=" ++ owner_id ++ " phase="
      ++ s.open_input_phase.text)
  else do
    ensure (s.activity_generation < U64_MAX) "strict Watch activity generation exhausted"
    modify fun s => { s with activity_generation := s.activity_generation + 1 }
    let source_sequence ← next_source_sequence
    pure {
      source_sequence, activity_generation := s.activity_generation + 1,
      observed_at_unix_ms := now, owner_id }

/-- The activity of a call that notes it only while the drain is on. -/
def drain_activity (owner_id : String) (fresh : Bool) (now : Nat) :
    Ledger (Option StrictWatchActivityEvidence) := do
  let s ← get
  if s.aec_open_input_drain = true then some <$> activity owner_id fresh now else pure none

def cue_sequence (cue_id response_id : String) (now : Nat) : Ledger Nat := do
  ensure (blank cue_id = false) "strict Watch renderer cue id is empty"
  ensure (blank response_id = false) "strict Watch renderer cue response identity is empty"
  let s ← get
  match s.cue_sequences.lookup cue_id with
  | some sequence => do
    ensure (s.cue_response_ids.lookup cue_id = some response_id)
      ("strict Watch renderer cue changed response lineage: " ++ cue_id)
    pure sequence
  | none => do
    let _ ← drain_activity cue_id true now
    let s ← get
    ensure (s.next_cue_sequence < U64_MAX) "strict Watch renderer cue sequence exhausted"
    let sequence := s.next_cue_sequence + 1
    modify fun s => { s with
      next_cue_sequence := sequence
      last_cue_sequence := sequence
      cue_sequences := s.cue_sequences.insert cue_id sequence
      cue_response_ids := s.cue_response_ids.insert cue_id response_id }
    pure sequence

/-! ## Provider -/

def is_sha256 (digest : String) : Bool :=
  digest.length == 64 && digest.toList.all fun c => c.isDigit || ('a' ≤ c && c ≤ 'f')

def record_session_updated_received (sha256 : String → String)
    (session_identity_sha256 sent_session_config_sha256 echoed_session_config_sha256 : String)
    (now : Nat) : Ledger Unit := do
  let s ← get
  ensure (s.session_updated_received.isNone = true) "strict Watch session.updated was received more than once"
  ensure (s.last_provider_append.isNone = true)
    "strict Watch session.updated arrived after Provider input began"
  ensure (is_sha256 session_identity_sha256 = true)
    "strict Watch session identity SHA-256 authority is invalid"
  ensure (is_sha256 sent_session_config_sha256 = true)
    "strict Watch sent session config SHA-256 authority is invalid"
  ensure (is_sha256 echoed_session_config_sha256 = true)
    "strict Watch echoed session config SHA-256 authority is invalid"
  ensure (sent_session_config_sha256 = echoed_session_config_sha256)
    "strict Watch session.updated does not echo the exact sent session configuration"
  ensure (s.aec_open_input_drain = true →
      ∀ provider_session_id ∈ s.provider_session_id, sha256 provider_session_id = session_identity_sha256)
    "watch.aec-session-updated-current-socket-identity-mismatch"
  let source_sequence ← next_source_sequence
  modify fun s => { s with session_updated_received := some {
    source_sequence, observed_at_unix_ms := now, session_identity_sha256,
    sent_session_config_sha256, echoed_session_config_sha256 } }

def record_provider_append (samples now : Nat) : Ledger Unit := do
  ensure (samples ≠ 0) "strict Watch provider append has zero samples"
  let s ← get
  if s.session_finish_sent.isSome = true then do
    modify fun s => { s with provider_writes_after_finish := saturating_succ s.provider_writes_after_finish }
    throw "strict Watch provider append was accepted after session.finish"
  else do
    let append_index := saturating_succ s.append_count
    let accepted_samples_total := saturating_add s.accepted_samples_total samples
    let source_sequence ← next_source_sequence
    modify fun s => { s with
      append_count := append_index
      accepted_samples_total
      last_provider_append := some {
        source_sequence, observed_at_unix_ms := now, append_index, samples, accepted_samples_total } }

/-- The gate of the drain: while it is on, a call passes in one phase only, and leads to the next. -/
def pass_gate (phase : StrictWatchOpenInputPhase) (error : String) (next : StrictWatchOpenInputPhase) :
    Ledger Unit := do
  let s ← get
  if s.aec_open_input_drain = true then do
    check_open_input_failure
    ensure (s.open_input_phase = phase) error
    modify fun s => { s with open_input_phase := next }
  else pure ()

/-- The finish is counted before the rest is looked at. -/
def record_session_finish_sent (now : Nat) : Ledger Unit := do
  pass_gate .capture_closed "watch.aec-finish-before-approved-capture-close" .finish_sent
  modify fun s => { s with finish_count := saturating_succ s.finish_count }
  let s ← get
  ensure (s.finish_count = 1 ∧ s.session_finish_sent.isNone = true)
    "strict Watch session.finish was sent more than once"
  let last_append ← demand s.last_provider_append
    "strict Watch session.finish has no successful provider append authority"
  let provider_input_closed_source_sequence ← demand s.provider_input_closed_source_sequence
    "strict Watch session.finish has no capture producer completion authority"
  let source_sequence ← next_source_sequence
  modify fun s => { s with session_finish_sent := some {
    source_sequence, observed_at_unix_ms := now, finish_count := s.finish_count,
    last_provider_append_source_sequence := last_append.source_sequence,
    provider_input_closed_source_sequence,
    provider_writes_after_finish := s.provider_writes_after_finish } }

def record_provider_input_closed (now : Nat) : Ledger Nat := do
  let s ← get
  ensure (s.provider_input_closed_source_sequence.isNone = true)
    "strict Watch capture producer completion was recorded more than once"
  pass_gate .quiescent_approved "watch.aec-capture-closed-before-quiescence" .capture_closed
  let source_sequence ← next_source_sequence
  modify fun s => { s with
    capture_closed := some {
      source_sequence, activity_generation := s.activity_generation, observed_at_unix_ms := now,
      owner_id := "capture-input-fence-owner" }
    provider_input_closed_source_sequence := some source_sequence }
  pure source_sequence

variable (s : StrictWatchTerminalLifecycleState)

/-- The responses that came to an end at this stage. -/
def stage_ids : ResponseStage → Finset String
  | .last_response_audio_done => s.response_audio_done_ids
  | .response_done => s.response_done_ids

/-- One more response at this stage; while the drain is on, a response that is done is not active. -/
def enter_stage (response_id : String) (stage : ResponseStage) :
    StrictWatchTerminalLifecycleState :=
  { s with
    response_audio_done_ids :=
      if stage = .last_response_audio_done then insert response_id s.response_audio_done_ids
      else s.response_audio_done_ids
    response_done_ids :=
      if stage = .response_done then insert response_id s.response_done_ids else s.response_done_ids
    active_responses :=
      if s.aec_open_input_drain = true ∧ stage = .response_done then s.active_responses.erase response_id
      else s.active_responses }

def keep_terminal (evidence : StrictWatchResponseTerminalEvidence) : StrictWatchTerminalLifecycleState :=
  { s with
    response_terminals := s.response_terminals.insert evidence.response_id evidence
    last_response_audio_done :=
      if evidence.stage = .last_response_audio_done then some evidence else s.last_response_audio_done
    last_response_done :=
      if evidence.stage = .response_done then some evidence else s.last_response_done }

def record_response_terminal (stage : ResponseStage) (response_id : String) (now : Nat) :
    Ledger Unit := do
  ensure (blank response_id = false) ("strict Watch " ++ stage.text ++ " response identity is empty")
  let s ← get
  ensure (s.session_finished_received.isNone = true)
    ("strict Watch " ++ stage.text ++ " arrived after session.finished")
  ensure (¬ (stage = .last_response_audio_done ∧ response_id ∈ s.response_done_ids))
    ("strict Watch lastResponseAudioDone arrived after responseDone for response " ++ response_id)
  ensure (response_id ∉ stage_ids s stage)
    ("strict Watch " ++ stage.text ++ " was received more than once for response " ++ response_id)
  set (enter_stage s response_id stage)
  let _ ← drain_activity response_id false now
  let source_sequence ← next_source_sequence
  modify fun s => keep_terminal s { stage, source_sequence, observed_at_unix_ms := now, response_id }

/-- Nothing that the response completed counts any more. -/
def revoke (response_id : String) : StrictWatchTerminalLifecycleState :=
  { s with
    response_audio_done_ids := s.response_audio_done_ids.erase response_id
    response_done_ids := s.response_done_ids.erase response_id
    response_terminals := s.response_terminals.erase response_id
    last_response_audio_done := s.last_response_audio_done.filter (·.response_id ≠ response_id)
    last_response_done := s.last_response_done.filter (·.response_id ≠ response_id) }

def record_response_failed (response_id status : String) : Ledger Unit := do
  ensure (blank response_id = false) "strict Watch failed response identity is empty"
  ensure (status = "failed" ∨ status = "incomplete")
    ("strict Watch response failure status is unsupported: " ++ status)
  let s ← get
  ensure (s.session_finished_received.isNone = true)
    "strict Watch failed response arrived after session.finished"
  modify fun s => { s with
    failed_response_statuses := s.failed_response_statuses.insert response_id status }
  ensure (response_id ∉ s.failed_response_statuses)
    ("strict Watch failed response terminal was received more than once for " ++ response_id)
  modify fun s => revoke s response_id

/-- The gate of the drain at the end of the session. -/
def enter_finished : Ledger Unit := do
  let s ← get
  if s.aec_open_input_drain = true then do
    check_open_input_failure
    modify fun s => { s with open_input_phase := .finished }
  else pure ()

def record_session_finished_received (now : Nat) : Ledger Unit := do
  let s ← get
  ensure (s.session_finished_received.isNone = true)
    "strict Watch session.finished was received more than once"
  ensure (s.session_finish_sent.isSome = true)
    "strict Watch session.finished arrived before session.finish"
  ensure (s.last_response_audio_done.isSome = true ∨ s.last_response_done.isSome = true)
    "strict Watch session.finished has no completed response terminal authority"
  let source_sequence ← next_source_sequence
  enter_finished
  modify fun s => { s with session_finished_received := some {
    source_sequence, observed_at_unix_ms := now, finish_count := s.finish_count,
    provider_writes_after_finish := s.provider_writes_after_finish } }

def record_provider_call_started (qpc_now_100ns : Option Nat) : Ledger Unit := do
  let s ← get
  if s.aec_open_input_drain = true then do
    let qpc ← demand qpc_now_100ns "watch.aec-provider-call-qpc-unavailable"
    modify fun s => { s with provider_call_started_qpc_100ns := some qpc }
  else pure ()

def record_provider_session_created (provider_session_id : String) : Ledger Unit := do
  let s ← get
  if s.aec_open_input_drain = true then do
    ensure (blank provider_session_id = false) "watch.aec-provider-session-id-missing"
    let _ ← demand s.provider_call_started_qpc_100ns "watch.aec-provider-call-start-missing"
    modify fun s => { s with provider_session_id := some provider_session_id }
  else pure ()

def reset_provider_socket : Ledger Unit := do
  let s ← get
  if s.aec_open_input_drain = false then pure ()
  else if s.last_provider_append.isSome = true ∨ s.media_complete.isSome = true then
    violate "watch.aec-provider-socket-replaced-after-input"
  else
    modify fun s => { s with
      session_updated_received := none
      provider_session_id := none
      active_speech := ∅
      active_responses := ∅
      input_response_owners := ∅ }

/-! ## Renderer -/

def record_renderer_ack (cue_id receipt_authority receipt_id : String) (completed_at now : Nat) :
    Ledger Unit := do
  ensure (blank receipt_authority = false ∧ blank receipt_id = false)
    "strict Watch renderer receipt identity is incomplete"
  let s ← get
  let cue_sequence ← demand (s.cue_sequences.lookup cue_id)
    ("strict Watch renderer ACK references unknown/unsubmitted cue: " ++ cue_id)
  let response_id ← demand (s.cue_response_ids.lookup cue_id)
    ("strict Watch renderer cue has no response lineage: " ++ cue_id)
  ensure (cue_sequence ∉ s.renderer_failures)
    ("strict Watch renderer ACK arrived after terminal failure for cue: " ++ cue_id)
  if receipt_id ∈ s.renderer_receipt_ids then pure ()
  else do
    let completed ← drain_activity cue_id false completed_at
    let source_sequence ← next_source_sequence
    modify fun s => { s with
      last_physical_completed := completed.or s.last_physical_completed
      renderer_acks := s.renderer_acks.insert cue_sequence {
        source_sequence, observed_at_unix_ms := now, cue_id, response_id, cue_sequence,
        receipt_authority, receipt_id }
      renderer_receipt_ids := insert receipt_id s.renderer_receipt_ids }

def record_renderer_failure (cue_id reason : String) : Ledger Unit := do
  ensure (blank reason = false) "strict Watch renderer failure reason is empty"
  let s ← get
  let cue_sequence ← demand (s.cue_sequences.lookup cue_id)
    ("strict Watch renderer failure references unknown/unsubmitted cue: " ++ cue_id)
  let response_id ← demand (s.cue_response_ids.lookup cue_id)
    ("strict Watch renderer cue has no response lineage: " ++ cue_id)
  match s.renderer_failures.lookup cue_sequence with
  | some existing =>
    ensure (existing.reason = reason)
      ("strict Watch renderer failure reason changed for cue: " ++ cue_id ++ "; first="
        ++ existing.reason ++ " later=" ++ reason)
  | none =>
    modify fun s => { s with
      renderer_failures := s.renderer_failures.insert cue_sequence {
        cue_id, response_id, cue_sequence, reason } }

def record_renderer_started (cue_id : String) (now : Nat) : Ledger Unit := do
  let s ← get
  if s.aec_open_input_drain = false then pure ()
  else do
    ensure (cue_id ∈ s.cue_sequences) "watch.aec-renderer-start-unsubmitted"
    let started ← activity cue_id true now
    modify fun s => { s with last_physical_started := some started }

def record_renderer_frames (cue_id : String) (frames now : Nat) : Ledger Unit := do
  let s ← get
  if s.aec_open_input_drain = false ∨ frames = 0 then pure ()
  else do
    ensure (cue_id ∈ s.cue_sequences) "watch.aec-renderer-frames-unsubmitted"
    let frame ← activity cue_id true now
    modify fun s => { s with last_physical_frame := some frame }

/-! ## The open input -/

def enable_aec_open_input_drain : Ledger Unit := do
  let s ← get
  ensure (s.session_updated_received.isNone = true ∧ s.last_provider_append.isNone = true)
    "AEC drain policy must be installed before the provider starts"
  modify fun s => { s with aec_open_input_drain := true }

def record_media_complete (now : Nat) : Ledger Unit := do
  check_open_input_failure
  let s ← get
  ensure (s.aec_open_input_drain = true ∧ s.open_input_phase = .opened ∧ s.media_complete.isNone = true)
    "watch.aec-media-complete-phase-invalid"
  let source_sequence ← next_source_sequence
  modify fun s => { s with media_complete := some {
    source_sequence, activity_generation := s.activity_generation, observed_at_unix_ms := now,
    owner_id := "runner-immutable-media-marker" } }

def record_response_started (response_id : String) (now : Nat) : Ledger Unit := do
  let s ← get
  if s.aec_open_input_drain = false then pure ()
  else do
    ensure (blank response_id = false) "watch.aec-response-identity-missing"
    let _ ← activity response_id true now
    modify fun s => { s with active_responses := insert response_id s.active_responses }

def record_nonempty_output (response_id : String) (now : Nat) : Ledger Unit := do
  let s ← get
  if s.aec_open_input_drain = false then pure ()
  else do
    ensure (blank response_id = false) "watch.aec-output-response-identity-missing"
    let output ← activity response_id true now
    modify fun s => { s with
      last_output := some output
      active_responses :=
        if response_id ∈ s.response_done_ids then s.active_responses
        else insert response_id s.active_responses }

def approve_output_quiescence (generation now : Nat) : Ledger Unit := do
  check_open_input_failure
  let s ← get
  ensure (s.aec_open_input_drain = true ∧ s.open_input_phase = .opened ∧ s.media_complete.isSome = true ∧
      s.activity_generation = generation ∧ s.active_speech = ∅ ∧ s.active_responses = ∅ ∧
      s.pending_input_segments = 0 ∧ ¬ s.pending_renderer_ack)
    "watch.aec-quiescent-snapshot-raced"
  let source_sequence ← next_source_sequence
  modify fun s => { s with
    open_input_phase := .quiescent_approved
    output_quiescent := some {
      source_sequence, activity_generation := s.activity_generation, observed_at_unix_ms := now,
      owner_id := "desktop-open-input-drain-owner" } }

def ownership_failure {α : Type} (reason : String) : Ledger α :=
  violate ("watch.aec-input-ownership-" ++ reason)

/-- An item keeps its owner, and has none at first. -/
def know_item (owners : AList (fun _ : String => Option String)) (item_id : String) :
    AList (fun _ : String => Option String) :=
  if item_id ∈ owners then owners else owners.insert item_id none

/-- The item belongs to a response that is done. -/
def completed_item (s : StrictWatchTerminalLifecycleState) (item_id : String) : Prop :=
  ∃ response ∈ s.input_response_owners.lookup item_id, ∃ id ∈ response, id ∈ s.response_done_ids

instance (s : StrictWatchTerminalLifecycleState) (item_id : String) :
    Decidable (completed_item s item_id) := by
  unfold completed_item
  infer_instance

def record_input_speech (item_id : String) (active : Bool) (now : Nat) : Ledger Unit := do
  let s ← get
  if s.aec_open_input_drain = false then pure ()
  else do
    check_open_input_failure
    if blank item_id = true then ownership_failure "identity-missing"
    else if active = true ∧ completed_item s (trim item_id) then ownership_failure "completed-item-reused"
    else do
      let speech ← activity (trim item_id) true now
      modify fun s => { s with
        last_input_speech := some speech
        input_response_owners := know_item s.input_response_owners (trim item_id)
        active_speech :=
          if active = true then insert (trim item_id) s.active_speech
          else s.active_speech.erase (trim item_id) }

def record_source_activity (item_id : String) (now : Nat) : Ledger Unit := do
  let s ← get
  if s.aec_open_input_drain = false then pure ()
  else do
    check_open_input_failure
    if blank item_id = true then ownership_failure "identity-missing"
    else do
      let speech ← activity (trim item_id) true now
      modify fun s => { s with
        last_input_speech := some speech
        input_response_owners := know_item s.input_response_owners (trim item_id) }

/-- Another item has the response already. -/
def owned_elsewhere (s : StrictWatchTerminalLifecycleState) (item_id response_id : String) : Prop :=
  ∃ entry ∈ s.input_response_owners.entries, entry.1 ≠ item_id ∧ entry.2 = some response_id

instance (s : StrictWatchTerminalLifecycleState) (item_id response_id : String) :
    Decidable (owned_elsewhere s item_id response_id) := by
  unfold owned_elsewhere
  infer_instance

/-- One pair of the list. -/
def bind_input (now : Nat) (binding : String × String) : Ledger Unit := do
  let s ← get
  if blank binding.1 = true ∨ blank binding.2 = true then ownership_failure "binding-identity-missing"
  else if s.input_response_owners.lookup binding.1 = some (some binding.2) then pure ()
  else if (s.input_response_owners.lookup binding.1).join.isSome = true then
    ownership_failure "response-rebound"
  else if owned_elsewhere s binding.1 binding.2 then ownership_failure "response-owner-reused"
  else do
    let speech ← activity binding.1 true now
    modify fun s => { s with
      last_input_speech := some speech
      input_response_owners := s.input_response_owners.insert binding.1 (some binding.2) }

def record_input_response_bindings (bindings : List (String × String)) (now : Nat) : Ledger Unit := do
  let s ← get
  if s.aec_open_input_drain = false then pure ()
  else do
    check_open_input_failure
    bindings.forM (bind_input now)

/-! ## The snapshot -/

/-- The failure that is reported: the one of the earliest cue. -/
def first_failure : List RendererFailure → Option RendererFailure
  | [] => none
  | failure :: rest =>
    some (rest.foldl (fun least failure =>
      if failure.cue_sequence < least.cue_sequence then failure else least) failure)

def StrictWatchTerminalLifecycleState.snapshot :
    Except String StrictWatchTerminalLifecycleSnapshot := do
  s.check_drain
  require (s.failed_response_statuses.entries = [])
    ("strict Watch terminal lifecycle contains failed Provider responses: "
      ++ String.intercalate "," (s.failed_response_statuses.entries.map fun e => e.1 ++ ":" ++ e.2))
  let session_updated_received ← expect s.session_updated_received
    "strict Watch terminal lifecycle is missing sessionUpdatedReceived"
  let last_provider_append ← expect s.last_provider_append
    "strict Watch terminal lifecycle is missing lastProviderAppend"
  let session_finish_sent ← expect s.session_finish_sent
    "strict Watch terminal lifecycle is missing sessionFinishSent"
  let session_finished_received ← expect s.session_finished_received
    "strict Watch terminal lifecycle is missing sessionFinishedReceived"
  require (s.finish_count = 1 ∧ s.provider_writes_after_finish = 0 ∧
      session_updated_received.source_sequence < last_provider_append.source_sequence ∧
      session_finish_sent.provider_input_closed_source_sequence < session_finish_sent.source_sequence ∧
      last_provider_append.source_sequence < session_finish_sent.source_sequence ∧
      session_finish_sent.source_sequence < session_finished_received.source_sequence)
    "strict Watch Provider terminal ordering/count authority is invalid"
  require (s.last_cue_sequence ≠ 0) "strict Watch renderer did not submit any cue"
  match first_failure (s.renderer_failures.entries.map (·.2)) with
  | some failure =>
    .error ("strict Watch renderer failed: cue=" ++ failure.cue_id ++ " response=" ++ failure.response_id
      ++ " sequence=" ++ toString failure.cue_sequence ++ " reason=" ++ failure.reason)
  | none => do
    let renderer_ack ← expect (s.renderer_acks.lookup s.last_cue_sequence)
      "strict Watch final renderer ACK does not cover the last cue sequence"
    let last_response_terminal ← expect (s.response_terminals.lookup renderer_ack.response_id)
      "strict Watch final renderer ACK response has no completed Provider terminal"
    require (last_response_terminal.source_sequence < session_finished_received.source_sequence)
      "strict Watch response terminal is not ordered before session.finished"
    pure {
      identity := s.identity, session_updated_received, last_provider_append,
      session_finish_sent := { session_finish_sent with
        finish_count := s.finish_count
        provider_writes_after_finish := s.provider_writes_after_finish },
      session_finished_received := { session_finished_received with
        finish_count := s.finish_count
        provider_writes_after_finish := s.provider_writes_after_finish },
      last_response_terminal,
      final_renderer_ack := {
        source_sequence := renderer_ack.source_sequence
        observed_at_unix_ms := renderer_ack.observed_at_unix_ms
        cue_id := renderer_ack.cue_id
        response_id := renderer_ack.response_id
        cue_sequence := renderer_ack.cue_sequence
        last_cue_sequence := s.last_cue_sequence
        receipt_authority := renderer_ack.receipt_authority
        receipt_id := renderer_ack.receipt_id } }

/-! ## The lifecycle -/

/-- No state before the run begins. -/
abbrev StrictWatchTerminalLifecycle := Option StrictWatchTerminalLifecycleState

def with_active_mut {α : Type} (operation : Ledger α) (inactive : α) :
    EStateM String StrictWatchTerminalLifecycle α
  | none => .ok inactive none
  | some s =>
    match operation s with
    | .ok value s => .ok value (some s)
    | .error error s => .error error (some s)

def begin_lifecycle (identity : StrictWatchTerminalIdentity) :
    EStateM String StrictWatchTerminalLifecycle Unit := fun lifecycle =>
  if blank identity.run_marker = true ∨ blank identity.cell_id = true ∨ blank identity.lease_id = true then
    .error "strict Watch terminal lifecycle identity is incomplete" lifecycle
  else
    match lifecycle with
    | some _ => .error "strict Watch terminal lifecycle was already initialized" lifecycle
    | none => .ok () (some { identity })

def StrictWatchTerminalLifecycle.snapshot (lifecycle : StrictWatchTerminalLifecycle) :
    Except String StrictWatchTerminalLifecycleSnapshot :=
  match lifecycle with
  | some s => s.snapshot
  | none => .error "strict Watch terminal lifecycle is not initialized"

end omni_translate.watch_terminal_lifecycle

-- The source pipe: subscribers of the Bridge take payloads from the one source
-- channel and label them (`playback.rs`, `source_delivery.rs`), and the Desktop
-- accepts or rejects what it reads from the pipes (`bridge_source_io.rs`). Every
-- section under a lock and every blocking call of a subscriber is a step of its
-- own. Logs, pending translation statuses and the playback flushes are left out.
import OmniTranslate.Runs
import OmniTranslate.TranslationLifecycle

namespace omni_translate.source_delivery

open runs
open translation_lifecycle (U64_MAX)

/-- `wrapping_add(1)` of a `u64`. -/
def wrapping_succ (n : Nat) : Nat := if n = U64_MAX then 0 else n + 1

def INTERNAL_SAMPLE_RATE_HZ : Nat := 48000

def INTERNAL_CHANNEL_COUNT : Nat := 2

inductive SourceCaptureMode
  | None
  | VirtualDriver
  | ProcessExclusion
deriving DecidableEq

inductive ProcessLoopbackStatus
  | Unknown
  | Probing
  | Ready
  | Unsupported
  | Failed
deriving DecidableEq

def ProcessLoopbackStatus.as_str : ProcessLoopbackStatus → String
  | .Unknown => "unknown"
  | .Probing => "probing"
  | .Ready => "ready"
  | .Unsupported => "unsupported"
  | .Failed => "failed"

/-! ## The state of the Bridge -/

/-- The fields of `BridgeState` that the source pipe reads. -/
structure BridgeState where
  bridge_process_id : Nat
  bridge_instance_id : String
  session_id : Option String := none
  source_capture_mode : SourceCaptureMode := .None
  process_loopback_status : ProcessLoopbackStatus := .Unknown
  process_loopback_failure_detail : Option String := none
  last_error_code : Option String := none
  source_subscriber_active : Bool := false
  source_generation : Nat
  source_worker_phase : String := "capture-disabled"
deriving DecidableEq

/-- `BridgeState::new`: the process id is in the upper half of the generation. -/
def BridgeState.new (bridge_process_id : Nat) (bridge_instance_id : String) : BridgeState where
  bridge_process_id := bridge_process_id
  bridge_instance_id := bridge_instance_id
  source_generation := bridge_process_id * 2 ^ 32

variable (state : BridgeState)

/-- The two writes that every loss of the subscription makes. -/
def BridgeState.close_source : BridgeState :=
  { state with
    source_subscriber_active := false
    source_generation := wrapping_succ state.source_generation }

def begin_source_subscription : BridgeState :=
  { state with
    source_generation := wrapping_succ state.source_generation
    source_subscriber_active := true
    source_worker_phase := "subscriber-connected" }

def source_subscription_is_owner (generation : Nat) : Bool :=
  state.source_subscriber_active && state.source_generation == generation

def end_source_subscription (generation : Nat) : BridgeState :=
  if source_subscription_is_owner state generation then
    { state.close_source with source_worker_phase := "waiting-subscriber" }
  else state

def source_generation_token (generation : Nat) : String :=
  state.bridge_instance_id ++ ":" ++ state.session_id.getD "no-session" ++ ":" ++ toString generation

structure SourceRouteFailure where
  code : String
  detail : String
deriving DecidableEq

def process_source_route_failure : Option SourceRouteFailure :=
  if state.source_capture_mode ≠ .ProcessExclusion ∨ state.process_loopback_status = .Ready then none
  else some {
    code := state.last_error_code.getD
      (if state.process_loopback_status = .Unsupported then "bridge.process-loopback-unsupported"
      else "bridge.process-loopback-capture-failed")
    detail := state.process_loopback_failure_detail.getD
      ("process loopback source route is " ++ state.process_loopback_status.as_str) }

/-! ## The other writers of the state -/

def flush_source_capture : BridgeState := state.close_source

def handle_bridge_shutdown : BridgeState :=
  { state.close_source with
    source_capture_mode := .None
    source_worker_phase := "process-loopback-stopping" }

def fail_process_loopback_route (detail : String) (state : BridgeState) : BridgeState :=
  if state.source_capture_mode ≠ .ProcessExclusion then state
  else { state.close_source with
    process_loopback_status := .Failed
    process_loopback_failure_detail := some detail
    last_error_code := some "bridge.process-loopback-capture-failed"
    source_worker_phase := "process-loopback-failed" }

/-- What `bridge.init` asks for, and what the probes of the system answer to it. -/
structure InitRequest where
  session_id : Option String
  source_capture_mode : SourceCaptureMode
  process_loopback_status : ProcessLoopbackStatus
  process_loopback_failure_detail : Option String
  last_error_code : Option String

def waiting_phase : SourceCaptureMode → String
  | .None => "capture-disabled"
  | .VirtualDriver => "waiting-driver-subscriber"
  | .ProcessExclusion => "waiting-process-loopback-subscriber"

/-- `bridge.init` revokes the subscription only where the session or the mode changes. -/
def handle_bridge_init (request : InitRequest) (state : BridgeState) : BridgeState :=
  let changed : Bool := state.source_capture_mode ≠ request.source_capture_mode ∨
    state.session_id ≠ request.session_id
  let state := { state with
    session_id := request.session_id
    source_capture_mode := request.source_capture_mode
    process_loopback_status := request.process_loopback_status
    process_loopback_failure_detail := request.process_loopback_failure_detail
    last_error_code := request.last_error_code }
  if changed then
    { state.close_source with source_worker_phase := waiting_phase request.source_capture_mode }
  else state

/-! ## What the subscribers write -/

/-- A header as the Desktop reads it; `timestamp_ms` is the clock of the Bridge. -/
structure AudioFrameHeader where
  event_type : String
  session_id : String
  frame_id : String
  stream_id : String
  sample_rate_hz : Nat := INTERNAL_SAMPLE_RATE_HZ
  channel_count : Nat := INTERNAL_CHANNEL_COUNT
  frame_count : Nat
  timestamp_ms : Nat
  payload_bytes : Nat
  bridge_process_id : Option Nat
  bridge_instance_id : Option String
  source_generation : Option Nat
  source_generation_token : Option String
  errorCode : Option String := none
  message : Option String := none
deriving DecidableEq

abbrev Payload := List UInt8

inductive RecvTimeoutError
  | Timeout
  | Disconnected
deriving DecidableEq

def source_stream_id : SourceCaptureMode → String
  | .VirtualDriver => "omni-virtual-speaker"
  | .ProcessExclusion => "omni-process-loopback-exclusion"
  | .None => "omni-no-source-capture"

def source_route_error_header (failure : SourceRouteFailure) (now : Nat) : AudioFrameHeader where
  event_type := "bridge.source.error"
  session_id := state.session_id.getD ""
  frame_id := "bridge-source-error-" ++ toString state.source_generation
  stream_id := "omni-process-loopback-exclusion"
  frame_count := 0
  timestamp_ms := now
  payload_bytes := 0
  bridge_process_id := some state.bridge_process_id
  bridge_instance_id := some state.bridge_instance_id
  source_generation := some state.source_generation
  source_generation_token := some (source_generation_token state state.source_generation)
  errorCode := some failure.code
  message := some failure.detail

/-- The header that a subscriber puts before a payload. -/
def source_frame_header (my_generation frame_index now : Nat) (event_type session_id : String)
    (payload : Payload) : AudioFrameHeader where
  event_type := event_type
  session_id := session_id
  frame_id := "driver-source-" ++ toString frame_index
  stream_id := source_stream_id state.source_capture_mode
  frame_count := payload.length / (INTERNAL_CHANNEL_COUNT * 2)
  timestamp_ms := now
  payload_bytes := payload.length
  bridge_process_id := some state.bridge_process_id
  bridge_instance_id := some state.bridge_instance_id
  source_generation := some my_generation
  source_generation_token := some (source_generation_token state my_generation)

structure Envelope where
  header : AudioFrameHeader
  payload : Payload
deriving DecidableEq

/-! ## A subscriber -/

/-- Where `handle_source_subscriber` stands. The receiver of the channel is held while the channel is drained and
from the first ownership check of `receive_owned_source_payload` to its second. -/
inductive Process
  | connecting
  | draining (my_generation : Nat)
  /-- at the top of the loop -/
  | checking (my_generation frame_index : Nat)
  /-- before the first ownership check -/
  | claiming (my_generation frame_index : Nat)
  | receiving (my_generation frame_index : Nat)
  /-- before the second ownership check -/
  | received (my_generation frame_index : Nat) (result : Except RecvTimeoutError Payload)
  | labelling (my_generation frame_index : Nat) (result : Except RecvTimeoutError Payload)
  | writing (my_generation frame_index : Nat) (envelope : Envelope)
  | ending (my_generation : Nat)
  | returned

def Process.holds_receiver : Process → Bool
  | .draining _ | .receiving .. | .received .. => true
  | _ => false

/-- The generation that `begin_source_subscription` gave. -/
def Process.generation : Process → Option Nat
  | .draining g | .checking g _ | .claiming g _ | .receiving g _ | .received g _ _ | .labelling g _ _
  | .writing g _ _ | .ending g => some g
  | .connecting | .returned => none

/-- What the surroundings answer to a step: whether writing to the pipe fails, how an empty channel ends the wait,
and the clock. -/
structure Outcome where
  write_error : Bool := false
  recv_error : RecvTimeoutError := .Timeout
  now : Nat := 0

/-- What a step of a subscriber leaves. -/
structure Moved where
  process : Process
  bridge : BridgeState
  source : List Payload
  written : List Envelope := []

def written_unless (error : Bool) (envelope : Envelope) : List Envelope := if error then [] else [envelope]

/-- The event type and the payload for what was received; a closed channel has none. -/
def received_event : Except RecvTimeoutError Payload → Option (String × Payload)
  | .ok payload => some ("bridge.source.frame", payload)
  | .error .Timeout => some ("bridge.source.heartbeat", [])
  | .error .Disconnected => none

/-- The last section under the lock before a frame is written; without a session the loop goes on. -/
def label (bridge : BridgeState) (my_generation frame_index now : Nat) (event_type : String) (payload : Payload) :
    Process :=
  if source_subscription_is_owner bridge my_generation then
    match bridge.session_id with
    | none => .checking my_generation frame_index
    | some session_id =>
      .writing my_generation (frame_index + 1)
        ⟨source_frame_header bridge my_generation (frame_index + 1) now event_type session_id payload, payload⟩
  else .ending my_generation

/-- `go` where the subscription is still this subscriber's. -/
def while_owner (bridge : BridgeState) (my_generation : Nat) (go : Process) : Process :=
  if source_subscription_is_owner bridge my_generation then go else .ending my_generation

def Process.next (receiver_free : Bool) (bridge : BridgeState) (source : List Payload) (outcome : Outcome) :
    Process → Moved
  | connecting =>
    if receiver_free then
      match process_source_route_failure bridge with
      | some failure =>
        ⟨.returned, bridge, source,
          written_unless outcome.write_error ⟨source_route_error_header bridge failure outcome.now, []⟩⟩
      | none =>
        let bridge := begin_source_subscription bridge
        ⟨.draining bridge.source_generation, bridge, source, []⟩
    else ⟨.connecting, bridge, source, []⟩
  | draining g =>
    match source with
    | [] => ⟨.checking g 0, bridge, [], []⟩
    | _ :: source => ⟨.draining g, bridge, source, []⟩
  | checking g frame_index =>
    if source_subscription_is_owner bridge g then
      match process_source_route_failure bridge with
      | some failure =>
        ⟨.ending g, bridge, source,
          written_unless outcome.write_error ⟨source_route_error_header bridge failure outcome.now, []⟩⟩
      | none => ⟨if outcome.write_error then .ending g else .claiming g frame_index, bridge, source, []⟩
    else ⟨.ending g, bridge, source, []⟩
  | claiming g frame_index =>
    ⟨if receiver_free then while_owner bridge g (.receiving g frame_index) else .claiming g frame_index, bridge, source, []⟩
  | receiving g frame_index =>
    match source with
    | [] => ⟨.received g frame_index (.error outcome.recv_error), bridge, [], []⟩
    | payload :: source => ⟨.received g frame_index (.ok payload), bridge, source, []⟩
  | received g frame_index result => ⟨while_owner bridge g (.labelling g frame_index result), bridge, source, []⟩
  | labelling g frame_index result =>
    match received_event result with
    | none => ⟨.ending g, bridge, source, []⟩
    | some (event_type, payload) =>
      ⟨label bridge g frame_index outcome.now event_type payload, bridge, source, []⟩
  | writing g frame_index envelope =>
    ⟨if outcome.write_error then .ending g else .checking g frame_index, bridge, source,
      written_unless outcome.write_error envelope⟩
  | ending g => ⟨.returned, end_source_subscription bridge g, source, []⟩
  | returned => ⟨.returned, bridge, source, []⟩

/-! ## The Desktop -/

structure BridgeSourceFrameIdentity where
  bridge_process_id : Nat
  bridge_instance_id : String
  session_id : String
  source_generation : Nat
  source_generation_token : String
  frame_timestamp_ms : Nat
  read_timestamp_ms : Nat
deriving DecidableEq

/-- The fields of the cached `BridgeRuntimeSnapshot` that source envelopes read or write. -/
structure BridgeRuntimeSnapshot where
  bridge_process_id : Option Nat := none
  bridge_instance_id : Option String := none
  session_id : Option String := none
  source_generation : Nat := 0
  source_generation_token : Option String := none
  source_subscriber_active : Bool := false
  source_worker_phase : String := ""
  source_worker_last_progress_timestamp_ms : Option Nat := none
  last_frame_timestamp_ms : Option Nat := none
deriving DecidableEq

inductive BridgeSourceIdentityDisposition
  | Current
  | Rebind
  | Reject (reason : String)
deriving DecidableEq

def bridge_source_identity_disposition (current : BridgeRuntimeSnapshot) (identity : BridgeSourceFrameIdentity) :
    BridgeSourceIdentityDisposition :=
  if current.bridge_process_id ≠ some identity.bridge_process_id then
    .Reject ("bridge-process-mismatch expected=" ++ (current.bridge_process_id.map toString).getD "none" ++
      " actual=" ++ toString identity.bridge_process_id)
  else if current.bridge_instance_id ≠ some identity.bridge_instance_id then
    .Reject ("bridge-instance-mismatch expected=" ++ current.bridge_instance_id.getD "none" ++
      " actual=" ++ identity.bridge_instance_id)
  else if current.session_id ≠ some identity.session_id then
    .Reject ("bridge-session-mismatch expected=" ++ current.session_id.getD "none" ++
      " actual=" ++ identity.session_id)
  else if current.source_generation_token.isNone then .Reject "bridge-source-incarnation-revoked"
  else if identity.source_generation_token ≠
      identity.bridge_instance_id ++ ":" ++ identity.session_id ++ ":" ++ toString identity.source_generation then
    .Reject "source-generation-token-invalid"
  else if identity.source_generation < current.source_generation then
    .Reject ("stale-source-generation expectedAtLeast=" ++ toString current.source_generation ++
      " actual=" ++ toString identity.source_generation)
  else if identity.source_generation = current.source_generation then
    if current.source_generation_token = some identity.source_generation_token then .Current
    else .Reject "source-generation-token-mismatch"
  else .Rebind

variable (identity : BridgeSourceFrameIdentity)

/-- The fields that a rebind takes from the envelope. -/
def rebound (disposition : BridgeSourceIdentityDisposition) (current : BridgeRuntimeSnapshot) : BridgeRuntimeSnapshot :=
  if disposition = .Rebind then
    { current with
      source_generation := identity.source_generation
      source_generation_token := some identity.source_generation_token }
  else current

def delivered (identity : BridgeSourceFrameIdentity) (is_pcm_frame : Bool) (current : BridgeRuntimeSnapshot) :
    BridgeRuntimeSnapshot :=
  if is_pcm_frame then
    { current with
      source_worker_phase := "source-frame-delivered"
      source_worker_last_progress_timestamp_ms :=
        some (max (current.source_worker_last_progress_timestamp_ms.getD 0) identity.read_timestamp_ms)
      last_frame_timestamp_ms := some (max (current.last_frame_timestamp_ms.getD 0) identity.frame_timestamp_ms) }
  else current

def apply_bridge_source_identity_observation (disposition : BridgeSourceIdentityDisposition)
    (is_pcm_frame : Bool) (current : BridgeRuntimeSnapshot) : Bool × BridgeRuntimeSnapshot :=
  match disposition with
  | .Reject _ => (false, current)
  | _ =>
    (true, delivered identity is_pcm_frame { rebound identity disposition current with source_subscriber_active := true })

/-- A text that is there and not blank. -/
def present (value : Option String) : Option String :=
  value.filter fun value => text.trim value.toList ≠ []

def ok_or {α : Type} (error : String) : Option α → Except String α
  | some value => .ok value
  | none => .error error

def source_identity (header : AudioFrameHeader) (now : Nat) : Except String BridgeSourceFrameIdentity := do
  let bridge_process_id ← ok_or "Bridge source envelope is missing bridgeProcessId." header.bridge_process_id
  let bridge_instance_id ← ok_or "Bridge source envelope is missing bridgeInstanceId."
    (present header.bridge_instance_id)
  let source_generation ← ok_or "Bridge source envelope is missing sourceGeneration." header.source_generation
  let source_generation_token ← ok_or "Bridge source envelope is missing sourceGenerationToken."
    (present header.source_generation_token)
  let session_id ← ok_or "Bridge source envelope is missing sessionId." (present (some header.session_id))
  return {
    bridge_process_id := bridge_process_id
    bridge_instance_id := bridge_instance_id
    session_id := session_id
    source_generation := source_generation
    source_generation_token := source_generation_token
    frame_timestamp_ms := header.timestamp_ms
    read_timestamp_ms := now }

inductive BridgeSourceEnvelope
  | Frame (payload : Payload) (identity : BridgeSourceFrameIdentity)
  | Heartbeat (identity : BridgeSourceFrameIdentity)
  | RouteError (code message : String)
  | Ignored (reason : String)
deriving DecidableEq

/-- `read_bridge_source_payload` after the header and the payload were read. -/
def read_bridge_source_payload (envelope : Envelope) (now : Nat) : Except String BridgeSourceEnvelope :=
  let header := envelope.header
  if header.event_type = "bridge.source.heartbeat" then (source_identity header now).map .Heartbeat
  else if header.event_type = "bridge.source.error" then
    (ok_or "Bridge source error envelope is missing errorCode." (present header.errorCode)).map fun code =>
      .RouteError code ((present header.message).getD "Bridge source route failed without diagnostic detail.")
  else if header.event_type ≠ "bridge.source.frame" then
    .ok (.Ignored ("reason=unexpected-event-type eventType=" ++ header.event_type))
  else if header.sample_rate_hz ≠ INTERNAL_SAMPLE_RATE_HZ then
    .ok (.Ignored ("reason=sample-rate-mismatch actual=" ++ toString header.sample_rate_hz ++
      " expected=" ++ toString INTERNAL_SAMPLE_RATE_HZ))
  else if header.channel_count ≠ INTERNAL_CHANNEL_COUNT then
    .ok (.Ignored ("reason=channel-count-mismatch actual=" ++ toString header.channel_count ++
      " expected=" ++ toString INTERNAL_CHANNEL_COUNT))
  else (source_identity header now).map (.Frame envelope.payload)

/-- The snapshot and the ledgers of accepted and rejected frames, which one lock covers. -/
structure Desktop where
  snapshot : BridgeRuntimeSnapshot
  accepted : List BridgeSourceFrameIdentity := []
  rejected : List BridgeSourceFrameIdentity := []

def accept_bridge_source_identity (is_pcm_frame : Bool) (desktop : Desktop) : Desktop :=
  let disposition := bridge_source_identity_disposition desktop.snapshot identity
  let observed := apply_bridge_source_identity_observation identity disposition is_pcm_frame desktop.snapshot
  { snapshot := observed.2
    accepted := if observed.1 && is_pcm_frame then desktop.accepted ++ [identity] else desktop.accepted
    rejected := if !observed.1 && is_pcm_frame then desktop.rejected ++ [identity] else desktop.rejected }

/-- What a route worker does with an envelope that it has read. -/
def Desktop.read (envelope : Envelope) (now : Nat) (desktop : Desktop) : Desktop :=
  match read_bridge_source_payload envelope now with
  | .ok (.Frame _ identity) => accept_bridge_source_identity identity true desktop
  | .ok (.Heartbeat identity) => accept_bridge_source_identity identity false desktop
  | _ => desktop

def revoke_process_exclusion_source (bridge_process_id : Nat) (bridge_instance_id session_id : String)
    (source_generation : Nat) (desktop : Desktop) : Desktop :=
  let current := desktop.snapshot
  if current.bridge_process_id = some bridge_process_id ∧ current.bridge_instance_id = some bridge_instance_id ∧
      current.session_id = some session_id ∧ current.source_generation = source_generation then
    { desktop with snapshot := { current with source_generation_token := none } }
  else desktop

/-! ## Runs -/

/-- A subscriber of the Bridge, with what it has written to its pipe and the Desktop has not read. -/
structure Subscriber where
  process : Process := .connecting
  pipe : List Envelope := []

structure System where
  bridge : BridgeState
  source : List Payload := []
  subscribers : List Subscriber := []
  desktop : Desktop

inductive Step
  | connect
  | go_on (i : Nat) (outcome : Outcome)
  /-- `dispatch_source_frame` -/
  | dispatch (expected_generation : Nat) (expected_capture_mode : SourceCaptureMode) (payload : Payload)
  | init (request : InitRequest)
  | flush
  | shutdown
  | fail_route (detail : String)
  /-- any other write of the loopback status, the error texts and the phase -/
  | report_route (status : ProcessLoopbackStatus) (detail error_code : Option String) (phase : String)
  /-- the Desktop reads the next envelope of a pipe -/
  | read (i now : Nat)
  /-- the Desktop reads an envelope of a pipe of another Bridge -/
  | read_foreign (envelope : Envelope) (now : Nat)
  | revoke (bridge_process_id : Nat) (bridge_instance_id session_id : String) (source_generation : Nat)
  /-- `initialize_bridge`, `apply_query` and every other write of the identity in the snapshot -/
  | replace_snapshot (snapshot : BridgeRuntimeSnapshot)

/-- `mpsc::sync_channel::<Vec<u8>>(32)` -/
def SOURCE_CHANNEL_CAPACITY : Nat := 32

/-- The capture worker's frame: bytes that are no samples and frames of another generation or mode are dropped. -/
def dispatch_source_frame (expected_generation : Nat) (expected_capture_mode : SourceCaptureMode) (payload : Payload)
    (bridge : BridgeState) (source : List Payload) : BridgeState × List Payload :=
  if payload.length % 2 ≠ 0 ∨ ¬ bridge.source_subscriber_active ∨ bridge.source_generation ≠ expected_generation ∨
      bridge.source_capture_mode ≠ expected_capture_mode then (bridge, source)
  else if source.length < SOURCE_CHANNEL_CAPACITY then
    ({ bridge with source_worker_phase := "source-frame-delivered" }, source ++ [payload])
  else (bridge, source)

namespace System

def receiver_free (s : System) : Bool := s.subscribers.all fun subscriber => !subscriber.process.holds_receiver

def moved (s : System) (i : Nat) (pipe : List Envelope) (moved : Moved) : System :=
  { s with
    bridge := moved.bridge
    source := moved.source
    subscribers := s.subscribers.set i ⟨moved.process, pipe ++ moved.written⟩ }

def step (s : System) : Step → System
  | .connect => { s with subscribers := s.subscribers ++ [{}] }
  | .go_on i outcome =>
    match s.subscribers[i]? with
    | none => s
    | some subscriber =>
      s.moved i subscriber.pipe (subscriber.process.next s.receiver_free s.bridge s.source outcome)
  | .dispatch generation mode payload =>
    let dispatched := dispatch_source_frame generation mode payload s.bridge s.source
    { s with bridge := dispatched.1, source := dispatched.2 }
  | .init request => { s with bridge := handle_bridge_init request s.bridge }
  | .flush => { s with bridge := flush_source_capture s.bridge }
  | .shutdown => { s with bridge := handle_bridge_shutdown s.bridge }
  | .fail_route detail => { s with bridge := fail_process_loopback_route detail s.bridge }
  | .report_route status detail error_code phase =>
    { s with bridge := { s.bridge with
      process_loopback_status := status
      process_loopback_failure_detail := detail
      last_error_code := error_code
      source_worker_phase := phase } }
  | .read i now =>
    match s.subscribers[i]? with
    | some ⟨process, envelope :: pipe⟩ =>
      { s with
        subscribers := s.subscribers.set i ⟨process, pipe⟩
        desktop := s.desktop.read envelope now }
    | _ => s
  | .read_foreign envelope now => { s with desktop := s.desktop.read envelope now }
  | .revoke process instance_id session generation =>
    { s with desktop := revoke_process_exclusion_source process instance_id session generation s.desktop }
  | .replace_snapshot snapshot => { s with desktop := { s.desktop with snapshot := snapshot } }

end System

end omni_translate.source_delivery

-- The render clock of the echo canceller (`echo_backend.rs`,
-- `echo_render_clock.rs`) and the estimator that reads it with every captured
-- packet (`aec_timing.rs`). Positions and counters are kept as in the source; the
-- delay that is smoothed in floating point, the reference matcher and the
-- diagnostics are left out, and whether the capture clock drifted is an answer
-- that comes with the packet.
import OmniTranslate.Maps
import OmniTranslate.Runs
import OmniTranslate.TranslationLifecycle

namespace omni_translate.echo_render

open runs
open translation_lifecycle (U64_MAX saturating_succ)

def WASAPI_RENDER_UNDERRUN : String := "wasapi-render-underrun"

/-- `MAX_ECHO_RENDER_REFERENCE_LEAD_FRAMES`: one second. -/
def MAX_ECHO_RENDER_REFERENCE_LEAD_FRAMES : Nat := 48000

/-! ## The clock of the render side -/

/-- A value of `active_render_sessions`. -/
structure RenderSession where
  endpoint_id : String
  renderer_instance_id : String
  owner_generation : Nat
  started : Bool := false
  last_player_position : Option Nat := none
  last_submitted_frames : Option Nat := none
deriving DecidableEq

abbrev RenderSessions := AList fun _ : Nat => RenderSession

structure EchoRenderClock where
  last_player_position : Option Nat := none
  last_submitted_frames : Option Nat := none
  last_endpoint_padding_frames : Option Nat := none
  last_physical_prefix_offset_frames : Option Nat := none
  last_reference_lead_frames : Option Nat := none
  last_observed_at : Option Nat := none
  discontinuity_count : Nat := 0
  hard_reset_generation : Nat := 0
  last_discontinuity_reason : Option String := none
  render_authority_endpoint_id : Option String := none
  render_authority_renderer_instance_id : Option String := none
  render_authority_owner_generation : Option Nat := none
  render_timeline_epoch : Option Nat := none
  active_render_sessions : RenderSessions := ∅

/-- Every reason but an underrun is a hard boundary. -/
def is_hard (reason : String) : Bool := reason ≠ WASAPI_RENDER_UNDERRUN

namespace EchoRenderClock

def publish_discontinuity (reason : String) (clock : EchoRenderClock) : EchoRenderClock :=
  { clock with
    discontinuity_count := saturating_succ clock.discontinuity_count
    hard_reset_generation :=
      if is_hard reason then saturating_succ clock.hard_reset_generation else clock.hard_reset_generation
    last_discontinuity_reason := some reason }

def clear_render_timing (observed_at : Nat) (clock : EchoRenderClock) : EchoRenderClock :=
  { clock with
    last_player_position := none
    last_submitted_frames := none
    last_endpoint_padding_frames := none
    last_physical_prefix_offset_frames := none
    last_reference_lead_frames := none
    last_observed_at := some observed_at }

end EchoRenderClock

/-- A renderer, as the boundaries name it. -/
structure RenderOwner where
  session_id : Nat
  endpoint_id : String
  renderer_instance_id : String
  owner_generation : Nat
deriving DecidableEq

inductive EchoRenderBoundary
  | SessionStarted (owner : RenderOwner)
  | StreamStarted (owner : RenderOwner)
  | SessionEnded (owner : RenderOwner) (normally_drained stream_started : Bool)
  | DeviceFault (reason : String)

/-- What a section under the lock leaves: the clock, and the reason that it publishes. -/
structure Marked where
  clock : EchoRenderClock
  reason : Option String

def RenderSession.belongs_to (session : RenderSession) (owner : RenderOwner) : Bool :=
  session.endpoint_id == owner.endpoint_id && session.renderer_instance_id == owner.renderer_instance_id &&
    session.owner_generation == owner.owner_generation

variable (owner : RenderOwner)

def session_started (clock : EchoRenderClock) : Marked where
  clock := { clock with
    active_render_sessions := clock.active_render_sessions.insert owner.session_id {
      endpoint_id := owner.endpoint_id
      renderer_instance_id := owner.renderer_instance_id
      owner_generation := owner.owner_generation } }
  reason :=
    if (clock.active_render_sessions.lookup owner.session_id).isSome then some "wasapi-render-session-id-reused"
    else none

def same_authority (clock : EchoRenderClock) : Bool :=
  clock.render_authority_endpoint_id == some owner.endpoint_id &&
    clock.render_authority_renderer_instance_id == some owner.renderer_instance_id &&
    clock.render_authority_owner_generation == some owner.owner_generation

/-- The session that is announced by the owner and whose stream has not started. -/
def matching_pending (clock : EchoRenderClock) : Option RenderSession :=
  (clock.active_render_sessions.lookup owner.session_id).filter fun session =>
    session.belongs_to owner && !session.started

/-- The stream becomes the timeline; the position of the timeline before it stays in the clock. -/
def stream_started (clock : EchoRenderClock) : Marked :=
  match matching_pending owner clock with
  | none => ⟨clock, some "wasapi-render-stream-start-mismatch"⟩
  | some session =>
    ⟨{ clock with
        active_render_sessions :=
          clock.active_render_sessions.insert owner.session_id { session with started := true }
        render_authority_endpoint_id := some owner.endpoint_id
        render_authority_renderer_instance_id := some owner.renderer_instance_id
        render_authority_owner_generation := some owner.owner_generation
        render_timeline_epoch := some owner.session_id },
      if clock.render_authority_endpoint_id.isSome && !same_authority owner clock then
        some "wasapi-render-authority-changed"
      else none⟩

def session_ended (normally_drained stream_started : Bool) (clock : EchoRenderClock) : Marked where
  clock := { clock with active_render_sessions := clock.active_render_sessions.erase owner.session_id }
  reason :=
    if (clock.active_render_sessions.lookup owner.session_id).any fun session =>
        session.belongs_to owner && session.started == stream_started then
      if stream_started && !normally_drained then some "wasapi-render-failed-after-stream-start" else none
    else some "wasapi-render-session-end-mismatch"

def boundary_marked (clock : EchoRenderClock) : EchoRenderBoundary → Marked
  | .SessionStarted owner => session_started owner clock
  | .StreamStarted owner => stream_started owner clock
  | .SessionEnded owner normally_drained started => session_ended owner normally_drained started clock
  | .DeviceFault reason => ⟨clock, some reason⟩

def mark_echo_render_discontinuity (boundary : EchoRenderBoundary) (observed_at : Nat) (clock : EchoRenderClock) :
    Marked :=
  let marked := boundary_marked clock boundary
  match marked.reason with
  | none => marked
  | some reason => { marked with clock := (marked.clock.clear_render_timing observed_at).publish_discontinuity reason }

/-- A reference frame that was committed to the endpoint. -/
structure RenderReference where
  render_session_id : Nat
  samples : Nat
  channel_count : Nat
  player_position : Nat
  submitted_frames : Nat
  endpoint_padding_frames : Nat
  physical_prefix_offset_frames : Nat
  render_time : Nat
  /-- the reference matcher refuses it -/
  matcher_error : Bool := false
deriving DecidableEq

variable (reference : RenderReference)

def RenderReference.reference_frames : Nat :=
  reference.samples / max reference.channel_count 1

def RenderReference.lead_frames : Nat :=
  let played := reference.submitted_frames - reference.endpoint_padding_frames
  let reference_start := reference.submitted_frames - reference.reference_frames
  min (reference_start - played) MAX_ECHO_RENDER_REFERENCE_LEAD_FRAMES

def RenderSession.position_regressed (session : RenderSession) (reference : RenderReference) : Bool :=
  (session.last_player_position.any fun previous => reference.player_position < previous) ||
    session.last_submitted_frames.any fun previous => reference.submitted_frames < previous

/-- The started session that a reference belongs to. -/
def started_session (session_id : Nat) (clock : EchoRenderClock) : Option RenderSession :=
  (clock.active_render_sessions.lookup session_id).filter fun session => session.started

/-- The clock after a reference was accepted. -/
def EchoRenderClock.with_reference (clock : EchoRenderClock) : EchoRenderClock :=
  { clock with
    last_reference_lead_frames := some reference.lead_frames
    last_player_position := some reference.player_position
    last_submitted_frames := some reference.submitted_frames
    last_endpoint_padding_frames := some reference.endpoint_padding_frames
    last_physical_prefix_offset_frames := some reference.physical_prefix_offset_frames
    render_timeline_epoch := some reference.render_session_id
    last_observed_at := some reference.render_time }

def EchoRenderClock.with_session (session_id : Nat) (session : RenderSession) (clock : EchoRenderClock) :
    EchoRenderClock :=
  { clock with active_render_sessions := clock.active_render_sessions.insert session_id session }

def push_echo_reference_at (clock : EchoRenderClock) : Marked :=
  match started_session reference.render_session_id clock with
  | none =>
    ⟨clock.publish_discontinuity "wasapi-render-frame-session-mismatch", some "wasapi-render-frame-session-mismatch"⟩
  | some session =>
    if reference.matcher_error then ⟨clock, none⟩
    else
      let clock := clock.with_session reference.render_session_id { session with
        last_player_position := some reference.player_position
        last_submitted_frames := some reference.submitted_frames }
      if session.position_regressed reference then
        ⟨(clock.publish_discontinuity "wasapi-render-position-regressed").with_reference reference,
          some "wasapi-render-position-regressed"⟩
      else ⟨clock.with_reference reference, none⟩

/-! ## The estimator of the capture side -/

def CAPTURE_DISCONTINUITY_REARM_MS : Nat := 100

def MAX_STABLE_CLEAN_OBSERVATION_GAP_MS : Nat := 20

def MAX_TRACKED_RENDER_EPOCHS : Nat := 64

/-- What a captured packet brings beside the render clock. -/
structure CapturedPacket where
  device_frame_index : Nat
  packet_qpc_100ns : Nat
  capture_padding_frames : Option Nat := none
  capture_buffer_frames : Nat := 0
  playback_active : Bool := true
  data_discontinuity : Bool := false
  timestamp_error : Bool := false
  /-- the device clock and the packet clock advanced by more than the tolerance apart -/
  drifted : Bool := false

/-- The integer fields of `CaptureClockObservation`. -/
structure CaptureClockObservation where
  device_frame_index : Nat
  packet_qpc_100ns : Nat
  capture_padding_frames : Option Nat
  capture_buffer_frames : Nat
  render_endpoint_padding_frames : Option Nat
  render_reference_lead_frames : Option Nat
  render_submitted_frames : Option Nat
  render_timeline_epoch : Option Nat
  render_discontinuity_count : Nat
  render_hard_reset_generation : Nat
  render_discontinuity_reason : Option String
  data_discontinuity : Bool
  timestamp_error : Bool
  drifted : Bool

def active_render_delay_frames (playback_active : Bool) (endpoint_padding_frames reference_lead_frames : Option Nat) :
    Option Nat × Option Nat :=
  if playback_active then (endpoint_padding_frames, reference_lead_frames) else (none, none)

/-- The observation that `prepare_packet` makes of a packet and of `echo_render_clock_snapshot`. -/
def CapturedPacket.observation (packet : CapturedPacket) (clock : EchoRenderClock) : CaptureClockObservation where
  device_frame_index := packet.device_frame_index
  packet_qpc_100ns := packet.packet_qpc_100ns
  capture_padding_frames := packet.capture_padding_frames
  capture_buffer_frames := packet.capture_buffer_frames
  render_endpoint_padding_frames := (active_render_delay_frames packet.playback_active
    clock.last_endpoint_padding_frames clock.last_reference_lead_frames).1
  render_reference_lead_frames := (active_render_delay_frames packet.playback_active
    clock.last_endpoint_padding_frames clock.last_reference_lead_frames).2
  render_submitted_frames := clock.last_submitted_frames
  render_timeline_epoch := clock.render_timeline_epoch
  render_discontinuity_count := clock.discontinuity_count
  render_hard_reset_generation := clock.hard_reset_generation
  render_discontinuity_reason := clock.last_discontinuity_reason
  data_discontinuity := packet.data_discontinuity
  timestamp_error := packet.timestamp_error
  drifted := packet.drifted

inductive CaptureClockDiscontinuity
  | Regression
  | Drift
deriving DecidableEq

abbrev EpochPositions := AList fun _ : Nat => Nat

structure AecDelayEstimator where
  sample_rate_hz : Nat
  last_device_frame_index : Option Nat := none
  last_packet_qpc_100ns : Option Nat := none
  last_render_submitted_frames : Option Nat := none
  last_render_timeline_epoch : Option Nat := none
  render_submitted_frames_by_epoch : EpochPositions := ∅
  last_render_discontinuity_count : Option Nat := none
  last_render_hard_reset_generation : Option Nat := none
  capture_discontinuity_episode_active : Bool := false
  stable_clean_capture_frames : Nat := 0
  reset_count : Nat := 0
  timestamp_error_count : Nat := 0

namespace AecDelayEstimator

variable (estimator : AecDelayEstimator) (observation : CaptureClockObservation)

def queue_head_qpc_clamped : Bool :=
  !observation.timestamp_error && estimator.last_device_frame_index == some observation.device_frame_index &&
    estimator.last_packet_qpc_100ns.any fun previous => observation.packet_qpc_100ns ≠ previous

/-- The time of an unchanged frame is pinned. -/
def clamped : CaptureClockObservation :=
  if estimator.queue_head_qpc_clamped observation then
    { observation with
      packet_qpc_100ns := estimator.last_packet_qpc_100ns.getD observation.packet_qpc_100ns }
  else observation

def clock_discontinuity : Option CaptureClockDiscontinuity :=
  match estimator.last_device_frame_index, estimator.last_packet_qpc_100ns with
  | some previous_index, some previous_qpc =>
    if observation.device_frame_index < previous_index ∨
        (previous_index < observation.device_frame_index ∧ observation.packet_qpc_100ns ≤ previous_qpc) then
      some .Regression
    else if observation.drifted then some .Drift
    else none
  | _, _ => none

/-- The clock of a packet with a timestamp error is not compared. -/
def capture_clock_discontinuity : Option CaptureClockDiscontinuity :=
  if observation.timestamp_error then none else estimator.clock_discontinuity observation

def published_render_discontinuity : Bool :=
  estimator.last_render_discontinuity_count.any fun previous => previous ≠ observation.render_discontinuity_count

def published_hard_reset : Bool :=
  observation.render_hard_reset_generation ≠ estimator.last_render_hard_reset_generation.getD 0

def position_regressed (current : Nat) : Bool :=
  match observation.render_timeline_epoch with
  | some epoch => (estimator.render_submitted_frames_by_epoch.lookup epoch).any fun previous => current < previous
  | none =>
    estimator.last_render_timeline_epoch.isNone &&
      estimator.last_render_submitted_frames.any fun previous => current < previous

def render_position_discontinuity : Bool :=
  observation.render_submitted_frames.any fun current =>
    estimator.position_regressed observation current ||
      observation.render_endpoint_padding_frames.any fun padding => current < padding

def render_boundary_requires_aec_reset : Bool :=
  estimator.published_hard_reset observation ||
    (estimator.published_render_discontinuity observation &&
      observation.render_discontinuity_reason ≠ some WASAPI_RENDER_UNDERRUN)

/-- A reset for what the render side did. -/
def render_reset_demanded : Bool :=
  estimator.render_boundary_requires_aec_reset observation || estimator.render_position_discontinuity observation

def capture_padding_invalid : Bool :=
  observation.capture_padding_frames.any fun padding => observation.capture_buffer_frames < padding

def delay_reset_required : Bool :=
  observation.data_discontinuity || observation.timestamp_error || capture_padding_invalid observation ||
    (estimator.capture_clock_discontinuity observation).isSome ||
    (estimator.published_render_discontinuity observation || estimator.published_hard_reset observation ||
      estimator.render_position_discontinuity observation)

def capture_discontinuity_boundary : Bool :=
  observation.data_discontinuity && !estimator.capture_discontinuity_episode_active

def aec_reset_reason : Option String :=
  if estimator.capture_discontinuity_boundary observation then some "wasapi-capture-data-discontinuity"
  else if estimator.render_reset_demanded observation then some "wasapi-render-session-discontinuity"
  else if estimator.capture_clock_discontinuity observation = some .Regression then
    some "wasapi-capture-clock-regression"
  else none

/-- How far a clock went on, where it did not go back. -/
def advance (current : Nat) (previous : Option Nat) : Option Nat :=
  previous.bind fun previous => if previous ≤ current then some (current - previous) else none

def cadence_is_stable : Bool :=
  ((advance observation.device_frame_index estimator.last_device_frame_index).any fun frames =>
    0 < frames && frames ≤ estimator.sample_rate_hz * MAX_STABLE_CLEAN_OBSERVATION_GAP_MS / 1000) &&
  (advance observation.packet_qpc_100ns estimator.last_packet_qpc_100ns).any fun ticks =>
    0 < ticks && ticks ≤ MAX_STABLE_CLEAN_OBSERVATION_GAP_MS * 10000

/-- The clean frames in a row after an observation without a fault. -/
def clean_frames : Nat :=
  if estimator.cadence_is_stable observation then
    min (estimator.stable_clean_capture_frames +
      (advance observation.device_frame_index estimator.last_device_frame_index).getD 0) U64_MAX
  else 0

def follow_capture_episode : AecDelayEstimator :=
  if observation.data_discontinuity then
    { estimator with capture_discontinuity_episode_active := true, stable_clean_capture_frames := 0 }
  else if estimator.delay_reset_required observation then { estimator with stable_clean_capture_frames := 0 }
  else if estimator.capture_discontinuity_episode_active then
    if estimator.sample_rate_hz * CAPTURE_DISCONTINUITY_REARM_MS / 1000 ≤ estimator.clean_frames observation then
      { estimator with capture_discontinuity_episode_active := false, stable_clean_capture_frames := 0 }
    else { estimator with stable_clean_capture_frames := estimator.clean_frames observation }
  else estimator

/-- The oldest epochs leave until no more than 64 are tracked. -/
def forget_oldest : Nat → EpochPositions → EpochPositions
  | 0, positions => positions
  | fuel + 1, positions =>
    if positions.entries.length ≤ MAX_TRACKED_RENDER_EPOCHS then positions
    else match positions.keys.min? with
      | none => positions
      | some oldest => forget_oldest fuel (positions.erase oldest)

def track_epoch (positions : EpochPositions) : EpochPositions :=
  match observation.render_timeline_epoch, observation.render_submitted_frames with
  | some epoch, some submitted_frames =>
    let positions := positions.insert epoch submitted_frames
    forget_oldest positions.entries.length positions
  | _, _ => positions

/-- The counters of a packet. -/
def count_faults : AecDelayEstimator :=
  { estimator with
    timestamp_error_count :=
      if observation.timestamp_error then saturating_succ estimator.timestamp_error_count
      else estimator.timestamp_error_count
    reset_count :=
      if estimator.delay_reset_required observation then saturating_succ estimator.reset_count
      else estimator.reset_count }

/-- The baselines that the next observation is compared with. -/
def take_baseline : AecDelayEstimator :=
  { estimator with
    last_device_frame_index :=
      if observation.timestamp_error then estimator.last_device_frame_index
      else some observation.device_frame_index
    last_packet_qpc_100ns :=
      if observation.timestamp_error then estimator.last_packet_qpc_100ns
      else some observation.packet_qpc_100ns
    last_render_submitted_frames := observation.render_submitted_frames
    last_render_timeline_epoch := observation.render_timeline_epoch
    render_submitted_frames_by_epoch := track_epoch observation estimator.render_submitted_frames_by_epoch
    last_render_discontinuity_count := some observation.render_discontinuity_count
    last_render_hard_reset_generation := some observation.render_hard_reset_generation }

end AecDelayEstimator

/-- What an observation says of resets. -/
structure AecDelayEstimate where
  capture_padding_invalid : Bool
  delay_reset_required : Bool
  aec_reset_required : Bool
  aec_reset_reason : Option String
  published_render_discontinuity : Bool
  queue_head_qpc_clamped : Bool
deriving DecidableEq

def AecDelayEstimator.observe_capture (observation : CaptureClockObservation) (estimator : AecDelayEstimator) :
    AecDelayEstimate × AecDelayEstimator :=
  let clamped := estimator.clamped observation
  ({ capture_padding_invalid := AecDelayEstimator.capture_padding_invalid clamped
     delay_reset_required := estimator.delay_reset_required clamped
     aec_reset_required := (estimator.aec_reset_reason clamped).isSome
     aec_reset_reason := estimator.aec_reset_reason clamped
     published_render_discontinuity := estimator.published_render_discontinuity clamped
     queue_head_qpc_clamped := estimator.queue_head_qpc_clamped observation },
    ((estimator.count_faults clamped).follow_capture_episode clamped).take_baseline clamped)

/-! ## Runs -/

/-- The clock, the estimator, and the reasons that were published since the last observation. -/
structure System where
  clock : EchoRenderClock := {}
  estimator : AecDelayEstimator
  published : List String := []

inductive Step
  | mark (boundary : EchoRenderBoundary) (observed_at : Nat)
  | push (reference : RenderReference)
  | observe (packet : CapturedPacket)

namespace System

def marked (s : System) (marked : Marked) : System :=
  { s with clock := marked.clock, published := s.published ++ marked.reason.toList }

def step (s : System) : Step → System
  | .mark boundary observed_at => s.marked (mark_echo_render_discontinuity boundary observed_at s.clock)
  | .push reference => s.marked (push_echo_reference_at reference s.clock)
  | .observe packet =>
    { s with
      estimator := (s.estimator.observe_capture (packet.observation s.clock)).2
      published := [] }

/-- The estimate that a packet gets. -/
def estimate (s : System) (packet : CapturedPacket) : AecDelayEstimate :=
  (s.estimator.observe_capture (packet.observation s.clock)).1

end System

end omni_translate.echo_render

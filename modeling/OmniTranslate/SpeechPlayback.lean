-- Speech that is played through the Bridge (`audio/speech/playback_engine.rs`):
-- the route of a task, its frames, what the Bridge does with each of them while its
-- authority stays the same, and the acknowledgements that the desktop believes. The
-- tasks are played one after the other.
import OmniTranslate.TranslationQueue
import OmniTranslate.TranslationWrites
import OmniTranslate.VirtualMic

namespace omni_translate.speech_playback

open audio_writer runs
open bridge_playback_ack (TranslationPlaybackAuthority)
open playback (VirtualMicCueLedger VirtualMicKey Bridge.translation_non_playback_reason duration_ms
  frames_of)
open translation_queue (TranslationPlaybackQueue PlaybackJob)

variable {S : Type}

def SPEAKER_SAMPLE_RATE_HZ : Nat := 48000
def SPEAKER_CHANNEL_COUNT : Nat := 2

/-! ## Routes -/

structure SpeechOutputRoutePlan where
  play_to_speaker : Bool
  write_to_virtual_mic : Bool
  write_to_bridge_playback : Bool
deriving DecidableEq

def for_route (route_direction : String) (local_playback_enabled virtual_mic_output_enabled : Bool) :
    SpeechOutputRoutePlan :=
  match route_direction with
  | "inbound" => ⟨local_playback_enabled, false, false⟩
  | "outbound" => ⟨local_playback_enabled && !virtual_mic_output_enabled, virtual_mic_output_enabled, false⟩
  | _ => ⟨local_playback_enabled, virtual_mic_output_enabled, false⟩

def for_configured_route (route_direction : String)
    (local_playback_enabled virtual_mic_output_enabled bridge_playback_enabled : Bool) :
    SpeechOutputRoutePlan :=
  if bridge_playback_enabled ∧ route_direction = "inbound" then ⟨false, false, true⟩
  else for_route route_direction local_playback_enabled virtual_mic_output_enabled

/-! ## The Bridge -/

/-- The ledger of the virtual microphone, what was written to the driver, and the audio of the jobs
that the translation queue accepted. -/
structure BridgeAudio (S : Type) where
  ledger : VirtualMicCueLedger
  driver : List (List S)
  accepted : List (List S)

/-- What a frame meets on its way: the desktop's snapshots before and after, whether the pipe carries the
frame and its acknowledgement, and the Bridge's settings, queue and driver when it handles it. -/
structure FrameOutside (S : Type) where
  session_id : Option String
  snapshot : BridgeRuntimeSnapshot
  current : BridgeRuntimeSnapshot
  stamp : FrameStamp
  pipe_error : Option String
  ack_error : Option String
  playback_frames_written : Nat
  virtual_mic_output_requested : Bool
  translation_playback_enabled : Bool
  translated_audio_enabled : Bool
  physical_playback_ready : Bool
  process_loopback_error : Option String
  mix_for_monitor : Nat → Nat → List Int16 → List S
  translation_queue : TranslationPlaybackQueue S
  device_id : String
  translation_generation : Nat
  translation_arrival_sequence : Nat
  now_ms : Nat
  driver_error : Option (String × String)

def virtual_mic_ledger_key (header : AudioFrameHeader) : VirtualMicKey where
  cue_id := header.cue_id.getD ""
  authority :=
    { session_id := header.session_id
      bridge_instance_id := header.bridge_instance_id.getD ""
      source_generation := header.source_generation.getD 0
      source_generation_token := header.source_generation_token.getD ""
      playback_owner_generation := header.playback_owner_generation.getD 0
      physical_playback_device_id := header.physical_playback_device_id.getD "" }

variable (s : BridgeAudio S)

/-- The cue of a frame has ended without its audio. -/
def ended (ledger : VirtualMicCueLedger) (key : VirtualMicKey) : BridgeAudio S :=
  { s with ledger := (ledger.complete_terminal key).1 }

def handle_virtual_mic_frame_with_writer (header : AudioFrameHeader) (monitor_samples : List S)
    (outside : FrameOutside S) : BridgeAudio S × AudioFrameAck :=
  let chunk_index := header.chunk_index.getD 0
  let key := virtual_mic_ledger_key header
  let accepted := accepted_audio_frame_ack header outside.playback_frames_written
  if ¬ outside.virtual_mic_output_requested then
    (ended s s.ledger key, rejected_audio_frame_ack header "bridge.virtual-mic-output-unavailable"
      "virtual microphone output was not enabled during bridge.init")
  else
    match s.ledger.begin key chunk_index (header.chunk_count.getD 1) with
    | .error _ =>
      (ended s s.ledger key, rejected_audio_frame_ack header "bridge.invalid-pcm-payload"
        "virtual microphone cue chunks must be ordered and keep a stable chunkCount")
    | .ok (_, .Duplicate) => (s, accepted)
    | .ok (ledger, .Write _) =>
      match Bridge.translation_non_playback_reason true outside.translated_audio_enabled
          monitor_samples.isEmpty with
      | some _ => (ended s ledger key, accepted)
      | none =>
        match outside.driver_error with
        | some (code, detail) => (ended s ledger key, rejected_audio_frame_ack header code detail)
        | none =>
          ({ s with
            ledger := (ledger.complete_success key chunk_index).1
            driver := s.driver ++ [monitor_samples] }, accepted)

/-- The job of a complete cue. -/
def job_of (header : AudioFrameHeader) (monitor_samples : List S) (outside : FrameOutside S) :
    PlaybackJob S :=
  let duration_ms := duration_ms (frames_of monitor_samples)
  { samples := monitor_samples
    device_id := outside.device_id
    cue_id := header.cue_id
    created_at_ms := header.created_at_ms.getD outside.now_ms
    playback_duration_ms := duration_ms
    translation_generation := outside.translation_generation
    translation_arrival_sequence := outside.translation_arrival_sequence
    estimated_duration_ms := header.estimated_duration_ms.getD duration_ms }

/-- `handle_physical_translation_frame` for a complete cue. -/
def handle_physical_translation_frame (header : AudioFrameHeader) (monitor_samples : List S)
    (outside : FrameOutside S) : BridgeAudio S × AudioFrameAck :=
  let accepted := accepted_audio_frame_ack header outside.playback_frames_written
  if outside.translation_playback_enabled ∧ outside.translated_audio_enabled ∧
      ¬ outside.physical_playback_ready then
    (s, rejected_audio_frame_ack header "bridge.translation-generation-ended"
      "physical translation playback owner is not ready")
  else
    match Bridge.translation_non_playback_reason outside.translation_playback_enabled
        outside.translated_audio_enabled monitor_samples.isEmpty with
    | some _ => (s, accepted)
    | none =>
      match (outside.translation_queue.enqueue (job_of header monitor_samples outside) outside.now_ms).2 with
      | .ok _ => ({ s with accepted := s.accepted ++ [monitor_samples] }, accepted)
      | .error _ => (s, rejected_audio_frame_ack header "bridge.queue-overflow" "translation queue is full")

def translation_dispatch_allowed (header : AudioFrameHeader) : Bool :=
  (header.translation_sink = some .PhysicalPlayback ∧ header.route_direction = some .Inbound) ∨
    (header.translation_sink = some .VirtualMic ∧ header.route_direction = some .Outbound)

variable (current : audio_writer.BridgeState)

/-- `handle_audio_client` for the frames of speech, which are never streamed. -/
def handle_audio_client (header : AudioFrameHeader) (payload : List UInt8)
    (outside : FrameOutside S) : BridgeAudio S × AudioFrameAck :=
  let physical : Bool := header.translation_sink = some .PhysicalPlayback
  if ¬ translation_frame_has_current_authority current header then
    (s, rejected_audio_frame_ack header "bridge.translation-generation-ended"
      "translation frame belongs to a superseded or incomplete authority tuple")
  else if ¬ translation_dispatch_allowed header then
    (s, rejected_audio_frame_ack header "bridge.invalid-audio-direction"
      "translation frames require physical-playback/inbound or virtual-mic/outbound")
  else if physical ∧ outside.process_loopback_error.isSome then
    (s, rejected_audio_frame_ack header (outside.process_loopback_error.getD "")
      "process-exclusion route is not ready; translation playback was not queued")
  else if physical ∧ outside.translation_playback_enabled ∧ ¬ outside.physical_playback_ready then
    (s, rejected_audio_frame_ack header "bridge.translation-generation-ended"
      "physical translation frame belongs to a superseded playback owner")
  else
    match validate_translation_frame current.session_id header payload with
    | .error ack => (s, ack)
    | .ok samples =>
      let monitor_samples := outside.mix_for_monitor header.sample_rate_hz header.channel_count samples
      if physical then handle_physical_translation_frame s header monitor_samples outside
      else handle_virtual_mic_frame_with_writer s header monitor_samples outside

/-! ## Writing -/

/-- One frame, and what the desktop makes of its acknowledgement. -/
def write_bridge_audio_frame (write : FrameWrite) (outside : FrameOutside S) : BridgeAudio S × Except String Nat :=
  match prepare_frame outside.snapshot none outside.stamp write with
  | .error error => (s, .error error)
  | .ok prepared =>
    match outside.pipe_error with
    | some error => (s, .error error)
    | none =>
      let (s, ack) := handle_audio_client s current prepared.header (write.samples.flatMap
        translated_pcm_authority.to_le_bytes) outside
      match outside.ack_error with
      | some error => (s, .error error)
      | none => (s, acknowledged prepared outside.current ack)

/-- The frames of a call, up to the first that fails. Only the virtual microphone looks at the session
before each of them. -/
def write_frames (current : audio_writer.BridgeState) (expected_session_id : Option String)
    (outside : Nat → FrameOutside S) : Nat → List FrameWrite → BridgeAudio S → BridgeAudio S × Except String Nat
  | _, [], s => (s, .ok 0)
  | index, write :: writes, s =>
    if write.translation_sink = .VirtualMic ∧ (outside index).session_id ≠ expected_session_id then
      (s, .error "Bridge session changed while virtual mic audio was paced; remaining stale audio was discarded.")
    else
      match write_bridge_audio_frame s current write (outside index) with
      | (s, .error error) => (s, .error error)
      | (s, .ok accepted_frames) =>
        match write_frames current expected_session_id outside (index + 1) writes s with
        | (s, .error error) => (s, .error error)
        | (s, .ok more_frames) => (s, .ok (accepted_frames + more_frames))

/-! ## Tasks -/

structure MixPlan where
  virtual_mic_samples : List Int16
  bridge_playback_samples : List Int16
  sample_rate_hz : Nat
  channel_count : Nat

/-- A task with the settings that its route is made of. -/
structure SpeechTask where
  cue_id : String
  request_id : String
  route_direction : String
  mix : MixPlan
  created_at_ms : Nat
  local_playback_enabled : Bool
  virtual_mic_output_enabled : Bool
  bridge_playback_enabled : Bool

variable (task : SpeechTask)

def SpeechTask.output_route : SpeechOutputRoutePlan :=
  for_configured_route task.route_direction task.local_playback_enabled task.virtual_mic_output_enabled
    task.bridge_playback_enabled

structure SpeechPlaybackResult where
  speaker_frames : Nat
  virtual_mic_frames : Nat
  bridge_playback_frames : Nat
  bridge_playback_queued : Bool

/-- What a task meets: a violation of its route, the outcome of the speaker, the session, and its frames. -/
structure TaskOutside (S : Type) where
  route_violation : Option String
  speaker : Except String Nat
  expected_session_id : Option String
  frames : Nat → FrameOutside S

/-- `div_ceil` -/
def div_ceil (a b : Nat) : Nat := (a + b - 1) / b

def saturating_mul (a b : Nat) : Nat := min (a * b) (2 ^ 64 - 1)

/-- The samples of a task on its way to the Bridge, and their format. -/
def SpeechTask.cue_audio : CueAudio :=
  let physical := task.output_route.write_to_bridge_playback
  let samples := if physical then task.mix.bridge_playback_samples else task.mix.virtual_mic_samples
  let sample_rate_hz := if physical then SPEAKER_SAMPLE_RATE_HZ else task.mix.sample_rate_hz
  let channel_count := if physical then SPEAKER_CHANNEL_COUNT else task.mix.channel_count
  { cue_id := task.cue_id
    request_id := task.request_id
    route_direction := task.route_direction
    samples
    sample_rate_hz
    channel_count
    created_at_ms := task.created_at_ms
    estimated_duration_ms := div_ceil (saturating_mul samples.length 1000) (sample_rate_hz * channel_count) }

def SpeechTask.call : WriteCall :=
  if task.output_route.write_to_bridge_playback then .playback_cue else .virtual_mic

/-- `write_process_playback_cue` or `write_virtual_mic_frame`. -/
def write_task (outside : TaskOutside S) : BridgeAudio S × Except String Nat :=
  match task.call.frames task.cue_audio with
  | .error error => (s, .error error)
  | .ok writes => write_frames current outside.expected_session_id outside.frames 0 writes s

def play (outside : TaskOutside S) : BridgeAudio S × Except String SpeechPlaybackResult :=
  let output_route := task.output_route
  match outside.route_violation, if output_route.play_to_speaker then outside.speaker else .ok 0 with
  | some error, _ => (s, .error error)
  | none, .error error => (s, .error error)
  | none, .ok speaker_frames =>
    let (s, written) :=
      if output_route.write_to_virtual_mic || output_route.write_to_bridge_playback then
        write_task s current task outside
      else (s, .ok 0)
    match written with
    | .error error => (s, .error error)
    | .ok bridge_or_virtual_frames =>
      (s, .ok
        { speaker_frames
          virtual_mic_frames := if output_route.write_to_virtual_mic then bridge_or_virtual_frames else 0
          bridge_playback_frames := if output_route.write_to_bridge_playback then bridge_or_virtual_frames else 0
          bridge_playback_queued := output_route.write_to_bridge_playback })

/-- A Bridge that has just taken its authority. -/
def start : BridgeAudio S := ⟨.new, [], []⟩

/-- A task with what it meets. -/
def step (s : BridgeAudio S) (task : SpeechTask × TaskOutside S) :
    BridgeAudio S := (play s current task.1 task.2).1

end omni_translate.speech_playback

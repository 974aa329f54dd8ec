-- Translated audio on its way to the Bridge (`bridge/ipc/audio_writer.rs` and the
-- Bridge's `handle_audio_client`): the frames that a cue is cut into, the bytes of
-- a frame, what the Bridge reads of them, and the acknowledgement that comes
-- back. JSON is a parameter: an encoder and a decoder of headers and of
-- acknowledgements.
import OmniTranslate.Calls
import OmniTranslate.PlaybackWorker
import OmniTranslate.Stretches
import OmniTranslate.TranslatedPcm

namespace omni_translate.audio_writer

open calls stretches
open bridge_playback_ack (TranslationPlaybackAuthority)
open playback (TranslationStreamState)
open translated_pcm_authority (BridgeTranslationSinkOwner to_le_bytes is_blank)

def MAX_AUDIO_FRAME_HEADER_BYTES : Nat := 64 * 1024
def MAX_AUDIO_FRAME_PAYLOAD_BYTES : Nat := 4 * 1024 * 1024

/-! ## Headers and acknowledgements -/

inductive AudioSampleFormat
  | PcmS16le
deriving DecidableEq

inductive TranslationAudioSink
  | VirtualMic
  | PhysicalPlayback
deriving DecidableEq

inductive AudioRouteDirection
  | Inbound
  | Outbound
deriving DecidableEq

structure AudioFrameHeader where
  event_type : String
  request_id : String
  session_id : String
  frame_id : String
  stream_id : String
  sample_rate_hz : Nat
  sample_format : AudioSampleFormat
  channel_count : Nat
  frame_count : Nat
  timestamp_ms : Nat
  payload_bytes : Nat
  bridge_process_id : Option Nat
  bridge_instance_id : Option String
  playback_owner_generation : Option Nat
  source_generation : Option Nat
  source_generation_token : Option String
  physical_playback_device_id : Option String
  cue_id : Option String
  created_at_ms : Option Nat
  estimated_duration_ms : Option Nat
  chunk_index : Option Nat
  chunk_count : Option Nat
  stream_state : Option TranslationStreamState
  translated_audio_enhancement_applied : Bool
  translation_sink : Option TranslationAudioSink
  route_direction : Option AudioRouteDirection
deriving DecidableEq

structure AudioFrameAck where
  event_type : String
  request_id : String
  frame_id : String
  session_id : String
  bridge_instance_id : String
  source_generation : Nat
  source_generation_token : String
  playback_owner_generation : Nat
  physical_playback_device_id : String
  accepted_frames : Nat
  playback_frames_written : Nat
  error_code : Option String
  message : Option String
deriving DecidableEq

/-- The authority of a header comes back with its acknowledgement. -/
def audio_frame_ack (event_type : String) (header : AudioFrameHeader) (accepted_frames playback_frames_written : Nat)
    (error_code message : Option String) : AudioFrameAck where
  event_type := event_type
  request_id := header.request_id
  frame_id := header.frame_id
  session_id := header.session_id
  bridge_instance_id := header.bridge_instance_id.getD ""
  source_generation := header.source_generation.getD 0
  source_generation_token := header.source_generation_token.getD ""
  playback_owner_generation := header.playback_owner_generation.getD 0
  physical_playback_device_id := header.physical_playback_device_id.getD ""
  accepted_frames := accepted_frames
  playback_frames_written := playback_frames_written
  error_code := error_code
  message := message

variable (header : AudioFrameHeader)

def accepted_audio_frame_ack (playback_frames_written : Nat) : AudioFrameAck :=
  audio_frame_ack "bridge.translation.ack" header header.frame_count playback_frames_written none none

def rejected_audio_frame_ack (error_code message : String) : AudioFrameAck :=
  audio_frame_ack "bridge.translation.nack" header 0 0 (some error_code) (some message)

/-! ## The owner of the Bridge's playback -/

/-- The fields of the snapshot that a write reads. -/
structure BridgeRuntimeSnapshot where
  bridge_process_id : Option Nat
  bridge_instance_id : Option String
  process_status : String
  bridge_state : String
  session_id : Option String
  source_generation : Nat
  source_generation_token : Option String
  playback_owner_generation : Nat
  physical_playback_status : String
  resolved_physical_playback_device_id : String
deriving DecidableEq

/-- `{bridge_instance_id}:{session_id}:{source_generation}` -/
def source_generation_token (bridge_instance_id session_id : String) (source_generation : Nat) : String :=
  bridge_instance_id ++ ":" ++ session_id ++ ":" ++ toString source_generation

def from_snapshot (snapshot : BridgeRuntimeSnapshot) : Option BridgeTranslationSinkOwner :=
  let endpoint_id := text.trim snapshot.resolved_physical_playback_device_id.toList
  if snapshot.physical_playback_status ≠ "ready" ∨
      String.ofList (endpoint_id.map Char.toLower) ∈ ["", "default", "speaker-default", "system-output-default"] ∨
      snapshot.source_generation = 0 ∨ snapshot.playback_owner_generation = 0 then none
  else
    match snapshot.session_id, snapshot.bridge_instance_id, snapshot.source_generation_token with
    | some session_id, some bridge_instance_id, some token =>
      if token ≠ source_generation_token bridge_instance_id session_id snapshot.source_generation then none
      else some
        { session_id, bridge_instance_id
          source_generation := snapshot.source_generation
          source_generation_token := token
          resolved_physical_playback_device_id := String.ofList endpoint_id
          playback_owner_generation := snapshot.playback_owner_generation }
    | _, _, _ => none

def playback_authority (owner : BridgeTranslationSinkOwner) : TranslationPlaybackAuthority where
  session_id := owner.session_id
  bridge_instance_id := owner.bridge_instance_id
  source_generation := owner.source_generation
  source_generation_token := owner.source_generation_token
  playback_owner_generation := owner.playback_owner_generation
  physical_playback_device_id := owner.resolved_physical_playback_device_id

def evidence (owner : BridgeTranslationSinkOwner) : String :=
  "sessionId=" ++ owner.session_id ++ " bridgeInstanceId=" ++ owner.bridge_instance_id ++ " sourceGeneration=" ++
    toString owner.source_generation ++ " sourceGenerationToken=" ++ owner.source_generation_token ++ " endpointId=" ++
    owner.resolved_physical_playback_device_id ++ " playbackOwnerGeneration=" ++ toString owner.playback_owner_generation

def BRIDGE_TRANSLATION_GENERATION_ENDED : String := "bridge.translation-generation-ended"

def translation_sink_owner_changed (expected : BridgeTranslationSinkOwner) (current : BridgeRuntimeSnapshot) : Bool :=
  from_snapshot current ≠ some expected

def translation_generation_ended_error (expected : BridgeTranslationSinkOwner) (current : BridgeRuntimeSnapshot)
    (error : String) : String :=
  BRIDGE_TRANSLATION_GENERATION_ENDED ++ ": expectedOwner=[" ++ evidence expected ++ "] currentOwner=[" ++
    ((from_snapshot current).map evidence).getD "sessionId=- bridgeInstanceId=-" ++ "] cause=" ++ error

def translation_write_error_for_owner (expected : Option BridgeTranslationSinkOwner) (current : BridgeRuntimeSnapshot)
    (error : String) : String :=
  match expected with
  | none => error
  | some expected =>
    if translation_sink_owner_changed expected current then translation_generation_ended_error expected current error
    else error

/-! ## The frames of a cue -/

/-- The arguments of `write_bridge_audio_frame`. -/
structure FrameWrite where
  event_type : String
  cue_id : String
  request_id : String
  route_direction : String
  translation_sink : TranslationAudioSink
  samples : List Int16
  sample_rate_hz : Nat
  channel_count : Nat
  created_at_ms : Nat
  estimated_duration_ms : Nat
  chunk_index : Option Nat
  chunk_count : Option Nat
  stream_state : Option TranslationStreamState

/-- The arguments that the three calls share. -/
structure CueAudio where
  cue_id : String
  request_id : String
  route_direction : String
  samples : List Int16
  sample_rate_hz : Nat
  channel_count : Nat
  created_at_ms : Nat
  estimated_duration_ms : Nat

variable (samples : List Int16)

def validate_translation_audio_format (sample_rate_hz channel_count : Nat) :
    Except String Unit := do
  require (sample_rate_hz ≠ 0 ∧ channel_count ≠ 0)
    "Bridge translation audio requires a non-zero sample rate and channel count."
  require (samples.length % channel_count = 0)
    ("Bridge translation audio contains a partial channel frame (samples=" ++ toString samples.length ++
      ", channels=" ++ toString channel_count ++ ").")

/-- `slice::chunks` -/
def chunks {α : Type} (size : Nat) (l : List α) : List (List α) :=
  (List.range ((l.length + size - 1) / size)).map (block size l)

/-- Twenty milliseconds of samples. -/
def samples_per_chunk (sample_rate_hz channel_count : Nat) : Nat := max (sample_rate_hz / 50) 1 * channel_count

def virtual_mic_pacing_chunks (sample_rate_hz channel_count : Nat) :
    Except String (List (List Int16)) := do
  validate_translation_audio_format samples sample_rate_hz channel_count
  pure (chunks (samples_per_chunk sample_rate_hz channel_count) samples)

def process_playback_cue_chunks (sample_rate_hz channel_count : Nat) :
    Except String (List (List Int16)) := do
  validate_translation_audio_format samples sample_rate_hz channel_count
  pure (if samples.isEmpty then [] else [samples])

def U32 : Nat := 2 ^ 32

variable (cue : CueAudio)

/-- What the calls pass on to `write_bridge_audio_frame`. -/
def frame_write (translation_sink : TranslationAudioSink) (request_id : String)
    (samples : List Int16) (chunk_index chunk_count : Option Nat)
    (stream_state : Option TranslationStreamState) : FrameWrite where
  event_type := "bridge.translation.frame"
  cue_id := cue.cue_id
  request_id := request_id
  route_direction := cue.route_direction
  translation_sink := translation_sink
  samples := samples
  sample_rate_hz := cue.sample_rate_hz
  channel_count := cue.channel_count
  created_at_ms := cue.created_at_ms
  estimated_duration_ms := cue.estimated_duration_ms
  chunk_index := chunk_index
  chunk_count := chunk_count
  stream_state := stream_state

/-- The frames of `write_virtual_mic_frame`; `as u32` keeps the low bits of an index and of the count. -/
def virtual_mic_frames : Except String (List FrameWrite) := do
  let chunks ← virtual_mic_pacing_chunks cue.samples cue.sample_rate_hz cue.channel_count
  pure (chunks.zipIdx.map fun chunk =>
    frame_write cue .VirtualMic (cue.request_id ++ "-chunk-" ++ toString chunk.2) chunk.1 (some (chunk.2 % U32))
      (some (chunks.length % U32)) none)

/-- The frame of `write_process_playback_cue`. -/
def process_playback_cue_frames : Except String (List FrameWrite) := do
  let chunks ← process_playback_cue_chunks cue.samples cue.sample_rate_hz cue.channel_count
  pure (chunks.head?.toList.map fun samples =>
    frame_write cue .PhysicalPlayback cue.request_id samples none none none)

/-- The frame of `write_process_playback_stream`. -/
def process_playback_stream_frames (chunk_index : Nat) (stream_state : TranslationStreamState) :
    Except String (List FrameWrite) := do
  validate_translation_audio_format cue.samples cue.sample_rate_hz cue.channel_count
  pure [frame_write cue .PhysicalPlayback cue.request_id cue.samples (some chunk_index) none (some stream_state)]

/-! ## The bytes of a frame -/

def parse_route_direction (value : String) : Except String AudioRouteDirection :=
  match value with
  | "inbound" => .ok .Inbound
  | "outbound" => .ok .Outbound
  | value => .error ("bridge.invalid-audio-direction: translated audio has unsupported routeDirection=" ++ value)

/-- What is made up for a frame: a new uuid, and the time. -/
structure FrameStamp where
  uuid : String
  now_ms : Nat

def translation_frame_header (write : FrameWrite) (route_direction : AudioRouteDirection) (session_id : String)
    (bridge_process_id : Option Nat) (owner : BridgeTranslationSinkOwner) (stamp : FrameStamp) : AudioFrameHeader where
  event_type := write.event_type
  request_id := write.request_id
  session_id := session_id
  frame_id := write.cue_id ++ "-" ++ stamp.uuid
  stream_id := write.cue_id
  sample_rate_hz := write.sample_rate_hz
  sample_format := .PcmS16le
  channel_count := write.channel_count
  frame_count := write.samples.length / write.channel_count
  timestamp_ms := stamp.now_ms
  payload_bytes := (write.samples.flatMap to_le_bytes).length
  bridge_process_id := bridge_process_id
  bridge_instance_id := some owner.bridge_instance_id
  playback_owner_generation := some owner.playback_owner_generation
  source_generation := some owner.source_generation
  source_generation_token := some owner.source_generation_token
  physical_playback_device_id := some owner.resolved_physical_playback_device_id
  cue_id := some write.cue_id
  created_at_ms := some write.created_at_ms
  estimated_duration_ms := some write.estimated_duration_ms
  chunk_index := write.chunk_index
  chunk_count := write.chunk_count
  stream_state := write.stream_state
  translated_audio_enhancement_applied := true
  translation_sink := some write.translation_sink
  route_direction := some route_direction

/-- The owner of physical playback that a frame is written for. -/
def physical_owner (write : FrameWrite) (expected_owner : Option BridgeTranslationSinkOwner)
    (frame_owner : BridgeTranslationSinkOwner) : Option BridgeTranslationSinkOwner :=
  match write.translation_sink with
  | .PhysicalPlayback => some (expected_owner.getD frame_owner)
  | .VirtualMic => none

/-- The header of a frame and the owners that it is written for: the frame's own, and that of physical playback. -/
structure PreparedFrame where
  header : AudioFrameHeader
  frame_owner : BridgeTranslationSinkOwner
  physical_owner : Option BridgeTranslationSinkOwner

/-- From `write_bridge_audio_frame`: the checks before anything is written. -/
def prepare_frame (snapshot : BridgeRuntimeSnapshot) (expected_owner : Option BridgeTranslationSinkOwner)
    (stamp : FrameStamp) (write : FrameWrite) : Except String PreparedFrame := do
  let route_direction ← parse_route_direction write.route_direction
  let frame_owner ← expect (from_snapshot snapshot)
    "bridge.translation-generation-ended: translation frame authority is incomplete"
  let physical := physical_owner write expected_owner frame_owner
  require (physical.all fun owner => !translation_sink_owner_changed owner snapshot)
    (translation_write_error_for_owner physical snapshot
      "translation write reached a superseded Bridge owner before pipe open")
  require (snapshot.process_status = "running" ∧ snapshot.bridge_state ∈ ["running", "degraded"])
    "Bridge Service 未启动或尚未完成握手。"
  let session_id ← expect snapshot.session_id "Bridge Service 会话不存在。"
  pure
    { header := translation_frame_header write route_direction session_id snapshot.bridge_process_id frame_owner stamp
      frame_owner
      physical_owner := physical }

/-- `(n as u32).to_le_bytes()` -/
def u32_to_le_bytes (n : Nat) : List UInt8 :=
  [UInt8.ofNat n, UInt8.ofNat (n / 256), UInt8.ofNat (n / 65536), UInt8.ofNat (n / 16777216)]

variable (bytes : List UInt8)

/-- Bytes behind their length. -/
def framed : List UInt8 := u32_to_le_bytes bytes.length ++ bytes

def frame_bytes (encode : AudioFrameHeader → List UInt8) (header : AudioFrameHeader) (samples : List Int16) :
    List UInt8 := framed (encode header) ++ samples.flatMap to_le_bytes

/-! ## What the Bridge reads -/

/-- The bytes that are read, and those behind them. -/
def read_exact (len : Nat) : Option (List UInt8 × List UInt8) :=
  if len ≤ bytes.length then some (bytes.take len, bytes.drop len) else none

def u32_from_le_bytes : Nat :=
  bytes.foldr (fun byte n => byte.toNat + 256 * n) 0

/-- From `handle_audio_client`: the header and the payload of a frame. -/
def read_frame (decode : List UInt8 → Option AudioFrameHeader) (bytes : List UInt8) :
    Option (AudioFrameHeader × List UInt8) := do
  let (header_len_bytes, bytes) ← read_exact bytes 4
  let header_len := u32_from_le_bytes header_len_bytes
  if header_len = 0 ∨ MAX_AUDIO_FRAME_HEADER_BYTES < header_len then none
  else
    let (header_bytes, bytes) ← read_exact bytes header_len
    let header ← decode header_bytes
    if MAX_AUDIO_FRAME_PAYLOAD_BYTES < header.payload_bytes then none
    else
      let (payload, _) ← read_exact bytes header.payload_bytes
      pure (header, payload)

/-- The authority of the Bridge. -/
structure BridgeState where
  session_id : Option String
  bridge_instance_id : String
  source_generation : Nat
  playback_owner_generation : Nat
  resolved_physical_playback_device_id : String

def translation_frame_has_current_authority (current : BridgeState) (header : AudioFrameHeader) : Bool :=
  !is_blank header.session_id && header.session_id = current.session_id.getD "" &&
    header.bridge_instance_id = some current.bridge_instance_id &&
    header.source_generation = some current.source_generation &&
    header.source_generation_token = some (source_generation_token current.bridge_instance_id
      (current.session_id.getD "no-session") current.source_generation) &&
    header.playback_owner_generation = some current.playback_owner_generation &&
    !is_blank current.resolved_physical_playback_device_id &&
    header.physical_playback_device_id = some current.resolved_physical_playback_device_id

def from_le_bytes (low high : UInt8) : Int16 := (UInt16.ofNat (low.toNat + 256 * high.toNat)).toInt16

/-- `chunks_exact(2)` of an even number of bytes. -/
def pairs : List UInt8 → List Int16
  | low :: high :: bytes => from_le_bytes low high :: pairs bytes
  | _ => []

def decode_pcm16le : Except String (List Int16) := do
  require (bytes.length % 2 = 0) "pcm16le payload must contain an even number of bytes"
  pure (pairs bytes)

/-- The cue of a frame that must have one. -/
def lacks_cue : Bool := header.cue_id.getD "" = ""

/-- The place of a virtual microphone's frame in its cue. -/
def has_place : Bool :=
  match header.chunk_index, header.chunk_count with
  | some index, some count => 0 < count && index < count
  | _, _ => false

def validate_translation_frame (active_session_id : Option String) (header : AudioFrameHeader) (payload : List UInt8) :
    Except AudioFrameAck (List Int16) :=
  if active_session_id ≠ some header.session_id then
    .error (rejected_audio_frame_ack header "bridge.session-mismatch"
      "translation frame session does not match the active bridge session")
  else if header.event_type ≠ "bridge.translation.frame" then
    .error (rejected_audio_frame_ack header "bridge.invalid-audio-direction"
      "audio pipe accepts translation frames only")
  else if header.translation_sink = some .VirtualMic ∧ (lacks_cue header = true ∨ has_place header = false) then
    .error (rejected_audio_frame_ack header "bridge.invalid-pcm-payload"
      "virtual microphone frames require a valid chunkIndex/chunkCount pair")
  else if header.translation_sink = some .PhysicalPlayback ∧ header.stream_state.isSome = true ∧
      (lacks_cue header = true ∨ header.chunk_index = none ∨ header.chunk_count.isSome = true) then
    .error (rejected_audio_frame_ack header "bridge.invalid-pcm-payload"
      "streaming physical playback requires cueId/chunkIndex and forbids chunkCount")
  else if header.channel_count = 0 ∨ header.frame_count * header.channel_count * 2 ≠ header.payload_bytes ∨
      header.payload_bytes ≠ payload.length then
    .error (rejected_audio_frame_ack header "bridge.invalid-pcm-payload"
      "pcm16le payload length does not match frame metadata")
  else
    match decode_pcm16le payload with
    | .ok samples => .ok samples
    | .error message => .error (rejected_audio_frame_ack header "bridge.invalid-pcm-payload" message)

/-! ## What comes back -/

def accepted_translation_frames (ack : AudioFrameAck) : Except String Nat :=
  match ack.error_code with
  | some error_code =>
    .error (error_code ++ ": " ++ ack.message.getD "Bridge Service rejected the translation frame.")
  | none =>
    if ack.event_type ≠ "bridge.translation.ack" then
      .error "Bridge Service returned an invalid translation frame acknowledgement."
    else .ok ack.accepted_frames

def accepted_translation_frames_for_header (ack : AudioFrameAck) : Except String Nat :=
  if ack.request_id = header.request_id ∧ ack.frame_id = header.frame_id ∧ ack.session_id = header.session_id ∧
      some ack.bridge_instance_id = header.bridge_instance_id ∧
      some ack.source_generation = header.source_generation ∧
      some ack.source_generation_token = header.source_generation_token ∧
      some ack.playback_owner_generation = header.playback_owner_generation ∧
      some ack.physical_playback_device_id = header.physical_playback_device_id then
    accepted_translation_frames ack
  else .error "Bridge Service returned a translation ACK for a different authority tuple."

/-- The acknowledgement that is read back. -/
def read_ack (decode : List UInt8 → Option AudioFrameAck) (bytes : List UInt8) : Option AudioFrameAck := do
  let (ack_size, bytes) ← read_exact bytes 4
  let (ack_bytes, _) ← read_exact bytes (u32_from_le_bytes ack_size)
  decode ack_bytes

end omni_translate.audio_writer

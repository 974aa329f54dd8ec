-- The audio of native responses on its way to the playback queue: the handlers
-- of `response.audio.delta` and `response.audio.done` in `omni/event_processor.rs`
-- with the state that they share, and the record of what they ask of the queue.
-- Reports, archives and logs are left out.
import OmniTranslate.NativePlaybackQueue

namespace omni_translate.audio_output

open runs
open sentence (Instant Duration)
open playback (TranslationStreamState)
open native_playback

variable {S : Type}

def U32_MAX : Nat := 2 ^ 32 - 1

/-- `saturating_add(1)` of a `u32`. -/
def saturating_succ (n : Nat) : Nat := min (n + 1) U32_MAX

/-- `BRIDGE_STREAM_BATCH_SAMPLES`: one second of output. -/
def BRIDGE_STREAM_BATCH_SAMPLES : Nat := OMNI_OUTPUT_SAMPLE_RATE_HZ

/-! ## The route of the output -/

structure SpeechOutputRoutePlan where
  play_to_speaker : Bool
  write_to_virtual_mic : Bool
  write_to_bridge_playback : Bool

namespace SpeechOutputRoutePlan

def new (local_playback_enabled virtual_mic_output_enabled : Bool) : SpeechOutputRoutePlan where
  play_to_speaker := local_playback_enabled
  write_to_virtual_mic := virtual_mic_output_enabled
  write_to_bridge_playback := false

def for_route (route_direction : String) (local_playback_enabled virtual_mic_output_enabled : Bool) :
    SpeechOutputRoutePlan :=
  if route_direction = "inbound" then new local_playback_enabled false
  else if route_direction = "outbound" then
    new (local_playback_enabled && !virtual_mic_output_enabled) virtual_mic_output_enabled
  else new local_playback_enabled virtual_mic_output_enabled

def for_configured_route (route_direction : String)
    (local_playback_enabled virtual_mic_output_enabled bridge_playback_enabled : Bool) :
    SpeechOutputRoutePlan :=
  if bridge_playback_enabled = true ∧ route_direction = "inbound" then
    { play_to_speaker := false, write_to_virtual_mic := false, write_to_bridge_playback := true }
  else for_route route_direction local_playback_enabled virtual_mic_output_enabled

end SpeechOutputRoutePlan

structure OmniSpeechConfig where
  enabled : Bool := true
  local_playback_enabled : Bool := true
  virtual_mic_output_enabled : Bool := false
  bridge_playback_enabled : Bool := false

def OmniSpeechConfig.output_route (config : OmniSpeechConfig) (direction : String) : SpeechOutputRoutePlan :=
  .for_configured_route direction config.local_playback_enabled config.virtual_mic_output_enabled
    config.bridge_playback_enabled

/-! ## The state and what it asks of the queue -/

structure OmniAudioOutputState (S : Type) where
  pending_audio_delta_count : Nat := 0
  pending_audio_delta_base64_bytes : Nat := 0
  pending_audio_response_id : Option String := none
  pending_audio_buffer : List S := []
  pending_audio_stream_cue_id : Option String := none
  pending_audio_stream_chunk_index : Nat := 0
  pending_audio_stream_created_at_ms : Option Nat := none
  pending_audio_stream_aborted : Bool := false
deriving DecidableEq

/-- A request to the playback queue. The event that is handled belongs to the response `speaker`. -/
inductive QueueCall (S : Type)
  | enqueue (speaker : Option String) (command : OmniPlaybackCommand S) (outcome : OmniPlaybackEnqueueOutcome)
  /-- With the response whose audio is pending. -/
  | abort_stream (cue_id : String) (chunk_index : Nat) (response_id : Option String)
  /-- The evidence of the playback failed, which aborts the whole queue. -/
  | abort
deriving DecidableEq

/-- What lies outside the handlers while they handle one event: clocks, the configuration, the answers of
the queue, and whether the timeline of the desktop playback can be written. -/
structure Surroundings (S : Type) where
  direction : String := "inbound"
  config : Option OmniSpeechConfig
  received_at : Instant := 0
  received_at_ms : Nat := 0
  now : Instant := 0
  unix_ms : Nat := 0
  outcome : OmniPlaybackCommand S → OmniPlaybackEnqueueOutcome := fun _ => .Queued
  timeline_written : Bool := true

/-- The state with everything that was asked of the queue, every sample that was decoded, and the responses
whose turn was ended by an `audio.done`. -/
structure AudioOutput (S : Type) where
  state : OmniAudioOutputState S := {}
  calls : List (QueueCall S) := []
  heard : List (Option String × List S) := []
  closed : List String := []

def nonblank (cue_id : Option String) : Option String :=
  cue_id.filter fun value => !(text.trim value.toList).isEmpty

/-- `Overflow` and `Stopped` end a stream; `Terminated` does not. -/
def refused : OmniPlaybackEnqueueOutcome → Bool
  | .Overflow _ _ _ | .Stopped => true
  | _ => false

def duration_ms (sample_count : Nat) : Nat :=
  (sample_count * 1000 + (OMNI_OUTPUT_SAMPLE_RATE_HZ - 1)) / OMNI_OUTPUT_SAMPLE_RATE_HZ

inductive Delta (S : Type)
  | absent
  | undecodable
  | decoded (samples : List S) (base64_bytes : Nat)

structure AudioDelta (S : Type) where
  response_id : Option String
  delta : Delta S

namespace AudioOutput

/-! ## `response.audio.delta` -/

/-- Counts the delta and appends its samples, before anyone asks whose they are. -/
def take_samples (response_id : Option String) (samples : List S) (base64_bytes : Nat) (o : AudioOutput S) :
    AudioOutput S :=
  { o with
    heard := o.heard ++ [(response_id, samples)]
    state := { o.state with
      pending_audio_delta_count := o.state.pending_audio_delta_count + 1
      pending_audio_delta_base64_bytes := o.state.pending_audio_delta_base64_bytes + base64_bytes
      pending_audio_response_id := o.state.pending_audio_response_id.or response_id
      pending_audio_buffer :=
        if o.state.pending_audio_stream_aborted = true then o.state.pending_audio_buffer
        else o.state.pending_audio_buffer ++ samples } }

/-- The two names are there and differ. -/
def differ : Option String → Option String → Bool
  | some owner, some incoming => owner != incoming
  | _, _ => false

/-- On the desktop, a delta of another response than the one that streams aborts the stream. -/
def check_owner (route : SpeechOutputRoutePlan) (response_id : Option String) (o : AudioOutput S) :
    AudioOutput S :=
  match o.state.pending_audio_stream_cue_id with
  | none => o
  | some active =>
    if route.play_to_speaker = true ∧ differ o.state.pending_audio_response_id response_id = true then
      { o with
        calls := o.calls ++ [.abort_stream active o.state.pending_audio_stream_chunk_index
          o.state.pending_audio_response_id]
        state := { o.state with pending_audio_stream_aborted := true, pending_audio_buffer := [] } }
    else o

/-- The desktop plays the deltas as they come. -/
def plays_on_desktop (config : OmniSpeechConfig) (route : SpeechOutputRoutePlan) : Bool :=
  route.play_to_speaker && !route.write_to_virtual_mic && config.enabled

variable (env : Surroundings S)

def record_desktop_audio_delta (config : OmniSpeechConfig) (route : SpeechOutputRoutePlan)
    (cue_id : String) (samples : List S) (o : AudioOutput S) : AudioOutput S :=
  if plays_on_desktop config route = true ∧ o.state.pending_audio_stream_aborted = false ∧
      samples.isEmpty = false ∧ env.timeline_written = false then
    { o with
      calls := o.calls ++ [.abort_stream cue_id o.state.pending_audio_stream_chunk_index
        o.state.pending_audio_response_id, .abort]
      state := { o.state with pending_audio_stream_aborted := true, pending_audio_buffer := [] } }
  else o

/-- One turn of the loop: the next samples go to the queue as the start of a stream or as a chunk of it. -/
def send_batch (route : SpeechOutputRoutePlan) (speaker : Option String) (cue_id : String)
    (batch_samples : Nat) (o : AudioOutput S) : AudioOutput S :=
  let created_at_ms := o.state.pending_audio_stream_created_at_ms.getD
    (if route.play_to_speaker = true then env.received_at_ms else env.unix_ms)
  let raw := o.state.pending_audio_buffer.take batch_samples
  let command := OmniPlaybackCommand.Stream
    { samples := raw, cue_id, response_id := o.state.pending_audio_response_id
      queued_at := if route.play_to_speaker = true then env.received_at else env.now
      created_at_ms, estimated_duration_ms := duration_ms raw.length }
    o.state.pending_audio_stream_chunk_index
    (if o.state.pending_audio_stream_cue_id = none then .Start else .Chunk)
  let outcome := env.outcome command
  if refused outcome = true then
    { o with
      calls := o.calls ++ [.enqueue speaker command outcome,
        .abort_stream cue_id o.state.pending_audio_stream_chunk_index o.state.pending_audio_response_id]
      state := { o.state with
        pending_audio_buffer := o.state.pending_audio_buffer.drop batch_samples
        pending_audio_stream_cue_id := none
        pending_audio_stream_chunk_index := 0
        pending_audio_stream_created_at_ms := none
        pending_audio_stream_aborted := true } }
  else
    { o with
      calls := o.calls ++ [.enqueue speaker command outcome]
      state := { o.state with
        pending_audio_buffer := o.state.pending_audio_buffer.drop batch_samples
        pending_audio_stream_cue_id := some cue_id
        pending_audio_stream_chunk_index := saturating_succ o.state.pending_audio_stream_chunk_index
        pending_audio_stream_created_at_ms := some created_at_ms } }

/-- The loop over full batches. A turn takes at least one sample, so the length of the buffer is fuel enough. -/
def send_batches (env : Surroundings S) (route : SpeechOutputRoutePlan) (speaker : Option String)
    (cue_id : String) (batch_samples : Nat) : Nat → AudioOutput S → AudioOutput S
  | 0, o => o
  | fuel + 1, o =>
    if batch_samples ≤ o.state.pending_audio_buffer.length ∧ o.state.pending_audio_stream_aborted = false then
      send_batches env route speaker cue_id batch_samples fuel
        (o.send_batch env route speaker cue_id batch_samples)
    else o

def batch_samples (route : SpeechOutputRoutePlan) (buffered : Nat) : Nat :=
  if route.write_to_bridge_playback = true then BRIDGE_STREAM_BATCH_SAMPLES
  else max (min (OMNI_OUTPUT_SAMPLE_RATE_HZ / 10) buffered) 1

/-- A cue other than the one that streams aborts the stream. -/
def abort_overlap (active : String) (o : AudioOutput S) : AudioOutput S :=
  { o with
    calls := o.calls ++ [.abort_stream active o.state.pending_audio_stream_chunk_index
      o.state.pending_audio_response_id]
    state := { o.state with
      pending_audio_stream_cue_id := none
      pending_audio_stream_chunk_index := 0
      pending_audio_stream_created_at_ms := none
      pending_audio_stream_aborted := true
      pending_audio_buffer := [] } }

def overlaps (cue_id : String) (o : AudioOutput S) : Bool :=
  o.state.pending_audio_stream_cue_id.any fun active => active != cue_id

def stream_out (config : OmniSpeechConfig) (route : SpeechOutputRoutePlan)
    (speaker : Option String) (cue_id : String) (o : AudioOutput S) : AudioOutput S :=
  if (route.write_to_bridge_playback = true ∨ plays_on_desktop config route = true) ∧
      o.state.pending_audio_stream_aborted = false then
    if o.overlaps cue_id = true then o.abort_overlap (o.state.pending_audio_stream_cue_id.getD "")
    else
      o.send_batches env route speaker cue_id (batch_samples route o.state.pending_audio_buffer.length)
        o.state.pending_audio_buffer.length
  else o

def process_audio_delta (evt : AudioDelta S) (cue_id : Option String) (o : AudioOutput S) :
    AudioOutput S :=
  match evt.delta with
  | .absent | .undecodable => o
  | .decoded samples base64_bytes =>
    let o := o.take_samples evt.response_id samples base64_bytes
    match nonblank cue_id, env.config with
    | some cue_id, some config =>
      let route := config.output_route env.direction
      ((o.check_owner route evt.response_id).record_desktop_audio_delta env config route cue_id samples).stream_out
        env config route evt.response_id cue_id
    | _, _ => o

/-! ## `response.audio.done` -/

variable (o : AudioOutput S)

def record_desktop_audio_done : AudioOutput S :=
  if env.timeline_written = false then
    { o with
      calls := o.calls ++ (o.state.pending_audio_stream_cue_id.toList.map fun active =>
        .abort_stream active o.state.pending_audio_stream_chunk_index o.state.pending_audio_response_id) ++ [.abort]
      state := { o.state with pending_audio_stream_aborted := true, pending_audio_buffer := [] } }
  else o

/-- A part of the stream that is about to close, under the name of the stream's own cue. -/
def closing_command (stream_cue_id : String) (samples : List S)
    (stream_state : TranslationStreamState) (o : AudioOutput S) : OmniPlaybackCommand S :=
  .Stream
    { samples, cue_id := stream_cue_id, response_id := o.state.pending_audio_response_id, queued_at := env.now
      created_at_ms := o.state.pending_audio_stream_created_at_ms.getD env.unix_ms
      estimated_duration_ms := duration_ms samples.length }
    o.state.pending_audio_stream_chunk_index stream_state

/-- What is left in the buffer goes out as the last chunk. -/
def send_tail (speaker : Option String) (stream_cue_id : String) (o : AudioOutput S) :
    AudioOutput S :=
  if o.state.pending_audio_buffer.isEmpty = false ∧ o.state.pending_audio_stream_aborted = false then
    let command := o.closing_command env stream_cue_id o.state.pending_audio_buffer .Chunk
    let outcome := env.outcome command
    if refused outcome = true then
      { o with
        calls := o.calls ++ [.enqueue speaker command outcome,
          .abort_stream stream_cue_id o.state.pending_audio_stream_chunk_index o.state.pending_audio_response_id]
        state := { o.state with pending_audio_buffer := [], pending_audio_stream_aborted := true } }
    else
      { o with
        calls := o.calls ++ [.enqueue speaker command outcome]
        state := { o.state with
          pending_audio_buffer := []
          pending_audio_stream_chunk_index := saturating_succ o.state.pending_audio_stream_chunk_index } }
  else o

/-- The end of the stream. If the queue refuses it, the cue of the event is aborted. -/
def send_end (speaker cue_id : Option String) (stream_cue_id : String) (o : AudioOutput S) : AudioOutput S :=
  if o.state.pending_audio_stream_aborted = true then o
  else
    let command := o.closing_command env stream_cue_id [] .End
    let outcome := env.outcome command
    { o with
      calls := o.calls ++ .enqueue speaker command outcome ::
        if refused outcome = true then
          [.abort_stream (cue_id.getD "unknown-native-cue") o.state.pending_audio_stream_chunk_index
            o.state.pending_audio_response_id]
        else [] }

def close_stream (speaker cue_id : Option String) (o : AudioOutput S) : AudioOutput S :=
  match o.state.pending_audio_stream_cue_id with
  | none => o
  | some stream_cue_id =>
    let o := (o.send_tail env speaker stream_cue_id).send_end env speaker cue_id stream_cue_id
    { o with
      state := { o.state with
        pending_audio_buffer := []
        pending_audio_stream_cue_id := none
        pending_audio_stream_chunk_index := 0
        pending_audio_stream_created_at_ms := none } }

/-- Audio that no stream took goes out as one whole cue. -/
def play_whole (speaker : Option String) (cue_id : String) (o : AudioOutput S) : AudioOutput S :=
  let command := OmniPlaybackCommand.Play
    { samples := o.state.pending_audio_buffer, cue_id, response_id := o.state.pending_audio_response_id
      queued_at := env.now, created_at_ms := env.unix_ms
      estimated_duration_ms := duration_ms o.state.pending_audio_buffer.length }
  { o with calls := o.calls ++ [.enqueue speaker command (env.outcome command)] }

/-- The state at the early return, where the audio belongs to no cue. -/
def drop_unnamed : AudioOutput S :=
  { o with
    state := { o.state with
      pending_audio_buffer := []
      pending_audio_delta_count := 0
      pending_audio_delta_base64_bytes := 0
      pending_audio_response_id := none } }

def finish : AudioOutput S :=
  { o with
    state := { o.state with
      pending_audio_buffer := []
      pending_audio_delta_count := 0
      pending_audio_delta_base64_bytes := 0
      pending_audio_response_id := none
      pending_audio_stream_aborted := false } }

def play_rest (speaker cue_id : Option String) (o : AudioOutput S) : AudioOutput S :=
  if o.state.pending_audio_buffer.isEmpty = true then o.finish
  else
    match nonblank cue_id with
    | none => o.drop_unnamed
    | some cue_id => (o.play_whole env speaker cue_id).finish

/-- The handler does not see the response of the event, only the cue of it; `speaker` is for the record. -/
def process_audio_done (speaker cue_id : Option String) (o : AudioOutput S) : AudioOutput S :=
  let closed := o.closed ++ o.state.pending_audio_response_id.toList
  let o := ((o.record_desktop_audio_done env).close_stream env speaker cue_id).play_rest env speaker cue_id
  { o with closed }

end AudioOutput

inductive Op (S : Type)
  | delta (env : Surroundings S) (evt : AudioDelta S) (cue_id : Option String)
  | done (env : Surroundings S) (speaker cue_id : Option String)

def step (o : AudioOutput S) : Op S → AudioOutput S
  | .delta env evt cue_id => o.process_audio_delta env evt cue_id
  | .done env speaker cue_id => o.process_audio_done env speaker cue_id

end omni_translate.audio_output

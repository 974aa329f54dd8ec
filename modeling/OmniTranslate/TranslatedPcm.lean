-- The authority of the translated PCM (`audio/omni/translated_pcm_authority.rs`): which audio of a
-- cue a renderer accepted. A cue comes whole or as a stream of chunks; what is accepted goes to a
-- file of its own, to a journal and to a summary.
import OmniTranslate.Runs
import OmniTranslate.Text
import Mathlib.Data.Finset.Insert
import Mathlib.Data.List.AList

namespace omni_translate.translated_pcm_authority

open runs

variable {I : Type}

def MAX_TRANSLATED_PCM_SAMPLES : Nat := 240 * 48000

def U32_MAX : Nat := 2 ^ 32 - 1

def U64_MAX : Nat := 2 ^ 64 - 1

def checked_add (current count : Nat) : Option Nat :=
  if current + count ≤ U64_MAX then some (current + count) else none

/-! ## Cues and streams -/

inductive AcceptedTranslatedRenderer
  | bridge_physical_playback (session_id bridge_instance_id : String) (source_generation : Nat)
      (source_generation_token : String) (playback_owner_generation : Nat)
      (physical_playback_device_id : String)
  | desktop_speaker (renderer_instance_id : String) (renderer_owner_generation : Nat)
      (render_attempt_id physical_playback_device_id : String)
      (played_frames played_sample_rate_hz played_channel_count : Nat)
deriving DecidableEq

structure AcceptedTranslatedChunk where
  chunk_index : Nat
  request_id : String
  sample_offset : Nat
  sample_count : Nat
  accepted_at_ms : Nat
deriving DecidableEq

structure PendingTranslatedStream where
  cue_id : String
  response_id : String
  request_ids : List String
  sample_rate_hz : Nat
  channel_count : Nat
  samples : List Int16
  accepted_frames : Nat
  chunks : List AcceptedTranslatedChunk
  next_chunk_index : Nat
  created_at_ms : Nat
  renderer : AcceptedTranslatedRenderer
deriving DecidableEq

structure AcceptedTranslatedCue where
  sequence : Nat
  cue_id : String
  response_id : String
  request_ids : List String
  sample_rate_hz : Nat
  channel_count : Nat
  sample_count : Nat
  frame_count : Nat
  bytes : Nat
  sha256 : String
  relative_path : String
  accepted_frames : Nat
  chunk_count : Nat
  chunks : List AcceptedTranslatedChunk
  created_at_ms : Nat
  completed_at_ms : Nat
  renderer : AcceptedTranslatedRenderer
deriving DecidableEq

/-! ## The journal and the summary -/

/-- The text of an event in the journal is the name that it has here. -/
inductive Event
  | initialized
  | bridge_write_accepted
  | desktop_speaker_played
  | stream_aborted
  | finalized
deriving DecidableEq

inductive Detail
  | cue (cue : AcceptedTranslatedCue)
  | aborted (cue_id reason : String)
deriving DecidableEq

/-- A line of the journal. `identity` stands for the ids of the session and the model, which are
fixed when the authority is made. -/
structure JournalRecord (I : Type) where
  identity : I
  event : Event
  sequence : Nat
  occurred_at_ms : Nat
  detail : Option Detail
deriving DecidableEq

structure Summary (I : Type) where
  identity : I
  cue_count : Nat
  total_samples : Nat
  total_bytes : Nat
  aborted_stream_count : Nat
  active_stream_count : Nat
  accepted_cues : List AcceptedTranslatedCue
  finalized : Bool
  terminal_reason : Option String
deriving DecidableEq

/-- A summary that a failed write has left torn is `none`. -/
structure EnabledTranslatedPcmAuthority (I : Type) where
  journal : List (JournalRecord I)
  summary : Option (Summary I)
  identity : I
  sequence : Nat
  accepted_cues : List AcceptedTranslatedCue
  accepted_cue_ids : Finset String
  active_streams : AList fun _ : String => PendingTranslatedStream
  aborted_stream_count : Nat
  finalized : Bool
  terminal_reason : Option String

/-! ## What is outside -/

/-- How the file of a cue takes its samples. -/
inductive CueFile
  | written
  | create_failed (error : String)
  | write_failed (error : String)
deriving DecidableEq

inductive JournalWrite
  | written
  | cue_serialize_failed (error : String)
  | serialize_failed (error : String)
  | write_failed (error : String)
deriving DecidableEq

inductive SummaryWrite
  | written
  | reset_failed (error : String)
  | serialize_failed (error : String)
  | write_failed (error : String)
deriving DecidableEq

/-- What a call finds outside: the clock where it is read, and how the files take it. -/
structure Outside where
  accepted_at_ms : Nat
  completed_at_ms : Nat
  occurred_at_ms : Nat
  cue_file : CueFile
  journal : JournalWrite
  summary : SummaryWrite
deriving DecidableEq

/-- The owner of the Bridge's playback. -/
structure BridgeTranslationSinkOwner where
  session_id : String
  bridge_instance_id : String
  source_generation : Nat
  source_generation_token : String
  resolved_physical_playback_device_id : String
  playback_owner_generation : Nat
deriving DecidableEq

structure SpeakerPlaybackReceipt where
  rendered_frames : Nat
  output_sample_rate_hz : Nat
  output_channel_count : Nat
  physical_playback_device_id : String
  renderer_instance_id : String
  renderer_owner_generation : Nat
deriving DecidableEq

inductive TranslationStreamState
  | start
  | chunk
  | «end»
  | abort
deriving DecidableEq

/-- The audio of a call, with what its caller says of it. -/
structure TranslatedWrite where
  cue_id : String
  response_id : String
  request_id : String
  samples : List Int16
  sample_rate_hz : Nat
  channel_count : Nat
  accepted_frames : Nat
  created_at_ms : Nat
deriving DecidableEq

/-! ## Checks -/

def is_blank (value : String) : Bool := text.trim value.toList = []

def is_default_alias (value : String) : Bool :=
  String.ofList ((text.trim value.toList).map Char.toLower) ∈
    ["", "default", "speaker-default", "system-output-default"]

def validate_accepted_pcm (write : TranslatedWrite) : Except String Unit :=
  if is_blank write.cue_id ∨ is_blank write.response_id ∨ write.samples = [] then
    .error "translated PCM authority requires cueId, responseId, and non-empty PCM"
  else if write.sample_rate_hz = 0 ∨ write.channel_count ≠ 1 then
    .error "translated PCM authority requires mono PCM with a non-zero sample rate"
  else if MAX_TRANSLATED_PCM_SAMPLES < write.samples.length ∨
      write.accepted_frames ≠ write.samples.length then
    .error ("translated PCM authority accepted frame mismatch: samples=" ++
      toString write.samples.length ++ " acceptedFrames=" ++ toString write.accepted_frames)
  else .ok ()

def validate_stream_identity (pending : PendingTranslatedStream) (write : TranslatedWrite)
    (chunk_index : Nat) (renderer : AcceptedTranslatedRenderer) : Except String Unit :=
  if pending.sample_rate_hz ≠ write.sample_rate_hz ∨ pending.channel_count ≠ write.channel_count ∨
      pending.next_chunk_index ≠ chunk_index ∨ pending.response_id ≠ write.response_id ∨
      pending.renderer ≠ renderer then
    .error ("translated PCM authority stream sequence mismatch: cueId=" ++ pending.cue_id ++
      " expectedChunk=" ++ toString pending.next_chunk_index ++ " actualChunk=" ++
      toString chunk_index)
  else .ok ()

def validate_renderer : AcceptedTranslatedRenderer → Except String Unit
  | .bridge_physical_playback session_id bridge_instance_id source_generation
      source_generation_token playback_owner_generation physical_playback_device_id =>
    let expected_token :=
      bridge_instance_id ++ ":" ++ session_id ++ ":" ++ toString source_generation
    if is_blank session_id ∨ is_blank bridge_instance_id ∨ source_generation = 0 ∨
        source_generation_token ≠ expected_token ∨ playback_owner_generation = 0 ∨
        is_default_alias physical_playback_device_id then
      .error "translated PCM authority Bridge renderer identity is incomplete"
    else .ok ()
  | .desktop_speaker renderer_instance_id renderer_owner_generation render_attempt_id
      physical_playback_device_id played_frames played_sample_rate_hz played_channel_count =>
    if is_blank renderer_instance_id ∨ renderer_owner_generation = 0 ∨ is_blank render_attempt_id ∨
        is_default_alias physical_playback_device_id ∨ played_frames = 0 ∨
        played_sample_rate_hz = 0 ∨ played_channel_count = 0 then
      .error "translated PCM authority Desktop speaker receipt is incomplete"
    else .ok ()

def bridge_renderer (owner : BridgeTranslationSinkOwner) : AcceptedTranslatedRenderer :=
  .bridge_physical_playback owner.session_id owner.bridge_instance_id owner.source_generation
    owner.source_generation_token owner.playback_owner_generation
    owner.resolved_physical_playback_device_id

def speaker_renderer (receipt : SpeakerPlaybackReceipt) (render_attempt_id : String) :
    AcceptedTranslatedRenderer :=
  .desktop_speaker receipt.renderer_instance_id receipt.renderer_owner_generation render_attempt_id
    receipt.physical_playback_device_id receipt.rendered_frames receipt.output_sample_rate_hz
    receipt.output_channel_count

/-- A write that is the first of its stream, with the one chunk that it is. -/
def first_chunk (write : TranslatedWrite) (chunk_index accepted_at_ms : Nat)
    (renderer : AcceptedTranslatedRenderer) : PendingTranslatedStream where
  cue_id := write.cue_id
  response_id := write.response_id
  request_ids := [write.request_id]
  sample_rate_hz := write.sample_rate_hz
  channel_count := write.channel_count
  samples := write.samples
  accepted_frames := write.accepted_frames
  chunks := [⟨chunk_index, write.request_id, 0, write.samples.length, accepted_at_ms⟩]
  next_chunk_index := 1
  created_at_ms := write.created_at_ms
  renderer := renderer

/-! ## Bytes -/

def to_le_bytes (sample : Int16) : List UInt8 :=
  [sample.toUInt16.toUInt8, (sample.toUInt16 >>> 8).toUInt8]

/-- `{cue_sequence:04}` -/
def four_digits (cue_sequence : Nat) : String :=
  let digits := (toString cue_sequence).toList
  String.ofList (List.replicate (4 - digits.length) '0' ++ digits)

def cue_file_name (cue_sequence : Nat) (sha256 : String) : String :=
  "cue-" ++ four_digits cue_sequence ++ "-" ++ String.ofList (sha256.toList.take 16) ++ ".pcm"

namespace EnabledTranslatedPcmAuthority

variable (authority : EnabledTranslatedPcmAuthority I)

/-! ## Writing -/

def write_raw_event (event : Event) (detail : Option Detail) (outside : Outside) :
    EnabledTranslatedPcmAuthority I × Except String Unit :=
  let authority := { authority with sequence := min (authority.sequence + 1) U64_MAX }
  let record := ⟨authority.identity, event, authority.sequence, outside.occurred_at_ms, detail⟩
  match outside.journal with
  | .written => ({ authority with journal := authority.journal ++ [record] }, .ok ())
  | .write_failed error =>
    (authority, .error ("translated PCM authority journal write failed: " ++ error))
  | .serialize_failed error =>
    (authority, .error ("translated PCM authority serialize failed: " ++ error))
  | .cue_serialize_failed error =>
    (authority, .error ("translated PCM authority serialize failed: " ++ error))

/-- The cue is turned into a value before the sequence number is spent. -/
def write_event (event : Event) (cue : Option AcceptedTranslatedCue) (outside : Outside) :
    EnabledTranslatedPcmAuthority I × Except String Unit :=
  match cue, outside.journal with
  | some _, .cue_serialize_failed error =>
    (authority, .error ("translated PCM cue serialize failed: " ++ error))
  | cue, _ => authority.write_raw_event event (cue.map .cue) outside

def summarize : Summary I where
  identity := authority.identity
  cue_count := authority.accepted_cues.length
  total_samples := (authority.accepted_cues.map (·.sample_count)).sum
  total_bytes := (authority.accepted_cues.map (·.bytes)).sum
  aborted_stream_count := authority.aborted_stream_count
  active_stream_count := authority.active_streams.entries.length
  accepted_cues := authority.accepted_cues
  finalized := authority.finalized
  terminal_reason := authority.terminal_reason

def write_summary (outside : Outside) : EnabledTranslatedPcmAuthority I × Except String Unit :=
  match outside.summary with
  | .reset_failed error =>
    (authority, .error ("translated PCM authority summary reset failed: " ++ error))
  | .serialize_failed error => ({ authority with summary := none },
      .error ("translated PCM authority summary serialize failed: " ++ error))
  | .write_failed error => ({ authority with summary := none },
      .error ("translated PCM authority summary write failed: " ++ error))
  | .written => ({ authority with summary := some authority.summarize }, .ok ())

/-- An event and then, if it was written, the summary. -/
def and_summary (outside : Outside) :
    EnabledTranslatedPcmAuthority I × Except String Unit →
      EnabledTranslatedPcmAuthority I × Except String Unit
  | (authority, .ok ()) => authority.write_summary outside
  | (authority, .error error) => (authority, .error error)

/-! ## Accepting -/

section

variable (digest : List UInt8 → String)

/-- The record of a stream that is complete; its hash is that of the file. -/
def accepted_cue (stream : PendingTranslatedStream) (outside : Outside) : AcceptedTranslatedCue :=
  let bytes := stream.samples.flatMap to_le_bytes
  let cue_sequence := authority.accepted_cues.length + 1
  { sequence := cue_sequence
    cue_id := stream.cue_id
    response_id := stream.response_id
    request_ids := stream.request_ids
    sample_rate_hz := stream.sample_rate_hz
    channel_count := stream.channel_count
    sample_count := stream.samples.length
    frame_count := stream.samples.length / stream.channel_count
    bytes := bytes.length
    sha256 := digest bytes
    relative_path := "cue-pcm/" ++ cue_file_name cue_sequence (digest bytes)
    accepted_frames := stream.accepted_frames
    chunk_count := stream.next_chunk_index
    chunks := stream.chunks
    created_at_ms := stream.created_at_ms
    completed_at_ms := outside.completed_at_ms
    renderer := stream.renderer }

/-- The arguments of the source are those of a stream, whose next index is the number of its
chunks. -/
def persist_accepted_cue (stream : PendingTranslatedStream) (outside : Outside) :
    EnabledTranslatedPcmAuthority I × Except String AcceptedTranslatedCue :=
  if stream.cue_id ∈ authority.accepted_cue_ids then
    (authority, .error
      ("translated PCM authority rejected duplicate completed cueId=" ++ stream.cue_id))
  else
    match outside.cue_file with
    | .create_failed error =>
      (authority, .error ("translated PCM authority file must be new: " ++ error))
    | .write_failed error =>
      (authority, .error ("translated PCM authority cue write failed: " ++ error))
    | .written =>
      let record := authority.accepted_cue digest stream outside
      ({ authority with
          accepted_cue_ids := insert stream.cue_id authority.accepted_cue_ids
          accepted_cues := authority.accepted_cues ++ [record] }, .ok record)

/-- The end of every accepting call: the file of the cue, its event and the summary. -/
def persist_and_report (event : Event) (stream : PendingTranslatedStream) (outside : Outside) :
    EnabledTranslatedPcmAuthority I × Except String Unit :=
  match authority.persist_accepted_cue digest stream outside with
  | (authority, .error error) => (authority, .error error)
  | (authority, .ok record) =>
    and_summary outside (authority.write_event event (some record) outside)

def accept_complete_cue_for_renderer (accepted_event : Event) (write : TranslatedWrite)
    (renderer : AcceptedTranslatedRenderer) (outside : Outside) :
    EnabledTranslatedPcmAuthority I × Except String Unit :=
  match validate_accepted_pcm write, validate_renderer renderer with
  | .error error, _ => (authority, .error error)
  | .ok (), .error error => (authority, .error error)
  | .ok (), .ok () =>
    if write.cue_id ∈ authority.active_streams ∨ write.cue_id ∈ authority.accepted_cue_ids then
      (authority, .error ("translated PCM authority rejected duplicate cueId=" ++ write.cue_id))
    else
      authority.persist_and_report digest accepted_event
        (first_chunk write 0 outside.accepted_at_ms renderer) outside

variable (write : TranslatedWrite)

def accept_complete_bridge_cue (owner : BridgeTranslationSinkOwner) (outside : Outside) : EnabledTranslatedPcmAuthority I × Except String Unit :=
  authority.accept_complete_cue_for_renderer digest .bridge_write_accepted write
    (bridge_renderer owner) outside

def accept_complete_speaker_cue (receipt : SpeakerPlaybackReceipt) (render_attempt_id : String)
    (outside : Outside) : EnabledTranslatedPcmAuthority I × Except String Unit :=
  authority.accept_complete_cue_for_renderer digest .desktop_speaker_played write
    (speaker_renderer receipt render_attempt_id) outside

/-! ## Streams -/

/-- The stream is in the map from now on, in the place of what was there. -/
def put_stream (cue_id : String) (stream : PendingTranslatedStream) :
    EnabledTranslatedPcmAuthority I :=
  { authority with active_streams := authority.active_streams.insert cue_id stream }

/-- The arm `Start` of `accept_stream_write`. -/
def accept_start (chunk_index : Nat) (renderer : AcceptedTranslatedRenderer) (outside : Outside) :
    EnabledTranslatedPcmAuthority I × Except String Unit :=
  if chunk_index ≠ 0 ∨ write.cue_id ∈ authority.active_streams ∨
      write.cue_id ∈ authority.accepted_cue_ids then
    (authority, .error ("translated PCM authority rejected invalid stream start cueId=" ++
      write.cue_id ++ " chunkIndex=" ++ toString chunk_index))
  else
    match validate_accepted_pcm write with
    | .error error => (authority, .error error)
    | .ok () =>
      (authority.put_stream write.cue_id
        (first_chunk write chunk_index outside.accepted_at_ms renderer)).write_summary outside

/-- The arm `Chunk` of `accept_stream_write`. The samples are in the stream before the frames are
counted, and stay there if that fails. -/
def accept_chunk (chunk_index : Nat) (renderer : AcceptedTranslatedRenderer) (outside : Outside) :
    EnabledTranslatedPcmAuthority I × Except String Unit :=
  match validate_accepted_pcm write, authority.active_streams.lookup write.cue_id with
  | .error error, _ => (authority, .error error)
  | .ok (), none => (authority, .error
      ("translated PCM authority stream chunk has no start cueId=" ++ write.cue_id))
  | .ok (), some pending =>
    match validate_stream_identity pending write chunk_index renderer with
    | .error error => (authority, .error error)
    | .ok () =>
      let next_len := min (pending.samples.length + write.samples.length) U64_MAX
      if MAX_TRANSLATED_PCM_SAMPLES < next_len then
        (authority, .error ("translated PCM authority stream exceeds " ++
          toString MAX_TRANSLATED_PCM_SAMPLES ++ " samples"))
      else
        let extended := { pending with
          samples := pending.samples ++ write.samples
          chunks := pending.chunks ++ [⟨chunk_index, write.request_id,
            next_len - write.samples.length, write.samples.length, outside.accepted_at_ms⟩]
          request_ids := pending.request_ids ++ [write.request_id] }
        match checked_add pending.accepted_frames write.accepted_frames with
        | none => (authority.put_stream write.cue_id extended,
            .error "translated PCM accepted frame count overflow")
        | some accepted_frames =>
          (authority.put_stream write.cue_id { extended with
            accepted_frames
            next_chunk_index := min (pending.next_chunk_index + 1) U32_MAX }).write_summary outside

/-- The arm `End` of `accept_stream_write`. The stream is gone also if its cue cannot be kept. -/
def accept_end (chunk_index : Nat) (renderer : AcceptedTranslatedRenderer) (outside : Outside) :
    EnabledTranslatedPcmAuthority I × Except String Unit :=
  if write.samples ≠ [] ∨ write.accepted_frames ≠ 0 then
    (authority, .error "translated PCM authority stream end must contain no PCM")
  else
    match authority.active_streams.lookup write.cue_id with
    | none => (authority, .error
        ("translated PCM authority stream end has no start cueId=" ++ write.cue_id))
    | some pending =>
      match validate_stream_identity pending write chunk_index renderer with
      | .error error => (authority, .error error)
      | .ok () =>
        { authority with
          active_streams := authority.active_streams.erase write.cue_id }.persist_and_report digest
          .bridge_write_accepted
          { pending with request_ids := pending.request_ids ++ [write.request_id] } outside

def abort_stream (cue_id reason : String) (outside : Outside) :
    EnabledTranslatedPcmAuthority I × Except String Unit :=
  if cue_id ∈ authority.active_streams then
    let authority := { authority with
      active_streams := authority.active_streams.erase cue_id
      aborted_stream_count := min (authority.aborted_stream_count + 1) U64_MAX }
    and_summary outside
      (authority.write_raw_event .stream_aborted (some (.aborted cue_id reason)) outside)
  else (authority, .ok ())

def accept_stream_write (chunk_index : Nat) (stream_state : TranslationStreamState)
    (owner : BridgeTranslationSinkOwner) (outside : Outside) : EnabledTranslatedPcmAuthority I × Except String Unit :=
  let renderer := bridge_renderer owner
  match validate_renderer renderer, stream_state with
  | .error error, _ => (authority, .error error)
  | .ok (), .start => authority.accept_start write chunk_index renderer outside
  | .ok (), .chunk => authority.accept_chunk write chunk_index renderer outside
  | .ok (), .end => authority.accept_end digest write chunk_index renderer outside
  | .ok (), .abort => authority.abort_stream write.cue_id "bridge-stream-abort" outside

end

/-- A stream that is not complete when the route stops is counted as aborted. -/
def finalize (reason : String) (outside : Outside) :
    EnabledTranslatedPcmAuthority I × Except String Unit :=
  if authority.finalized then (authority, .ok ())
  else
    let unfinished := authority.active_streams.entries.length
    let authority := { authority with
      active_streams := ∅
      aborted_stream_count := min (authority.aborted_stream_count + unfinished) U64_MAX
      finalized := true
      terminal_reason := some reason }
    and_summary outside (authority.write_raw_event .finalized none outside)

end EnabledTranslatedPcmAuthority

/-- The last part of `from_environment`. -/
def make (identity : I) (outside : Outside) :
    EnabledTranslatedPcmAuthority I × Except String Unit :=
  let authority : EnabledTranslatedPcmAuthority I := {
    journal := []
    summary := none
    identity
    sequence := 0
    accepted_cues := []
    accepted_cue_ids := ∅
    active_streams := ∅
    aborted_stream_count := 0
    finalized := false
    terminal_reason := none }
  EnabledTranslatedPcmAuthority.and_summary outside (authority.write_event .initialized none outside)

/-! ## Runs -/

inductive AuthorityOp
  | accept_complete_bridge_cue (write : TranslatedWrite) (owner : BridgeTranslationSinkOwner)
      (outside : Outside)
  | accept_complete_speaker_cue (write : TranslatedWrite) (receipt : SpeakerPlaybackReceipt)
      (render_attempt_id : String) (outside : Outside)
  | accept_stream_write (write : TranslatedWrite) (chunk_index : Nat)
      (stream_state : TranslationStreamState) (owner : BridgeTranslationSinkOwner)
      (outside : Outside)
  | abort_stream (cue_id reason : String) (outside : Outside)
  | finalize (reason : String) (outside : Outside)

def step (digest : List UInt8 → String) (authority : EnabledTranslatedPcmAuthority I) :
    AuthorityOp → EnabledTranslatedPcmAuthority I
  | .accept_complete_bridge_cue write owner outside =>
    (authority.accept_complete_bridge_cue digest write owner outside).1
  | .accept_complete_speaker_cue write receipt render_attempt_id outside =>
    (authority.accept_complete_speaker_cue digest write receipt render_attempt_id outside).1
  | .accept_stream_write write chunk_index stream_state owner outside =>
    (authority.accept_stream_write digest write chunk_index stream_state owner outside).1
  | .abort_stream cue_id reason outside => (authority.abort_stream cue_id reason outside).1
  | .finalize reason outside => (authority.finalize reason outside).1

end omni_translate.translated_pcm_authority

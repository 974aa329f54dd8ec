-- A frame that the desktop writes is the frame that the Bridge reads, and its
-- acknowledgement is taken, as long as its samples fit into the four megabytes
-- that the Bridge reads. Nothing on the desktop's side keeps a cue below that.
import OmniTranslate.TranslationFrames

namespace omni_translate.audio_writer

open calls stretches
open playback (TranslationStreamState)
open translated_pcm_authority (BridgeTranslationSinkOwner to_le_bytes is_blank)

/-! ## Chunks -/

section

variable {α : Type} {size : Nat} {l : List α}

theorem take_blocks (size : Nat) (l : List α) (n : Nat) :
    ((List.range n).map (block size l)).flatten = l.take (n * size) := by
  induction n with
  | zero => simp
  | succ n ih =>
    rw [List.range_succ, List.map_append, List.flatten_append, ih, Nat.succ_mul, List.take_add]
    simp [block]

theorem chunks_flatten (hsize : 0 < size) (l : List α) : (chunks size l).flatten = l := by
  unfold chunks
  rw [take_blocks]
  refine List.take_of_length_le ?_
  have hdiv := Nat.div_add_mod (l.length + size - 1) size
  have hmod := Nat.mod_lt (l.length + size - 1) hsize
  rw [Nat.mul_comm] at hdiv
  omega

theorem length_block (size : Nat) (l : List α) (k : Nat) : (block size l k).length = min size (l.length - k * size) := by
  unfold block
  rw [List.length_take, List.length_drop]

/-- A chunk is no longer than the first one. -/
theorem length_chunk_le {chunk : List α} (h : chunk ∈ chunks size l) : chunk.length ≤ min size l.length := by
  obtain ⟨_, -, rfl⟩ := List.mem_map.mp h
  rw [length_block]
  omega

theorem first_chunk_mem (hsize : 0 < size) (hl : l ≠ []) : block size l 0 ∈ chunks size l := by
  refine List.mem_map_of_mem (List.mem_range.mpr (Nat.div_pos ?_ hsize))
  have := List.length_pos_iff.mpr hl
  omega

/-- Whole frames are cut into chunks of whole frames. -/
theorem length_chunk_mod {channels n : Nat} (hl : l.length % channels = 0) {chunk : List α}
    (h : chunk ∈ chunks (n * channels) l) : chunk.length % channels = 0 := by
  obtain ⟨k, -, rfl⟩ := List.mem_map.mp h
  rw [length_block]
  obtain ⟨m, hm⟩ := Nat.dvd_of_mod_eq_zero hl
  have hrest : l.length - k * (n * channels) = channels * (m - k * n) := by
    rw [hm, Nat.mul_sub, ← Nat.mul_assoc, Nat.mul_comm (k * n)]
  rcases Nat.le_total (n * channels) (l.length - k * (n * channels)) with hle | hle
  · rw [Nat.min_eq_left hle, Nat.mul_mod_left]
  · rw [Nat.min_eq_right hle, hrest, Nat.mul_mod_right]

end

/-! ## Bytes -/

theorem u32_round_trip {n : Nat} (h : n < 2 ^ 32) : u32_from_le_bytes (u32_to_le_bytes n) = n := by
  simp only [u32_to_le_bytes, u32_from_le_bytes, List.foldr_cons, List.foldr_nil, UInt8.toNat_ofNat']
  omega

theorem le_bytes_round_trip (sample : Int16) :
    from_le_bytes sample.toUInt16.toUInt8 (sample.toUInt16 >>> 8).toUInt8 = sample := by
  have hbytes : UInt16.ofNat (sample.toUInt16.toUInt8.toNat + 256 * (sample.toUInt16 >>> 8).toUInt8.toNat) =
      sample.toUInt16 := by
    apply UInt16.toNat_inj.mp
    have := sample.toUInt16.toNat_lt
    simp
    omega
  unfold from_le_bytes
  rw [hbytes]
  simp

theorem pairs_of_samples (samples : List Int16) : pairs (samples.flatMap to_le_bytes) = samples := by
  induction samples with
  | nil => rfl
  | cons _ samples ih =>
    change from_le_bytes _ _ :: pairs (samples.flatMap to_le_bytes) = _
    rw [ih, le_bytes_round_trip]

theorem length_payload (samples : List Int16) : (samples.flatMap to_le_bytes).length = 2 * samples.length := by
  induction samples with
  | nil => rfl
  | cons _ samples ih =>
    rw [List.flatMap_cons, List.length_append, ih, List.length_cons]
    change 2 + 2 * samples.length = _
    omega

theorem decode_of_samples (samples : List Int16) : decode_pcm16le (samples.flatMap to_le_bytes) = .ok samples := by
  unfold decode_pcm16le
  rw [length_payload, require_pos (Nat.mul_mod_right 2 _), ok_bind, pairs_of_samples]
  rfl

theorem read_exact_append (bytes rest : List UInt8) : read_exact (bytes ++ rest) bytes.length = some (bytes, rest) := by
  unfold read_exact
  rw [if_pos (by simp), List.take_left, List.drop_left]

theorem read_length {bytes : List UInt8} (rest : List UInt8) :
    read_exact (u32_to_le_bytes bytes.length ++ rest) 4 = some (u32_to_le_bytes bytes.length, rest) :=
  read_exact_append (u32_to_le_bytes bytes.length) rest

/-! ## A frame and its acknowledgement -/

/-- The JSON of a value is read back as the value, it is some text, and a length of 32 bits tells how long it is. -/
structure Encodes {α : Type} (encode : α → List UInt8) (decode : List UInt8 → Option α) (a : α) : Prop where
  decodes : decode (encode a) = some a
  filled : encode a ≠ []
  counted : (encode a).length < 2 ^ 32

section

variable {encode : AudioFrameHeader → List UInt8} {decode : List UInt8 → Option AudioFrameHeader}
  {header : AudioFrameHeader}

/-- The Bridge reads a frame unless its payload is too long. -/
theorem read_frame_bytes (hencodes : Encodes encode decode header)
    (hsize : (encode header).length ≤ MAX_AUDIO_FRAME_HEADER_BYTES) {samples : List Int16}
    (hpayload : header.payload_bytes = (samples.flatMap to_le_bytes).length) :
    read_frame decode (frame_bytes encode header samples) =
      if 2 * samples.length ≤ MAX_AUDIO_FRAME_PAYLOAD_BYTES then some (header, samples.flatMap to_le_bytes) else none := by
  have hlen : ¬ ((encode header).length = 0 ∨ MAX_AUDIO_FRAME_HEADER_BYTES < (encode header).length) := by
    have := List.length_pos_iff.mpr hencodes.filled
    omega
  unfold read_frame frame_bytes framed
  rw [List.append_assoc, read_length, Option.bind_eq_bind, Option.bind_some]
  dsimp only
  rw [u32_round_trip hencodes.counted, if_neg hlen, read_exact_append, Option.bind_some]
  rw [hencodes.decodes]
  dsimp only [Option.bind_some, bind, Option.bind]
  rw [hpayload, length_payload]
  split
  · next hlong => rw [if_neg (Nat.not_le_of_lt hlong)]
  · next hshort =>
    have hread := read_exact_append (samples.flatMap to_le_bytes) []
    rw [List.append_nil, length_payload] at hread
    rw [if_pos (Nat.le_of_not_lt hshort), hread]
    rfl

theorem read_framed_ack {encode : AudioFrameAck → List UInt8} {decode : List UInt8 → Option AudioFrameAck}
    {ack : AudioFrameAck} (hencodes : Encodes encode decode ack) : read_ack decode (framed (encode ack)) = some ack := by
  unfold read_ack framed
  have hread := read_exact_append (encode ack) []
  rw [List.append_nil] at hread
  rw [read_length, Option.bind_eq_bind, Option.bind_some]
  dsimp only
  rw [u32_round_trip hencodes.counted, hread, Option.bind_some]
  exact hencodes.decodes

end

/-- The Bridge has the authority of the owner, which names a session. -/
structure SameAuthority (current : BridgeState) (owner : BridgeTranslationSinkOwner) : Prop where
  session_id : current.session_id = some owner.session_id
  named : is_blank owner.session_id = false
  bridge_instance_id : current.bridge_instance_id = owner.bridge_instance_id
  source_generation : current.source_generation = owner.source_generation
  playback_owner_generation : current.playback_owner_generation = owner.playback_owner_generation
  device : current.resolved_physical_playback_device_id = owner.resolved_physical_playback_device_id

theorem from_snapshot_owner {snapshot : BridgeRuntimeSnapshot} {owner : BridgeTranslationSinkOwner}
    (h : from_snapshot snapshot = some owner) :
    owner.source_generation_token =
        source_generation_token owner.bridge_instance_id owner.session_id owner.source_generation ∧
      is_blank owner.resolved_physical_playback_device_id = false ∧ snapshot.session_id = some owner.session_id := by
  unfold from_snapshot at h
  dsimp only at h
  split at h
  · cases h
  · next hready =>
    split at h
    · next session_id bridge_instance_id token hsession hinstance htoken =>
      split at h
      · cases h
      · next hsame =>
        rw [← Option.some.inj h]
        refine ⟨not_ne_iff.mp hsame, ?_, hsession⟩
        unfold is_blank
        rw [String.toList_ofList, text.trim_trim]
        refine decide_eq_false fun hnil => hready (.inr (.inl ?_))
        rw [hnil]
        decide
    · cases h

section

variable {write : FrameWrite} {direction : AudioRouteDirection} {owner : BridgeTranslationSinkOwner}
  {current : BridgeState} {stamp : FrameStamp} {bridge_process_id : Option Nat}

theorem has_current_authority (h : SameAuthority current owner)
    (htoken : owner.source_generation_token =
      source_generation_token owner.bridge_instance_id owner.session_id owner.source_generation)
    (hdevice : is_blank owner.resolved_physical_playback_device_id = false) :
    translation_frame_has_current_authority current
      (translation_frame_header write direction owner.session_id bridge_process_id owner stamp) = true := by
  obtain ⟨hsession, hnamed, hinstance, hsource, howner, hsame⟩ := h
  unfold translation_frame_has_current_authority translation_frame_header
  simp [hsession, hnamed, hinstance, hsource, howner, hsame, htoken, hdevice]

/-- A frame whose place or whose state is as its sink has it, of whole frames. -/
structure WellPlaced (write : FrameWrite) : Prop where
  event_type : write.event_type = "bridge.translation.frame"
  cue : is_blank write.cue_id = false
  channels : write.channel_count ≠ 0
  whole : write.samples.length % write.channel_count = 0
  place : write.translation_sink = .VirtualMic → ∃ index count, write.chunk_index = some index ∧
    write.chunk_count = some count ∧ index < count
  stream : write.translation_sink = .PhysicalPlayback → write.stream_state.isSome = true →
    write.chunk_index ≠ none ∧ write.chunk_count = none

theorem validate_written (h : WellPlaced write) :
    validate_translation_frame (some owner.session_id)
      (translation_frame_header write direction owner.session_id bridge_process_id owner stamp)
      (write.samples.flatMap to_le_bytes) = .ok write.samples := by
  have hcue : lacks_cue (translation_frame_header write direction owner.session_id bridge_process_id owner stamp) = false := by
    refine decide_eq_false fun hempty => ?_
    have hblank := h.cue
    rw [show write.cue_id = "" from hempty] at hblank
    exact absurd hblank (by decide)
  have hbytes : write.samples.length / write.channel_count * write.channel_count * 2 =
      (write.samples.flatMap to_le_bytes).length := by
    rw [Nat.div_mul_cancel (Nat.dvd_of_mod_eq_zero h.whole), length_payload, Nat.mul_comm]
  unfold validate_translation_frame
  rw [if_neg, if_neg, if_neg, if_neg, if_neg, decode_of_samples]
  · rintro (hnone | hwrong | hwrong)
    · exact h.channels hnone
    · exact hwrong hbytes
    · exact hwrong rfl
  · rintro ⟨hsink, hstate, hnone | hnone | hsome⟩
    · rw [hcue] at hnone
      cases hnone
    · exact (h.stream (Option.some.inj hsink) hstate).1 hnone
    · change write.chunk_count.isSome = true at hsome
      rw [(h.stream (Option.some.inj hsink) hstate).2] at hsome
      cases hsome
  · rintro ⟨hsink, hnone | hlacks⟩
    · rw [hcue] at hnone
      cases hnone
    · obtain ⟨_, count, hindex, hcount, hlt⟩ := h.place (Option.some.inj hsink)
      have hpos : 0 < count := Nat.zero_lt_of_lt hlt
      simp [has_place, translation_frame_header, hindex, hcount, hpos, hlt] at hlacks
  · exact fun hother => hother h.event_type
  · exact fun hother => hother rfl

theorem accepted_by_header (playback_frames_written : Nat) :
    accepted_translation_frames_for_header
      (translation_frame_header write direction owner.session_id bridge_process_id owner stamp)
      (accepted_audio_frame_ack
        (translation_frame_header write direction owner.session_id bridge_process_id owner stamp)
        playback_frames_written) = .ok (write.samples.length / write.channel_count) := by
  exact if_pos ⟨rfl, rfl, rfl, rfl, rfl, rfl, rfl, rfl⟩

end

/-! ## The frames of a cue -/

/-- The calls that write translated audio. -/
inductive WriteCall
  | virtual_mic
  | playback_cue
  | playback_stream (chunk_index : Nat) (stream_state : TranslationStreamState)
deriving DecidableEq

def WriteCall.frames (cue : CueAudio) : WriteCall → Except String (List FrameWrite)
  | .virtual_mic => virtual_mic_frames cue
  | .playback_cue => process_playback_cue_frames cue
  | .playback_stream chunk_index stream_state => process_playback_stream_frames cue chunk_index stream_state

/-- The samples of the longest frame. -/
def WriteCall.longest (cue : CueAudio) : WriteCall → Nat
  | .virtual_mic => min (samples_per_chunk cue.sample_rate_hz cue.channel_count) cue.samples.length
  | .playback_cue | .playback_stream _ _ => cue.samples.length

/-- No frame is longer than four megabytes, and 32 bits count the chunks. -/
structure WriteCall.Fits (call : WriteCall) (cue : CueAudio) : Prop where
  payload : 2 * call.longest cue ≤ MAX_AUDIO_FRAME_PAYLOAD_BYTES
  counted : call = .virtual_mic →
    (chunks (samples_per_chunk cue.sample_rate_hz cue.channel_count) cue.samples).length < 2 ^ 32

theorem validated {samples : List Int16} {sample_rate_hz channel_count : Nat} {u : Unit}
    (h : validate_translation_audio_format samples sample_rate_hz channel_count = .ok u) :
    channel_count ≠ 0 ∧ samples.length % channel_count = 0 := by
  obtain ⟨_, hformat, hwhole⟩ := bind_ok h
  exact ⟨(require_ok hformat).2, require_ok hwhole⟩

/-- The frames of a call are the cue's samples, in parts that are whole frames. -/
structure Cut (cue : CueAudio) (call : WriteCall) (frames : List FrameWrite) : Prop where
  whole : frames.flatMap (·.samples) = cue.samples
  mine : ∀ f ∈ frames, f.event_type = "bridge.translation.frame" ∧ f.cue_id = cue.cue_id ∧
    f.route_direction = cue.route_direction ∧ f.channel_count ≠ 0 ∧ f.samples.length % f.channel_count = 0
  long : (∀ f ∈ frames, 2 * f.samples.length ≤ MAX_AUDIO_FRAME_PAYLOAD_BYTES) ↔
    2 * call.longest cue ≤ MAX_AUDIO_FRAME_PAYLOAD_BYTES
  mic : call = .virtual_mic →
    frames.length = (chunks (samples_per_chunk cue.sample_rate_hz cue.channel_count) cue.samples).length ∧
    ∀ (k : Nat) f, frames[k]? = some f → f.translation_sink = .VirtualMic ∧ f.chunk_index = some (k % U32) ∧
      f.chunk_count = some (frames.length % U32)
  speaker : call ≠ .virtual_mic → ∀ f ∈ frames, f.translation_sink = .PhysicalPlayback ∧
    (f.stream_state.isSome = true → f.chunk_index ≠ none ∧ f.chunk_count = none)

variable {frames : List FrameWrite} {cue : CueAudio}

theorem cut_virtual_mic (h : virtual_mic_frames cue = .ok frames) : Cut cue .virtual_mic frames := by
  obtain ⟨pieces, hpieces, h⟩ := bind_ok h
  obtain ⟨_, hformat, hpieces⟩ := bind_ok hpieces
  obtain ⟨hchannels, hwhole⟩ := validated hformat
  have hsize : 0 < samples_per_chunk cue.sample_rate_hz cue.channel_count :=
    Nat.mul_pos (Nat.lt_of_lt_of_le Nat.one_pos (Nat.le_max_right _ _)) (Nat.pos_of_ne_zero hchannels)
  obtain rfl : chunks (samples_per_chunk cue.sample_rate_hz cue.channel_count) cue.samples = pieces :=
    Except.ok.inj hpieces
  rw [← Except.ok.inj h]
  refine ⟨?_, fun f hf => ?_, ?_, fun _ => ⟨by simp, fun k f hf => ?_⟩, fun hother => absurd rfl hother⟩
  · rw [List.flatMap_map, List.flatMap_def, ← chunks_flatten hsize cue.samples]
    congr 1
    exact (List.zipIdx_map_fst 0 _).trans (by rw [chunks_flatten hsize])
  · obtain ⟨chunk, hchunk, rfl⟩ := List.mem_map.mp hf
    have hin := List.fst_mem_of_mem_zipIdx hchunk
    exact ⟨rfl, rfl, rfl, hchannels, length_chunk_mod hwhole hin⟩
  · refine ⟨fun hall => ?_, fun hfits f hf => ?_⟩
    · by_cases hnone : cue.samples = []
      · simp [WriteCall.longest, hnone]
      · have hfirst := first_chunk_mem hsize hnone
        obtain ⟨k, hk⟩ := List.getElem?_of_mem hfirst
        have hzip : (block (samples_per_chunk cue.sample_rate_hz cue.channel_count) cue.samples 0, k) ∈
            (chunks (samples_per_chunk cue.sample_rate_hz cue.channel_count) cue.samples).zipIdx :=
          List.mem_zipIdx_iff_getElem?.mpr hk
        have hlong := hall _ (List.mem_map_of_mem hzip)
        dsimp only [frame_write] at hlong
        rw [length_block, Nat.zero_mul, Nat.sub_zero] at hlong
        exact hlong
    · obtain ⟨chunk, hchunk, rfl⟩ := List.mem_map.mp hf
      have hle := length_chunk_le (List.fst_mem_of_mem_zipIdx hchunk)
      exact (Nat.mul_le_mul_left 2 hle).trans hfits
  · rw [List.getElem?_map, List.getElem?_zipIdx, Option.map_map, Option.map_eq_some_iff] at hf
    obtain ⟨chunk, -, rfl⟩ := hf
    exact ⟨rfl, by simp [frame_write], by simp [frame_write]⟩

theorem cut_playback_cue (h : process_playback_cue_frames cue = .ok frames) : Cut cue .playback_cue frames := by
  obtain ⟨_, hpieces, h⟩ := bind_ok h
  obtain ⟨_, hformat, hpieces⟩ := bind_ok hpieces
  obtain ⟨hchannels, hwhole⟩ := validated hformat
  rw [← Except.ok.inj h, ← Except.ok.inj hpieces]
  cases hsamples : cue.samples with
  | nil => exact ⟨by simp [hsamples], by simp, by simp [WriteCall.longest, hsamples], nofun, by simp⟩
  | cons _ _ =>
    rw [hsamples] at hwhole
    refine ⟨by simp [frame_write, hsamples], ?_, ?_, nofun, ?_⟩
    · simpa [frame_write] using ⟨hchannels, hwhole⟩
    · simp [frame_write, WriteCall.longest, hsamples]
    · simp [frame_write]

theorem cut_playback_stream {chunk_index : Nat} {stream_state : TranslationStreamState}
    (h : process_playback_stream_frames cue chunk_index stream_state = .ok frames) :
    Cut cue (.playback_stream chunk_index stream_state) frames := by
  obtain ⟨_, hformat, h⟩ := bind_ok h
  obtain ⟨hchannels, hwhole⟩ := validated hformat
  rw [← Except.ok.inj h]
  refine ⟨by simp [frame_write], ?_, ?_, nofun, ?_⟩
  · simpa [frame_write] using ⟨hchannels, hwhole⟩
  · simp [frame_write, WriteCall.longest]
  · simp [frame_write]

theorem cut_of_frames {call : WriteCall} (h : call.frames cue = .ok frames) : Cut cue call frames := by
  cases call with
  | virtual_mic => exact cut_virtual_mic h
  | playback_cue => exact cut_playback_cue h
  | playback_stream _ _ => exact cut_playback_stream h

/-! ## Every frame of a cue -/

/-- An encoder and a decoder. -/
structure Json (α : Type) where
  encode : α → List UInt8
  decode : List UInt8 → Option α

/-- The Bridge reads the frame's header and payload, finds its own authority and the frame's samples in them, and
the desktop takes the acknowledgement for all frames of it. -/
structure Carried (headers : Json AudioFrameHeader) (acks : Json AudioFrameAck) (current : BridgeState)
    (playback_frames_written : Nat) (header : AudioFrameHeader) (samples : List Int16) : Prop where
  read : read_frame headers.decode (frame_bytes headers.encode header samples) =
    some (header, samples.flatMap to_le_bytes)
  current_authority : translation_frame_has_current_authority current header = true
  validated : validate_translation_frame current.session_id header (samples.flatMap to_le_bytes) = .ok samples
  acknowledged : (read_ack acks.decode (framed (acks.encode
    (accepted_audio_frame_ack header playback_frames_written)))).map (accepted_translation_frames_for_header header) =
      some (.ok header.frame_count)

/-- All frames are carried, they are the cue, and those for the virtual microphone are counted. -/
structure Delivered (headers : Json AudioFrameHeader) (acks : Json AudioFrameAck) (current : BridgeState)
    (playback_frames_written : Nat) (prepared : FrameWrite → PreparedFrame) (cue : CueAudio) (call : WriteCall)
    (frames : List FrameWrite) : Prop where
  carried : ∀ f ∈ frames, Carried headers acks current playback_frames_written (prepared f).header f.samples
  whole : frames.flatMap (·.samples) = cue.samples
  numbered : call = .virtual_mic → ∀ (k : Nat) f, frames[k]? = some f →
    (prepared f).header.chunk_index = some k ∧ (prepared f).header.chunk_count = some frames.length

theorem prepare_frame_ok {snapshot : BridgeRuntimeSnapshot} {expected_owner : Option BridgeTranslationSinkOwner}
    {stamp : FrameStamp} {write : FrameWrite} {prepared : PreparedFrame}
    (h : prepare_frame snapshot expected_owner stamp write = .ok prepared) :
    from_snapshot snapshot = some prepared.frame_owner ∧
      prepared.physical_owner = physical_owner write expected_owner prepared.frame_owner ∧
      (∀ owner ∈ prepared.physical_owner, owner = prepared.frame_owner) ∧
      ∃ route_direction, parse_route_direction write.route_direction = .ok route_direction ∧
        prepared.header = translation_frame_header write route_direction prepared.frame_owner.session_id
          snapshot.bridge_process_id prepared.frame_owner stamp := by
  obtain ⟨route_direction, hdirection, h⟩ := bind_ok h
  obtain ⟨frame_owner, howner, h⟩ := bind_ok h
  obtain ⟨_, hsame, h⟩ := bind_ok h
  obtain ⟨_, -, h⟩ := bind_ok h
  obtain ⟨session_id, hsession, h⟩ := bind_ok h
  have hfrom := expect_ok howner
  have hunchanged := require_ok hsame
  have hnamed := (from_snapshot_owner hfrom).2.2
  rw [expect_ok hsession, Option.some.injEq] at hnamed
  rw [← Except.ok.inj h]
  refine ⟨hfrom, rfl, fun owner hin => ?_, route_direction, hdirection, by rw [hnamed]⟩
  rw [show physical_owner write expected_owner frame_owner = some owner from hin] at hunchanged
  have hsame : from_snapshot snapshot = some owner := by simpa [translation_sink_owner_changed] using hunchanged
  exact Option.some.inj (hsame.symm.trans hfrom)

section

variable {cue : CueAudio} {call : WriteCall} {frames : List FrameWrite} {snapshot : BridgeRuntimeSnapshot}
  {owner : BridgeTranslationSinkOwner} {expected_owner : Option BridgeTranslationSinkOwner} {current : BridgeState}
  {headers : Json AudioFrameHeader} {acks : Json AudioFrameAck} {stamp : FrameWrite → FrameStamp}
  {prepared : FrameWrite → PreparedFrame} {playback_frames_written : Nat}

/-- A frame is not carried when its payload is too long. -/
theorem not_carried {header : AudioFrameHeader} (hheader : Encodes headers.encode headers.decode header)
    (hsize : (headers.encode header).length ≤ MAX_AUDIO_FRAME_HEADER_BYTES) {samples : List Int16}
    (hpayload : header.payload_bytes = (samples.flatMap to_le_bytes).length)
    (hlong : MAX_AUDIO_FRAME_PAYLOAD_BYTES < 2 * samples.length) :
    ¬ Carried headers acks current playback_frames_written header samples := by
  intro hcarried
  have hread := read_frame_bytes hheader hsize hpayload
  rw [hcarried.read, if_neg (Nat.not_le_of_lt hlong)] at hread
  cases hread

/-- A frame is carried when its payload is not too long. -/
theorem carried_of_fits {f : FrameWrite} (hplaced : WellPlaced f) (howner : from_snapshot snapshot = some owner)
    (hsame : SameAuthority current owner)
    (hprepared : prepare_frame snapshot expected_owner (stamp f) f = .ok (prepared f))
    (hheader : Encodes headers.encode headers.decode (prepared f).header)
    (hsize : (headers.encode (prepared f).header).length ≤ MAX_AUDIO_FRAME_HEADER_BYTES)
    (hack : Encodes acks.encode acks.decode (accepted_audio_frame_ack (prepared f).header playback_frames_written))
    (hshort : 2 * f.samples.length ≤ MAX_AUDIO_FRAME_PAYLOAD_BYTES) :
    Carried headers acks current playback_frames_written (prepared f).header f.samples := by
  obtain ⟨hfrom, -, -, _, -, heq⟩ := prepare_frame_ok hprepared
  rw [← Option.some.inj (howner.symm.trans hfrom)] at heq
  obtain ⟨htoken, hdevice, -⟩ := from_snapshot_owner howner
  have hread := @read_frame_bytes _ _ _ hheader hsize f.samples (by rw [heq]; rfl)
  refine ⟨?_, ?_, ?_, ?_⟩
  · rw [hread, if_pos hshort]
  · rw [heq]
    exact has_current_authority hsame htoken hdevice
  · rw [heq, hsame.session_id]
    exact validate_written hplaced
  · rw [read_framed_ack hack, heq, Option.map_some, accepted_by_header]
    rfl

/-- For every cue that a call checks: all of its frames come through just when none of them is longer than the four
megabytes that the Bridge reads, and, for the virtual microphone, 32 bits count its chunks. -/
theorem frames_come_through_iff (hframes : call.frames cue = .ok frames) (hcue : is_blank cue.cue_id = false)
    (howner : from_snapshot snapshot = some owner) (hsame : SameAuthority current owner)
    (hprepared : ∀ f ∈ frames, prepare_frame snapshot expected_owner (stamp f) f = .ok (prepared f))
    (hheaders : ∀ f ∈ frames, Encodes headers.encode headers.decode (prepared f).header)
    (hsize : ∀ f ∈ frames, (headers.encode (prepared f).header).length ≤ MAX_AUDIO_FRAME_HEADER_BYTES)
    (hacks : ∀ f ∈ frames,
      Encodes acks.encode acks.decode (accepted_audio_frame_ack (prepared f).header playback_frames_written)) :
    Delivered headers acks current playback_frames_written prepared cue call frames ↔ call.Fits cue := by
  have hcut := cut_of_frames hframes
  have hplaces : ∀ f ∈ frames, (prepared f).header.chunk_index = f.chunk_index ∧
      (prepared f).header.chunk_count = f.chunk_count := by
    intro f hf
    obtain ⟨-, -, -, route_direction, -, heq⟩ := prepare_frame_ok (hprepared f hf)
    rw [heq]
    exact ⟨rfl, rfl⟩
  have hplaced : call.Fits cue → ∀ f ∈ frames, WellPlaced f := by
    intro hfits f hf
    obtain ⟨hevent, hid, -, hchannels, hwhole⟩ := hcut.mine f hf
    refine ⟨hevent, hid ▸ hcue, hchannels, hwhole, fun hsink => ?_, fun hsink hstate => ?_⟩
    · have hmic : call = .virtual_mic := by
        by_contra hother
        rw [(hcut.speaker hother f hf).1] at hsink
        cases hsink
      obtain ⟨k, hk⟩ := List.getElem?_of_mem hf
      obtain ⟨hcount, hnumbers⟩ := hcut.mic hmic
      obtain ⟨-, hindex, hlast⟩ := hnumbers k f hk
      have hlt : k < frames.length := (List.getElem?_eq_some_iff.mp hk).1
      have hfew : frames.length < U32 := hcount ▸ hfits.counted hmic
      refine ⟨_, _, hindex, hlast, ?_⟩
      rw [Nat.mod_eq_of_lt hfew, Nat.mod_eq_of_lt (hlt.trans hfew)]
      exact hlt
    · have hspeaker : call ≠ .virtual_mic := by
        intro hmic
        obtain ⟨k, hk⟩ := List.getElem?_of_mem hf
        rw [((hcut.mic hmic).2 k f hk).1] at hsink
        cases hsink
      exact (hcut.speaker hspeaker f hf).2 hstate
  refine ⟨fun hdelivered => ⟨hcut.long.mp fun f hf => ?_, fun hmic => ?_⟩, fun hfits => ⟨fun f hf => ?_, hcut.whole,
    fun hmic k f hk => ?_⟩⟩
  · by_contra hlong
    obtain ⟨-, -, -, route_direction, -, heq⟩ := prepare_frame_ok (hprepared f hf)
    exact not_carried (hheaders f hf) (hsize f hf) (by rw [heq]; rfl) (Nat.lt_of_not_le hlong) (hdelivered.carried f hf)
  · obtain ⟨hcount, hnumbers⟩ := hcut.mic hmic
    rw [← hcount]
    by_contra hmany
    have hsome : 0 < frames.length := by omega
    have hk := List.getElem?_eq_getElem hsome
    have hwritten := (hdelivered.numbered hmic 0 _ hk).2
    rw [(hplaces _ (List.getElem_mem hsome)).2, (hnumbers 0 _ hk).2.2, Option.some.injEq] at hwritten
    have := Nat.mod_lt frames.length (show 0 < U32 by decide)
    rw [hwritten] at this
    exact hmany this
  · exact carried_of_fits (hplaced hfits f hf) howner hsame (hprepared f hf) (hheaders f hf) (hsize f hf) (hacks f hf)
      (hcut.long.mpr hfits.payload f hf)
  · have hf := List.mem_of_getElem? hk
    obtain ⟨hcount, hnumbers⟩ := hcut.mic hmic
    obtain ⟨-, hindex, hlast⟩ := hnumbers k f hk
    have hlt : k < frames.length := (List.getElem?_eq_some_iff.mp hk).1
    have hfew : frames.length < U32 := hcount ▸ hfits.counted hmic
    rw [(hplaces f hf).1, (hplaces f hf).2, hindex, hlast, Nat.mod_eq_of_lt hfew, Nat.mod_eq_of_lt (hlt.trans hfew)]
    exact ⟨rfl, rfl⟩

end

/-! ## A cue of silence -/

def silent_cue (n : Nat) : CueAudio where
  cue_id := "c"
  request_id := "r"
  route_direction := "inbound"
  samples := List.replicate n 0
  sample_rate_hz := 48000
  channel_count := 1
  created_at_ms := 0
  estimated_duration_ms := 0

def silent_frame (n : Nat) : FrameWrite :=
  frame_write (silent_cue n) .PhysicalPlayback "r" (List.replicate n 0) none none none

def ready_snapshot : BridgeRuntimeSnapshot where
  bridge_process_id := none
  bridge_instance_id := some "b"
  process_status := "running"
  bridge_state := "running"
  session_id := some "s"
  source_generation := 1
  source_generation_token := some "b:s:1"
  playback_owner_generation := 1
  physical_playback_status := "ready"
  resolved_physical_playback_device_id := "d"

def ready_owner : BridgeTranslationSinkOwner where
  session_id := "s"
  bridge_instance_id := "b"
  source_generation := 1
  source_generation_token := "b:s:1"
  resolved_physical_playback_device_id := "d"
  playback_owner_generation := 1

def ready_bridge : BridgeState where
  session_id := some "s"
  bridge_instance_id := "b"
  source_generation := 1
  playback_owner_generation := 1
  resolved_physical_playback_device_id := "d"

def silent_header (n : Nat) : AudioFrameHeader where
  event_type := "bridge.translation.frame"
  request_id := "r"
  session_id := "s"
  frame_id := "c-u"
  stream_id := "c"
  sample_rate_hz := 48000
  sample_format := .PcmS16le
  channel_count := 1
  frame_count := n
  timestamp_ms := 0
  payload_bytes := 2 * n
  bridge_process_id := none
  bridge_instance_id := some "b"
  playback_owner_generation := some 1
  source_generation := some 1
  source_generation_token := some "b:s:1"
  physical_playback_device_id := some "d"
  cue_id := some "c"
  created_at_ms := some 0
  estimated_duration_ms := some 0
  chunk_index := none
  chunk_count := none
  stream_state := none
  translated_audio_enhancement_applied := true
  translation_sink := some .PhysicalPlayback
  route_direction := some .Inbound

theorem prepare_silence (n : Nat) : prepare_frame ready_snapshot none ⟨"u", 0⟩ (silent_frame n) =
    .ok ⟨silent_header n, ready_owner, some ready_owner⟩ := by
  have howner : from_snapshot ready_snapshot = some ready_owner := by decide +kernel
  have hheader : translation_frame_header (silent_frame n) .Inbound "s" none ready_owner ⟨"u", 0⟩ = silent_header n := by
    unfold translation_frame_header silent_header
    rw [length_payload]
    simp [silent_frame, silent_cue, frame_write, ready_owner]
  unfold prepare_frame
  rw [show parse_route_direction (silent_frame n).route_direction = .ok .Inbound from rfl, ok_bind, howner]
  dsimp only [expect]
  rw [ok_bind, require_pos, ok_bind, require_pos (by decide +kernel), ok_bind, ← hheader]
  · rfl
  · change (!translation_sink_owner_changed ready_owner ready_snapshot) = true
    unfold translation_sink_owner_changed
    rw [howner]
    simp

/-- The bytes of a text, in parts. -/
def ascii (text : List String) : List UInt8 := text.flatMap fun part => part.toList.map fun c => UInt8.ofNat c.toNat

def silent_header_json (n : Nat) : List String :=
  ["\x7b\"type\":", "\"bridge.translation.frame\"", ",\"requestId\":\"r\"", ",\"sessionId\":\"s\"",
    ",\"frameId\":\"c-u\"", ",\"streamId\":\"c\"", ",\"sampleRateHz\":48000", ",\"sampleFormat\":", "\"pcm-s16le\"",
    ",\"channelCount\":1", ",\"frameCount\":", toString n, ",\"timestampMs\":0", ",\"payloadBytes\":",
    toString (2 * n), ",\"bridgeInstanceId\":", "\"b\"", ",\"playbackOwnerGeneration\":1", ",\"sourceGeneration\":1",
    ",\"sourceGenerationToken\":", "\"b:s:1\"", ",\"physicalPlaybackDeviceId\":", "\"d\"", ",\"cueId\":\"c\"",
    ",\"createdAtMs\":0", ",\"estimatedDurationMs\":0", ",\"translatedAudio", "EnhancementApplied\":", "true",
    ",\"translationSink\":", "\"physical-playback\"", ",\"routeDirection\":", "\"inbound\"\x7d"]

def silent_ack_json (n : Nat) : List String :=
  ["\x7b\"type\":", "\"bridge.translation.ack\"", ",\"requestId\":\"r\"", ",\"frameId\":\"c-u\"",
    ",\"sessionId\":\"s\"", ",\"bridgeInstanceId\":", "\"b\"", ",\"sourceGeneration\":1",
    ",\"sourceGenerationToken\":", "\"b:s:1\"", ",\"playbackOwnerGeneration\":1", ",\"physicalPlaybackDeviceId\":",
    "\"d\"", ",\"acceptedFrames\":", toString n, ",\"playbackFramesWritten\":0\x7d"]

/-- A value and its text. -/
def Json.of_text {α : Type} (a : α) (text : List String) : Json α where
  encode _ := ascii text
  decode bytes := if bytes = ascii text then some a else none

theorem text_encodes {α : Type} (a : α) {text : List String}
    (h : 0 < (ascii text).length ∧ (ascii text).length ≤ MAX_AUDIO_FRAME_HEADER_BYTES) :
    Encodes (Json.of_text a text).encode (Json.of_text a text).decode a :=
  ⟨if_pos rfl, List.length_pos_iff.mp h.1, h.2.trans_lt (by decide)⟩

theorem short_texts :
    (0 < (ascii (silent_header_json 2)).length ∧ (ascii (silent_header_json 2)).length ≤ MAX_AUDIO_FRAME_HEADER_BYTES) ∧
      0 < (ascii (silent_ack_json 2)).length ∧ (ascii (silent_ack_json 2)).length ≤ MAX_AUDIO_FRAME_HEADER_BYTES := by
  decide +kernel

theorem long_text : 0 < (ascii (silent_header_json 2097153)).length ∧
    (ascii (silent_header_json 2097153)).length ≤ MAX_AUDIO_FRAME_HEADER_BYTES := by
  decide +kernel

theorem silent_call (n : Nat) (hn : n ≠ 0) : WriteCall.frames (silent_cue n) .playback_cue = .ok [silent_frame n] := by
  obtain ⟨m, rfl⟩ := Nat.exists_eq_succ_of_ne_zero hn
  have hchecked : validate_translation_audio_format (silent_cue (m + 1)).samples 48000 1 = .ok () := by
    unfold validate_translation_audio_format
    rw [require_pos (by decide), ok_bind, require_pos (Nat.mod_one _)]
  change process_playback_cue_frames (silent_cue (m + 1)) = _
  unfold process_playback_cue_frames process_playback_cue_chunks
  rw [show validate_translation_audio_format (silent_cue (m + 1)).samples (silent_cue (m + 1)).sample_rate_hz
    (silent_cue (m + 1)).channel_count = .ok () from hchecked]
  rfl

theorem a_short_cue_comes_through : Delivered (.of_text (silent_header 2) (silent_header_json 2))
    (.of_text (accepted_audio_frame_ack (silent_header 2) 0) (silent_ack_json 2)) ready_bridge 0
    (fun _ => ⟨silent_header 2, ready_owner, some ready_owner⟩) (silent_cue 2) .playback_cue [silent_frame 2] := by
  have hheader := text_encodes (silent_header 2) short_texts.1
  have hack := text_encodes (accepted_audio_frame_ack (silent_header 2) 0) short_texts.2
  refine (@frames_come_through_iff (silent_cue 2) .playback_cue [silent_frame 2] ready_snapshot ready_owner none
    ready_bridge (.of_text (silent_header 2) (silent_header_json 2))
    (.of_text (accepted_audio_frame_ack (silent_header 2) 0) (silent_ack_json 2)) (fun _ => ⟨"u", 0⟩)
    (fun _ => ⟨silent_header 2, ready_owner, some ready_owner⟩) 0 (silent_call 2 (by omega)) (by decide +kernel)
    (by decide +kernel) ⟨rfl, by decide +kernel, rfl, rfl, rfl, rfl⟩ ?_ ?_ ?_ ?_).mpr ⟨by decide, nofun⟩
  · exact List.forall_mem_singleton.mpr (prepare_silence 2)
  · exact List.forall_mem_singleton.mpr hheader
  · exact List.forall_mem_singleton.mpr short_texts.1.2
  · exact List.forall_mem_singleton.mpr hack

/-- Silence of 43.7 seconds: the call writes its one frame, and the Bridge does not read it. -/
theorem a_long_cue_is_not_read :
    WriteCall.frames (silent_cue 2097153) .playback_cue = .ok [silent_frame 2097153] ∧
    prepare_frame ready_snapshot none ⟨"u", 0⟩ (silent_frame 2097153) =
      .ok ⟨silent_header 2097153, ready_owner, some ready_owner⟩ ∧
    (ascii (silent_header_json 2097153)).length ≤ MAX_AUDIO_FRAME_HEADER_BYTES ∧
    ¬ Delivered (.of_text (silent_header 2097153) (silent_header_json 2097153))
      (.of_text (accepted_audio_frame_ack (silent_header 2097153) 0) (silent_ack_json 2097153)) ready_bridge 0
      (fun _ => ⟨silent_header 2097153, ready_owner, some ready_owner⟩) (silent_cue 2097153) .playback_cue
      [silent_frame 2097153] := by
  have hlength : (silent_frame 2097153).samples.length = 2097153 := List.length_replicate
  refine ⟨silent_call 2097153 (by omega), prepare_silence 2097153, long_text.2, fun hdelivered => ?_⟩
  refine not_carried (text_encodes (silent_header 2097153) long_text) long_text.2 ?_ ?_
    (hdelivered.carried (silent_frame 2097153) (List.mem_singleton_self _))
  · rw [length_payload, hlength]
    rfl
  · rw [hlength]
    decide

end omni_translate.audio_writer

-- The audio of an archived session (`history/mod.rs`, `history/audio.rs`,
-- `history/playback.rs`): the worker collects chunks for thirty seconds, writes
-- them as one file and one row, and a cue is read back from the spans that the
-- row's references keep. Compression and encryption are left out: a file holds
-- its samples and the identity that it was sealed with. What the file system
-- and the database do beyond that comes with each flush. The samples may be of
-- any kind, since the worker looks at none of them.
import OmniTranslate.Calls
import OmniTranslate.HistoryPlayback
import OmniTranslate.HistoryTotals

namespace omni_translate.history

open calls maps runs
open history_playback (HistoryAudioTrack)

variable {σ : Type}

/-! ## Chunks and what is collected of them -/

structure QueuedAudio (σ : Type) where
  session_id : String
  cue_id : Option String
  track : HistoryAudioTrack
  sample_rate_hz : Nat
  started_at_ms : Int
  duration_ms : Nat
  gap_epoch : Nat
  samples : List σ

structure AudioAccumulatorKey where
  session_id : String
  track : HistoryAudioTrack
  sample_rate_hz : Nat
  gap_epoch : Nat
deriving DecidableEq

def QueuedAudio.key (audio : QueuedAudio σ) : AudioAccumulatorKey where
  session_id := audio.session_id
  track := audio.track
  sample_rate_hz := audio.sample_rate_hz
  gap_epoch := audio.gap_epoch

structure AudioCueSpan where
  cue_id : String
  offset_samples : Nat
  length_samples : Nat
deriving DecidableEq

structure AudioAccumulator (σ : Type) where
  started_at_ms : Int
  samples : List σ
  cue_spans : List AudioCueSpan

/-- A span that ends here goes on with more of its cue, or a new one begins. -/
def extend_spans (spans : List AudioCueSpan) (cue_id : String) (offset_samples length_samples : Nat) :
    List AudioCueSpan :=
  match spans.getLast? with
  | none => [{ cue_id, offset_samples, length_samples }]
  | some span =>
    if span.cue_id = cue_id ∧ span.offset_samples + span.length_samples = offset_samples then
      spans.dropLast ++ [{ span with length_samples := span.length_samples + length_samples }]
    else spans ++ [{ cue_id, offset_samples, length_samples }]

def AudioAccumulator.take (accumulator : AudioAccumulator σ) (cue_id : Option String) (samples : List σ) :
    AudioAccumulator σ :=
  { accumulator with
    cue_spans :=
      match cue_id with
      | none => accumulator.cue_spans
      | some cue_id =>
        extend_spans accumulator.cue_spans cue_id accumulator.samples.length samples.length
    samples := accumulator.samples ++ samples }

/-! ## Files -/

/-- `{sequence:08}` of a sequence number, which is positive. -/
def segment_id (sequence : Int) : String :=
  String.ofList (List.replicate (8 - (toString sequence).length) '0') ++ toString sequence

/-- What a segment is sealed with. -/
def segment_identity (session_id : String) (track : HistoryAudioTrack) (sequence : Int) : String :=
  "history/v1:" ++ session_id ++ ":" ++ track.as_str ++ ":" ++ segment_id sequence

/-- The path below the archive's directory. -/
def segment_path (session_id : String) (track : HistoryAudioTrack) (sequence : Int) : String :=
  session_id ++ "/" ++ track.as_str ++ "/" ++ segment_id sequence ++ ".flac.enc"

theorem segment_id_number (n : Nat) : Nat.ofDigitChars 10 (segment_id n).toList 0 = n := by
  have hdigits : (toString (n : Int)).toList = Nat.toDigits 10 n := by
    change (Nat.repr n).toList = _
    simp
  unfold segment_id
  rw [String.toList_append, String.toList_ofList, hdigits, Nat.ofDigitChars_append, Nat.ofDigitChars_replicate_zero,
    Nat.mul_zero, Nat.ofDigitChars_ten_toDigits]

/-- The files of a track have paths of their own. -/
theorem segment_path_injective {session_id : String} {track : HistoryAudioTrack} {m n : Nat}
    (h : segment_path session_id track m = segment_path session_id track n) : m = n := by
  unfold segment_path at h
  have hids : segment_id m = segment_id n := by simpa [String.append_assoc] using h
  rw [← segment_id_number m, hids, segment_id_number]

structure ArchivedFile (σ : Type) where
  identity : String
  sample_rate_hz : Nat
  samples : List σ

abbrev Files (σ : Type) := AList fun _ : String => ArchivedFile σ

def decrypt_flac_segment (session_id : String) (track : HistoryAudioTrack) (sequence : Int) (file : ArchivedFile σ) :
    Except String (Nat × List σ) := do
  require (file.identity = segment_identity session_id track sequence) "字幕历史解密失败：密文或关联数据已损坏"
  pure (file.sample_rate_hz, file.samples)

/-! ## The worker -/

structure ArchiveWorker (σ : Type) where
  repository : Database := {}
  files : Files σ := ∅
  audio : AList fun _ : AudioAccumulatorKey => AudioAccumulator σ := ∅

/-- What a flush meets: the errors of the database and of the file system, the sizes that they report, and how
far the retention after it comes. -/
structure FlushIo where
  context_error : Option String := none
  footprint : Except String Int := .ok 0
  sequence_error : Option String := none
  encrypted_bytes : Except String Int := .ok 0
  insert_error : Option String := none
  removed : Bool := true
  now_ms : Int := 0
  retention_footprint : Int := 0
  progress : Database.Progress := ⟨fun _ => true, 500, fun _ => true⟩
  kept : String → Bool := fun _ => false
  retention_error : Option String := none

/-- What SQLite says of a segment without its session, or of one that is there already. -/
def CONSTRAINT_ERROR : String := "constraint failed"

/-- The order in which a hash map gives its keys. -/
structure KeyOrder where
  order : List AudioAccumulatorKey → List AudioAccumulatorKey
  perm : ∀ keys, (order keys).Perm keys

namespace ArchiveWorker

variable (w : ArchiveWorker σ)

def mark_archive_gap (session_id : String) : ArchiveWorker σ :=
  { w with repository := w.repository.mark_archive_gap session_id }

/-- The files of the sessions that are deleted go, and those that no row refers to, but for the `kept` ones. -/
def sweep (kept : String → Bool) : ArchiveWorker σ :=
  let referenced (path : String) : Bool := w.repository.segments.any fun a =>
    a.encrypted_path = path && w.repository.sessions.any fun s => s.id = a.session_id && s.status ≠ .deleting
  { w with files := retain (fun path => referenced path || kept path) w.files }

def run_retention (io : FlushIo) : Except String Unit × ArchiveWorker σ :=
  (match io.retention_error with
    | none => .ok ()
    | some error => .error error,
    { w with repository := w.repository.run_retention io.now_ms io.retention_footprint io.progress }.sweep io.kept)

/-- The row that a flush inserts. -/
def segment_write (key : AudioAccumulatorKey) (accumulator : AudioAccumulator σ) (sequence encrypted_bytes : Int) :
    Database.AudioSegmentWrite where
  session_id := key.session_id
  cue_refs := accumulator.cue_spans.map fun span =>
    { cue_id := span.cue_id, offset_samples := span.offset_samples, length_samples := span.length_samples }
  track := key.track.as_str
  sequence := sequence
  started_at_ms := accumulator.started_at_ms
  duration_ms := ((accumulator.samples.length * 1000 + key.sample_rate_hz - 1) / key.sample_rate_hz : Nat)
  sample_rate_hz := key.sample_rate_hz
  encrypted_path := segment_path key.session_id key.track sequence
  encrypted_bytes := encrypted_bytes

/-- From `archive_flac_segment` on: the file is written, then its row, and then the retention runs. -/
def store_segment (io : FlushIo) (key : AudioAccumulatorKey) (accumulator : AudioAccumulator σ) (sequence : Int) :
    Except String Unit × ArchiveWorker σ :=
  if key.sample_rate_hz = 0 then (.error "FLAC 归档需要非空 PCM 和有效采样率", w.mark_archive_gap key.session_id)
  else
    match io.encrypted_bytes with
    | .error error => (.error error, w.mark_archive_gap key.session_id)
    | .ok encrypted_bytes =>
      let segment := segment_write key accumulator sequence encrypted_bytes
      let written := { w with
        files := w.files.insert segment.encrypted_path
          ⟨segment_identity key.session_id key.track sequence, key.sample_rate_hz, accumulator.samples⟩ }
      match io.insert_error, w.repository.insert_audio_segment segment with
      | none, some repository => { written with repository }.run_retention io
      | error, _ =>
        (.error (error.getD CONSTRAINT_ERROR),
          { written with
            files := if io.removed then written.files.erase segment.encrypted_path else written.files
          }.mark_archive_gap key.session_id)

/-- What was collected is taken out first, and is lost if an error comes before it is stored. -/
def flush_audio_key (io : FlushIo) (key : AudioAccumulatorKey) : Except String Unit × ArchiveWorker σ :=
  match w.audio.lookup key with
  | none => (.ok (), w)
  | some accumulator =>
    let taken := { w with audio := w.audio.erase key }
    if accumulator.samples.isEmpty then (.ok (), taken)
    else
      match io.context_error, io.footprint with
      | some error, _ => (.error error, taken)
      | none, .error error => (.error error, taken)
      | none, .ok footprint =>
        if w.repository.audio_archive_allowed footprint = false then
          (.ok (), taken.mark_archive_gap key.session_id)
        else
          match io.sequence_error with
          | some error => (.error error, taken)
          | none =>
            taken.store_segment io key accumulator
              (w.repository.next_audio_sequence key.session_id key.track.as_str)

/-- `entry(key).or_insert_with(..)` -/
def opened (audio : QueuedAudio σ) (consumed : Nat) : AudioAccumulator σ :=
  (w.audio.lookup audio.key).getD
    { started_at_ms := audio.started_at_ms + (consumed * 1000 / audio.sample_rate_hz : Nat)
      samples := [], cue_spans := [] }

/-- How many samples of the chunk still fit. -/
def room (audio : QueuedAudio σ) (consumed : Nat) : Nat :=
  min (audio.sample_rate_hz * 30 - (w.opened audio consumed).samples.length) (audio.samples.length - consumed)

def grown (audio : QueuedAudio σ) (consumed : Nat) : AudioAccumulator σ :=
  (w.opened audio consumed).take audio.cue_id ((audio.samples.drop consumed).take (w.room audio consumed))

/-- The `while` of `append_audio`: each round takes a sample at least, so there are no more rounds than samples. -/
def append_loop (audio : QueuedAudio σ) : Nat → (Nat → FlushIo) → Nat → ArchiveWorker σ →
    Except String Unit × ArchiveWorker σ
  | 0, _, _, w => (.ok (), w)
  | rounds + 1, io, consumed, w =>
    if audio.samples.length ≤ consumed then (.ok (), w)
    else
      let next := { w with audio := w.audio.insert audio.key (w.grown audio consumed) }
      if (w.grown audio consumed).samples.length = audio.sample_rate_hz * 30 then
        let flushed := next.flush_audio_key (io 0) audio.key
        match flushed.1 with
        | .error error => (.error error, flushed.2)
        | .ok () => append_loop audio rounds (fun n => io (n + 1)) (consumed + w.room audio consumed) flushed.2
      else append_loop audio rounds io (consumed + w.room audio consumed) next

def append_audio (io : Nat → FlushIo) (audio : QueuedAudio σ) : Except String Unit × ArchiveWorker σ :=
  append_loop audio audio.samples.length io 0 w

/-- The keys of a session, one after another, until one fails. -/
def flush_keys (io : AudioAccumulatorKey → FlushIo) : List AudioAccumulatorKey → ArchiveWorker σ →
    Except String Unit × ArchiveWorker σ
  | [], w => (.ok (), w)
  | key :: keys, w =>
    let flushed := w.flush_audio_key (io key) key
    match flushed.1 with
    | .error error => (.error error, flushed.2)
    | .ok () => flush_keys io keys flushed.2

def flush_session_audio (hash : KeyOrder) (io : AudioAccumulatorKey → FlushIo) (session_id : String) :
    Except String Unit × ArchiveWorker σ :=
  flush_keys io (hash.order (w.audio.keys.filter fun key => key.session_id = session_id)) w

end ArchiveWorker

/-! ## What a flush does -/

namespace ArchiveWorker

variable {w : ArchiveWorker σ} {io : FlushIo} {key : AudioAccumulatorKey}

/-- The file and the row of a segment are written and the retention runs, or a gap is counted. -/
theorem store_segment_cases (w : ArchiveWorker σ) (io : FlushIo) (key : AudioAccumulatorKey)
    (accumulator : AudioAccumulator σ) (sequence : Int) :
    (∃ error files, w.store_segment io key accumulator sequence =
        (.error error, { w with files }.mark_archive_gap key.session_id)) ∨
      ∃ bytes repository, w.repository.insert_audio_segment (segment_write key accumulator sequence bytes) =
          some repository ∧
        w.store_segment io key accumulator sequence =
          { w with
            repository
            files := w.files.insert (segment_path key.session_id key.track sequence)
              ⟨segment_identity key.session_id key.track sequence, key.sample_rate_hz, accumulator.samples⟩
          }.run_retention io := by
  unfold store_segment
  split
  · exact .inl ⟨_, w.files, rfl⟩
  · split
    · exact .inl ⟨_, w.files, rfl⟩
    · next bytes hbytes =>
      dsimp only
      split
      · next repository _ hinsert => exact .inr ⟨bytes, repository, hinsert, rfl⟩
      · exact .inl ⟨_, _, rfl⟩

/-- What was collected is gone after a flush. It is stored, or a gap is counted, or nothing tells of it. -/
theorem flush_audio_key_cases (w : ArchiveWorker σ) (io : FlushIo) (key : AudioAccumulatorKey) :
    (w.audio.lookup key = none ∧ w.flush_audio_key io key = (.ok (), w)) ∨
      ∃ accumulator, w.audio.lookup key = some accumulator ∧
        ((accumulator.samples = [] ∧ w.flush_audio_key io key = (.ok (), { w with audio := w.audio.erase key })) ∨
          (∃ error, w.flush_audio_key io key = (.error error, { w with audio := w.audio.erase key })) ∨
          w.flush_audio_key io key =
            (.ok (), { w with audio := w.audio.erase key }.mark_archive_gap key.session_id) ∨
          (accumulator.samples ≠ [] ∧ w.flush_audio_key io key =
            { w with audio := w.audio.erase key }.store_segment io key accumulator
              (w.repository.next_audio_sequence key.session_id key.track.as_str))) := by
  unfold flush_audio_key
  split
  · next hnone => exact .inl ⟨hnone, rfl⟩
  · next accumulator hfound =>
    refine .inr ⟨accumulator, hfound, ?_⟩
    split
    · next hempty => exact .inl ⟨List.isEmpty_iff.mp hempty, rfl⟩
    · next hsome =>
      split
      · exact .inr (.inl ⟨_, rfl⟩)
      · exact .inr (.inl ⟨_, rfl⟩)
      · split
        · exact .inr (.inr (.inl rfl))
        · split
          · exact .inr (.inl ⟨_, rfl⟩)
          · exact .inr (.inr (.inr ⟨fun hnil => hsome (List.isEmpty_iff.mpr hnil), rfl⟩))

end ArchiveWorker

/-! ## Reading a cue back -/

structure DecodedAudioPiece (σ : Type) where
  sample_rate_hz : Nat
  samples : List σ

/-- `decoded.get(offset..end)` -/
def range (samples : List σ) (offset stop : Nat) : Option (List σ) :=
  if offset ≤ stop ∧ stop ≤ samples.length then some ((samples.drop offset).take (stop - offset)) else none

def USIZE_MAX : Nat := 2 ^ 64 - 1

def load_piece (files : Files σ) (session_id : String) (track : HistoryAudioTrack)
    (segment : Database.AudioCueSegmentRead) : Except String (DecodedAudioPiece σ) := do
  let file ← expect (files.lookup segment.encrypted_path) ("历史音频文件缺失：" ++ segment.encrypted_path)
  let (decoded_rate, decoded) ← decrypt_flac_segment session_id track segment.sequence file
  require (decoded_rate = segment.sample_rate_hz)
    ("历史音频采样率与索引不一致：decoded=" ++ toString decoded_rate ++ " indexed=" ++ toString segment.sample_rate_hz)
  let offset := segment.offset_samples.toNat
  let stop := offset + segment.length_samples.toNat
  require (stop ≤ USIZE_MAX) "历史音频引用范围溢出"
  let samples ← expect (range decoded offset stop) "历史音频引用超出 FLAC 样本范围"
  pure { sample_rate_hz := decoded_rate, samples }

def load_cue_audio_from_repository (repository : Database) (files : Files σ) (session_id cue_id : String)
    (track : HistoryAudioTrack) : Except String (List (DecodedAudioPiece σ)) := do
  let segments ← repository.cue_audio_segments session_id cue_id track.as_str
  segments.mapM (load_piece files session_id track)

end omni_translate.history

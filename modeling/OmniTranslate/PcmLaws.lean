-- The laws of the translated PCM authority: in every state the chunks of a cue, and of a stream that
-- is still coming, lie side by side from 0 and make up its samples.
import OmniTranslate.Places
import OmniTranslate.TranslatedPcm
import Mathlib.Algebra.Order.BigOperators.Group.List

namespace omni_translate.translated_pcm_authority

open places runs EnabledTranslatedPcmAuthority

variable {I : Type}

/-! ## Chunks side by side -/

/-- The chunks are numbered from 0, each begins where those before it end, and together they have
the sample count. -/
structure Tiles (chunks : List AcceptedTranslatedChunk) (sample_count : Nat) : Prop where
  index : chunks.map (·.chunk_index) = List.range chunks.length
  offset : ∀ before chunk after, chunks = before ++ chunk :: after →
    chunk.sample_offset = (before.map (·.sample_count)).sum
  total : (chunks.map (·.sample_count)).sum = sample_count

/-- The chunks are those of the samples, and the renderer accepted all of these. -/
structure Whole (chunks : List AcceptedTranslatedChunk) (sample_count accepted_frames : Nat) :
    Prop where
  tiles : Tiles chunks sample_count
  frames : accepted_frames = sample_count
  bounded : sample_count ≤ MAX_TRANSLATED_PCM_SAMPLES

/-- A stream of a cue that can go on. No chunk is empty, so that their number is bounded too. -/
structure Streaming (cue_id : String) (stream : PendingTranslatedStream) : Prop where
  cue : stream.cue_id = cue_id
  whole : Whole stream.chunks stream.samples.length stream.accepted_frames
  next : stream.next_chunk_index = stream.chunks.length
  filled : ∀ chunk ∈ stream.chunks, 0 < chunk.sample_count

/-- What is left of an authority without its files. -/
structure Books where
  accepted_cues : List AcceptedTranslatedCue
  accepted_cue_ids : Finset String
  active_streams : AList fun _ : String => PendingTranslatedStream
  aborted_stream_count : Nat
  finalized : Bool
  terminal_reason : Option String

def books (authority : EnabledTranslatedPcmAuthority I) : Books where
  accepted_cues := authority.accepted_cues
  accepted_cue_ids := authority.accepted_cue_ids
  active_streams := authority.active_streams
  aborted_stream_count := authority.aborted_stream_count
  finalized := authority.finalized
  terminal_reason := authority.terminal_reason

structure Accepted (b : Books) : Prop where
  distinct : (b.accepted_cues.map (·.cue_id)).Nodup
  ids : ∀ id, id ∈ b.accepted_cue_ids ↔ id ∈ b.accepted_cues.map (·.cue_id)
  apart : ∀ id ∈ b.active_streams, id ∉ b.accepted_cue_ids
  sequence : b.accepted_cues.map (·.sequence) = List.range' 1 b.accepted_cues.length
  cues : ∀ cue ∈ b.accepted_cues, Whole cue.chunks cue.sample_count cue.accepted_frames
  streams : ∀ id stream, b.active_streams.lookup id = some stream → Streaming id stream

theorem Tiles.append {chunks : List AcceptedTranslatedChunk} {n : Nat} (h : Tiles chunks n)
    {chunk : AcceptedTranslatedChunk} (hindex : chunk.chunk_index = chunks.length)
    (hoffset : chunk.sample_offset = n) : Tiles (chunks ++ [chunk]) (n + chunk.sample_count) where
  index := by simp [h.index, hindex, List.range_succ]
  offset before other after heq := by
    rcases at_the_end heq with ⟨rfl, rfl, -⟩ | ⟨rest, -, hchunks⟩
    · rw [hoffset, h.total]
    · exact h.offset before other rest hchunks
  total := by simp [h.total]

theorem Tiles.first {chunk : AcceptedTranslatedChunk} (hindex : chunk.chunk_index = 0)
    (hoffset : chunk.sample_offset = 0) : Tiles [chunk] chunk.sample_count := by
  have hnone : Tiles [] 0 := ⟨rfl, by simp, rfl⟩
  simpa using hnone.append hindex hoffset

theorem Streaming.length_le {id : String} {stream : PendingTranslatedStream}
    (h : Streaming id stream) : stream.chunks.length ≤ stream.samples.length := by
  have hone : ∀ count ∈ stream.chunks.map (·.sample_count), 1 ≤ count := by
    simpa [Nat.one_le_iff_ne_zero, Nat.pos_iff_ne_zero] using h.filled
  simpa [h.whole.tiles.total] using List.length_le_sum_of_one_le _ hone

/-! ## What is checked -/

variable {write : TranslatedWrite}

theorem validated (h : validate_accepted_pcm write = .ok ()) :
    0 < write.samples.length ∧ write.samples.length ≤ MAX_TRANSLATED_PCM_SAMPLES ∧
      write.accepted_frames = write.samples.length := by
  unfold validate_accepted_pcm at h
  split at h
  · cases h
  · rename_i hsaid
    split at h
    · cases h
    · split at h
      · cases h
      · rename_i hframes
        push Not at hsaid hframes
        exact ⟨List.length_pos_of_ne_nil hsaid.2.2, hframes⟩

theorem identified {pending : PendingTranslatedStream} {chunk_index : Nat} {renderer : AcceptedTranslatedRenderer}
    (h : validate_stream_identity pending write chunk_index renderer = .ok ()) :
    pending.next_chunk_index = chunk_index := by
  unfold validate_stream_identity at h
  split at h
  · cases h
  · rename_i hsame
    push Not at hsame
    exact hsame.2.2.1

/-- The first chunk of a stream, or the only one of a complete cue. -/
theorem first_chunk_streaming (h : validate_accepted_pcm write = .ok ()) (accepted_at_ms : Nat)
    (renderer : AcceptedTranslatedRenderer) :
    Streaming write.cue_id (first_chunk write 0 accepted_at_ms renderer) := by
  obtain ⟨hpos, hmax, hframes⟩ := validated h
  exact ⟨rfl, ⟨Tiles.first rfl rfl, hframes, hmax⟩, rfl, by simpa [first_chunk] using hpos⟩

/-- A chunk that fits makes the stream longer, and neither counter runs over. -/
theorem Streaming.extend {id : String} {pending : PendingTranslatedStream} (h : Streaming id pending)
    (hvalid : validate_accepted_pcm write = .ok ())
    (hfits : pending.samples.length + write.samples.length ≤ MAX_TRANSLATED_PCM_SAMPLES) (accepted_at_ms : Nat) :
    Streaming id { pending with
      samples := pending.samples ++ write.samples
      chunks := pending.chunks ++ [⟨pending.next_chunk_index, write.request_id,
        pending.samples.length, write.samples.length, accepted_at_ms⟩]
      request_ids := pending.request_ids ++ [write.request_id]
      accepted_frames := pending.accepted_frames + write.accepted_frames
      next_chunk_index := min (pending.next_chunk_index + 1) U32_MAX } := by
  obtain ⟨hpos, _, hframes⟩ := validated hvalid
  have hlength := h.length_le
  have hmany : pending.next_chunk_index + 1 ≤ U32_MAX := by
    simp only [h.next, U32_MAX, MAX_TRANSLATED_PCM_SAMPLES] at *
    omega
  refine ⟨h.cue, ⟨?_, ?_, ?_⟩, ?_, ?_⟩
  · rw [List.length_append]
    exact h.whole.tiles.append h.next rfl
  · simp only [h.whole.frames, hframes, List.length_append]
  · simpa using hfits
  · rw [min_eq_left hmany, h.next, List.length_append, List.length_singleton]
  · intro chunk hin
    rcases List.mem_append.mp hin with hold | hnew
    · exact h.filled chunk hold
    · rw [List.mem_singleton.mp hnew]
      exact hpos

/-! ## The books -/

section

variable {b : Books} {id : String} {stream : PendingTranslatedStream}

theorem Accepted.put_stream (h : Accepted b) (hfresh : id ∉ b.accepted_cue_ids)
    (hstream : Streaming id stream) :
    Accepted { b with active_streams := b.active_streams.insert id stream } := by
  refine ⟨h.distinct, h.ids, fun other hin => ?_, h.sequence, h.cues, fun other found hfound => ?_⟩
  · rcases (AList.mem_insert _).mp hin with rfl | hold
    · exact hfresh
    · exact h.apart other hold
  · by_cases hid : other = id
    · subst hid
      obtain rfl : stream = found := by simpa using hfound
      exact hstream
    · exact h.streams other found (AList.lookup_insert_ne hid ▸ hfound)

theorem Accepted.erase (h : Accepted b) (id : String) :
    Accepted { b with active_streams := b.active_streams.erase id } := by
  refine ⟨h.distinct, h.ids, fun other hin => ?_, h.sequence, h.cues, fun other found hfound => ?_⟩
  · exact h.apart other (AList.mem_erase.mp hin).2
  · by_cases hid : other = id
    · subst hid
      simp at hfound
    · exact h.streams other found (AList.lookup_erase_ne hid ▸ hfound)

theorem Accepted.accept (h : Accepted b) (cue : AcceptedTranslatedCue)
    (hnew : cue.cue_id ∉ b.accepted_cue_ids) (hidle : cue.cue_id ∉ b.active_streams)
    (hsequence : cue.sequence = b.accepted_cues.length + 1)
    (hwhole : Whole cue.chunks cue.sample_count cue.accepted_frames) :
    Accepted { b with
      accepted_cue_ids := insert cue.cue_id b.accepted_cue_ids
      accepted_cues := b.accepted_cues ++ [cue] } := by
  refine ⟨?_, fun id => ?_, fun id hin => ?_, ?_, fun other hin => ?_, h.streams⟩
  · have hnone : cue.cue_id ∉ b.accepted_cues.map (·.cue_id) := fun hin => hnew ((h.ids _).mpr hin)
    rw [List.map_append, List.nodup_append]
    refine ⟨h.distinct, List.nodup_singleton _, fun x hx _ hy => ?_⟩
    rintro rfl
    obtain rfl : x = cue.cue_id := by simpa using hy
    exact hnone hx
  · simp [h.ids, or_comm]
  · rw [Finset.mem_insert]
    rintro (rfl | hold)
    · exact hidle hin
    · exact h.apart id hin hold
  · simp [h.sequence, hsequence, List.range'_concat, Nat.add_comm]
  · rcases List.mem_append.mp hin with hold | hlast
    · exact h.cues other hold
    · rw [List.mem_singleton.mp hlast]
      exact hwhole

end

/-! ## Every call keeps them -/

section

variable (authority : EnabledTranslatedPcmAuthority I)

@[simp] theorem write_raw_event_books (event : Event) (detail : Option Detail) (outside : Outside) :
    books (authority.write_raw_event event detail outside).1 = books authority := by
  unfold write_raw_event
  cases outside.journal <;> rfl

@[simp] theorem write_event_books (event : Event) (cue : Option AcceptedTranslatedCue)
    (outside : Outside) : books (authority.write_event event cue outside).1 = books authority := by
  unfold write_event
  split
  · rfl
  · exact write_raw_event_books authority event _ outside

@[simp] theorem write_summary_books (outside : Outside) :
    books (authority.write_summary outside).1 = books authority := by
  unfold write_summary
  cases outside.summary <;> rfl

@[simp] theorem and_summary_books (outside : Outside)
    (answer : EnabledTranslatedPcmAuthority I × Except String Unit) :
    books (and_summary outside answer).1 = books answer.1 := by
  obtain ⟨reached, _ | _⟩ := answer
  · rfl
  · exact write_summary_books reached outside

variable {authority}

section

variable (h : Accepted (books authority))

include h

theorem Accepted.persist_and_report {stream : PendingTranslatedStream}
    (hstream : Streaming stream.cue_id stream) (hidle : stream.cue_id ∉ authority.active_streams)
    (digest : List UInt8 → String) (event : Event) (outside : Outside) :
    Accepted (books (authority.persist_and_report digest event stream outside).1) := by
  unfold EnabledTranslatedPcmAuthority.persist_and_report persist_accepted_cue
  by_cases hseen : stream.cue_id ∈ authority.accepted_cue_ids
  · rw [if_pos hseen]
    exact h
  · rw [if_neg hseen]
    cases outside.cue_file with
    | create_failed error => exact h
    | write_failed error => exact h
    | written =>
      rw [and_summary_books, write_event_books]
      exact h.accept (authority.accepted_cue digest stream outside) hseen hidle rfl hstream.whole

variable (digest : List UInt8 → String)

theorem Accepted.complete (event : Event) (write : TranslatedWrite)
    (renderer : AcceptedTranslatedRenderer) (outside : Outside) :
    Accepted (books
      (authority.accept_complete_cue_for_renderer digest event write renderer outside).1) := by
  unfold accept_complete_cue_for_renderer
  split
  · exact h
  · exact h
  · rename_i hvalid _
    split
    · exact h
    · rename_i hnew
      push Not at hnew
      exact h.persist_and_report (first_chunk_streaming hvalid _ renderer) hnew.1 digest event outside

variable (write : TranslatedWrite)

theorem Accepted.start (chunk_index : Nat) (renderer : AcceptedTranslatedRenderer)
    (outside : Outside) :
    Accepted (books (authority.accept_start write chunk_index renderer outside).1) := by
  unfold accept_start
  split
  · exact h
  · rename_i hnew
    push Not at hnew
    obtain ⟨rfl, -, hfresh⟩ := hnew
    split
    · exact h
    · rename_i hvalid
      rw [write_summary_books]
      exact h.put_stream hfresh (first_chunk_streaming hvalid _ renderer)

theorem Accepted.chunk (chunk_index : Nat) (renderer : AcceptedTranslatedRenderer)
    (outside : Outside) :
    Accepted (books (authority.accept_chunk write chunk_index renderer outside).1) := by
  unfold accept_chunk
  split
  · exact h
  · exact h
  · rename_i pending hvalid hpending
    split
    · exact h
    · rename_i hidentity
      obtain rfl := identified hidentity
      have hstream : Streaming write.cue_id pending := h.streams _ _ hpending
      have hactive : write.cue_id ∈ authority.active_streams :=
        AList.lookup_isSome.mp (by rw [hpending]; rfl)
      have hfresh : write.cue_id ∉ authority.accepted_cue_ids := h.apart _ hactive
      obtain ⟨_, _, hframes⟩ := validated hvalid
      have hbound := hstream.whole.bounded
      -- neither the saturating nor the checked addition comes near the limit of its type
      have hlen : min (pending.samples.length + write.samples.length) U64_MAX =
          pending.samples.length + write.samples.length := by
        simp only [U64_MAX, MAX_TRANSLATED_PCM_SAMPLES] at *
        omega
      have hadd : checked_add pending.accepted_frames write.accepted_frames =
          some (pending.accepted_frames + write.accepted_frames) := by
        unfold checked_add
        rw [if_pos]
        rw [hstream.whole.frames, hframes]
        omega
      dsimp only
      rw [hlen, hadd, Nat.add_sub_cancel]
      split
      · exact h
      · rename_i hfits
        rw [write_summary_books]
        exact h.put_stream hfresh
          (hstream.extend hvalid (Nat.not_lt.mp hfits) outside.accepted_at_ms)

theorem Accepted.finish (chunk_index : Nat) (renderer : AcceptedTranslatedRenderer)
    (outside : Outside) :
    Accepted (books (authority.accept_end digest write chunk_index renderer outside).1) := by
  unfold accept_end
  split
  · exact h
  · split
    · exact h
    · rename_i pending hpending
      split
      · exact h
      · have hstream : Streaming write.cue_id pending := h.streams _ _ hpending
        apply Accepted.persist_and_report (h.erase write.cue_id)
        · exact ⟨rfl, hstream.whole, hstream.next, hstream.filled⟩
        · rw [hstream.cue, AList.mem_erase]
          exact fun hin => hin.1 rfl

theorem Accepted.abort (cue_id reason : String) (outside : Outside) :
    Accepted (books (authority.abort_stream cue_id reason outside).1) := by
  unfold abort_stream
  split
  · rw [and_summary_books, write_raw_event_books]
    obtain ⟨hdistinct, hids, hapart, hsequence, hcues, hstreams⟩ := h.erase cue_id
    exact ⟨hdistinct, hids, hapart, hsequence, hcues, hstreams⟩
  · exact h

theorem Accepted.finalize (reason : String) (outside : Outside) :
    Accepted (books (authority.finalize reason outside).1) := by
  unfold EnabledTranslatedPcmAuthority.finalize
  split
  · exact h
  · rw [and_summary_books, write_raw_event_books]
    refine ⟨h.distinct, h.ids, fun id hin => ?_, h.sequence, h.cues, fun id _ hstream => ?_⟩
    · exact absurd hin (AList.notMem_empty id)
    · simp [books] at hstream

theorem Accepted.step (op : AuthorityOp) :
    Accepted (books (translated_pcm_authority.step digest authority op)) := by
  cases op with
  | accept_complete_bridge_cue write owner outside =>
    exact h.complete digest _ write _ outside
  | accept_complete_speaker_cue write _ _ outside =>
    exact h.complete digest _ write _ outside
  | accept_stream_write write chunk_index _ owner outside =>
    unfold translated_pcm_authority.step accept_stream_write
    dsimp only
    split
    · exact h
    · exact h.start write chunk_index _ outside
    · exact h.chunk write chunk_index _ outside
    · exact h.finish digest write chunk_index _ outside
    · exact h.abort write.cue_id _ outside
  | abort_stream cue_id reason outside => exact h.abort cue_id reason outside
  | finalize reason outside => exact h.finalize reason outside

end

theorem make_books (identity : I) (outside : Outside) :
    Accepted (books (make identity outside).1) := by
  unfold make
  rw [and_summary_books, write_event_books]
  refine ⟨List.nodup_nil, by simp [books], ?_, rfl, by simp [books], fun id _ hstream => ?_⟩
  · exact fun id hin => absurd hin (AList.notMem_empty id)
  · simp [books] at hstream

end

/-- In every state of every run the ids of the accepted cues are distinct and none of them is streaming, they
are numbered from 1, and the chunks of each cue and of each stream tile its samples, all of which
were accepted and which are within the limit. -/
theorem every_accepted_cue_is_tiled_by_its_chunks (digest : List UInt8 → String) (identity : I)
    (outside : Outside) (ops : List AuthorityOp) :
    let reached := run (step digest) (make identity outside).1 ops
    (reached.accepted_cues.map (·.cue_id)).Nodup ∧
    (∀ id, id ∈ reached.accepted_cue_ids ↔ id ∈ reached.accepted_cues.map (·.cue_id)) ∧
    (∀ cue ∈ reached.accepted_cues, cue.cue_id ∉ reached.active_streams) ∧
    reached.accepted_cues.map (·.sequence) = List.range' 1 reached.accepted_cues.length ∧
    (∀ cue ∈ reached.accepted_cues, Tiles cue.chunks cue.sample_count ∧
      cue.sample_count = cue.accepted_frames ∧
      cue.sample_count ≤ MAX_TRANSLATED_PCM_SAMPLES) ∧
    (∀ id stream, reached.active_streams.lookup id = some stream → stream.cue_id = id ∧
      Tiles stream.chunks stream.samples.length ∧
      stream.samples.length = stream.accepted_frames ∧
      stream.samples.length ≤ MAX_TRANSLATED_PCM_SAMPLES) := by
  intro reached
  have h : Accepted (books reached) :=
    run_keeps (step digest) (fun authority => Accepted (books authority))
      (fun _ op hkept => hkept.step digest op) (make_books identity outside) ops
  refine ⟨h.distinct, h.ids, fun cue hin hactive => ?_, h.sequence, fun cue hin => ?_,
    fun id stream hstream => ?_⟩
  · exact h.apart _ hactive ((h.ids _).mpr (List.mem_map_of_mem hin))
  · exact ⟨(h.cues cue hin).tiles, (h.cues cue hin).frames.symm, (h.cues cue hin).bounded⟩
  · have hstreaming := h.streams id stream hstream
    exact ⟨hstreaming.cue, hstreaming.whole.tiles, hstreaming.whole.frames.symm,
      hstreaming.whole.bounded⟩

/-- A stream of three samples in two chunks. -/
example :
    let owner : BridgeTranslationSinkOwner := ⟨"session", "bridge", 3, "bridge:session:3", "hda", 17⟩
    let outside : Outside := ⟨5, 6, 7, .written, .written, .written⟩
    let write (samples : List Int16) : TranslatedWrite :=
      ⟨"cue", "response", "request", samples, 24000, 1, samples.length, 4⟩
    let reached := run (step fun _ => "") (make () outside).1
      [.accept_stream_write (write [1, 2]) 0 .start owner outside,
        .accept_stream_write (write [3]) 1 .chunk owner outside,
        .accept_stream_write (write []) 2 .end owner outside]
    reached.accepted_cues.map (fun cue => cue.chunks.map fun chunk =>
      (chunk.chunk_index, chunk.sample_offset, chunk.sample_count)) = [[(0, 0, 2), (1, 2, 1)]] := by
  decide +kernel

end omni_translate.translated_pcm_authority

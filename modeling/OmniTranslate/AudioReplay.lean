-- Hearing an archived cue again. The chunks of all cues are packed into files of
-- thirty seconds, and a file's row keeps one reference for each cue. So a cue is
-- heard as it was archived just where, in each of these stretches of thirty
-- seconds, no other cue lies between two parts of it.
import OmniTranslate.AudioArchive
import OmniTranslate.AudioRows
import OmniTranslate.Stretches

namespace omni_translate.history

open calls maps runs stretches
open history_playback (HistoryAudioTrack)

variable {σ : Type}

/-! ## The worker between gaps -/

/-- What the worker takes up: a chunk, or an operation on the archive with the files that it fails to remove. -/
inductive ArchiveStep (σ : Type)
  | append_audio (io : Nat → FlushIo) (audio : QueuedAudio σ)
  | repository (op : Op) (kept : String → Bool)

/-- The samples that a step archives, each with its cue. -/
def ArchiveStep.archived : ArchiveStep σ → List (String × σ)
  | .append_audio _ audio =>
    match audio.cue_id with
    | none => []
    | some cue_id => audio.samples.map fun x => (cue_id, x)
  | .repository _ _ => []

def archived (steps : List (ArchiveStep σ)) : List (String × σ) := steps.flatMap ArchiveStep.archived

/-- The key of translated audio. -/
def translated_key (session_id : String) (sample_rate_hz gap_epoch : Nat) : AudioAccumulatorKey where
  session_id := session_id
  track := .Translated
  sample_rate_hz := sample_rate_hz
  gap_epoch := gap_epoch

namespace ArchiveWorker

def step (w : ArchiveWorker σ) : ArchiveStep σ → ArchiveWorker σ
  | .append_audio io audio => (w.append_audio io audio).2
  | .repository op kept => { w with repository := w.repository.step op }.sweep kept

def collected (key : AudioAccumulatorKey) (w : ArchiveWorker σ) : Nat :=
  ((w.audio.lookup key).map (·.samples.length)).getD 0

/-- A sample of the cue was collected. -/
def collects (cue_id : String) (key : AudioAccumulatorKey) (w : ArchiveWorker σ) : Bool :=
  (((w.audio.lookup key).map (·.cue_spans)).getD []).any fun span => span.cue_id = cue_id

/-- It ended without an error, and no gap was counted. -/
def Smooth (session_id : String) (w : ArchiveWorker σ) (ended : Except String Unit × ArchiveWorker σ) : Prop :=
  ended.1.isOk = true ∧ ended.2.repository.gap_count session_id = w.repository.gap_count session_id

instance (session_id : String) (w : ArchiveWorker σ) (ended : Except String Unit × ArchiveWorker σ) :
    Decidable (w.Smooth session_id ended) := inferInstanceAs (Decidable (_ ∧ _))

/-- A chunk of translated audio is taken without an error or a gap, and where it fills a file with samples of the
cue the cue has its row. -/
structure TakesChunk (cue_id : String) (key : AudioAccumulatorKey) (w : ArchiveWorker σ) (io : Nat → FlushIo)
    (audio : QueuedAudio σ) : Prop where
  same_key : audio.key = key
  filled : audio.samples.length ≠ 0
  cue : audio.cue_id.isSome = true
  smooth : w.Smooth key.session_id (w.append_audio io audio)
  row : key.sample_rate_hz * 30 ≤ w.collected key + audio.samples.length →
    (w.collects cue_id key = true ∨ audio.cue_id = some cue_id) →
      (w.repository.find_cue key.session_id cue_id).isSome = true

instance (cue_id : String) (key : AudioAccumulatorKey) (w : ArchiveWorker σ) (io : Nat → FlushIo)
    (audio : QueuedAudio σ) : Decidable (w.TakesChunk cue_id key io audio) :=
  decidable_of_iff (audio.key = key ∧ audio.samples.length ≠ 0 ∧ audio.cue_id.isSome = true ∧
      w.Smooth key.session_id (w.append_audio io audio) ∧
      (key.sample_rate_hz * 30 ≤ w.collected key + audio.samples.length →
        (w.collects cue_id key = true ∨ audio.cue_id = some cue_id) →
          (w.repository.find_cue key.session_id cue_id).isSome = true))
    ⟨fun h => ⟨h.1, h.2.1, h.2.2.1, h.2.2.2.1, h.2.2.2.2⟩, fun h => ⟨h.same_key, h.filled, h.cue, h.smooth, h.row⟩⟩

/-- Chunks are taken, and the operations between them leave the session and the cue alone. -/
def Takes (cue_id : String) (key : AudioAccumulatorKey) (w : ArchiveWorker σ) : ArchiveStep σ → Prop
  | .append_audio io audio => w.TakesChunk cue_id key io audio
  | .repository op _ => Database.Harmless key.session_id cue_id op

instance (cue_id : String) (key : AudioAccumulatorKey) (w : ArchiveWorker σ) (s : ArchiveStep σ) :
    Decidable (w.Takes cue_id key s) := by
  cases s <;> unfold Takes <;> infer_instance

/-- The rest of the session's audio is flushed without an error or a gap, when the cue has its row. -/
structure Flushes (cue_id : String) (key : AudioAccumulatorKey) (hash : KeyOrder) (io : AudioAccumulatorKey → FlushIo)
    (w : ArchiveWorker σ) : Prop where
  smooth : w.Smooth key.session_id (w.flush_session_audio hash io key.session_id)
  row : w.collects cue_id key = true → (w.repository.find_cue key.session_id cue_id).isSome = true

end ArchiveWorker

/-! ## Gaps are only ever counted -/

namespace ArchiveWorker

open Database

variable {session_id : String} {w : ArchiveWorker σ}

/-- The session goes on, and no gap that was counted is forgotten. -/
def Counts (session_id : String) (db db' : Database) : Prop :=
  db'.Goes session_id ∧ db.gap_count session_id ≤ db'.gap_count session_id

theorem counts_store (h : w.repository.Goes session_id) (io : FlushIo) {key : AudioAccumulatorKey}
    (hkey : key.session_id = session_id) (accumulator : AudioAccumulator σ) (sequence : Int) :
    Counts session_id w.repository (w.store_segment io key accumulator sequence).2.repository := by
  rcases store_segment_cases w io key accumulator sequence with ⟨_, _, heq⟩ | ⟨_, repository, hinsert, heq⟩
  · rw [heq, hkey]
    exact ⟨h.mark.1, h.mark.2 ▸ Nat.le_succ _⟩
  · obtain ⟨hgoes, hgaps⟩ := h.insert hinsert
    obtain ⟨hgoes', hgaps'⟩ := hgoes.retention io.now_ms io.retention_footprint io.progress
    rw [heq]
    exact ⟨hgoes', (hgaps'.trans hgaps).ge⟩

theorem counts_flush (h : w.repository.Goes session_id) (io : FlushIo) {key : AudioAccumulatorKey}
    (hkey : key.session_id = session_id) :
    Counts session_id w.repository (w.flush_audio_key io key).2.repository := by
  rcases flush_audio_key_cases w io key with ⟨-, heq⟩ | ⟨accumulator, -, ⟨-, heq⟩ | ⟨_, heq⟩ | heq | ⟨-, heq⟩⟩ <;>
    rw [heq]
  · exact ⟨h, Nat.le_refl _⟩
  · exact ⟨h, Nat.le_refl _⟩
  · exact ⟨h, Nat.le_refl _⟩
  · rw [hkey]
    exact ⟨h.mark.1, h.mark.2 ▸ Nat.le_succ _⟩
  · exact @counts_store _ session_id { w with audio := w.audio.erase key } h io key hkey accumulator _

theorem counts_append {audio : QueuedAudio σ} (hkey : audio.session_id = session_id) (rounds : Nat) (io : Nat → FlushIo)
    (consumed : Nat) (h : w.repository.Goes session_id) :
    Counts session_id w.repository (append_loop audio rounds io consumed w).2.repository := by
  induction rounds generalizing io consumed w with
  | zero => exact ⟨h, Nat.le_refl _⟩
  | succ rounds ih =>
    have hflush := @counts_flush _ session_id { w with audio := w.audio.insert audio.key (w.grown audio consumed) } h (io 0)
      audio.key hkey
    unfold append_loop
    dsimp only
    split
    · exact ⟨h, Nat.le_refl _⟩
    · split
      · split
        · exact hflush
        · obtain ⟨hgoes, hgaps⟩ := ih (fun n => io (n + 1)) (consumed + w.room audio consumed) hflush.1
          exact ⟨hgoes, hflush.2.trans hgaps⟩
      · exact ih io _ h

/-! ## What is stored -/

/-- The span that a stretch becomes. -/
def span_of (mark : String × Nat × Nat) : AudioCueSpan where
  cue_id := mark.1
  offset_samples := mark.2.1
  length_samples := mark.2.2

theorem extend_marks (g : Stretches String σ) (cue_id : String) (samples : List σ) :
    extend_spans ((marks 0 g).map span_of) cue_id (words g).length samples.length =
      (marks 0 (push g cue_id samples)).map span_of := by
  have hsnoc (before : Stretches String σ) (s : String × List σ) :
      marks 0 (before ++ [s]) = marks 0 before ++ [(s.1, (words before).length, s.2.length)] := by
    simp [marks_append, marks]
  unfold extend_spans
  rcases push_cases g cue_id samples with ⟨before, _, rfl, hpush⟩ | ⟨hlast, hpush⟩ <;> rw [hpush]
  · simp [hsnoc, span_of, words]
  · rcases List.eq_nil_or_concat g with rfl | ⟨before, last, rfl⟩
    · simp [marks, span_of, words]
    · rw [List.concat_eq_append] at hlast ⊢
      have hother : last.1 ≠ cue_id := hlast last (by simp)
      rw [hsnoc (before ++ [last]), hsnoc before]
      simp [span_of, hother]

/-- How a segment of these stretches is read for a cue. -/
def read_back (key : AudioAccumulatorKey) (cue_id : String) (sequence : Nat) (g : Stretches String σ) :
    List AudioCueSegmentRead :=
  (((marks 0 g).filter fun m => m.1 = cue_id).getLast?.map fun m =>
    { sequence := sequence
      sample_rate_hz := key.sample_rate_hz
      encrypted_path := segment_path key.session_id key.track sequence
      offset_samples := m.2.1
      length_samples := m.2.2 }).toList

theorem read_of_spans {key : AudioAccumulatorKey} {accumulator : AudioAccumulator σ} {g : Stretches String σ}
    (hspans : accumulator.cue_spans = (marks 0 g).map span_of) (cue_id : String) (sequence : Nat) (bytes : Int) :
    (((segment_write key accumulator sequence bytes).cue_refs.filter fun span => span.cue_id = cue_id).getLast?.map
      (read_of (segment_write key accumulator sequence bytes))).toList = read_back key cue_id sequence g := by
  unfold segment_write read_back
  rw [hspans, List.map_map, List.filter_map, List.getLast?_map, Option.map_map]
  rfl

/-- The segments of the key, in order, each with its file and its row, and what they give for the cue. -/
structure Stored (cue_id : String) (key : AudioAccumulatorKey) (blocks : List (Stretches String σ))
    (w : ArchiveWorker σ) : Prop where
  goes : w.repository.Goes key.session_id
  apart : ∀ b ∈ blocks, Apart b ∧ (words b).length ≤ key.sample_rate_hz * 30
  rows : (w.repository.track_rows key.session_id key.track.as_str).map (fun a => (a.sequence, a.encrypted_path)) =
    (List.range blocks.length).map fun k => (((k + 1 : Nat) : Int), segment_path key.session_id key.track (k + 1 : Nat))
  files : ∀ k b, blocks[k]? = some b → w.files.lookup (segment_path key.session_id key.track (k + 1 : Nat)) =
    some ⟨segment_identity key.session_id key.track (k + 1 : Nat), key.sample_rate_hz, words b⟩
  reads : w.repository.cue_reads key.session_id cue_id key.track.as_str =
    (blocks.zipIdx 1).flatMap fun b => read_back key cue_id b.2 b.1
  found : ∀ b ∈ blocks, (b.filter fun s => s.1 = cue_id) ≠ [] →
    (w.repository.find_cue key.session_id cue_id).isSome = true

variable {cue_id : String} {key : AudioAccumulatorKey} {blocks : List (Stretches String σ)} {g : Stretches String σ}

theorem Stored.unmoved (h : w.Stored cue_id key blocks) {repository : Database} (hconsistent : repository.Consistent)
    (hunmoved : Unmoved key.session_id cue_id key.track.as_str w.repository repository) :
    Stored cue_id key blocks { w with repository } where
  goes := ⟨hconsistent, hunmoved.live⟩
  apart := h.apart
  rows := by
    rw [hunmoved.rows]
    exact h.rows
  files := h.files
  reads := hunmoved.reads.trans h.reads
  found b hb hcue := hunmoved.found (h.found b hb hcue)

/-- The files of a session that goes on are referred to. -/
theorem Stored.sweep (h : w.Stored cue_id key blocks) (kept : String → Bool) :
    Stored cue_id key blocks (w.sweep kept) := by
  refine ⟨h.goes, h.apart, h.rows, fun k b hb => ?_, h.reads, h.found⟩
  have hk : k < blocks.length := (List.getElem?_eq_some_iff.mp hb).1
  have hrow : (((k + 1 : Nat) : Int), segment_path key.session_id key.track (k + 1 : Nat)) ∈
      (w.repository.track_rows key.session_id key.track.as_str).map fun a => (a.sequence, a.encrypted_path) := by
    rw [h.rows]
    exact List.mem_map_of_mem (List.mem_range.mpr hk)
  obtain ⟨a, ha, hpath⟩ := List.mem_map.mp hrow
  obtain ⟨hin, hmine⟩ := List.mem_filter.mp ha
  obtain ⟨s, hs, hid, -, hstatus⟩ := h.goes.live
  have hkept : (w.repository.segments.any fun a =>
      a.encrypted_path = segment_path key.session_id key.track (k + 1 : Nat) &&
        w.repository.sessions.any fun s => s.id = a.session_id && s.status ≠ .deleting) = true := by
    simp only [List.any_eq_true, Bool.and_eq_true, decide_eq_true_eq]
    exact ⟨a, hin, (Prod.mk.inj hpath).2, s, hs, hid.trans (of_decide_eq_true hmine).1.symm, hstatus⟩
  unfold ArchiveWorker.sweep
  dsimp only
  rw [lookup_retain, hkept, Bool.true_or, h.files k b hb]
  rfl

theorem next_of_range (n : Nat) :
    next_sequence ((List.range n).map fun k => ((k + 1 : Nat) : Int)) = ((n + 1 : Nat) : Int) := by
  unfold next_sequence
  cases n with
  | zero => rfl
  | succ n =>
    have hmax : ((List.range (n + 1)).map fun k => ((k + 1 : Nat) : Int)).max? = some ((n + 1 : Nat) : Int) := by
      refine List.max?_eq_some_iff.mpr ⟨List.mem_map_of_mem (List.mem_range.mpr (Nat.lt_succ_self n)), fun k hk => ?_⟩
      obtain ⟨_, hm, rfl⟩ := List.mem_map.mp hk
      have := List.mem_range.mp hm
      omega
    rw [hmax]
    simp

theorem Stored.next (h : w.Stored cue_id key blocks) :
    w.repository.next_audio_sequence key.session_id key.track.as_str = ((blocks.length + 1 : Nat) : Int) := by
  have hsequences : (w.repository.track_rows key.session_id key.track.as_str).map (·.sequence) =
      (List.range blocks.length).map fun k => ((k + 1 : Nat) : Int) := by
    have hfirst := congrArg (List.map Prod.fst) h.rows
    rwa [List.map_map, List.map_map] at hfirst
  exact (congrArg next_sequence hsequences).trans (next_of_range _)

theorem Stored.insert (h : w.Stored cue_id key blocks) {accumulator : AudioAccumulator σ}
    (hwords : accumulator.samples = words g) (hspans : accumulator.cue_spans = (marks 0 g).map span_of) (hg : g ≠ [])
    (hapart : Apart g) (hlength : (words g).length ≤ key.sample_rate_hz * 30)
    (hrow : (g.filter fun s => s.1 = cue_id) ≠ [] → (w.repository.find_cue key.session_id cue_id).isSome = true)
    {bytes : Int} {repository : Database}
    (hinsert : w.repository.insert_audio_segment (segment_write key accumulator (blocks.length + 1 : Nat) bytes) =
      some repository) :
    Stored cue_id key (blocks ++ [g]) { w with
      repository
      files := w.files.insert (segment_path key.session_id key.track (blocks.length + 1 : Nat))
        ⟨segment_identity key.session_id key.track (blocks.length + 1 : Nat), key.sample_rate_hz, accumulator.samples⟩ } := by
  have hrefs : (segment_write key accumulator (blocks.length + 1 : Nat) bytes).cue_refs ≠ [] := by
    obtain ⟨s, _, rfl⟩ := List.exists_cons_of_ne_nil hg
    simp [segment_write, hspans, marks]
  have hextended := @Extended.of_insert w.repository repository _ cue_id h.goes.consistent h.goes.live hrefs hinsert
  refine ⟨(h.goes.insert hinsert).1, ?_, ?_, fun k b hb => ?_, ?_, ?_⟩
  · exact List.forall_mem_append.mpr ⟨h.apart, by simpa using ⟨hapart, hlength⟩⟩
  · obtain ⟨row, hsequence, hpath, hrows⟩ := hextended.rows
    have hkept : repository.track_rows key.session_id key.track.as_str =
        w.repository.track_rows key.session_id key.track.as_str ++ [row] := hrows
    rw [hkept, List.map_append, h.rows, List.length_append, List.length_singleton, List.range_succ, List.map_append,
      List.map_singleton, List.map_singleton, hsequence, hpath]
    rfl
  · rcases Nat.lt_trichotomy k blocks.length with hlt | rfl | _
    · have hne : segment_path key.session_id key.track (k + 1 : Nat) ≠
          segment_path key.session_id key.track (blocks.length + 1 : Nat) := by
        intro heq
        have := segment_path_injective heq
        omega
      rw [AList.lookup_insert_ne hne]
      rw [List.getElem?_append_left hlt] at hb
      exact h.files k b hb
    · rw [List.getElem?_concat_length, Option.some.injEq] at hb
      rw [AList.lookup_insert, hwords, hb]
    · rw [List.getElem?_eq_none (by rw [List.length_append, List.length_singleton]; omega)] at hb
      cases hb
  · have hread := @read_of_spans σ key accumulator g hspans cue_id (blocks.length + 1) bytes
    rw [List.zipIdx_append, List.flatMap_append, ← h.reads]
    simp only [List.zipIdx_singleton, List.flatMap_singleton, Nat.add_comm 1]
    cases hfound : w.repository.find_cue key.session_id cue_id with
    | some row =>
      have hreads := hextended.reads (hfound ▸ rfl)
      exact hreads.trans (congrArg _ hread)
    | none =>
      have hnothing : (g.filter fun s => s.1 = cue_id) = [] := by
        by_contra hsome
        exact absurd (hrow hsome) (by rw [hfound]; exact Bool.false_ne_true)
      have hold : w.repository.cue_reads key.session_id cue_id key.track.as_str = [] := by
        unfold cue_reads
        rw [hfound]
      have hnone : read_back key cue_id (blocks.length + 1) g = [] := by
        unfold read_back
        rw [(marks_eq_nil 0 g).mpr hnothing]
        rfl
      rw [hold, hnone]
      exact hextended.silent hfound
  · refine List.forall_mem_append.mpr ⟨fun b hb hcue => ?_, fun b hb hcue => ?_⟩
    · exact hextended.found ▸ h.found b hb hcue
    · rw [List.mem_singleton.mp hb] at hcue
      exact hextended.found ▸ hrow hcue

/-! ## What is heard -/

/-- A segment gives one read for a cue at most, of samples that lie in it. -/
theorem read_back_cases (hapart : Apart g) (sequence : Nat) :
    (read_back key cue_id sequence g = [] ∧ newest cue_id g = []) ∨
      ∃ place, newest cue_id g ≠ [] ∧ place + (newest cue_id g).length ≤ (words g).length ∧
        ((words g).drop place).take (newest cue_id g).length = newest cue_id g ∧
        read_back key cue_id sequence g = [{
          sequence := sequence
          sample_rate_hz := key.sample_rate_hz
          encrypted_path := segment_path key.session_id key.track sequence
          offset_samples := place
          length_samples := (newest cue_id g).length }] := by
  unfold read_back
  rcases newest_mark cue_id g with ⟨hnone, hnewest⟩ | ⟨place, hlast, hle, htake⟩
  · rw [hnone]
    exact .inl ⟨rfl, hnewest⟩
  · refine .inr ⟨place, hapart.newest_ne_nil fun hnothing => ?_, hle, htake, by rw [hlast]; rfl⟩
    rw [(marks_eq_nil 0 g).mpr hnothing] at hlast
    cases hlast

theorem reads_in_order (hapart : ∀ b ∈ blocks, Apart b) (first : Nat) :
    (∀ read ∈ (blocks.zipIdx first).flatMap fun b => read_back key cue_id b.2 b.1, (first : Int) ≤ read.sequence) ∧
      ((blocks.zipIdx first).flatMap fun b => read_back key cue_id b.2 b.1).Pairwise read_before := by
  induction blocks generalizing first with
  | nil => exact ⟨by simp, .nil⟩
  | cons b blocks ih =>
    obtain ⟨hb, hblocks⟩ := List.forall_mem_cons.mp hapart
    obtain ⟨hlater, hsorted⟩ := ih hblocks (first + 1)
    rw [List.zipIdx_cons, List.flatMap_cons]
    rcases @read_back_cases σ cue_id key b hb first with ⟨hnone, -⟩ | ⟨_, -, -, -, hread⟩
    · rw [hnone, List.nil_append]
      exact ⟨fun read hr => by have := hlater read hr; omega, hsorted⟩
    · rw [hread, List.singleton_append]
      refine ⟨List.forall_mem_cons.mpr ⟨Int.le_refl _, fun read hr => by have := hlater read hr; omega⟩,
        List.pairwise_cons.mpr ⟨fun read hr => .inl ?_, hsorted⟩⟩
      have := hlater read hr
      dsimp only
      omega

theorem mapM_flatMap {α β γ : Type} {l : List α} {f : α → List β} {f' : β → Except String γ} {f'' : α → List γ}
    (h : ∀ a ∈ l, (f a).mapM f' = .ok (f'' a)) : (l.flatMap f).mapM f' = .ok (l.flatMap f'') := by
  induction l with
  | nil => rfl
  | cons a l ih =>
    obtain ⟨ha, hl⟩ := List.forall_mem_cons.mp h
    rw [List.flatMap_cons, List.flatMap_cons, List.mapM_append, ha, ih hl]
    rfl

/-- The piece of a cue that a segment gives. -/
def heard_of (key : AudioAccumulatorKey) (cue_id : String) (g : Stretches String σ) : List (DecodedAudioPiece σ) :=
  if (newest cue_id g).isEmpty then [] else [{ sample_rate_hz := key.sample_rate_hz, samples := newest cue_id g }]

theorem samples_heard (l : List (Stretches String σ)) :
    (l.flatMap (heard_of key cue_id)).flatMap (·.samples) = l.flatMap (newest cue_id) := by
  rw [List.flatMap_assoc]
  refine List.flatMap_congr fun _ _ => ?_
  unfold heard_of
  split
  · next hempty => exact (List.isEmpty_iff.mp hempty).symm
  · simp

/-- A segment loads for a cue as the last stretch of it. -/
theorem Stored.load_block (h : w.Stored cue_id key blocks) (hu32 : key.sample_rate_hz < 2 ^ 32) {k : Nat}
    (hk : blocks[k]? = some g) :
    (read_back key cue_id (k + 1) g).mapM (load_piece w.files key.session_id key.track) = .ok (heard_of key cue_id g) := by
  obtain ⟨hapart, _⟩ := h.apart g (List.mem_of_getElem? hk)
  unfold heard_of
  rcases @read_back_cases σ cue_id key g hapart (k + 1) with ⟨hnone, hnewest⟩ | ⟨place, hne, hle, htake, hread⟩
  · rw [hnone, hnewest]
    rfl
  · rw [hread, if_neg (by simpa using hne)]
    have hstop : place + (newest cue_id g).length ≤ USIZE_MAX := by
      unfold USIZE_MAX
      omega
    have hpiece : load_piece w.files key.session_id key.track
        { sequence := (k + 1 : Nat)
          sample_rate_hz := key.sample_rate_hz
          encrypted_path := segment_path key.session_id key.track (k + 1 : Nat)
          offset_samples := place
          length_samples := (newest cue_id g).length } =
        .ok { sample_rate_hz := key.sample_rate_hz, samples := newest cue_id g } := by
      unfold load_piece decrypt_flac_segment range
      rw [h.files k g hk]
      simp only [expect, require, ok_bind, if_pos, Int.toNat_natCast, pure_bind, if_pos hstop, Nat.le_add_right,
        hle, and_self, Nat.add_sub_cancel_left, htake]
      rfl
    rw [List.mapM_cons, hpiece]
    rfl

/-- The pieces are the last stretches of the cue, one of each segment that has it. -/
theorem Stored.heard (h : w.Stored cue_id key blocks) (hrate : 0 < key.sample_rate_hz)
    (hu32 : key.sample_rate_hz < 2 ^ 32) :
    ∃ pieces, load_cue_audio_from_repository w.repository w.files key.session_id cue_id key.track = .ok pieces ∧
      pieces.flatMap (·.samples) = blocks.flatMap (newest cue_id) := by
  have hapart : ∀ b ∈ blocks, Apart b := fun b hb => (h.apart b hb).1
  have hreads : w.repository.cue_audio_segments key.session_id cue_id key.track.as_str =
      .ok ((blocks.zipIdx 1).flatMap fun b => read_back key cue_id b.2 b.1) := by
    unfold cue_audio_segments
    dsimp only
    rw [h.goes.consistent.linked.cue_rows, h.reads, (reads_in_order hapart 1).2.insertionSort_eq]
    have hvalid : (((blocks.zipIdx 1).flatMap fun b => read_back key cue_id b.2 b.1).find? fun read => !read.is_valid) =
        none := by
      refine List.find?_eq_none.mpr fun read hr => ?_
      obtain ⟨b, hb, hr⟩ := List.mem_flatMap.mp hr
      have hin : b.1 ∈ blocks := List.fst_mem_of_mem_zipIdx hb
      rcases @read_back_cases σ cue_id key b.1 (hapart b.1 hin) b.2 with ⟨hnone, -⟩ | ⟨_, hne, -, -, hread⟩
      · rw [hnone] at hr
        cases hr
      · rw [hread, List.mem_singleton] at hr
        have hpos := List.length_pos_iff.mpr hne
        rw [hr]
        simp [AudioCueSegmentRead.is_valid, hrate.ne', hpos]
    rw [hvalid]
  have hload : ((blocks.zipIdx 1).flatMap fun b => read_back key cue_id b.2 b.1).mapM
      (load_piece w.files key.session_id key.track) =
        .ok ((blocks.zipIdx 1).flatMap fun b => heard_of key cue_id b.1) := by
    refine mapM_flatMap fun b hb => ?_
    obtain ⟨k, _, hb⟩ := List.mem_iff_getElem.mp hb
    rw [List.getElem_zipIdx] at hb
    subst hb
    rw [Nat.add_comm 1 k]
    exact h.load_block hu32 (List.getElem?_eq_getElem _)
  refine ⟨blocks.flatMap (heard_of key cue_id), ?_, samples_heard blocks⟩
  unfold load_cue_audio_from_repository
  rw [hreads, ok_bind, hload]
  rw [← List.flatMap_map Prod.fst, List.zipIdx_map_fst]

/-! ## Collecting and storing -/

/-- A flush that ends well stores what was collected. -/
theorem Stored.flush (h : w.Stored cue_id key blocks) {io : FlushIo} {accumulator : AudioAccumulator σ}
    (hfound : w.audio.lookup key = some accumulator)
    (hwords : accumulator.samples = words g) (hspans : accumulator.cue_spans = (marks 0 g).map span_of) (hg : g ≠ [])
    (hapart : Apart g) (hlength : (words g).length ≤ key.sample_rate_hz * 30)
    (hrow : (g.filter fun s => s.1 = cue_id) ≠ [] → (w.repository.find_cue key.session_id cue_id).isSome = true)
    (hsmooth : w.Smooth key.session_id (w.flush_audio_key io key)) :
    (w.flush_audio_key io key).2.Stored cue_id key (blocks ++ [g]) ∧
      (w.flush_audio_key io key).2.audio = w.audio.erase key ∧
      ((w.repository.find_cue key.session_id cue_id).isSome = true →
        ((w.flush_audio_key io key).2.repository.find_cue key.session_id cue_id).isSome = true) := by
  have hheld : words g ≠ [] := by
    obtain ⟨s, rest, rfl⟩ := List.exists_cons_of_ne_nil hg
    simp [words_cons, hapart.held s List.mem_cons_self]
  obtain ⟨hok, hgaps⟩ := hsmooth
  rcases flush_audio_key_cases w io key with ⟨hnone, -⟩ | ⟨other, hother, hcase⟩
  · rw [hnone] at hfound
    cases hfound
  · obtain rfl : accumulator = other := Option.some.inj (hfound.symm.trans hother)
    rcases hcase with ⟨hempty, -⟩ | ⟨error, heq⟩ | heq | ⟨-, heq⟩
    · exact absurd (hwords.symm.trans hempty) hheld
    · rw [heq] at hok
      cases hok
    · rw [heq] at hgaps
      have hmarked : (w.repository.mark_archive_gap key.session_id).gap_count key.session_id =
          w.repository.gap_count key.session_id := hgaps
      have := h.goes.mark.2
      omega
    · rw [h.next] at heq
      rw [heq] at hok ⊢
      have htaken : Stored cue_id key blocks { w with audio := w.audio.erase key } :=
        ⟨h.goes, h.apart, h.rows, h.files, h.reads, h.found⟩
      rcases store_segment_cases { w with audio := w.audio.erase key } io key accumulator (blocks.length + 1 : Nat) with
        ⟨error, files, heq'⟩ | ⟨bytes, repository, hinsert, heq'⟩
      · rw [heq'] at hok
        cases hok
      · have hstored := htaken.insert hwords hspans hg hapart hlength hrow hinsert
        have hunmoved := (@Unmoved.removal repository key.session_id cue_id key.track.as_str hstored.goes.consistent
          hstored.goes.live io.progress.first (fun _ => true) io.now_ms io.retention_footprint io.progress).2
        rw [heq']
        refine ⟨(hstored.unmoved (hstored.goes.consistent.step (.run_retention _ _ _)) hunmoved).sweep io.kept, rfl,
          fun hrow => hunmoved.found ?_⟩
        have hrefs : (segment_write key accumulator (blocks.length + 1 : Nat) bytes).cue_refs ≠ [] := by
          obtain ⟨s, rest, rfl⟩ := List.exists_cons_of_ne_nil hg
          simp [segment_write, hspans, marks]
        exact (@Extended.of_insert w.repository repository _ cue_id h.goes.consistent h.goes.live hrefs hinsert).found ▸ hrow

/-- Full segments are stored, and what came after them is collected. -/
structure Packed (cue_id : String) (key : AudioAccumulatorKey) (full : List (Stretches String σ))
    (last : Stretches String σ) (w : ArchiveWorker σ) : Prop where
  stored : w.Stored cue_id key full
  all_full : ∀ b ∈ full, (words b).length = key.sample_rate_hz * 30
  apart : Apart last
  short : (words last).length < key.sample_rate_hz * 30
  idle : last = [] → w.audio.lookup key = none
  collecting : last ≠ [] → ∃ accumulator, w.audio.lookup key = some accumulator ∧ accumulator.samples = words last ∧
    accumulator.cue_spans = (marks 0 last).map span_of
  alone : ∀ other, other.session_id = key.session_id → other ≠ key → w.audio.lookup other = none

/-- The samples, each with its cue. -/
def packed (full : List (Stretches String σ)) (last : Stretches String σ) : List (String × σ) :=
  full.flatMap flat ++ flat last

variable {full : List (Stretches String σ)} {last : Stretches String σ} {audio : QueuedAudio σ} {id : String}

theorem Packed.opened (h : w.Packed cue_id key full last) (hkey : audio.key = key) (consumed : Nat) :
    (w.opened audio consumed).samples = words last ∧ (w.opened audio consumed).cue_spans = (marks 0 last).map span_of := by
  unfold ArchiveWorker.opened
  rw [hkey]
  by_cases hlast : last = []
  · rw [h.idle hlast, hlast]
    exact ⟨rfl, rfl⟩
  · obtain ⟨_, hfound, hwords, hspans⟩ := h.collecting hlast
    rw [hfound]
    exact ⟨hwords, hspans⟩

/-- What is collected grows by a piece of the chunk. -/
theorem Packed.grown (h : w.Packed cue_id key full last) (hkey : audio.key = key) (hcue : audio.cue_id = some id)
    (consumed : Nat) {piece : List σ} (hpiece : piece = (audio.samples.drop consumed).take (w.room audio consumed)) :
    (w.grown audio consumed).samples = words (push last id piece) ∧
      (w.grown audio consumed).cue_spans = (marks 0 (push last id piece)).map span_of := by
  obtain ⟨hwords, hspans⟩ := h.opened hkey consumed
  unfold ArchiveWorker.grown AudioAccumulator.take
  rw [hcue, ← hpiece, hwords, hspans, words_push]
  exact ⟨rfl, extend_marks last id piece⟩

/-- The state of the worker in which a round of the loop leaves its chunk. -/
def after_round (audio : QueuedAudio σ) (consumed : Nat) (w : ArchiveWorker σ) : ArchiveWorker σ :=
  { w with audio := w.audio.insert audio.key (w.grown audio consumed) }

/-- A round takes a sample at least, and what is left fits. -/
theorem Packed.room (h : w.Packed cue_id audio.key full last) {consumed : Nat} (hleft : consumed < audio.samples.length) :
    0 < w.room audio consumed ∧ w.room audio consumed ≤ audio.samples.length - consumed ∧
      (words last).length + w.room audio consumed ≤ audio.sample_rate_hz * 30 := by
  have hshort : (words last).length < audio.sample_rate_hz * 30 := h.short
  unfold ArchiveWorker.room
  rw [(h.opened rfl consumed).1]
  omega

section

variable (h : w.Packed cue_id audio.key full last) (hcue : audio.cue_id = some id) {consumed : Nat}
  (hleft : consumed < audio.samples.length) {piece : List σ}
  (hpiece : piece = (audio.samples.drop consumed).take (w.room audio consumed))

include h hleft hpiece

theorem Packed.piece_of_chunk : piece.length = w.room audio consumed ∧ piece ≠ [] ∧
    audio.samples.drop consumed = piece ++ audio.samples.drop (consumed + w.room audio consumed) := by
  obtain ⟨hpos, hle, -⟩ := h.room hleft
  have hlength : piece.length = w.room audio consumed := by
    rw [hpiece, List.length_take, List.length_drop, Nat.min_eq_left hle]
  refine ⟨hlength, List.length_pos_iff.mp (hlength ▸ hpos), ?_⟩
  rw [hpiece, ← List.drop_drop, List.take_append_drop]

include hcue

theorem Packed.part (hpart : (w.grown audio consumed).samples.length ≠ audio.sample_rate_hz * 30) :
    (after_round audio consumed w).Packed cue_id audio.key full (push last id piece) := by
  obtain ⟨hlength, hne, -⟩ := h.piece_of_chunk hleft hpiece
  obtain ⟨hwords, hspans⟩ := h.grown rfl hcue consumed hpiece
  have hfits := (h.room hleft).2.2
  refine ⟨⟨h.stored.goes, h.stored.apart, h.stored.rows, h.stored.files, h.stored.reads, h.stored.found⟩, h.all_full,
    h.apart.push hne, ?_, fun hnil => absurd hnil push_ne_nil, fun _ => ?_, fun other hother hkey => ?_⟩
  · rw [hwords, words_push, List.length_append, hlength] at hpart
    rw [words_push, List.length_append, hlength]
    exact Nat.lt_of_le_of_ne hfits hpart
  · exact ⟨w.grown audio consumed, AList.lookup_insert _, hwords, hspans⟩
  · exact (AList.lookup_insert_ne hkey).trans (h.alone other hother hkey)

theorem Packed.fill (hfull : (w.grown audio consumed).samples.length = audio.sample_rate_hz * 30) {io : FlushIo}
    (hrow : ((last.filter fun s => s.1 = cue_id) ≠ [] ∨ id = cue_id) →
      (w.repository.find_cue audio.session_id cue_id).isSome = true)
    (hsmooth : (after_round audio consumed w).Smooth audio.session_id
      ((after_round audio consumed w).flush_audio_key io audio.key)) :
    ((after_round audio consumed w).flush_audio_key io audio.key).2.Packed cue_id audio.key
        (full ++ [push last id piece]) [] ∧
      ((w.repository.find_cue audio.session_id cue_id).isSome = true →
        (((after_round audio consumed w).flush_audio_key io audio.key).2.repository.find_cue audio.session_id
          cue_id).isSome = true) := by
  obtain ⟨_, hne, -⟩ := h.piece_of_chunk hleft hpiece
  obtain ⟨hwords, hspans⟩ := h.grown rfl hcue consumed hpiece
  have hsize : (words (push last id piece)).length = audio.key.sample_rate_hz * 30 := by
    rw [← hwords]
    exact hfull
  have hstored : (after_round audio consumed w).Stored cue_id audio.key full :=
    ⟨h.stored.goes, h.stored.apart, h.stored.rows, h.stored.files, h.stored.reads, h.stored.found⟩
  obtain ⟨hflushed, haudio, hfound⟩ := hstored.flush (AList.lookup_insert _) hwords hspans push_ne_nil (h.apart.push hne)
    hsize.le (fun hc => hrow (push_has hc)) hsmooth
  refine ⟨⟨hflushed, List.forall_mem_append.mpr ⟨h.all_full, by simpa using hsize⟩, apart_nil, ?_, fun _ => ?_,
    fun hnil => absurd rfl hnil, fun other hother hkey => ?_⟩, hfound⟩
  · have := h.short
    change 0 < _
    omega
  · rw [haudio]
    exact AList.lookup_erase _ _
  · rw [haudio, AList.lookup_erase_ne hkey]
    exact (AList.lookup_insert_ne hkey).trans (h.alone other hother hkey)

end

theorem append_loop_full (rounds : Nat) (io : Nat → FlushIo) {consumed : Nat} (hleft : ¬ audio.samples.length ≤ consumed)
    (hfull : (w.grown audio consumed).samples.length = audio.sample_rate_hz * 30) :
    append_loop audio (rounds + 1) io consumed w =
      match ((after_round audio consumed w).flush_audio_key (io 0) audio.key).1 with
      | .error error => (.error error, ((after_round audio consumed w).flush_audio_key (io 0) audio.key).2)
      | .ok () => append_loop audio rounds (fun n => io (n + 1)) (consumed + w.room audio consumed)
          ((after_round audio consumed w).flush_audio_key (io 0) audio.key).2 := by
  rw [append_loop, if_neg hleft]
  exact if_pos hfull

/-- A chunk that is taken well is packed behind what was there. -/
theorem Packed.append (hcue : audio.cue_id = some id) (rounds : Nat) {io : Nat → FlushIo} {consumed : Nat}
    (hrounds : audio.samples.length - consumed ≤ rounds) (h : w.Packed cue_id audio.key full last)
    (hrow : audio.sample_rate_hz * 30 ≤ (words last).length + (audio.samples.length - consumed) →
      ((last.filter fun s => s.1 = cue_id) ≠ [] ∨ id = cue_id) →
        (w.repository.find_cue audio.session_id cue_id).isSome = true)
    (hsmooth : w.Smooth audio.session_id (append_loop audio rounds io consumed w)) :
    ∃ full' last', (append_loop audio rounds io consumed w).2.Packed cue_id audio.key full' last' ∧
      packed full' last' = packed full last ++ (audio.samples.drop consumed).map fun x => (id, x) := by
  induction rounds generalizing io consumed w full last with
  | zero =>
    refine ⟨full, last, h, ?_⟩
    rw [List.drop_eq_nil_of_le (by omega)]
    simp
  | succ rounds ih =>
    by_cases hleft : audio.samples.length ≤ consumed
    · refine ⟨full, last, ?_, ?_⟩
      · unfold append_loop
        rw [if_pos hleft]
        exact h
      · rw [List.drop_eq_nil_of_le hleft]
        simp
    · obtain ⟨piece, hpiece⟩ : ∃ piece, piece = (audio.samples.drop consumed).take (w.room audio consumed) := ⟨_, rfl⟩
      have hlt : consumed < audio.samples.length := Nat.lt_of_not_le hleft
      obtain ⟨hlength, _, hdrop⟩ := h.piece_of_chunk hlt hpiece
      obtain ⟨_, _, _⟩ := h.room hlt
      by_cases hfull : (w.grown audio consumed).samples.length = audio.sample_rate_hz * 30
      · rw [append_loop_full rounds io hleft hfull] at hsmooth ⊢
        cases hflushed : ((after_round audio consumed w).flush_audio_key (io 0) audio.key).1 with
        | error error =>
          rw [hflushed] at hsmooth
          cases hsmooth.1
        | ok _ =>
          rw [hflushed] at hsmooth
          -- no gap is counted by the flush, since none is by all of the loop
          have hcounts := @counts_flush _ audio.session_id (after_round audio consumed w) h.stored.goes (io 0) audio.key rfl
          have hlater := @counts_append _ audio.session_id _ audio rfl rounds (fun n => io (n + 1))
            (consumed + w.room audio consumed) hcounts.1
          have hgaps : ((after_round audio consumed w).flush_audio_key (io 0) audio.key).2.repository.gap_count
              audio.session_id = w.repository.gap_count audio.session_id :=
            Nat.le_antisymm (hlater.2.trans hsmooth.2.le) hcounts.2
          have hfill : audio.sample_rate_hz * 30 ≤ (words last).length + (audio.samples.length - consumed) := by
            rw [(h.grown rfl hcue consumed hpiece).1, words_push, List.length_append, hlength] at hfull
            omega
          obtain ⟨hpacked, hfound⟩ := h.fill hcue hlt hpiece hfull (hrow hfill) ⟨by rw [hflushed]; rfl, hgaps⟩
          obtain ⟨full', last', hpacked', heq⟩ := ih (by omega) hpacked
            (fun _ hc => hfound (hrow hfill (.inr (hc.resolve_left fun hnil => hnil rfl))))
            ⟨hsmooth.1, hsmooth.2.trans hgaps.symm⟩
          refine ⟨full', last', hpacked', ?_⟩
          rw [heq, hdrop]
          unfold packed
          simp [flat_nil]
      · have hloop : append_loop audio (rounds + 1) io consumed w =
            append_loop audio rounds io (consumed + w.room audio consumed) (after_round audio consumed w) := by
          rw [append_loop, if_neg hleft]
          exact if_neg hfull
        rw [hloop] at hsmooth ⊢
        have hrow' : audio.sample_rate_hz * 30 ≤
            (words (push last id piece)).length + (audio.samples.length - (consumed + w.room audio consumed)) →
              (((push last id piece).filter fun s => s.1 = cue_id) ≠ [] ∨ id = cue_id) →
                (w.repository.find_cue audio.session_id cue_id).isSome = true := by
          intro hfill hc
          rw [words_push, List.length_append, hlength] at hfill
          refine hrow (by omega) ?_
          rcases hc with hc | hc
          · exact push_has hc
          · exact .inr hc
        obtain ⟨full', last', hpacked, heq⟩ := ih (by omega) (h.part hcue hlt hpiece hfull) hrow' hsmooth
        refine ⟨full', last', hpacked, ?_⟩
        rw [heq, hdrop]
        unfold packed
        rw [flat_push, List.map_append]
        simp only [List.append_assoc]

/-! ## Runs -/

section

variable (h : w.Packed cue_id key full last)

include h

theorem Packed.collects :
    w.collected key = (words last).length ∧
      (w.collects cue_id key = true ↔ (last.filter fun s => s.1 = cue_id) ≠ []) := by
  unfold collected ArchiveWorker.collects
  by_cases hlast : last = []
  · rw [h.idle hlast, hlast]
    exact ⟨rfl, by simp⟩
  · obtain ⟨_, hfound, hwords, hspans⟩ := h.collecting hlast
    have hmarks : ((marks 0 last).filter fun m => m.1 = cue_id) ≠ [] ↔ (last.filter fun s => s.1 = cue_id) ≠ [] :=
      not_congr (marks_eq_nil 0 last)
    rw [hfound, ← hmarks]
    refine ⟨congrArg List.length hwords, ?_⟩
    simp only [Option.map_some, Option.getD_some, hspans, List.any_map, List.any_eq_true, ne_eq,
      List.filter_eq_nil_iff, not_forall, not_not, exists_prop]
    exact Iff.rfl

theorem Packed.step {s : ArchiveStep σ} (hstep : w.Takes cue_id key s) :
    ∃ full' last', (w.step s).Packed cue_id key full' last' ∧ packed full' last' = packed full last ++ s.archived := by
  cases s with
  | append_audio _ audio =>
    obtain ⟨rfl, _, hcue, hsmooth, hrow⟩ := hstep
    obtain ⟨_, hcue⟩ := Option.isSome_iff_exists.mp hcue
    obtain ⟨hcollected, hcollects⟩ := h.collects
    obtain ⟨full', last', hpacked, heq⟩ := h.append hcue audio.samples.length (Nat.sub_le _ _)
      (fun hfill hc => hrow (hcollected ▸ hfill) (hc.imp hcollects.mpr fun hid => hcue.trans (congrArg some hid))) hsmooth
    refine ⟨full', last', hpacked, ?_⟩
    rw [heq, ArchiveStep.archived, hcue]
    rfl
  | repository op kept =>
    have hunmoved := @Unmoved.step w.repository key.session_id cue_id key.track.as_str h.stored.goes.consistent
      h.stored.goes.live op hstep
    have hstored := (h.stored.unmoved (h.stored.goes.consistent.step op) hunmoved).sweep kept
    exact ⟨full, last, ⟨hstored, h.all_full, h.apart, h.short, h.idle, h.collecting, h.alone⟩, (List.append_nil _).symm⟩

theorem Packed.run {steps : List (ArchiveStep σ)}
    (hsteps : Along ArchiveWorker.step (fun w s => Takes cue_id key w s) w steps) :
    ∃ full' last', (run ArchiveWorker.step w steps).Packed cue_id key full' last' ∧
      packed full' last' = packed full last ++ archived steps := by
  induction steps generalizing w full last with
  | nil => exact ⟨full, last, h, (List.append_nil _).symm⟩
  | cons s steps ih =>
    obtain ⟨full', last', hnext, heq⟩ := h.step hsteps.1
    obtain ⟨full'', last'', hend, heq'⟩ := ih hnext hsteps.2
    refine ⟨full'', last'', hend, ?_⟩
    rw [heq', heq, List.append_assoc]
    rfl

theorem Packed.flushed {hash : KeyOrder} {io : AudioAccumulatorKey → FlushIo}
    (hflushes : w.Flushes cue_id key hash io) :
    ∃ blocks, (w.flush_session_audio hash io key.session_id).2.Stored cue_id key blocks ∧
      (blocks = full ++ [last] ∨ (last = [] ∧ blocks = full)) := by
  obtain ⟨hsmooth, hrow⟩ := hflushes
  have hmine : ∀ k ∈ hash.order (w.audio.keys.filter fun k => k.session_id = key.session_id), k = key := by
    intro k hk
    obtain ⟨hin, hsession⟩ := List.mem_filter.mp ((hash.perm _).mem_iff.mp hk)
    by_contra hne
    exact absurd (AList.mem_keys.mp hin) (AList.lookup_eq_none.mp (h.alone k (of_decide_eq_true hsession) hne))
  have hnodup : (hash.order (w.audio.keys.filter fun k => k.session_id = key.session_id)).Nodup :=
    (hash.perm _).nodup_iff.mpr (w.audio.keys_nodup.filter _)
  unfold flush_session_audio at hsmooth ⊢
  rcases hkeys : hash.order (w.audio.keys.filter fun k => k.session_id = key.session_id) with _ | ⟨k, rest⟩
  · refine ⟨full, h.stored, .inr ⟨by_contra fun hlast => ?_, rfl⟩⟩
    obtain ⟨accumulator, hfound, -⟩ := h.collecting hlast
    have hin : key ∈ w.audio.keys.filter fun k => k.session_id = key.session_id :=
      List.mem_filter.mpr ⟨AList.mem_keys.mpr (mem_of_lookup hfound), decide_eq_true rfl⟩
    have hordered := (hash.perm _).mem_iff.mpr hin
    rw [hkeys] at hordered
    cases hordered
  · rw [hkeys] at hmine hnodup hsmooth
    obtain rfl := hmine k List.mem_cons_self
    obtain rfl : rest = [] := by
      refine List.eq_nil_iff_forall_not_mem.mpr fun other hother => ?_
      obtain rfl := hmine other (List.mem_cons_of_mem _ hother)
      exact (List.nodup_cons.mp hnodup).1 hother
    have hin : k ∈ w.audio := by
      have hordered : k ∈ w.audio.keys.filter fun other => other.session_id = k.session_id :=
        (hash.perm _).mem_iff.mp (hkeys ▸ List.mem_singleton_self k)
      exact AList.mem_keys.mpr (List.mem_filter.mp hordered).1
    have hlast : last ≠ [] := fun hnil => AList.lookup_eq_none.mp (h.idle hnil) hin
    obtain ⟨accumulator, hfound, hwords, hspans⟩ := h.collecting hlast
    have hone : flush_keys io [k] w = w.flush_audio_key (io k) k := by
      unfold flush_keys
      dsimp only
      split
      · next error herror => exact Prod.ext herror.symm rfl
      · next hok => exact Prod.ext hok.symm rfl
    rw [hone] at hsmooth ⊢
    have hstored := h.stored.flush hfound hwords hspans hlast h.apart h.short.le
      (fun hc => hrow (h.collects.2.mpr hc)) hsmooth
    exact ⟨full ++ [last], hstored.1, .inl rfl⟩

end

/-- The last stretches of a cue are all of it just where it is whole in each segment. -/
theorem newest_eq_said_iff {blocks : List (Stretches String σ)} (h : ∀ b ∈ blocks, Apart b) (cue_id : String) :
    blocks.flatMap (newest cue_id) = ((blocks.flatMap flat).filter fun x => x.1 = cue_id).map (·.2) ↔
      ∀ b ∈ blocks, Whole cue_id (flat b) := by
  have hsaid : ((blocks.flatMap flat).filter fun x => x.1 = cue_id).map (·.2) = blocks.flatMap (said cue_id) := by
    rw [List.filter_flatMap, List.map_flatMap]
    exact List.flatMap_congr fun b _ => (said_eq cue_id b).symm
  rw [hsaid, flatMap_eq_iff fun b _ => newest_length_le cue_id b]
  exact forall₂_congr fun b hb => (h b hb).newest_eq_iff

/-! ## A cue that is heard again -/

variable {sample_rate_hz gap_epoch : Nat} {session_id : String}

theorem Packed.new {ops : List Op} (hnew : (runs.run Database.step {} ops).has_session session_id = false)
    {started_at_ms : Int}
    (hw : w.repository = (runs.run Database.step {} ops).create_session session_id started_at_ms)
    (hidle : ∀ key, key.session_id = session_id → w.audio.lookup key = none) (hrate : 0 < sample_rate_hz) :
    w.Packed cue_id (translated_key session_id sample_rate_hz gap_epoch) [] [] := by
  have hconsistent : (runs.run Database.step {} ops).Consistent :=
    run_keeps Database.step Consistent (fun _ op h => h.step op) consistent_empty ops
  have hcreated := hconsistent.step (.create_session session_id started_at_ms)
  change (create_session session_id started_at_ms _).Consistent at hcreated
  have htables : (create_session session_id started_at_ms (runs.run Database.step {} ops)) =
      { runs.run Database.step {} ops with
        sessions := (runs.run Database.step {} ops).sessions ++ [{ id := session_id, started_at_ms }] } := by
    unfold create_session
    rw [hnew]
    rfl
  rw [← hw] at hcreated htables
  have hsession : ∀ {id : String}, (runs.run Database.step {} ops).has_session id = true → id ≠ session_id := by
    rintro id hid rfl
    rw [hnew] at hid
    cases hid
  have hlive : w.repository.Live session_id := by
    rw [htables]
    exact ⟨{ id := session_id, started_at_ms }, List.mem_append_right _ (List.mem_singleton_self _), rfl, rfl, nofun⟩
  have hrows : w.repository.track_rows session_id "translated" = [] := by
    rw [htables]
    refine List.filter_eq_nil_iff.mpr fun a ha hmine => ?_
    exact hsession (hconsistent.sound.segments_in a ha) (of_decide_eq_true hmine).1
  have hcue : w.repository.find_cue session_id cue_id = none := by
    rw [htables]
    refine List.find?_eq_none.mpr fun c hc hmine => ?_
    exact hsession (hconsistent.sound.cues_in c hc) (of_decide_eq_true hmine).1
  have hreads : w.repository.cue_reads session_id cue_id "translated" = [] := by
    unfold cue_reads
    rw [hcue]
  refine ⟨⟨⟨hcreated, hlive⟩, by simp, ?_, by simp, hreads, by simp⟩, by simp, apart_nil, ?_,
    fun _ => hidle _ rfl, fun h => absurd rfl h, fun other hother _ => hidle other hother⟩
  · exact congrArg _ hrows
  · change 0 < sample_rate_hz * 30
    omega

/-- The segments are the blocks of what was archived. -/
theorem whole_blocks_iff (h : w.Packed cue_id key full last) {blocks : List (Stretches String σ)}
    (hblocks : blocks = full ++ [last] ∨ (last = [] ∧ blocks = full)) :
    (∀ b ∈ blocks, Whole cue_id (flat b)) ↔
      ∀ k, Whole cue_id (block (key.sample_rate_hz * 30) (packed full last) k) := by
  have hblock : ∀ k, block (key.sample_rate_hz * 30) (packed full last) k =
      ((full.map flat ++ [flat last])[k]?).getD [] := by
    intro k
    refine block_of_flatten (fun b hb => ?_) ?_ k
    · obtain ⟨g, hg, rfl⟩ := List.mem_map.mp hb
      rw [length_flat]
      exact h.all_full g hg
    · rw [length_flat]
      exact h.short.le
  have hlast : (∀ b ∈ blocks, Whole cue_id (flat b)) ↔ ∀ b ∈ full ++ [last], Whole cue_id (flat b) := by
    rcases hblocks with rfl | ⟨rfl, rfl⟩
    · exact Iff.rfl
    · rw [List.forall_mem_append]
      exact ⟨fun hall => ⟨hall, by simpa [flat_nil] using whole_nil cue_id⟩, fun hall => hall.1⟩
  rw [hlast]
  refine ⟨fun hall k => ?_, fun hall b hb => ?_⟩
  · rw [hblock k]
    cases hk : (full.map flat ++ [flat last])[k]? with
    | none => exact whole_nil cue_id
    | some l =>
      have hin : l ∈ (full ++ [last]).map flat := by
        rw [List.map_append]
        exact List.mem_of_getElem? hk
      obtain ⟨b, hb, rfl⟩ := List.mem_map.mp hin
      exact hall b hb
  · obtain ⟨k, hk⟩ := List.getElem?_of_mem hb
    have hwhole := hall k
    have hmapped : (full.map flat ++ [flat last])[k]? = some (flat b) := by
      have := congrArg (Option.map flat) hk
      rwa [← List.getElem?_map, List.map_append] at this
    rwa [hblock k, hmapped] at hwhole

/-- For every sequence of chunks of translated audio that is taken without an error or a gap, and flushed: a cue is
heard as it was archived just where its samples follow one another in each thirty seconds of the track. -/
theorem a_cue_is_heard_whole_iff (hrate : 0 < sample_rate_hz) (hu32 : sample_rate_hz < 2 ^ 32) {ops : List Op}
    (hnew : (runs.run Database.step {} ops).has_session session_id = false) {started_at_ms : Int}
    (hw : w.repository = (runs.run Database.step {} ops).create_session session_id started_at_ms)
    (hidle : ∀ key, key.session_id = session_id → w.audio.lookup key = none) {steps : List (ArchiveStep σ)}
    (hsteps : Along ArchiveWorker.step
      (fun w s => w.Takes cue_id (translated_key session_id sample_rate_hz gap_epoch) s) w steps)
    {hash : KeyOrder} {io : AudioAccumulatorKey → FlushIo}
    (hflushes : (runs.run ArchiveWorker.step w steps).Flushes cue_id (translated_key session_id sample_rate_hz gap_epoch)
      hash io) :
    let flushed : ArchiveWorker σ := ((runs.run ArchiveWorker.step w steps).flush_session_audio hash io session_id).2
    (∃ pieces, load_cue_audio_from_repository flushed.repository flushed.files session_id cue_id .Translated =
        .ok pieces ∧
      pieces.flatMap (·.samples) = ((archived steps).filter fun x => x.1 = cue_id).map (·.2)) ↔
    ∀ k, Whole cue_id (block (sample_rate_hz * 30) (archived steps) k) := by
  intro flushed
  obtain ⟨full, last, hpacked, heq⟩ := (Packed.new hnew hw hidle hrate).run hsteps
  obtain ⟨blocks, hstored, hblocks⟩ := hpacked.flushed hflushes
  have hall : archived steps = packed full last := heq.symm
  have hflat : blocks.flatMap flat = packed full last := by
    rcases hblocks with rfl | ⟨rfl, rfl⟩ <;> simp [packed, flat_nil]
  obtain ⟨pieces, hload, hsamples⟩ := hstored.heard hrate hu32
  have hheard : (∃ pieces, load_cue_audio_from_repository flushed.repository flushed.files session_id cue_id
      .Translated = .ok pieces ∧
        pieces.flatMap (·.samples) = ((archived steps).filter fun x => x.1 = cue_id).map (·.2)) ↔
      blocks.flatMap (newest cue_id) = ((archived steps).filter fun x => x.1 = cue_id).map (·.2) := by
    rw [← hsamples]
    refine ⟨fun hother => ?_, fun hsame => ⟨pieces, hload, hsame⟩⟩
    obtain ⟨other, hother, hsame⟩ := hother
    obtain rfl : other = pieces := Except.ok.inj (hother.symm.trans hload)
    exact hsame
  have hpieces : ∀ b ∈ blocks, Apart b := fun b hb => (hstored.apart b hb).1
  rw [hheard, hall, ← hflat, newest_eq_said_iff hpieces, hflat]
  exact whole_blocks_iff hpacked hblocks

/-- A new session. -/
def new_session : ArchiveWorker Nat := { repository := Database.create_session "s" 0 {} }

def spoken (cue_id : String) : CueWrite where
  session_id := "s"
  cue_id := cue_id
  sequence := 1
  revision := 1
  route_direction := "outbound"
  source_text := ""
  translated_text := ""
  source_committed := true
  translation_committed := true
  started_at_ms := 0
  ended_at_ms := 1

/-- A chunk of one sample a second. -/
def chunk_of (cue_id : String) (samples : List Nat) : ArchiveStep Nat :=
  .append_audio (fun _ => {})
    { session_id := "s", cue_id := some cue_id, track := .Translated, sample_rate_hz := 1, started_at_ms := 0,
      duration_ms := 1000 * samples.length, gap_epoch := 0, samples := samples }

/-- The rows of two cues are stored, and then their chunks come. -/
def session_of (chunks : List (ArchiveStep Nat)) : List (ArchiveStep Nat) :=
  .repository (.upsert_cues_batch [spoken "a", spoken "b"] 0) (fun _ => false) :: chunks

def in_turn : KeyOrder := ⟨fun keys => keys, fun _ => .refl _⟩

theorem a_cue_in_one_part_is_heard :
    let steps : List (ArchiveStep Nat) := session_of [chunk_of "a" [1, 2], chunk_of "a" [3], chunk_of "b" [4]]
    let flushed : ArchiveWorker Nat :=
      ((runs.run ArchiveWorker.step new_session steps).flush_session_audio in_turn (fun _ => {}) "s").2
    ∃ pieces, load_cue_audio_from_repository flushed.repository flushed.files "s" "a" .Translated = .ok pieces ∧
      pieces.flatMap (·.samples) = [1, 2, 3] := by
  refine (@a_cue_is_heard_whole_iff Nat new_session "a" 1 0 "s" (by decide) (by decide) [] rfl 0 rfl (fun _ _ => rfl)
    (session_of [chunk_of "a" [1, 2], chunk_of "a" [3], chunk_of "b" [4]]) (by decide +kernel) in_turn (fun _ => {})
    ⟨by decide +kernel, by decide +kernel⟩).mpr fun k => ?_
  cases k with
  | zero => exact ⟨[], [("a", 1), ("a", 2), ("a", 3)], [("b", 4)], rfl, by simp, by simp, by simp⟩
  | succ k =>
    unfold block
    rw [List.drop_eq_nil_of_le (by simp [archived, session_of, chunk_of, ArchiveStep.archived]; omega)]
    exact whole_nil _

/-- Another cue comes between two parts of a cue, and only the second part is heard. -/
theorem an_interrupted_cue_is_cut_short :
    let steps : List (ArchiveStep Nat) := session_of [chunk_of "a" [1, 2], chunk_of "b" [3], chunk_of "a" [4]]
    let flushed : ArchiveWorker Nat :=
      ((runs.run ArchiveWorker.step new_session steps).flush_session_audio in_turn (fun _ => {}) "s").2
    Along ArchiveWorker.step (fun w s => w.Takes "a" (translated_key "s" 1 0) s) new_session steps ∧
      (runs.run ArchiveWorker.step new_session steps).Smooth "s"
        ((runs.run ArchiveWorker.step new_session steps).flush_session_audio in_turn (fun _ => {}) "s") ∧
      ((archived steps).filter fun x => x.1 = "a").map (·.2) = [1, 2, 4] ∧
      (load_cue_audio_from_repository flushed.repository flushed.files "s" "a" .Translated).toOption.map
        (fun pieces => pieces.flatMap (·.samples)) = some [4] := by
  decide +kernel

end ArchiveWorker

end omni_translate.history

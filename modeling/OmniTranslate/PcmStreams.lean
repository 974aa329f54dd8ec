-- The streams of the translated PCM authority: where each stream that was started is counted, and
-- what still changes after the end.
import OmniTranslate.Maps
import OmniTranslate.PcmLaws

namespace omni_translate.translated_pcm_authority

open maps runs EnabledTranslatedPcmAuthority

variable {I : Type}

/-! ## When a call gets through its checks -/

section

variable (authority : EnabledTranslatedPcmAuthority I) (write : TranslatedWrite)

def passes_complete (renderer : AcceptedTranslatedRenderer) : Prop :=
  validate_accepted_pcm write = .ok () ∧ validate_renderer renderer = .ok () ∧
    write.cue_id ∉ authority.active_streams ∧ write.cue_id ∉ authority.accepted_cue_ids

def passes_start (chunk_index : Nat) : Prop :=
  chunk_index = 0 ∧ write.cue_id ∉ authority.active_streams ∧
    write.cue_id ∉ authority.accepted_cue_ids ∧ validate_accepted_pcm write = .ok ()

def passes_end (chunk_index : Nat) (renderer : AcceptedTranslatedRenderer) : Prop :=
  write.samples = [] ∧ write.accepted_frames = 0 ∧
    ∃ pending ∈ authority.active_streams.lookup write.cue_id,
      validate_stream_identity pending write chunk_index renderer = .ok ()

def AuthorityOp.is_end : AuthorityOp → Bool
  | .accept_stream_write _ _ .end _ _ => true
  | _ => false

/-- The call makes an accepted cue of audio that comes whole. -/
def completes_cue : AuthorityOp → Prop
  | .accept_complete_bridge_cue write owner outside =>
    passes_complete authority write (bridge_renderer owner) ∧ outside.cue_file = .written
  | .accept_complete_speaker_cue write receipt render_attempt_id outside =>
    passes_complete authority write (speaker_renderer receipt render_attempt_id) ∧
      outside.cue_file = .written
  | _ => False

/-- The call starts a stream. -/
def starts_stream : AuthorityOp → Prop
  | .accept_stream_write write chunk_index .start owner _ =>
    validate_renderer (bridge_renderer owner) = .ok () ∧ passes_start authority write chunk_index
  | _ => False

end

section

variable {authority : EnabledTranslatedPcmAuthority I} (digest : List UInt8 → String)
  (event : Event) (write : TranslatedWrite) (chunk_index : Nat)
  (renderer : AcceptedTranslatedRenderer) (outside : Outside)

/-- A cue that is new is accepted if its file takes it; otherwise nothing is noted. -/
theorem persist_and_report_books {stream : PendingTranslatedStream}
    (hnew : stream.cue_id ∉ authority.accepted_cue_ids) :
    books (authority.persist_and_report digest event stream outside).1 =
      if outside.cue_file = .written then
        { books authority with
          accepted_cue_ids := insert stream.cue_id authority.accepted_cue_ids
          accepted_cues := authority.accepted_cues ++
            [authority.accepted_cue digest stream outside] }
      else books authority := by
  unfold EnabledTranslatedPcmAuthority.persist_and_report persist_accepted_cue
  rw [if_neg hnew]
  cases hfile : outside.cue_file with
  | create_failed | write_failed => rw [if_neg (by simp)]
  | written =>
    rw [and_summary_books, write_event_books, if_pos rfl]
    rfl

theorem complete_books :
    passes_complete authority write renderer ∧ outside.cue_file = .written ∧
      books (authority.accept_complete_cue_for_renderer digest event write renderer outside).1 =
        { books authority with
          accepted_cue_ids := insert write.cue_id authority.accepted_cue_ids
          accepted_cues := authority.accepted_cues ++ [authority.accepted_cue digest
            (first_chunk write 0 outside.accepted_at_ms renderer) outside] } ∨
    ¬ (passes_complete authority write renderer ∧ outside.cue_file = .written) ∧
      books (authority.accept_complete_cue_for_renderer digest event write renderer outside).1 =
        books authority := by
  unfold accept_complete_cue_for_renderer passes_complete
  split
  · rename_i hpcm
    exact Or.inr ⟨by simp [hpcm], rfl⟩
  · rename_i hpcm hrenderer
    exact Or.inr ⟨by simp [hrenderer], rfl⟩
  · rename_i hpcm hrenderer
    split
    · rename_i hknown
      refine Or.inr ⟨fun h => ?_, rfl⟩
      exact hknown.elim h.1.2.2.1 h.1.2.2.2
    · rename_i hnew
      push Not at hnew
      rw [persist_and_report_books digest event outside (by exact hnew.2)]
      by_cases hfile : outside.cue_file = .written
      · rw [if_pos hfile]
        exact Or.inl ⟨⟨hpcm, hrenderer, hnew⟩, hfile, rfl⟩
      · rw [if_neg hfile]
        exact Or.inr ⟨fun h => hfile h.2, rfl⟩

theorem start_books :
    passes_start authority write chunk_index ∧
      (∃ stream, books (authority.accept_start write chunk_index renderer outside).1 =
        { books authority with
          active_streams := authority.active_streams.insert write.cue_id stream }) ∨
    ¬ passes_start authority write chunk_index ∧
      books (authority.accept_start write chunk_index renderer outside).1 = books authority := by
  unfold accept_start passes_start
  split
  · rename_i hbad
    refine Or.inr ⟨fun h => ?_, rfl⟩
    rcases hbad with hindex | hactive | hknown
    · exact hindex h.1
    · exact h.2.1 hactive
    · exact h.2.2.1 hknown
  · rename_i hgood
    push Not at hgood
    split
    · rename_i hpcm
      exact Or.inr ⟨by simp [hpcm], rfl⟩
    · rename_i hpcm
      rw [write_summary_books]
      exact Or.inl ⟨⟨hgood.1, hgood.2.1, hgood.2.2, hpcm⟩, _, rfl⟩

/-- A chunk changes at most the stream of its cue. -/
theorem chunk_books :
    books (authority.accept_chunk write chunk_index renderer outside).1 = books authority ∨
      write.cue_id ∈ authority.active_streams ∧ ∃ stream,
        books (authority.accept_chunk write chunk_index renderer outside).1 =
          { books authority with
            active_streams := authority.active_streams.insert write.cue_id stream } := by
  unfold accept_chunk
  split
  · exact Or.inl rfl
  · exact Or.inl rfl
  · rename_i _ _ hpending
    have hactive : write.cue_id ∈ authority.active_streams :=
      AList.lookup_isSome.mp (by rw [hpending]; rfl)
    split
    · exact Or.inl rfl
    · dsimp only
      split
      · exact Or.inl rfl
      · split
        · exact Or.inr ⟨hactive, _, rfl⟩
        · rw [write_summary_books]
          exact Or.inr ⟨hactive, _, rfl⟩

/-- An end that gets through takes the stream away, also if its cue is not kept. -/
theorem end_books (h : Accepted (books authority)) :
    (passes_end authority write chunk_index renderer ∧ outside.cue_file = .written ∧
      ∃ ids cue, books (authority.accept_end digest write chunk_index renderer outside).1 =
        { books authority with
          active_streams := authority.active_streams.erase write.cue_id
          accepted_cue_ids := ids
          accepted_cues := authority.accepted_cues ++ [cue] }) ∨
    (passes_end authority write chunk_index renderer ∧ outside.cue_file ≠ .written ∧
      books (authority.accept_end digest write chunk_index renderer outside).1 =
        { books authority with
          active_streams := authority.active_streams.erase write.cue_id }) ∨
    ¬ passes_end authority write chunk_index renderer ∧
      books (authority.accept_end digest write chunk_index renderer outside).1 =
        books authority := by
  unfold accept_end passes_end
  split
  · rename_i hbad
    refine Or.inr (Or.inr ⟨fun h => ?_, rfl⟩)
    exact hbad.elim (fun hne => hne h.1) (fun hne => hne h.2.1)
  · rename_i hempty
    push Not at hempty
    split
    · rename_i hnone
      exact Or.inr (Or.inr ⟨by simp [hnone], rfl⟩)
    · rename_i pending hpending
      split
      · rename_i hidentity
        exact Or.inr (Or.inr ⟨by simp [hpending, hidentity], rfl⟩)
      · rename_i hidentity
        have hstream : Streaming write.cue_id pending := h.streams _ _ hpending
        have hactive : write.cue_id ∈ authority.active_streams :=
          AList.lookup_isSome.mp (by rw [hpending]; rfl)
        have hnew : pending.cue_id ∉ authority.accepted_cue_ids := by
          rw [hstream.cue]
          exact h.apart _ hactive
        have hpasses : write.samples = [] ∧ write.accepted_frames = 0 ∧
            ∃ pending ∈ authority.active_streams.lookup write.cue_id,
              validate_stream_identity pending write chunk_index renderer = .ok () :=
          ⟨hempty.1, hempty.2, pending, hpending, hidentity⟩
        rw [persist_and_report_books digest _ outside (by exact hnew)]
        by_cases hfile : outside.cue_file = .written
        · rw [if_pos hfile]
          exact Or.inl ⟨hpasses, hfile, _, _, rfl⟩
        · rw [if_neg hfile]
          exact Or.inr (Or.inl ⟨hpasses, hfile, rfl⟩)

theorem abort_books (cue_id reason : String) :
    books (authority.abort_stream cue_id reason outside).1 =
      if cue_id ∈ authority.active_streams then
        { books authority with
          active_streams := authority.active_streams.erase cue_id
          aborted_stream_count := min (authority.aborted_stream_count + 1) U64_MAX }
      else books authority := by
  unfold abort_stream
  split
  · rw [and_summary_books, write_raw_event_books]
    rfl
  · rfl

theorem finalize_books (reason : String) :
    books (authority.finalize reason outside).1 =
      if authority.finalized then books authority
      else
        { books authority with
          active_streams := ∅
          aborted_stream_count := min
            (authority.aborted_stream_count + authority.active_streams.entries.length) U64_MAX
          finalized := true
          terminal_reason := some reason } := by
  unfold EnabledTranslatedPcmAuthority.finalize
  split
  · rfl
  · rw [and_summary_books, write_raw_event_books]
    rfl

end

/-! ## Where a stream is counted -/

/-- An authority with the number of streams that were started and of those that became cues. -/
structure Tally (I : Type) where
  authority : EnabledTranslatedPcmAuthority I
  started : Nat
  streamed_cues : Nat

/-- A start is accepted when it puts the stream of its cue into the map; its summary may fail
after that. -/
def accepted_starts (before after : EnabledTranslatedPcmAuthority I) : AuthorityOp → Nat
  | .accept_stream_write write _ .start _ _ =>
    if write.cue_id ∉ before.active_streams ∧ write.cue_id ∈ after.active_streams then 1 else 0
  | _ => 0

/-- The cues that an end adds to the accepted ones. -/
def cues_of_streams (before after : EnabledTranslatedPcmAuthority I) (op : AuthorityOp) : Nat :=
  if op.is_end then after.accepted_cues.length - before.accepted_cues.length else 0

def Tally.step (digest : List UInt8 → String) (t : Tally I) (op : AuthorityOp) : Tally I :=
  let after := translated_pcm_authority.step digest t.authority op
  { authority := after
    started := t.started + accepted_starts t.authority after op
    streamed_cues := t.streamed_cues + cues_of_streams t.authority after op }

/-- Where the streams are. -/
def Tally.counted (t : Tally I) : Nat :=
  t.authority.active_streams.entries.length + t.streamed_cues + t.authority.aborted_stream_count

/-- The call loses no stream: an end that gets through finds a file that takes its cue, and the
number of aborted streams stays within its type. -/
def loses_no_stream (authority : EnabledTranslatedPcmAuthority I) : AuthorityOp → Prop
  | .accept_stream_write write chunk_index .end owner outside =>
    validate_renderer (bridge_renderer owner) = .ok () →
      passes_end authority write chunk_index (bridge_renderer owner) → outside.cue_file = .written
  | .accept_stream_write write _ .abort owner _ =>
    validate_renderer (bridge_renderer owner) = .ok () →
      write.cue_id ∈ authority.active_streams → authority.aborted_stream_count < U64_MAX
  | .abort_stream cue_id _ _ =>
    cue_id ∈ authority.active_streams → authority.aborted_stream_count < U64_MAX
  | .finalize _ _ => authority.finalized = false →
    authority.aborted_stream_count + authority.active_streams.entries.length ≤ U64_MAX
  | _ => True

/-! ## What a call can do -/

/-- The books after a call. -/
inductive Moves (authority : EnabledTranslatedPcmAuthority I) (op : AuthorityOp) : Books → Prop
  | nothing (hstarts : ¬ starts_stream authority op) (hcompletes : ¬ completes_cue authority op)
      (hkeeps : loses_no_stream authority op) : Moves authority op (books authority)
  | complete (ids : Finset String) (cue : AcceptedTranslatedCue)
      (hcompletes : completes_cue authority op) :
      Moves authority op { books authority with
        accepted_cue_ids := ids
        accepted_cues := authority.accepted_cues ++ [cue] }
  | start (write : TranslatedWrite) (chunk_index : Nat) (owner : BridgeTranslationSinkOwner)
      (outside : Outside) (stream : PendingTranslatedStream)
      (hop : op = .accept_stream_write write chunk_index .start owner outside)
      (hstarts : starts_stream authority op) :
      Moves authority op { books authority with
        active_streams := authority.active_streams.insert write.cue_id stream }
  | chunk (id : String) (stream : PendingTranslatedStream) (hactive : id ∈ authority.active_streams)
      (hkeeps : loses_no_stream authority op) :
      Moves authority op { books authority with
        active_streams := authority.active_streams.insert id stream }
  | finish (id : String) (ids : Finset String) (cue : AcceptedTranslatedCue)
      (hactive : id ∈ authority.active_streams) (hstream : op.is_end)
      (hkeeps : loses_no_stream authority op) :
      Moves authority op { books authority with
        active_streams := authority.active_streams.erase id
        accepted_cue_ids := ids
        accepted_cues := authority.accepted_cues ++ [cue] }
  | lose (id : String) (hactive : id ∈ authority.active_streams)
      (hloses : ¬ loses_no_stream authority op) :
      Moves authority op { books authority with
        active_streams := authority.active_streams.erase id }
  | abort (id : String) (hactive : id ∈ authority.active_streams)
      (hkeeps : loses_no_stream authority op ↔ authority.aborted_stream_count < U64_MAX) :
      Moves authority op { books authority with
        active_streams := authority.active_streams.erase id
        aborted_stream_count := min (authority.aborted_stream_count + 1) U64_MAX }
  | finalize (reason : String) (outside : Outside) (hop : op = .finalize reason outside)
      (hopen : authority.finalized = false) :
      Moves authority op { books authority with
        active_streams := ∅
        aborted_stream_count := min
          (authority.aborted_stream_count + authority.active_streams.entries.length) U64_MAX
        finalized := true
        terminal_reason := some reason }

section

variable {authority : EnabledTranslatedPcmAuthority I} (digest : List UInt8 → String)

theorem Moves.of_same {op : AuthorityOp} {b : Books} (hbooks : b = books authority)
    (hstarts : ¬ starts_stream authority op) (hcompletes : ¬ completes_cue authority op)
    (hkeeps : loses_no_stream authority op) : Moves authority op b := by
  rw [hbooks]
  exact Moves.nothing hstarts hcompletes hkeeps

theorem complete_moves {op : AuthorityOp} (event : Event) (write : TranslatedWrite)
    (renderer : AcceptedTranslatedRenderer) (outside : Outside)
    (hop : completes_cue authority op ↔
      passes_complete authority write renderer ∧ outside.cue_file = .written)
    (hstarts : ¬ starts_stream authority op) (hkeeps : loses_no_stream authority op) :
    Moves authority op (books
      (authority.accept_complete_cue_for_renderer digest event write renderer outside).1) := by
  rcases complete_books digest event write renderer outside with
    ⟨hpasses, hfile, hbooks⟩ | ⟨hrefused, hbooks⟩
  · rw [hbooks]
    exact Moves.complete _ _ (hop.mpr ⟨hpasses, hfile⟩)
  · exact Moves.of_same hbooks hstarts (fun h => hrefused (hop.mp h)) hkeeps

theorem abort_moves {op : AuthorityOp} (cue_id reason : String) (outside : Outside)
    (hstarts : ¬ starts_stream authority op) (hcompletes : ¬ completes_cue authority op)
    (hop : loses_no_stream authority op ↔
      (cue_id ∈ authority.active_streams → authority.aborted_stream_count < U64_MAX)) :
    Moves authority op (books (authority.abort_stream cue_id reason outside).1) := by
  rw [abort_books]
  split
  · rename_i hactive
    refine Moves.abort cue_id hactive (hop.trans ?_)
    simp [hactive]
  · rename_i hidle
    exact Moves.nothing hstarts hcompletes (hop.mpr fun hactive => absurd hactive hidle)

theorem stream_write_moves (h : Accepted (books authority)) (write : TranslatedWrite)
    (chunk_index : Nat) (stream_state : TranslationStreamState)
    (owner : BridgeTranslationSinkOwner) (outside : Outside)
    (hrenderer : validate_renderer (bridge_renderer owner) = .ok ()) :
    Moves authority (.accept_stream_write write chunk_index stream_state owner outside) (books
      (authority.accept_stream_write digest write chunk_index stream_state owner outside).1) := by
  unfold accept_stream_write
  dsimp only
  rw [hrenderer]
  cases stream_state with
  | start =>
    rcases start_books write chunk_index (bridge_renderer owner) outside with
      ⟨hpasses, stream, hbooks⟩ | ⟨hrefused, hbooks⟩
    · rw [hbooks]
      exact Moves.start write chunk_index owner outside stream rfl ⟨hrenderer, hpasses⟩
    · exact Moves.of_same hbooks (fun h => hrefused h.2) id trivial
  | chunk =>
    rcases chunk_books write chunk_index (bridge_renderer owner) outside with
      hbooks | ⟨hactive, stream, hbooks⟩
    · exact Moves.of_same hbooks id id trivial
    · rw [hbooks]
      exact Moves.chunk write.cue_id stream hactive trivial
  | «end» =>
    have hactive (hpasses : passes_end authority write chunk_index (bridge_renderer owner)) :
        write.cue_id ∈ authority.active_streams := by
      obtain ⟨-, -, _, hpending, -⟩ := hpasses
      exact AList.lookup_isSome.mp (by rw [hpending]; rfl)
    rcases end_books digest write chunk_index (bridge_renderer owner) outside h with
      ⟨hpasses, hfile, ids, cue, hbooks⟩ | ⟨hpasses, hfile, hbooks⟩ | ⟨hrefused, hbooks⟩
    · rw [hbooks]
      exact Moves.finish write.cue_id ids cue (hactive hpasses) rfl (fun _ _ => hfile)
    · rw [hbooks]
      exact Moves.lose write.cue_id (hactive hpasses) (fun hkeeps => hfile (hkeeps hrenderer hpasses))
    · exact Moves.of_same hbooks id id (fun _ hpasses => absurd hpasses hrefused)
  | abort =>
    refine abort_moves write.cue_id _ outside id id ?_
    exact ⟨fun hkeeps => hkeeps hrenderer, fun hkeeps _ => hkeeps⟩

theorem step_moves (h : Accepted (books authority)) (op : AuthorityOp) :
    Moves authority op (books (step digest authority op)) := by
  cases op with
  | accept_complete_bridge_cue write owner outside =>
    exact complete_moves digest _ write _ outside Iff.rfl id trivial
  | accept_complete_speaker_cue write _ _ outside =>
    exact complete_moves digest _ write _ outside Iff.rfl id trivial
  | accept_stream_write write chunk_index stream_state owner outside =>
    cases hrenderer : validate_renderer (bridge_renderer owner) with
    | ok _ => exact stream_write_moves digest h write chunk_index _ owner outside hrenderer
    | error error =>
      refine Moves.of_same ?_ ?_ id ?_
      · simp [step, accept_stream_write, hrenderer]
      · cases stream_state <;> simp [starts_stream, hrenderer]
      · cases stream_state <;> simp [loses_no_stream, hrenderer]
  | abort_stream cue_id reason outside => exact abort_moves cue_id reason outside id id Iff.rfl
  | finalize reason outside =>
    unfold step
    rw [finalize_books]
    split
    · rename_i hdone
      exact Moves.nothing id id (by simp [loses_no_stream, hdone])
    · rename_i hopen
      exact Moves.finalize reason outside rfl (Bool.eq_false_of_not_eq_true hopen)

end

/-! ## No call counts too much -/

/-- The streams that the authority itself counts. -/
def Books.counted (b : Books) : Nat := b.active_streams.entries.length + b.aborted_stream_count

section

variable {authority after : EnabledTranslatedPcmAuthority I} {op : AuthorityOp}

/-- A call that leaves the accepted cues alone makes none of a stream. -/
theorem cues_of_streams_same (h : after.accepted_cues = authority.accepted_cues) :
    cues_of_streams authority after op = 0 := by
  simp [cues_of_streams, h]

/-- A call after which no more streams are active has started none. -/
theorem accepted_starts_none (h : ∀ id ∈ after.active_streams, id ∈ authority.active_streams) :
    accepted_starts authority after op = 0 := by
  unfold accepted_starts
  split
  · rw [if_neg]
    exact fun hnew => hnew.1 (h _ hnew.2)
  · rfl

theorem not_is_end_of_completes (h : completes_cue authority op) : op.is_end = false := by
  cases op with
  | accept_complete_bridge_cue | accept_complete_speaker_cue => rfl
  | _ => exact h.elim

/-- A call counts at most the streams that it starts, and all of them unless it loses one. -/
theorem Moves.counts (h : Moves authority op (books after)) :
    let counted := (books after).counted + cues_of_streams authority after op
    let due := (books authority).counted + accepted_starts authority after op
    counted ≤ due ∧ (counted = due ↔ loses_no_stream authority op) := by
  generalize hb : books after = b at h
  have hcues : after.accepted_cues = b.accepted_cues := congrArg Books.accepted_cues hb
  have hstreams : after.active_streams = b.active_streams := congrArg Books.active_streams hb
  -- what every call but a start does to the map
  have herased (id : String) (h : b.active_streams = authority.active_streams.erase id) :
      accepted_starts authority after op = 0 := by
    apply accepted_starts_none
    rw [hstreams, h]
    exact fun other hin => (AList.mem_erase.mp hin).2
  cases h with
  | nothing hstarts hcompletes hkeeps =>
    rw [cues_of_streams_same hcues, accepted_starts_none (by rw [hstreams]; exact fun _ => id)]
    simp [hkeeps]
  | complete ids cue hcompletes =>
    have hnone : cues_of_streams authority after op = 0 := by
      simp [cues_of_streams, not_is_end_of_completes hcompletes]
    have hkeeps : loses_no_stream authority op := by
      cases op with
      | accept_complete_bridge_cue | accept_complete_speaker_cue => trivial
      | _ => exact hcompletes.elim
    rw [hnone, accepted_starts_none (by rw [hstreams]; exact fun _ => id)]
    simp [hkeeps, Books.counted, books]
  | start write chunk_index owner outside stream hop hstarts =>
    subst hop
    have hnew : write.cue_id ∉ authority.active_streams := hstarts.2.2.1
    have hone : accepted_starts authority after
        (.accept_stream_write write chunk_index .start owner outside) = 1 := by
      simp [accepted_starts, hstreams, hnew]
    rw [cues_of_streams_same hcues, hone]
    simp only [Books.counted, books, length_insert_new hnew stream, loses_no_stream, iff_true]
    omega
  | chunk id stream hactive hkeeps =>
    have hnone : accepted_starts authority after op = 0 := by
      apply accepted_starts_none
      rw [hstreams]
      intro other hin
      rcases (AList.mem_insert _).mp hin with rfl | hold
      · exact hactive
      · exact hold
    rw [cues_of_streams_same hcues, hnone]
    simp only [Books.counted, books, length_insert_old hactive stream, hkeeps]
    exact ⟨le_rfl, trivial⟩
  | finish id ids cue hactive hstream hkeeps =>
    have hlength := length_erase hactive
    have hone : cues_of_streams authority after op = 1 := by
      simp [cues_of_streams, hstream, hcues]
    rw [hone, herased id rfl]
    simp only [Books.counted, books, hkeeps, iff_true]
    omega
  | lose id hactive hloses =>
    have hlength := length_erase hactive
    rw [cues_of_streams_same hcues, herased id rfl]
    simp only [Books.counted, books, hloses, iff_false]
    omega
  | abort id hactive hkeeps =>
    have hlength := length_erase hactive
    rw [cues_of_streams_same hcues, herased id rfl, hkeeps]
    simp only [Books.counted, books]
    omega
  | finalize reason outside hop hopen =>
    subst hop
    have hnone : (∅ : AList fun _ : String => PendingTranslatedStream).entries.length = 0 := rfl
    have hstart : accepted_starts authority after (.finalize reason outside) = 0 := rfl
    rw [cues_of_streams_same hcues, hstart]
    simp only [Books.counted, books, loses_no_stream, hopen, forall_const, hnone]
    omega

end

variable (digest : List UInt8 → String)

/-- The streams that are counted never get ahead of those that were started, and a call that loses
one leaves them behind. -/
theorem tally_step {t : Tally I} (h : Accepted (books t.authority))
    (hshort : t.counted ≤ t.started) (op : AuthorityOp) :
    (t.step digest op).counted ≤ (t.step digest op).started ∧
      ((t.step digest op).counted = (t.step digest op).started ↔
        t.counted = t.started ∧ loses_no_stream t.authority op) := by
  obtain ⟨_, hiff⟩ := (step_moves digest h op).counts
  have hcounted : (t.step digest op).counted = t.streamed_cues +
      ((books (step digest t.authority op)).counted +
        cues_of_streams t.authority (step digest t.authority op) op) := by
    simp only [Tally.counted, Tally.step, Books.counted, books]
    omega
  have hstarted : (t.step digest op).started =
      t.started + accepted_starts t.authority (step digest t.authority op) op := rfl
  have hbefore : t.counted = t.streamed_cues + (books t.authority).counted := by
    simp only [Tally.counted, Books.counted, books]
    omega
  rw [← hiff]
  omega

/-- A stream that is lost once is never counted again. -/
theorem tally_run {t : Tally I} (h : Accepted (books t.authority))
    (hshort : t.counted ≤ t.started) (ops : List AuthorityOp) :
    (run (Tally.step digest) t ops).counted = (run (Tally.step digest) t ops).started ↔
      t.counted = t.started ∧
        Along (Tally.step digest) (fun t op => loses_no_stream t.authority op) t ops := by
  induction ops generalizing t with
  | nil => simp [Along]
  | cons op ops ih =>
    obtain ⟨hle, hiff⟩ := tally_step digest h hshort op
    have hnext : Accepted (books (t.step digest op).authority) := h.step digest op
    rw [run_cons, ih hnext hle, hiff, and_assoc]
    rfl

/-- In every run, whatever the files do, each stream whose start was accepted is active, an accepted
cue or counted as aborted, exactly when no call loses a stream. -/
theorem every_start_is_counted_iff (digest : List UInt8 → String) (identity : I)
    (outside : Outside) (ops : List AuthorityOp) :
    let reached := run (Tally.step digest) ⟨(make identity outside).1, 0, 0⟩ ops
    reached.started = reached.authority.active_streams.entries.length + reached.streamed_cues +
        reached.authority.aborted_stream_count ↔
      Along (Tally.step digest) (fun t op => loses_no_stream t.authority op)
        ⟨(make identity outside).1, 0, 0⟩ ops := by
  intro reached
  have hzero : (⟨(make identity outside).1, 0, 0⟩ : Tally I).counted = 0 := by
    have hbooks : (books (make identity outside).1).counted = 0 := by
      unfold make
      rw [and_summary_books, write_event_books]
      rfl
    simpa [Tally.counted, Books.counted, books] using hbooks
  have hrun := tally_run digest (make_books identity outside) (Nat.le_of_eq hzero) ops
  rw [eq_comm]
  refine hrun.trans ?_
  rw [hzero, eq_self, true_and]

/-- A stream of two samples whose file cannot be made: its end takes it away and counts it nowhere. -/
theorem an_end_that_cannot_be_kept_loses_its_stream :
    let owner : BridgeTranslationSinkOwner := ⟨"session", "bridge", 3, "bridge:session:3", "hda", 17⟩
    let fine : Outside := ⟨5, 6, 7, .written, .written, .written⟩
    let full : Outside := ⟨5, 6, 7, .create_failed "disk full", .written, .written⟩
    let write (samples : List Int16) : TranslatedWrite :=
      ⟨"cue", "response", "request", samples, 24000, 1, samples.length, 4⟩
    let reached := run (Tally.step fun _ => "") ⟨(make () fine).1, 0, 0⟩
      [.accept_stream_write (write [1, 2]) 0 .start owner fine,
        .accept_stream_write (write []) 1 .end owner full]
    reached.started = 1 ∧ reached.authority.active_streams.entries.length = 0 ∧
      reached.streamed_cues = 0 ∧ reached.authority.accepted_cues = [] ∧
      reached.authority.aborted_stream_count = 0 ∧
      ¬ (reached.started = reached.authority.active_streams.entries.length +
        reached.streamed_cues + reached.authority.aborted_stream_count) := by
  decide +kernel

/-! ## After the end -/

variable (authority : EnabledTranslatedPcmAuthority I)

/-- A finalized authority has no stream, and a call does not change what it says. -/
def Seals (op : AuthorityOp) : Prop :=
  let after := step digest authority op
  (after.finalized = true → after.active_streams = ∅) ∧
  (authority.finalized = true →
    after.accepted_cues = authority.accepted_cues ∧
    after.aborted_stream_count = authority.aborted_stream_count ∧
    after.terminal_reason = authority.terminal_reason ∧ after.finalized = true)

/-- The call brings no new audio to an authority that is finalized. -/
def brings_nothing_late (op : AuthorityOp) : Prop :=
  authority.finalized = true → ¬ starts_stream authority op ∧ ¬ completes_cue authority op

section

variable {authority after : EnabledTranslatedPcmAuthority I} {op : AuthorityOp}

/-- Only the call for it finalizes, and then no stream is left. -/
theorem Moves.finalized (h : Moves authority op (books after)) :
    after.finalized = authority.finalized ∨ after.active_streams = ∅ := by
  generalize hb : books after = b at h
  have hflag : after.finalized = b.finalized := congrArg Books.finalized hb
  have hstreams : after.active_streams = b.active_streams := congrArg Books.active_streams hb
  cases h with
  | finalize => exact Or.inr hstreams
  | _ => exact Or.inl hflag

/-- On a finalized authority without streams a call starts a stream, completes a cue or does
nothing. -/
theorem Moves.late (h : Moves authority op (books after)) (hdone : authority.finalized = true)
    (hempty : authority.active_streams = ∅) :
    (starts_stream authority op ∧ after.active_streams ≠ ∅) ∨
      (completes_cue authority op ∧ after.accepted_cues ≠ authority.accepted_cues) ∨
      (¬ starts_stream authority op ∧ ¬ completes_cue authority op ∧
        books after = books authority) := by
  have hnone (id : String) : id ∉ authority.active_streams := by
    rw [hempty]
    exact AList.notMem_empty id
  generalize hb : books after = b at h
  have hcues : after.accepted_cues = b.accepted_cues := congrArg Books.accepted_cues hb
  have hstreams : after.active_streams = b.active_streams := congrArg Books.active_streams hb
  cases h with
  | nothing hstarts hcompletes hkeeps => exact Or.inr (Or.inr ⟨hstarts, hcompletes, rfl⟩)
  | complete ids cue hcompletes =>
    refine Or.inr (Or.inl ⟨hcompletes, ?_⟩)
    rw [hcues]
    simp
  | start write _ _ outside stream hop hstarts =>
    refine Or.inl ⟨hstarts, fun hgone => ?_⟩
    apply AList.notMem_empty write.cue_id
    rw [← hgone, hstreams]
    exact (AList.mem_insert _).mpr (Or.inl rfl)
  | chunk id stream hactive hkeeps => exact absurd hactive (hnone id)
  | finish id ids cue hactive _ hkeeps => exact absurd hactive (hnone id)
  | lose id hactive _ => exact absurd hactive (hnone id)
  | abort id hactive hkeeps => exact absurd hactive (hnone id)
  | finalize _ outside hop hopen =>
    rw [hdone] at hopen
    cases hopen

end

/-- What holds of a finalized authority between two calls. -/
def Closed : Prop :=
  authority.finalized = true → authority.active_streams = ∅

theorem seals_iff {authority : EnabledTranslatedPcmAuthority I} (h : Accepted (books authority))
    (hclosed : Closed authority) (op : AuthorityOp) :
    Seals digest authority op ↔ brings_nothing_late authority op := by
  have hmoves := step_moves digest h op
  cases hflag : authority.finalized with
  | false =>
    have hquiet : brings_nothing_late authority op := by simp [brings_nothing_late, hflag]
    simp only [hquiet, iff_true]
    refine ⟨fun hdone => ?_, by simp [hflag]⟩
    rcases hmoves.finalized with hsame | hempty
    · rw [hsame, hflag] at hdone
      cases hdone
    · exact hempty
  | true =>
    have hempty := hclosed hflag
    rcases hmoves.late hflag hempty with ⟨hstarts, hnew⟩ | ⟨hcompletes, hnew⟩ | ⟨hno, hnot, hsame⟩
    · refine iff_of_false (fun hseals => ?_) (fun hquiet => (hquiet hflag).1 hstarts)
      exact hnew (hseals.1 (hseals.2 hflag).2.2.2)
    · refine iff_of_false (fun hseals => ?_) (fun hquiet => (hquiet hflag).2 hcompletes)
      exact hnew (hseals.2 hflag).1
    · refine iff_of_true ⟨fun _ => ?_, fun _ => ⟨?_, ?_, ?_, ?_⟩⟩ (fun _ => ⟨hno, hnot⟩)
      · exact (congrArg Books.active_streams hsame).trans hempty
      · exact congrArg Books.accepted_cues hsame
      · exact congrArg Books.aborted_stream_count hsame
      · exact congrArg Books.terminal_reason hsame
      · exact (congrArg Books.finalized hsame).trans hflag

/-- In every run a finalized authority stays without streams and as it is, exactly when no call
brings it new audio. -/
theorem a_finalized_authority_is_sealed_iff (digest : List UInt8 → String) (identity : I)
    (outside : Outside) (ops : List AuthorityOp) :
    Along (step digest) (Seals digest) (make identity outside).1 ops ↔
      Along (step digest) brings_nothing_late (make identity outside).1 ops := by
  have hmade : Closed (make identity outside).1 := by
    intro hdone
    have hbooks : (books (make identity outside).1).finalized = false := by
      unfold make
      rw [and_summary_books, write_event_books]
      rfl
    exact absurd hdone (by rw [show (make identity outside).1.finalized = false from hbooks]; simp)
  refine Along.congr (fun authority => Accepted (books authority) ∧ Closed authority)
    ⟨make_books identity outside, hmade⟩ (Along.of_forall (fun _ _ => True) (fun _ _ => trivial) _ _)
    (fun authority op hinv _ => seals_iff digest hinv.1 hinv.2 op)
    (fun authority op hinv _ hseals => ⟨hinv.1.step digest op, hseals.1⟩)

/-- A stream that is started after the end stays in the authority. -/
theorem a_late_start_breaks_the_seal :
    let owner : BridgeTranslationSinkOwner := ⟨"session", "bridge", 3, "bridge:session:3", "hda", 17⟩
    let fine : Outside := ⟨5, 6, 7, .written, .written, .written⟩
    let write : TranslatedWrite := ⟨"cue", "response", "request", [1, 2], 24000, 1, 2, 4⟩
    let ended := run (step fun _ => "") (make () fine).1 [.finalize "worker-completed" fine]
    let started := run (step fun _ => "") ended [.accept_stream_write write 0 .start owner fine]
    let completed := run (step fun _ => "") ended [.accept_complete_bridge_cue write owner fine]
    ended.finalized = true ∧ ended.active_streams.entries.length = 0 ∧
      ended.accepted_cues.length = 0 ∧ started.finalized = true ∧
      started.active_streams.entries.length = 1 ∧ completed.accepted_cues.length = 1 ∧
      ¬ Along (step fun _ => "") (Seals fun _ => "") (make () fine).1
        [.finalize "worker-completed" fine, .accept_complete_bridge_cue write owner fine] := by
  refine ⟨by decide +kernel, by decide +kernel, by decide +kernel, by decide +kernel,
    by decide +kernel, by decide +kernel, fun hseals => ?_⟩
  have hsame := (hseals.2.1.2 (by decide +kernel)).1
  have hlength := congrArg List.length hsame
  revert hlength
  decide +kernel

end omni_translate.translated_pcm_authority

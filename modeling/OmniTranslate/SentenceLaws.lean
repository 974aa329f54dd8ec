-- The laws of the splitter over whole runs of feeds: when every slice of
-- `feed_internal` stays in range, and when what is emitted is what is
-- committed. Both fail on the code; the laws say exactly when they hold.
import OmniTranslate.Runs
import OmniTranslate.SentenceFeed

namespace omni_translate.sentence

open text runs

variable {F : Type} [F64 F]

/-! ## Publication -/

/-- The text of the sentences that are not forced. -/
def emitted_text (results : List SentenceResult) : Text :=
  ((results.filter (!·.is_forced)).map (·.sentence)).flatten

@[simp] theorem emitted_text_append (a b : List SentenceResult) :
    emitted_text (a ++ b) = emitted_text a ++ emitted_text b := by
  simp [emitted_text]

theorem emitted_text_cons {r : SentenceResult} (h : r.is_forced = false)
    (results : List SentenceResult) :
    emitted_text (r :: results) = r.sentence ++ emitted_text results := by
  simp [emitted_text, h]

theorem emit_chunks_text (chunks context : List Text) (id : Option String) :
    emitted_text (emit_chunks chunks context id).2 = chunks.flatten := by
  induction chunks generalizing context id with
  | nil => rfl
  | cons c chunks ih =>
    simp only [emit_chunks]
    rw [emitted_text_cons rfl, ih, List.flatten_cons]

theorem emit_chunks_unforced (chunks context : List Text) (id : Option String) :
    ∀ x ∈ (emit_chunks chunks context id).2, x.is_forced = false := by
  induction chunks generalizing context id with
  | nil => simp [emit_chunks]
  | cons c chunks ih =>
    intro x hx
    rcases List.mem_cons.mp hx with rfl | hx
    · rfl
    · exact ih _ _ x hx

/-- The results of the new sentences are never forced, and their text is the sentences but for
white space and commas. -/
theorem emit_sentences_spec (active : Option ForcedPending) (sents context : List Text) :
    ∃ context' results, emit_sentences active sents context = some (context', results) ∧
      keep (emitted_text results) = keep sents.flatten ∧ ∀ x ∈ results, x.is_forced = false := by
  induction sents generalizing context with
  | nil => exact ⟨context, [], rfl, rfl, by simp⟩
  | cons t sents ih =>
    obtain ⟨chunks, hc, hk⟩ := split_subtitle_chunks_with_limits_spec t subtitle_limits
    simp only [emit_sentences, split_subtitle_chunks, hc, Option.bind_eq_bind, Option.bind_some]
    generalize active.bind (fun pending =>
      if pending.text <+: t then some pending.id else none) = id
    obtain ⟨context', results, hr, hk', hn⟩ := ih (emit_chunks chunks context id).1
    rw [hr]
    refine ⟨_, _, rfl, ?_, ?_⟩
    · rw [emitted_text_append, keep_append, hk', emit_chunks_text, hk, List.flatten_cons,
        keep_append]
    · intro x hx
      exact (List.mem_append.mp hx).elim (emit_chunks_unforced chunks context id x) (hn x)

/-- A forced result shows the text of the splitter that is not committed. -/
def ShowsTail (s : SentenceSplitter F) (x : SentenceResult) : Prop :=
  x.is_forced = true → ∃ tail, s.committed ++ tail = s.buffer ∧ x.sentence = trim tail

/-- What a splitter keeps of a feed once the cut is made. -/
structure SameCut (s s' : SentenceSplitter F) : Prop where
  buffer : s'.buffer = s.buffer
  committed : s'.committed = s.committed
  last_hypothesis : s'.last_hypothesis = s.last_hypothesis
  agreement_prefix : s'.agreement_prefix = s.agreement_prefix

variable (g : Segmentation)

/-- The forced part never panics, leaves the cut, and adds only a forced sentence. -/
theorem force_pending_spec (s : SentenceSplitter F) (mode : FeedMode) (now : Instant)
    (unix_ms : Nat) (results : List SentenceResult) (h : s.committed <+: s.buffer) :
    ∃ s' results', force_pending g s mode now unix_ms results = some (s', results') ∧
      SameCut s s' ∧ emitted_text results' = emitted_text results ∧
      ∀ x ∈ results', x ∈ results ∨ ShowsTail s x := by
  unfold force_pending
  split
  · split
    · exact ⟨_, _, rfl, ⟨rfl, rfl, rfl, rfl⟩, rfl, fun _ => Or.inl⟩
    · rename_i hres
      have hres : results = [] := by simpa using hres
      obtain ⟨tail, ht⟩ := h
      have hslice : slice? s.buffer (len s.committed) (len s.buffer) = some tail := by
        rw [← ht]
        exact slice?_last_part _ _
      simp only [hslice, Option.bind_eq_bind, Option.bind_some]
      split
      · refine ⟨_, _, rfl, ⟨rfl, rfl, rfl, rfl⟩, by simp [emitted_text, hres], ?_⟩
        intro x hx
        obtain rfl := List.mem_singleton.mp hx
        exact Or.inr fun _ => ⟨tail, ht, rfl⟩
      · exact ⟨_, _, rfl, ⟨rfl, rfl, rfl, rfl⟩, rfl, fun _ => Or.inl⟩
  · exact ⟨_, _, rfl, ⟨rfl, rfl, rfl, rfl⟩, rfl, fun _ => Or.inl⟩

/-- Publication never panics at a cut of the buffer, and commits up to the cut. -/
theorem publish_spec (s : SentenceSplitter F) (mode : FeedMode) (now : Instant) (unix_ms : Nat)
    (sents : List Text) {q : Text} (h : q <+: s.buffer) :
    ∃ s' results, s.publish g mode now unix_ms (len q) sents = some (s', results) ∧
      SameCut { s with committed := q } s' ∧ keep (emitted_text results) = keep sents.flatten ∧
      ∀ x ∈ results, ShowsTail s' x := by
  have hslice : slice? s.buffer 0 (len q) = some q := by
    obtain ⟨z, hz⟩ := h
    rw [← hz]
    exact slice?_first_part q z
  simp only [SentenceSplitter.publish, hslice, Option.bind_eq_bind, Option.bind_some]
  split
  · obtain ⟨context, results, hr, hk, hn⟩ :=
      emit_sentences_spec s.active_forced_pending sents s.context
    rw [hr]
    obtain ⟨s', results', hf, hcut, he, hx⟩ := force_pending_spec g
      { s with
        committed := q, context, pending_start := none, active_forced_pending := none,
        last_forced_at := none } mode now unix_ms results h
    refine ⟨s', results', hf, ⟨hcut.1, hcut.2, hcut.3, hcut.4⟩, by rw [he, hk], ?_⟩
    intro x hmem hforced
    rw [hcut.1, hcut.2]
    exact (hx x hmem).elim (fun h => by simp [hn x h] at hforced) (· hforced)
  · rename_i hs
    have hs : sents = [] := by simpa using hs
    obtain ⟨s', results', hf, hcut, he, hx⟩ :=
      force_pending_spec g { s with committed := q } mode now unix_ms [] h
    refine ⟨s', results', hf, hcut, by rw [he, hs]; rfl, ?_⟩
    intro x hmem
    rw [ShowsTail, hcut.1, hcut.2]
    exact (hx x hmem).elim (fun h => by simp at h) id

/-! ## One feed -/

/-- One call of a feed with its clock readings. -/
structure Feed where
  full_text : Text
  mode : FeedMode
  now : Instant
  unix_ms : Nat

/-- The splitter that takes the text: a new one after a contradiction. -/
def started (s : SentenceSplitter F) (f : Feed) : SentenceSplitter F :=
  if s.resets (normalize_hypothesis f.full_text) then s.reset else s

/-- The splitter after `observe_hypothesis`, before any cut. -/
def observed (g : Segmentation) (s : SentenceSplitter F) (f : Feed) : SentenceSplitter F :=
  SentenceSplitter.observe_hypothesis g
    { started s f with buffer := normalize_hypothesis f.full_text } f.now

/-- The feed is partial, its agreement has aged, and the agreement is shorter than what is
committed. -/
def agreement_behind (g : Segmentation) (s : SentenceSplitter F) (f : Feed) : Bool :=
  f.mode = .Hypothesis .Partial ∧
    (observed g s f).agreement_since.any (fun since => f.now - since ≥ STABLE_PREFIX_AGE) ∧
    len ( SentenceSplitter.agreement_prefix (observed g s f)) < len (started s f).committed

/-- The punctuation scan of a feed. -/
def scanned (g : Segmentation) (s : SentenceSplitter F) (f : Feed) : Option (Nat × List Text) :=
  let o := observed g s f
  scan_sentences o.buffer (len o.committed) (o.stable_end f.mode f.now) (char_indices o.buffer)
    (len o.committed) []

/-- The character that a soft commit of the feed leaves behind its cut. There is none when the
feed makes no soft commit, or when its suffix does not start with white space. -/
def char_left_behind (g : Segmentation) (s : SentenceSplitter F) (f : Feed) : Option Char :=
  (scanned g s f).bind fun (last_split, _) =>
    suffix_shift g (observed g s f) f.now (f.mode = .Hypothesis .ProviderFinal)
      ((observed g s f).stable_end f.mode f.now) last_split

/-- What holds between two feeds. -/
structure Settled (s : SentenceSplitter F) : Prop where
  committed : s.committed <+: s.buffer
  agreed : ∃ q, q <+: s.buffer ∧ len q = len s.agreement_prefix
  seen : s.last_hypothesis = s.buffer

theorem settled_new : Settled (SentenceSplitter.new : SentenceSplitter F) :=
  ⟨List.nil_prefix, ⟨[], List.nil_prefix, rfl⟩, rfl⟩

variable {s : SentenceSplitter F}

theorem settled_started (h : Settled s) (f : Feed) : Settled (started s f) := by
  unfold started
  split
  · exact settled_new
  · exact h

/-- The committed text of a started splitter begins the new text, so the branch of
`feed_internal` for a shorter text is never taken. -/
theorem started_committed (s : SentenceSplitter F) (f : Feed) :
    (started s f).committed <+: normalize_hypothesis f.full_text := by
  unfold started
  split
  · exact List.nil_prefix
  · rename_i h
    by_cases hc : s.committed = []
    · rw [hc]
      exact List.nil_prefix
    · by_contra hp
      exact h (by simp [SentenceSplitter.resets, hc, hp])

theorem observed_spec (h : Settled s) (f : Feed) :
    (observed g s f).buffer = normalize_hypothesis f.full_text ∧
      (observed g s f).committed = (started s f).committed ∧ Settled (observed g s f) := by
  have hs := settled_started h f
  have hc := started_committed s f
  unfold observed SentenceSplitter.observe_hypothesis
  split
  · rename_i heq
    refine ⟨rfl, rfl, hc, ?_, heq.symm⟩
    obtain ⟨q, hq, hl⟩ := hs.agreed
    refine ⟨q, ?_, hl⟩
    rw [← hs.seen] at hq
    exact heq.symm ▸ hq
  · refine ⟨rfl, rfl, hc, ?_, rfl⟩
    have hcommon := grapheme_common_prefix_is_first_part g (started s f).last_hypothesis
      (normalize_hypothesis f.full_text)
    obtain ⟨q, hq, hl⟩ := retain_unstable_tail_length g
      ((spaced_normalize f.full_text).first_part hcommon)
    exact ⟨q, hq.trans hcommon, hl⟩

omit [F64 F] in
/-- The stable end is the end of a first part of the buffer. -/
theorem stable_end_spec (h : Settled s) (mode : FeedMode) (now : Instant) :
    ∃ p, p <+: s.buffer ∧ len p = s.stable_end mode now ∧
      (mode = .Hypothesis .ProviderFinal → p = s.buffer) := by
  unfold SentenceSplitter.stable_end
  split
  · exact ⟨s.buffer, List.prefix_rfl, rfl, fun _ => rfl⟩
  · unfold SentenceSplitter.stable_prefix_end
    split
    · obtain ⟨q, hq, hl⟩ := h.agreed
      exact ⟨q, hq, hl, by simp⟩
    · exact ⟨s.committed, h.committed, rfl, by simp⟩
  · exact ⟨s.buffer, List.prefix_rfl, rfl, by simp⟩

/-- The stable end lies before the committed text exactly when the agreement is behind. -/
theorem agreement_behind_iff (h : Settled s) (f : Feed) :
    agreement_behind g s f = true ↔
      (observed g s f).stable_end f.mode f.now < len (observed g s f).committed := by
  obtain ⟨_, hcom, hs⟩ := observed_spec g h f
  have hlen := len_le_of_first_part hs.committed
  unfold agreement_behind SentenceSplitter.stable_end SentenceSplitter.stable_prefix_end
  rw [← hcom, decide_eq_true_iff]
  rcases f.mode with (_ | _) | _
  · by_cases hage : (observed g s f).agreement_since.any
        (fun since => f.now - since ≥ STABLE_PREFIX_AGE) = true
    · simp [hage]
    · simp [hage]
  · simpa using hlen
  · simpa using hlen

/-- The scan of a feed, and what it leaves to commit. -/
theorem scanned_spec (h : Settled s) (f : Feed) {p : Text} (hp : p <+: (observed g s f).buffer)
    (hl : len p = (observed g s f).stable_end f.mode f.now) :
    ∃ m sents, scanned g s f = some (len ((observed g s f).committed ++ m), sents) ∧
      ((observed g s f).committed ++ m = (observed g s f).committed ∨
        (observed g s f).committed ++ m <+: p) ∧
      keep sents.flatten = keep m := by
  obtain ⟨_, _, hs⟩ := observed_spec g h f
  obtain ⟨m, sents, hscan, hcut, hk⟩ := scan_sentences_spec hs.committed hp
    (observed g s f).buffer [] (observed g s f).committed [] rfl (Or.inl rfl)
  simp only [scanned, ← hl]
  exact ⟨m, sents, hscan, hcut, by simpa using hk⟩

/-- The slices that the punctuation scan takes, each from the last cut to a sentence end. -/
def scan_slices (buffer : Text) (old_committed_len stable_end : Nat) :
    List (Nat × Char) → Nat → List (Nat × Nat)
  | [], _ => []
  | (byte_i, ch) :: rest, last_split =>
    if byte_i < old_committed_len ∨ byte_i ≥ stable_end then
      scan_slices buffer old_committed_len stable_end rest last_split
    else if ends_sentence buffer byte_i ch (rest.head?.map Prod.snd) = some true then
      (last_split, byte_i + ch.utf8Size) ::
        scan_slices buffer old_committed_len stable_end rest (byte_i + ch.utf8Size)
    else scan_slices buffer old_committed_len stable_end rest last_split

/-- A slice between the committed text and the stable end, on character boundaries. -/
def in_order (s : SentenceSplitter F) (stable_end : Nat) (slice : Nat × Nat) : Bool :=
  len s.committed ≤ slice.1 && slice.1 ≤ slice.2 && slice.2 ≤ stable_end &&
    stable_end ≤ len s.buffer && is_char_boundary s.buffer slice.1 &&
    is_char_boundary s.buffer slice.2 && is_char_boundary s.buffer stable_end

omit [F64 F] in
theorem in_order_of_parts {a b p : Text} (hp : p <+: s.buffer) (hb : b <+: p) (ha : a <+: b)
    (hc : s.committed <+: a) : in_order s (len p) (len a, len b) = true := by
  have h1 : is_char_boundary s.buffer (len a) = true :=
    is_char_boundary_iff.mpr ⟨a, ha.trans (hb.trans hp), rfl⟩
  have h2 : is_char_boundary s.buffer (len b) = true :=
    is_char_boundary_iff.mpr ⟨b, hb.trans hp, rfl⟩
  have h3 : is_char_boundary s.buffer (len p) = true := is_char_boundary_iff.mpr ⟨p, hp, rfl⟩
  simp only [in_order, h1, h2, h3, len_le_of_first_part hc, len_le_of_first_part ha,
    len_le_of_first_part hb, len_le_of_first_part hp, decide_true, Bool.and_self]

omit [F64 F] in
theorem scan_slices_in_order {p : Text} (hc : s.committed <+: s.buffer) (hp : p <+: s.buffer)
    (t pre q : Text) (hb : s.buffer = pre ++ t) (hq : s.committed <+: q)
    (hq' : q = s.committed ∨ q <+: pre) :
    ∀ x ∈ scan_slices s.buffer (len s.committed) (len p) (char_indices_from (len pre) t) (len q),
      in_order s (len p) x = true := by
  induction t generalizing pre q with
  | nil => simp [scan_slices, char_indices_from]
  | cons ch t ih =>
    have hb' : s.buffer = (pre ++ [ch]) ++ t := by simp [hb]
    have hpre : pre <+: s.buffer := hb ▸ List.prefix_append _ _
    have hlen : len pre + ch.utf8Size = len (pre ++ [ch]) := by simp
    have hskip := ih (pre ++ [ch]) q hb' hq
      (hq'.imp_right fun h => h.trans (List.prefix_append _ _))
    simp only [char_indices_from, scan_slices, hlen]
    split
    · exact hskip
    · rename_i hrange
      have hlo : len s.committed ≤ len pre := by omega
      have hhi : len pre < len p := by omega
      split
      · have hqpre : q <+: pre ++ [ch] := by
          refine List.IsPrefix.trans ?_ (List.prefix_append pre [ch])
          rcases hq' with rfl | h
          · exact prefix_of_len_le hc hpre hlo
          · exact h
        intro x hx
        rcases List.mem_cons.mp hx with rfl | hx
        · exact in_order_of_parts hp (push_first_part hb hp hhi) hqpre hq
        · exact ih (pre ++ [ch]) (pre ++ [ch]) hb' (hq.trans hqpre) (Or.inr List.prefix_rfl) x hx
      · exact hskip

/-- No slice of a feed panics, and every slice of the buffer lies between the committed text
and the stable end. -/
def slices_in_range (g : Segmentation) (s : SentenceSplitter F) (f : Feed) : Bool :=
  let o := observed g s f
  let stable_end := o.stable_end f.mode f.now
  (s.feed_internal g f.full_text f.mode f.now f.unix_ms).isSome &&
    (scan_slices o.buffer (len o.committed) stable_end (char_indices o.buffer)
      (len o.committed)).all (in_order o stable_end) &&
    (scanned g s f).all fun (last_split, sents) =>
      in_order o stable_end (last_split, stable_end) &&
        (commit_suffix g o f.now (f.mode = .Hypothesis .ProviderFinal) stable_end last_split
          sents).all fun (cut, _) => in_order o stable_end (last_split, cut)

/-- `feed_internal` through its phases, for a splitter between two feeds. -/
theorem feed_internal_phases (h : Settled s) (f : Feed) :
    s.feed_internal g f.full_text f.mode f.now f.unix_ms =
      (scanned g s f).bind fun (last_split, sents) =>
        (commit_suffix g (observed g s f) f.now (f.mode = .Hypothesis .ProviderFinal)
          ((observed g s f).stable_end f.mode f.now) last_split sents).bind fun (cut, sents) =>
            ((observed g s f).publish g f.mode f.now f.unix_ms cut sents).map fun (s', results) =>
              (s', ⟨results, s.resets (normalize_hypothesis f.full_text),
                if s.resets (normalize_hypothesis f.full_text) then s.committed else []⟩) := by
  have hc := started_committed s f
  have hlen : ¬ len (normalize_hypothesis f.full_text) < len (started s f).committed := by
    obtain ⟨z, hz⟩ := hc
    rw [← hz, len_append]
    omega
  obtain ⟨_, hcommitted, _⟩ := observed_spec g h f
  have hstarted : (if s.resets (normalize_hypothesis f.full_text) then s.reset else s) =
      started s f := rfl
  simp only [SentenceSplitter.feed_internal, hstarted, if_neg hlen, scanned, hcommitted,
    Option.map_eq_bind]
  rfl

/-- What a feed commits and emits. -/
structure Took (g : Segmentation) (s : SentenceSplitter F) (f : Feed) (s' : SentenceSplitter F)
    (r : SentenceFeedResult) (m : Text) : Prop where
  committed : s'.committed = (started s f).committed ++ m
  emitted : keep (emitted_text r.sentences) = keep m ++ keep (char_left_behind g s f).toList
  final : f.mode = .Hypothesis .ProviderFinal → s'.committed = normalize_hypothesis f.full_text
  buffer : s'.buffer = normalize_hypothesis f.full_text
  fresh : ∀ rest, (started s f).committed ++ rest = normalize_hypothesis f.full_text →
    keep (emitted_text r.sentences) <+: keep rest
  shows : ∀ x ∈ r.sentences, ShowsTail s' x

/-- What a feed does, when its agreement is not behind: it panics only where the character
left behind has more than one byte; else it commits some more text, and what it emits is this
text and the character left behind, but for white space and commas, and lies after what was
committed. -/
theorem feed_spec (h : Settled s) (f : Feed) (hbehind : agreement_behind g s f = false) :
    if (char_left_behind g s f).all (·.utf8Size = 1) then
      slices_in_range g s f = true ∧ ∃ s' r m,
        s.feed_internal g f.full_text f.mode f.now f.unix_ms = some (s', r) ∧
        Settled s' ∧ Took g s f s' r m
    else s.feed_internal g f.full_text f.mode f.now f.unix_ms = none := by
  obtain ⟨hbuf, hcom, hs⟩ := observed_spec g h f
  obtain ⟨p, hp, hl, hfin⟩ := stable_end_spec hs f.mode f.now
  obtain ⟨m, sents, hscan, hcut, hk⟩ := scanned_spec g h f hp hl
  have hcp : (observed g s f).committed <+: p := by
    apply prefix_of_len_le hs.committed hp
    have hle := (agreement_behind_iff g h f).not.mp (by simp [hbehind])
    omega
  have hq : (observed g s f).committed ++ m <+: p := by
    rcases hcut with hm | hm
    · rwa [hm]
    · exact hm
  obtain ⟨u, hu⟩ := hq
  have hspaced : Spaced (observed g s f).buffer := hbuf ▸ spaced_normalize _
  obtain ⟨m', more, hm', hcommit, hkm, hflush, hfirst⟩ := commit_suffix_spec g (observed g s f) f.now
    (f.mode = .Hypothesis .ProviderFinal) sents hspaced hp hu.symm
  have hleft : char_left_behind g s f = suffix_shift g (observed g s f) f.now
      (f.mode = .Hypothesis .ProviderFinal) (len p) (len ((observed g s f).committed ++ m)) := by
    simp only [char_left_behind, hscan, Option.bind_some, hl]
  rw [← hleft] at hcommit hkm
  have hphases := feed_internal_phases g h f
  simp only [hscan, Option.bind_some, ← hl, hcommit] at hphases
  split
  · rename_i hone
    rw [if_pos hone] at hcommit hphases
    obtain ⟨s', results, hpub, hsame, hke, hshows⟩ := publish_spec g (observed g s f) f.mode f.now
      f.unix_ms (sents ++ more) (hm'.trans hp)
    simp only [Option.bind_some, hpub, Option.map_some] at hphases
    have hq : (observed g s f).committed ++ m <+: p := ⟨u, hu⟩
    refine ⟨?_, s', _, m ++ m', hphases, ?_, ?_, ?_, ?_, hsame.buffer.trans hbuf, ?_, hshows⟩
    · have hslices := scan_slices_in_order hs.committed hp (observed g s f).buffer []
        (observed g s f).committed rfl List.prefix_rfl (Or.inl rfl)
      have hlast := in_order_of_parts hp List.prefix_rfl hq (List.prefix_append _ _)
      have hcut := in_order_of_parts hp hm' (List.prefix_append _ _) (List.prefix_append _ _)
      simp only [slices_in_range, ← hl, hphases, hscan, hcommit, Option.isSome_some,
        Option.all_some, hlast, hcut, Bool.and_self, Bool.and_true, Bool.true_and]
      exact List.all_eq_true.mpr hslices
    · refine ⟨?_, ?_, ?_⟩
      · rw [hsame.committed, hsame.buffer]
        exact hm'.trans hp
      · rw [hsame.buffer, hsame.agreement_prefix]
        exact hs.agreed
      · rw [hsame.last_hypothesis, hsame.buffer]
        exact hs.seen
    · rw [hsame.committed, ← hcom, List.append_assoc]
    · rw [hke, List.flatten_append, keep_append, hk, hkm, keep_append, List.append_assoc]
    · intro hpf
      rw [hsame.committed, ← hbuf, ← hfin hpf, ← hu]
      -- white space alone is left unflushed, and the text does not end with any
      by_cases ht : trim u = []
      · have hu0 : u = [] := by
          apply normalize_no_space_tail (trim_eq_nil.mp ht)
          rw [hu, hfin hpf, hbuf]
        rw [← hu, hu0, List.append_nil] at hm'
        have hm0 : m' = [] := by
          have := hm'.length_le
          apply List.length_eq_zero_iff.mp
          simp only [List.length_append] at this
          omega
        rw [hu0, hm0]
      · rw [hflush (by simp [hpf]) ht]
    · intro rest hrest
      obtain ⟨z, hz⟩ := hp
      have hall : (started s f).committed ++ rest = (started s f).committed ++ (m ++ (u ++ z)) := by
        rw [hrest, ← hbuf, ← hz, ← hu, hcom]
        simp
      obtain rfl := List.append_cancel_left hall
      rw [hke, List.flatten_append, keep_append, hk, keep_append, keep_append]
      exact (List.prefix_append_right_inj _).mpr (hfirst.trans (List.prefix_append _ _))
  · rename_i hone
    rw [hphases, if_neg hone]
    rfl

/-- A feed whose agreement is behind takes a slice that ends before it starts. -/
theorem feed_panics_behind (h : Settled s) (f : Feed) (hbehind : agreement_behind g s f = true) :
    s.feed_internal g f.full_text f.mode f.now f.unix_ms = none := by
  obtain ⟨_, _, hs⟩ := observed_spec g h f
  obtain ⟨p, hp, hl, _⟩ := stable_end_spec hs f.mode f.now
  obtain ⟨m, sents, hscan, hcut, _⟩ := scanned_spec g h f hp hl
  have hlt := (agreement_behind_iff g h f).mp hbehind
  have hinv : ¬ len ((observed g s f).committed ++ m) ≤ len p := by
    rw [len_append]
    omega
  rw [feed_internal_phases g h f, hscan]
  simp only [Option.bind_some, commit_suffix, ← hl]
  simp only [slice?, if_neg hinv, Option.bind_eq_bind, Option.bind_none]

/-- A feed that does not panic starts anew only from a contradiction, and takes the text. -/
theorem feed_taken (h : Settled s) {f : Feed} {s' : SentenceSplitter F} {r : SentenceFeedResult}
    (hfeed : s.feed_internal g f.full_text f.mode f.now f.unix_ms = some (s', r)) :
    r.revision_reset = s.resets (normalize_hypothesis f.full_text) ∧ Settled s' ∧
      ∃ m, Took g s f s' r m := by
  have hbehind : agreement_behind g s f = false := by
    by_contra hb
    rw [feed_panics_behind g h f (by simpa using hb)] at hfeed
    cases hfeed
  have hreset : r.revision_reset = s.resets (normalize_hypothesis f.full_text) := by
    rw [feed_internal_phases g h f] at hfeed
    simp only [Option.bind_eq_some_iff, Option.map_eq_some_iff] at hfeed
    obtain ⟨_, _, _, _, _, _, heq⟩ := hfeed
    cases heq
    rfl
  have hspec := feed_spec g h f hbehind
  split at hspec
  · obtain ⟨_, s'', r', m, hfeed', hs', hrest⟩ := hspec
    rw [hfeed] at hfeed'
    cases hfeed'
    exact ⟨hreset, hs', m, hrest⟩
  · rw [hfeed] at hspec
    cases hspec

/-! ## Runs of feeds -/

/-- A splitter, and the text of the sentences it emitted that were not forced. -/
structure Session (F : Type) where
  splitter : SentenceSplitter F
  emitted : Text

def Session.new : Session F := ⟨SentenceSplitter.new, []⟩

/-- One feed of a session. A panic ends the session. -/
def Session.feed (g : Segmentation) (session : Option (Session F)) (f : Feed) :
    Option (Session F) := do
  let x ← session
  let (splitter, r) ← x.splitter.feed_internal g f.full_text f.mode f.now f.unix_ms
  some ⟨splitter, x.emitted ++ emitted_text r.sentences⟩

/-- The condition on the splitter of a session before a feed. -/
def Session.before (P : SentenceSplitter F → Feed → Bool) (session : Option (Session F))
    (f : Feed) : Prop :=
  session.all (fun x => P x.splitter f) = true

instance (P : SentenceSplitter F → Feed → Bool) (session : Option (Session F)) (f : Feed) :
    Decidable (Session.before P session f) := inferInstanceAs (Decidable (_ = true))

/-- The stable end of the feed is not behind the committed text, and a soft commit leaves at
most a one-byte character behind. -/
def cuts_stay_in_order (g : Segmentation) (s : SentenceSplitter F) (f : Feed) : Bool :=
  !agreement_behind g s f && (char_left_behind g s f).all (·.utf8Size = 1)

/-- One feed: its slices are in range exactly when its cuts stay in order, and then the
splitter is settled again. -/
theorem slices_in_range_step (h : Settled s) (f : Feed) :
    slices_in_range g s f = cuts_stay_in_order g s f ∧ ∀ s' r,
      s.feed_internal g f.full_text f.mode f.now f.unix_ms = some (s', r) → Settled s' := by
  by_cases hbehind : agreement_behind g s f = true
  · have hnone := feed_panics_behind g h f hbehind
    simp [slices_in_range, cuts_stay_in_order, hnone, hbehind]
  · have hbehind : agreement_behind g s f = false := by simpa using hbehind
    have hspec := feed_spec g h f hbehind
    split at hspec
    · rename_i hone
      obtain ⟨hin, s', r, m, hfeed, hs', _⟩ := hspec
      refine ⟨by rw [hin, cuts_stay_in_order, hbehind, hone]; rfl, ?_⟩
      intro s'' r' heq
      rw [hfeed] at heq
      cases heq
      exact hs'
    · rename_i hone
      simp [slices_in_range, cuts_stay_in_order, hspec, hone]

/-- A session that goes on was going on before. -/
theorem Session.feed_eq_some {g : Segmentation} {session : Option (Session F)} {f : Feed}
    {x' : Session F} (h : Session.feed g session f = some x') :
    ∃ x r, session = some x ∧
      x.splitter.feed_internal g f.full_text f.mode f.now f.unix_ms = some (x'.splitter, r) ∧
      x'.emitted = x.emitted ++ emitted_text r.sentences := by
  simp only [Session.feed, Option.bind_eq_bind, Option.bind_eq_some_iff, Prod.exists] at h
  obtain ⟨x, hx, s', r, hfeed, heq⟩ := h
  cases heq
  exact ⟨x, r, hx, hfeed, rfl⟩

/-- Every slice of every feed of a run stays in range exactly when at every feed the cuts stay
in order. -/
theorem slices_stay_in_range_iff (g : Segmentation) (feeds : List Feed) :
    Along (Session.feed g) (Session.before (slices_in_range g)) (some (Session.new : Session F))
        feeds ↔
      Along (Session.feed g) (Session.before (cuts_stay_in_order g))
        (some (Session.new : Session F)) feeds := by
  -- the splitter of a session that goes on is settled
  refine Along.congr (fun session : Option (Session F) =>
    ∀ x, session = some x → Settled x.splitter) ?_
    (Along.of_forall (fun _ _ => True) (fun _ _ => trivial) _ _) ?_ ?_
  · rintro x ⟨⟩
    exact settled_new
  · intro session f hs _
    cases session with
    | none => rfl
    | some x =>
      have := (slices_in_range_step g (hs x rfl) f).1
      simp only [Session.before, Option.all_some, this]
  · intro session f hs _ _ x' hx'
    obtain ⟨x, r, hx, hfeed, _⟩ := Session.feed_eq_some hx'
    exact (slices_in_range_step g (hs x hx) f).2 _ r hfeed

/-- A recognizer that takes back the text after a committed sentence. The agreement on the new
text ages while it is shorter than the sentence. -/
def feeds_taken_back : List Feed :=
  [⟨"Hello there. How are you".toList, .Hypothesis .Partial, from_millis 0, 0⟩,
    ⟨"Hello there. How are you doing".toList, .Hypothesis .Partial, from_millis 100, 100⟩,
    ⟨"Hello there. How are you doing".toList, .Hypothesis .Partial, from_millis 400, 400⟩,
    ⟨"Hello there. Who is".toList, .Hypothesis .Partial, from_millis 500, 500⟩,
    ⟨"Hello there. Who is".toList, .Hypothesis .Partial, from_millis 800, 800⟩]

theorem a_text_taken_back_panics :
    (feeds_taken_back.map (·.now)).Pairwise (· ≤ ·) ∧
      ¬ Along (Session.feed Segmentation.chars) (Session.before (slices_in_range Segmentation.chars))
        (some (Session.new : Session ℚ)) feeds_taken_back := by
  refine ⟨by decide +kernel, by decide +kernel⟩

/-! ## Text conservation -/

/-- A feed that neither starts the splitter anew nor panics. -/
def Session.clean (g : Segmentation) (session : Option (Session F)) (f : Feed) : Prop :=
  Session.before (fun s f => !s.resets (normalize_hypothesis f.full_text)) session f ∧
    (Session.feed g session f).isSome = true

/-- After the feed, what was emitted is what is committed, but for white space and commas; and
a provider's final text is committed as a whole. -/
def Session.conserves (g : Segmentation) (session : Option (Session F)) (f : Feed) : Prop :=
  (Session.feed g session f).all (fun x =>
    x.splitter.committed <+: x.splitter.buffer ∧ keep x.emitted = keep x.splitter.committed ∧
      (f.mode = .Hypothesis .ProviderFinal →
        x.splitter.committed = normalize_hypothesis f.full_text)) = true

/-- A soft commit leaves at most white space or a comma behind its cut. -/
def leaves_no_text_behind (g : Segmentation) (s : SentenceSplitter F) (f : Feed) : Bool :=
  (char_left_behind g s f).all is_space_or_comma

instance (g : Segmentation) (session : Option (Session F)) (f : Feed) :
    Decidable (Session.clean g session f) := inferInstanceAs (Decidable (_ ∧ _))

instance (g : Segmentation) (session : Option (Session F)) (f : Feed) :
    Decidable (Session.conserves g session f) := inferInstanceAs (Decidable (_ = true))

theorem keep_toList (c : Option Char) : keep c.toList = [] ↔ c.all is_space_or_comma = true := by
  cases c with
  | none => simp
  | some c => simp [keep]

theorem Session.clean_spec {g : Segmentation} {x : Session F} {f : Feed}
    (hs : Settled x.splitter) (hclean : Session.clean g (some x) f) :
    ∃ x' m, Session.feed g (some x) f = some x' ∧ Settled x'.splitter ∧
      x'.splitter.committed = x.splitter.committed ++ m ∧
      keep x'.emitted =
        keep x.emitted ++ (keep m ++ keep (char_left_behind g x.splitter f).toList) ∧
      (f.mode = .Hypothesis .ProviderFinal →
        x'.splitter.committed = normalize_hypothesis f.full_text) := by
  obtain ⟨hreset, hsome⟩ := hclean
  obtain ⟨x', hx'⟩ := Option.isSome_iff_exists.mp hsome
  obtain ⟨_, r, ⟨⟩, hfeed, hemit⟩ := Session.feed_eq_some hx'
  have hstarted : started x.splitter f = x.splitter := by
    simp only [Session.before, Option.all_some, Bool.not_eq_true'] at hreset
    simp [started, hreset]
  obtain ⟨_, hs', m, htook⟩ := feed_taken g hs hfeed
  refine ⟨x', m, hx', hs', by rw [htook.committed, hstarted], ?_, htook.final⟩
  rw [hemit, keep_append, htook.emitted]

/-- Over every run of clean feeds, the emitted text is the committed text at every feed exactly
when no feed leaves text behind its cut. -/
theorem emitted_is_committed_iff (g : Segmentation) (feeds : List Feed)
    (hclean : Along (Session.feed g) (Session.clean g) (some (Session.new : Session F)) feeds) :
    Along (Session.feed g) (Session.conserves g) (some (Session.new : Session F)) feeds ↔
      Along (Session.feed g) (Session.before (leaves_no_text_behind g))
        (some (Session.new : Session F)) feeds := by
  refine Along.congr (fun session : Option (Session F) => ∃ x, session = some x ∧
    Settled x.splitter ∧ keep x.emitted = keep x.splitter.committed) ?_ hclean ?_ ?_
  · exact ⟨Session.new, rfl, settled_new, rfl⟩
  · rintro _ f ⟨x, rfl, hs, hkeep⟩ hc
    obtain ⟨x', m, hx', hs', hcom, hemit, hfin⟩ := Session.clean_spec hs hc
    simp only [Session.conserves, Session.before, leaves_no_text_behind, hx', Option.all_some,
      decide_eq_true_eq, ← keep_toList]
    have hiff : keep x'.emitted = keep x'.splitter.committed ↔
        keep (char_left_behind g x.splitter f).toList = [] := by
      rw [hemit, hcom, keep_append, hkeep, ← List.append_assoc]
      exact List.append_right_eq_self
    constructor
    · intro h
      exact hiff.mp h.2.1
    · intro h
      exact ⟨hs'.committed, hiff.mpr h, hfin⟩
  · rintro _ f ⟨x, rfl, hs, hkeep⟩ hc hok
    obtain ⟨x', m, hx', hs', _⟩ := Session.clean_spec hs hc
    refine ⟨x', hx', hs', ?_⟩
    simp only [Session.conserves, hx', Option.all_some, decide_eq_true_eq] at hok
    exact hok.2.1

/-- A colon at the end of a soft commit is emitted and not committed. -/
def feeds_with_a_colon : List Feed :=
  [⟨"Hi. one two three four: five".toList, .LegacyStablePunctuation, from_millis 0, 0⟩,
    ⟨"Hi. one two three four: five".toList, .LegacyStablePunctuation, from_millis 900, 900⟩]

theorem a_colon_is_left_behind :
    Along (Session.feed Segmentation.chars) (Session.clean Segmentation.chars)
        (some (Session.new : Session ℚ)) feeds_with_a_colon ∧
      ¬ Along (Session.feed Segmentation.chars) (Session.conserves Segmentation.chars)
        (some (Session.new : Session ℚ)) feeds_with_a_colon := by
  refine ⟨by decide +kernel, by decide +kernel⟩

/-- Two sentences, the second of them final. -/
theorem two_sentences_are_conserved :
    Along (Session.feed Segmentation.chars) (Session.conserves Segmentation.chars)
      (some (Session.new : Session ℚ))
      [⟨"Hi. one two".toList, .LegacyStablePunctuation, 0, 0⟩,
        ⟨"Hi. one two three.".toList, .Hypothesis .ProviderFinal, 1, 1⟩] :=
  (emitted_is_committed_iff Segmentation.chars _ (by decide +kernel)).mpr (by decide +kernel)

end omni_translate.sentence

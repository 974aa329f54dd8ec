-- The phases of one feed of the splitter, each with what it gives: the
-- punctuation scan, the commit of the suffix, and the publication. Together
-- they say when a feed succeeds and what it commits.
import OmniTranslate.SentenceText

namespace omni_translate.sentence

open text

variable {F : Type} [F64 F]

/-! ## The punctuation scan -/

theorem ends_sentence_spec {b pre : Text} (h : pre <+: b) (ch : Char) (next : Option Char) :
    ∃ x, ends_sentence b (len pre) ch next = some x := by
  unfold ends_sentence
  obtain ⟨s, rfl⟩ := h
  split
  · exact ⟨_, rfl⟩
  · split
    · exact ⟨_, rfl⟩
    · split
      · simp only [slice?_first_part, Option.bind_eq_bind, Option.bind_some]
        exact ⟨_, rfl⟩
      · exact ⟨_, rfl⟩

/-- A first part that ends before the end of `p` takes in its next character and stays a
first part of `p`. -/
theorem push_first_part {b p pre t : Text} {ch : Char} (hb : b = pre ++ ch :: t) (hp : p <+: b)
    (h : len pre < len p) : pre ++ [ch] <+: p := by
  have hpre : pre <+: b := hb ▸ List.prefix_append _ _
  obtain ⟨r, rfl⟩ := prefix_of_len_le hpre hp (by omega)
  rw [hb] at hp
  have hr := (List.prefix_append_right_inj pre).mp hp
  cases r with
  | nil => simp at h
  | cons d r =>
    obtain ⟨rfl, _⟩ := List.cons_prefix_cons.mp hr
    simp

/-- The scan of the rest `t` of a buffer, from the last cut `q`. It never panics; it moves the
cut forward over some text `m`, never past the stable end `p`, and the sentences it adds are
`m` but for white space and commas. -/
theorem scan_sentences_spec {b c p : Text} (hc : c <+: b) (hp : p <+: b) (t pre q : Text)
    (acc : List Text) (hb : b = pre ++ t) (hq : q = c ∨ (q <+: pre ∧ q <+: p)) :
    ∃ m sents, scan_sentences b (len c) (len p) (char_indices_from (len pre) t) (len q) acc =
        some (len (q ++ m), sents) ∧
      (q ++ m = c ∨ q ++ m <+: p) ∧ keep sents.flatten = keep acc.flatten ++ keep m := by
  induction t generalizing pre q acc with
  | nil =>
    refine ⟨[], acc, by simp [scan_sentences, char_indices_from], ?_, by simp⟩
    simpa using hq.imp_right And.right
  | cons ch t ih =>
    have hb' : b = (pre ++ [ch]) ++ t := by simp [hb]
    have hpre : pre <+: b := hb ▸ List.prefix_append _ _
    have hlen : len pre + ch.utf8Size = len (pre ++ [ch]) := by simp
    simp only [char_indices_from, scan_sentences, hlen]
    -- a character that does not end a sentence leaves the cut where it is
    have hskip := ih (pre ++ [ch]) q acc hb'
      (hq.imp_right fun h => ⟨h.1.trans (List.prefix_append _ _), h.2⟩)
    split
    · exact hskip
    · have hlo : len c ≤ len pre := by omega
      have hhi : len pre < len p := by omega
      obtain ⟨x, hx⟩ := ends_sentence_spec hpre ch
        ((char_indices_from (len (pre ++ [ch])) t).head?.map Prod.snd)
      simp only [hx, Option.bind_eq_bind, Option.bind_some]
      cases x with
      | false => simpa using hskip
      | true =>
        have hqpre : q <+: pre := by
          rcases hq with rfl | h
          · exact prefix_of_len_le hc hpre hlo
          · exact h.1
        obtain ⟨m1, hm1⟩ := hqpre.trans (List.prefix_append pre [ch])
        have hslice : slice? b (len q) (len (pre ++ [ch])) = some m1 := by
          rw [hb', ← hm1, len_append]
          exact slice?_append q m1 t
        obtain ⟨m, sents, hs, hcut, hk⟩ := ih (pre ++ [ch]) (pre ++ [ch])
          (if trim m1 ≠ [] then acc ++ [trim m1] else acc) hb'
          (Or.inr ⟨List.prefix_rfl, push_first_part hb hp hhi⟩)
        refine ⟨m1 ++ m, sents, ?_, ?_, ?_⟩
        · simp only [if_true, hslice, Option.bind_some]
          rw [hs, ← List.append_assoc, hm1]
        · rwa [← List.append_assoc, hm1]
        · have hacc : keep (if trim m1 ≠ [] then acc ++ [trim m1] else acc).flatten =
              keep acc.flatten ++ keep m1 := by
            have := keep_last m1
            split <;> simp_all
          rw [hk, hacc, keep_append, List.append_assoc]

/-! ## The soft commit -/

variable (g : Segmentation)

theorem soft_commit_boundary_spec (t : Text) :
    ∃ r, soft_commit_boundary g t = some r ∧ ∀ i, r = some i → Cut t i := by
  have hpre := g.take_pieces t (subtitle_limits.char_limit t)
  have hcut : Cut t (byte_after_grapheme_count g t (subtitle_limits.char_limit t)) :=
    ⟨_, hpre, rfl⟩
  have hslice : slice? t 0 (byte_after_grapheme_count g t (subtitle_limits.char_limit t)) =
      some ((g.pieces t).take (subtitle_limits.char_limit t)).flatten := by
    obtain ⟨z, hz⟩ := hpre
    have := slice?_first_part ((g.pieces t).take (subtitle_limits.char_limit t)).flatten z
    rwa [hz] at this
  -- an offset inside the head is an offset inside the text
  have hup : ∀ i, Cut ((g.pieces t).take (subtitle_limits.char_limit t)).flatten i → Cut t i :=
    fun i ⟨p, hp, hl⟩ => ⟨p, hp.trans hpre, hl⟩
  simp only [soft_commit_boundary, hslice, Option.bind_eq_bind, Option.bind_some]
  split
  · rename_i mark hm
    refine ⟨_, rfl, ?_⟩
    rintro i ⟨⟩
    obtain ⟨⟨j, d⟩, hmem, hd⟩ := List.mem_filterMap.mp (List.mem_of_getLast? hm)
    split at hd
    · cases hd
      exact hup _ (cut_of_mem_char_indices hmem).2
    · cases hd
  · split
    · refine ⟨_, rfl, ?_⟩
      intro i hi
      obtain ⟨⟨j, d⟩, hmem, hd⟩ := List.mem_filterMap.mp (List.mem_of_getElem? hi)
      split at hd
      · cases hd
        exact hup _ (cut_of_mem_char_indices hmem).1
      · cases hd
    · split
      · refine ⟨_, rfl, ?_⟩
        rintro i ⟨⟩
        exact hcut
      · exact ⟨none, rfl, by simp⟩

/-- `soft_commit` never panics; what it commits is the trimmed start of its text. -/
theorem soft_commit_spec (t : Text) :
    ∃ r, soft_commit g t = some r ∧ ∀ e sentence, r = some (e, sentence) →
      ∃ h, h <+: t ∧ len h = e ∧ sentence = trim h ∧ trim h ≠ [] := by
  obtain ⟨r, hr, hcut⟩ := soft_commit_boundary_spec g t
  simp only [soft_commit, hr, Option.bind_eq_bind, Option.bind_some]
  cases r with
  | none => exact ⟨none, rfl, by simp⟩
  | some e =>
    obtain ⟨h, ⟨z, rfl⟩, rfl⟩ := hcut e rfl
    simp only [slice?_first_part, Option.bind_some]
    split
    · rename_i hh
      refine ⟨_, rfl, ?_⟩
      rintro e sentence ⟨⟩
      exact ⟨h, List.prefix_append _ _, rfl, rfl, hh.1⟩
    · exact ⟨none, rfl, by simp⟩

/-- The last character of the soft-committed start of a trimmed suffix, when the untrimmed
suffix starts with white space. `feed_internal` then applies the offset of the trimmed text to
the untrimmed one, and this character falls behind the cut. -/
def shifted_char (g : Segmentation) (untrimmed : Text) : Option Char :=
  if untrimmed.head?.any is_whitespace then
    match soft_commit g (trim untrimmed) with
    | some (some (relative_end, _)) => (slice? (trim untrimmed) 0 relative_end).bind List.getLast?
    | _ => none
  else none

theorem ne_nil_of_trim {t : Text} (h : trim t ≠ []) : t ≠ [] := by
  rintro rfl
  exact h (trim_eq_nil.mpr (by simp [AllSpace]))

/-- The end of a trimmed start, measured in a text that has one more byte in front. -/
theorem byte_end_shifted {s : Char} {v h' : Text} {d : Char} (hs : s.utf8Size = 1)
    (hh : h' ++ [d] <+: v) :
    byte_end_after_trimmed_prefix (s :: v) (len (h' ++ [d])) =
      if d.utf8Size = 1 then some (len (trim_end (s :: h'))) else none := by
  have hd := d.utf8Size_pos
  unfold byte_end_after_trimmed_prefix
  split
  · rename_i h1
    obtain ⟨z, rfl⟩ := hh
    have hlen : len (h' ++ [d]) = len (s :: h') := by simp [h1, hs]; omega
    have hslice : slice? (s :: (h' ++ [d] ++ z)) 0 (len (s :: h')) = some (s :: h') := by
      have := slice?_first_part (s :: h') (d :: z)
      simpa using this
    rw [hlen, hslice]
    rfl
  · suffices hn : slice? (s :: v) 0 (len (h' ++ [d])) = none by rw [hn]; rfl
    rw [Option.eq_none_iff_forall_not_mem]
    intro m hm
    obtain ⟨x, z, ht, hx, hl⟩ := slice?_eq_some.mp hm
    obtain rfl : x = [] := len_eq_zero.mp hx
    -- the slice would end inside the character `d`
    cases m with
    | nil => simp at hl; omega
    | cons e m =>
      obtain ⟨rfl, rfl⟩ := ht
      simp only [len_nil, len_cons, len_append, hs] at hl
      have hm' : h' <+: m := prefix_of_len_le ((List.prefix_append _ _).trans hh)
        (List.prefix_append _ _) (by omega)
      obtain ⟨r, rfl⟩ := hm'
      have hr : r <+: [d] := by
        have := prefix_of_len_le (List.prefix_append (h' ++ r) z) hh (by simp at hl ⊢; omega)
        exact (List.prefix_append_right_inj h').mp this
      rcases List.prefix_cons_iff.mp hr with rfl | ⟨r', rfl, hr'⟩
      · simp at hl; omega
      · simp only [List.prefix_nil] at hr'
        subst hr'
        simp at hl

/-! ## The commit of the suffix -/

/-- The branch of `feed_internal` that soft-commits: the text has waited too long or is too
long for a caption. -/
def soft_commits (s : SentenceSplitter F) (now : Instant) (provider_final : Bool)
    (stable_end last_split : Nat) (untrimmed : Text) : Bool :=
  ¬ (provider_final ∧ stable_end > last_split) ∧ trim untrimmed ≠ [] ∧
    ((s.pending_start.map (now - ·)).getD 0 ≥ s.soft_deadline ∨
      needs_subtitle_split_with_limits (trim untrimmed) subtitle_limits)

/-- The character that the soft commit of a feed leaves behind its cut. -/
def suffix_shift (g : Segmentation) (s : SentenceSplitter F) (now : Instant)
    (provider_final : Bool) (stable_end last_split : Nat) : Option Char :=
  match slice? s.buffer last_split stable_end with
  | none => none
  | some untrimmed =>
    if soft_commits s now provider_final stable_end last_split untrimmed then
      shifted_char g untrimmed
    else none

/-- A soft commit of the suffix `u`: the offset, when the shifted character has one byte, and
what is committed against what is emitted. -/
theorem soft_offset_spec {u sentence : Text} {e : Nat}
    (hblank : ∀ c ∈ u, is_whitespace c = true → c = ' ' ∨ c = '\n')
    (hsingle : u.IsChain fun a b => ¬ (is_whitespace a = true ∧ is_whitespace b = true))
    (hsoft : soft_commit g (trim u) = some (some (e, sentence))) :
    ∃ m, m <+: u ∧ keep sentence = keep m ++ keep (shifted_char g u).toList ∧
      byte_end_after_trimmed_prefix u e =
        if (shifted_char g u).all (·.utf8Size = 1) then some (len m) else none := by
  obtain ⟨r, hr, hspec⟩ := soft_commit_spec g (trim u)
  rw [hsoft] at hr
  cases hr
  obtain ⟨h, hh, rfl, rfl, hne⟩ := hspec e sentence rfl
  have hhne := ne_nil_of_trim hne
  have hslice : slice? (trim u) 0 (len h) = some h := by
    obtain ⟨z, hz⟩ := hh
    rw [← hz]
    exact slice?_first_part h z
  cases u with
  | nil => exact absurd (List.prefix_nil.mp (by simpa [trim, trim_start, trim_end] using hh)) hhne
  | cons s v =>
    by_cases hs : is_whitespace s = true
    · -- one separator stands in front, so the offset is one byte short
      have hs1 : s.utf8Size = 1 := by
        rcases hblank s (by simp) hs with rfl | rfl <;> decide
      have htrim : trim (s :: v) = trim v := by simp [trim, trim_start, hs]
      have hv : h <+: v := by
        rw [htrim] at hh
        cases v with
        | nil => exact absurd (List.prefix_nil.mp (by simpa [trim, trim_start, trim_end] using hh)) hhne
        | cons d v =>
          have hd : is_whitespace d = false := by
            have := (List.isChain_cons_cons.mp hsingle).1
            by_contra hd
            exact this ⟨hs, by simpa using hd⟩
          have : trim (d :: v) <+: d :: v := by
            rw [trim, trim_start_cons hd]
            exact trim_end_is_first_part _
          exact hh.trans this
      obtain ⟨h', d, rfl⟩ : ∃ h' d, h = h' ++ [d] :=
        ⟨h.dropLast, h.getLast hhne, (List.dropLast_append_getLast hhne).symm⟩
      have hshift : shifted_char g (s :: v) = some d := by
        unfold shifted_char
        rw [if_pos (by simp [hs]), hsoft]
        simp only [hslice, Option.bind_some, List.getLast?_append, List.getLast?_singleton,
          Option.some_or]
      refine ⟨trim_end (s :: h'), ?_, ?_, ?_⟩
      · refine (trim_end_is_first_part _).trans (List.cons_prefix_cons.mpr ⟨rfl, ?_⟩)
        exact (List.prefix_append _ _).trans hv
      · have : keep (s :: h') = keep h' := by
          simp [keep, is_space_or_comma, hs]
        rw [hshift, keep_trim, keep_trim_end, this, keep_append]
        rfl
      · rw [hshift, byte_end_shifted hs1 hv]
        simp
    · have hs : is_whitespace s = false := by simpa using hs
      have htrim : trim (s :: v) <+: s :: v := by
        rw [trim, trim_start_cons hs]
        exact trim_end_is_first_part _
      have hshift : shifted_char g (s :: v) = none := by simp [shifted_char, hs]
      refine ⟨trim_end h, (trim_end_is_first_part _).trans (hh.trans htrim), ?_, ?_⟩
      · rw [hshift, keep_trim, keep_trim_end]
        simp
      · obtain ⟨z, hz⟩ := hh.trans htrim
        rw [hshift, ← hz]
        simp [ byte_end_after_trimmed_prefix, slice?_first_part]

/-- What a soft commit emits is a first part of its text, but for white space and commas. -/
theorem soft_commit_first_part {t sentence : Text} {e : Nat}
    (hsoft : soft_commit g t = some (some (e, sentence))) : keep sentence <+: keep t := by
  obtain ⟨r, hr, hspec⟩ := soft_commit_spec g t
  rw [hsoft] at hr
  cases hr
  obtain ⟨h, hh, _, rfl, _⟩ := hspec e sentence rfl
  rw [keep_trim]
  exact hh.filter _

theorem Spaced.middle_part {t p q u : Text} (h : Spaced t) (hp : p <+: t) (hu : p = q ++ u) :
    (∀ c ∈ u, is_whitespace c = true → c = ' ' ∨ c = '\n') ∧
      u.IsChain fun a b => ¬ (is_whitespace a = true ∧ is_whitespace b = true) := by
  have hs := h.first_part hp
  subst hu
  exact ⟨fun c hc => hs.blank c (by simp [hc]), hs.single.right_of_append⟩

/-- The commit of the suffix between the last cut `q` and the stable end `p`. It panics only
where the shifted character has more than one byte; else it moves the cut over some text `m`,
and what it emits is `m` and the shifted character, but for white space and commas, and is the
start of the suffix. -/
theorem commit_suffix_spec (s : SentenceSplitter F) (now : Instant) (pf : Bool) {p q u : Text}
    (sents : List Text) (hb : Spaced s.buffer) (hp : p <+: s.buffer) (hu : p = q ++ u) :
    ∃ m more, q ++ m <+: p ∧
      (commit_suffix g s now pf (len p) (len q) sents =
        if (suffix_shift g s now pf (len p) (len q)).all (·.utf8Size = 1) then
          some (len (q ++ m), sents ++ more) else none) ∧
      keep more.flatten = keep m ++ keep (suffix_shift g s now pf (len p) (len q)).toList ∧
      (pf = true → trim u ≠ [] → m = u) ∧ keep more.flatten <+: keep u := by
  have hslice : slice? s.buffer (len q) (len p) = some u := by
    obtain ⟨z, hz⟩ := hp
    rw [← hz, hu, len_append]
    exact slice?_append q u z
  have hlen : len p = len q + len u := by rw [hu, len_append]
  simp only [commit_suffix, suffix_shift, hslice, Option.bind_eq_bind, Option.bind_some]
  by_cases hfin : pf = true ∧ len p > len q
  · have hsc : soft_commits s now pf (len p) (len q) u = false := by
      simp [soft_commits, hfin]
    rw [if_pos hfin, hsc]
    by_cases ht : trim u = []
    · refine ⟨[], [], by simp [hu], by simp [ht], by simp, ?_, by simp⟩
      intro _ h
      exact absurd ht h
    · refine ⟨u, [trim u], by simp [hu], ?_, ?_, fun _ _ => rfl, by simp [keep_trim]⟩
      · simp [ht, hlen]
      · simp [keep_trim]
  · have hm : pf = true → trim u ≠ [] → ([] : Text) = u := by
      intro hpf ht
      have := len_pos (ne_nil_of_trim ht)
      exact absurd ⟨hpf, by omega⟩ hfin
    rw [if_neg hfin]
    by_cases hsc : soft_commits s now pf (len p) (len q) u = true
    · have hcond := hsc
      simp only [soft_commits, decide_eq_true_eq] at hcond
      rw [if_pos hcond.2]
      simp only [hsc, if_true]
      obtain ⟨r, hr, _⟩ := soft_commit_spec g (trim u)
      rcases r with _ | ⟨e, sentence⟩
      · have hnone : shifted_char g u = none := by simp [shifted_char, hr]
        exact ⟨[], [], by simp [hu], by simp [hr, hnone], by simp [hnone], hm, by simp⟩
      · obtain ⟨hblank, hsingle⟩ := hb.middle_part hp hu
        obtain ⟨m, hmu, hk, ho⟩ := soft_offset_spec g hblank hsingle hr
        have hfirst := keep_trim u ▸ soft_commit_first_part g hr
        refine ⟨m, [sentence], ?_, ?_, by simpa using hk, ?_, by simpa using hfirst⟩
        · rw [hu]
          exact (List.prefix_append_right_inj q).mpr hmu
        · simp only [hr, Option.bind_some, ho]
          split <;> simp
        · intro hpf ht
          exact absurd (hm hpf ht).symm (ne_nil_of_trim ht)
    · have hsc' : soft_commits s now pf (len p) (len q) u = false := by simpa using hsc
      have hcond : ¬ (trim u ≠ [] ∧ ((s.pending_start.map (now - ·)).getD 0 ≥ s.soft_deadline ∨
          needs_subtitle_split_with_limits (trim u) subtitle_limits = true)) := by
        intro h
        apply hsc
        simp only [soft_commits, decide_eq_true_eq]
        exact ⟨hfin, h⟩
      rw [if_neg hcond]
      exact ⟨[], [], by simp [hu], by simp [hsc'], by simp [hsc'], hm, by simp⟩

end omni_translate.sentence

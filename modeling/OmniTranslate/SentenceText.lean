-- What the text functions of the splitter keep: a normalized hypothesis has
-- single separators, an agreement has the length of a first part of the
-- hypothesis, and caption chunks lose only white space and commas.
import Mathlib.Data.List.Chain
import OmniTranslate.Sentence

namespace omni_translate.sentence

open text

/-! ## Normalized text -/

/-- White space is a blank or a line break, it does not start the text, and no two stand in a
row. -/
structure Spaced (t : Text) : Prop where
  blank : ∀ c ∈ t, is_whitespace c = true → c = ' ' ∨ c = '\n'
  head : ∀ c, t.head? = some c → is_whitespace c = false
  single : t.IsChain fun a b => ¬ (is_whitespace a = true ∧ is_whitespace b = true)

theorem Spaced.first_part {t p : Text} (h : Spaced t) (hp : p <+: t) : Spaced p := by
  obtain ⟨s, rfl⟩ := hp
  refine ⟨fun c hc => h.blank c (by simp [hc]), ?_, h.single.left_of_append⟩
  intro c hc
  cases p with
  | nil => simp at hc
  | cons d p => exact h.head c (by simpa using hc)

variable {t : Text} {c : Char}

/-- A text that goes on with a character that is not white space. -/
theorem Spaced.push (h : Spaced t) (hc : is_whitespace c = false) : Spaced (t ++ [c]) := by
  refine ⟨?_, ?_, ?_⟩
  · intro d hd hw
    rcases List.mem_append.mp hd with hd | hd
    · exact h.blank d hd hw
    · simp only [List.mem_singleton] at hd
      subst hd
      simp [hc] at hw
  · intro d hd
    cases t with
    | nil => simp at hd; exact hd ▸ hc
    | cons e t => exact h.head d (by simpa using hd)
  · rw [List.isChain_append]
    exact ⟨h.single, by simp, by simp [hc]⟩

/-- A text that goes on with one separator after a character that is not white space. -/
theorem Spaced.push_blank {c d : Char} (h : Spaced t) (hc : c = ' ' ∨ c = '\n')
    (hd : t.getLast? = some d) (hw : is_whitespace d = false) : Spaced (t ++ [c]) := by
  refine ⟨?_, ?_, ?_⟩
  · intro e he hs
    rcases List.mem_append.mp he with he | he
    · exact h.blank e he hs
    · simp only [List.mem_singleton] at he
      exact he ▸ hc
  · intro e he
    cases t with
    | nil => simp at hd
    | cons x t => exact h.head e (by simpa using he)
  · rw [List.isChain_append]
    refine ⟨h.single, by simp, ?_⟩
    intro x hx y _
    rw [hd] at hx
    cases hx
    simp [hw]

/-- The loop of `normalize_hypothesis` never leaves a blank at the end. -/
structure Normalizing (acc : Text × Bool) : Prop where
  spaced : Spaced acc.1
  no_blank : acc.1.getLast? ≠ some ' '

/-- A last character that is neither a blank nor a line break is not white space. -/
theorem Spaced.last {d : Char} (h : Spaced t) (hd : t.getLast? = some d) (h1 : d ≠ ' ')
    (h2 : d ≠ '\n') : is_whitespace d = false := by
  by_contra hw
  have hmem : d ∈ t := List.mem_of_getLast? hd
  rcases h.blank d hmem (by simpa using hw) with rfl | rfl
  · exact h1 rfl
  · exact h2 rfl

theorem last_rdropWhile_blank (t : Text) : (t.rdropWhile (· = ' ')).getLast? ≠ some ' ' := by
  intro h
  have hne : t.rdropWhile (· = ' ') ≠ [] := by
    intro hn
    simp [hn] at h
  have := List.rdropWhile_last_not (· = ' ') t hne
  rw [List.getLast?_eq_some_getLast hne] at h
  simp_all

theorem Normalizing.step {acc : Text × Bool} (h : Normalizing acc) (c : Char) :
    Normalizing (normalize_step acc c) := by
  obtain ⟨t, pending⟩ := acc
  obtain ⟨hs, hb⟩ := h
  simp only [normalize_step]
  split
  · have hs' : Spaced (t.rdropWhile (· = ' ')) := hs.first_part (List.rdropWhile_prefix _ _)
    have hb' := last_rdropWhile_blank t
    generalize t.rdropWhile (· = ' ') = r at hs' hb'
    split
    · rename_i hr
      obtain ⟨hne, hnl⟩ := hr
      have hl := List.getLast?_eq_some_getLast hne
      have hw := hs'.last hl (by intro h; exact hb' (h ▸ hl)) (by intro h; exact hnl (h ▸ hl))
      exact ⟨hs'.push_blank (Or.inr rfl) hl hw, by simp⟩
    · exact ⟨hs', hb'⟩
  · split
    · exact ⟨hs, hb⟩
    · rename_i hw
      have hw : is_whitespace c = false := by simpa using hw
      have hcb : c ≠ ' ' := by rintro rfl; simp [is_whitespace] at hw
      split
      · rename_i hp
        obtain ⟨_, hne, hnl⟩ := hp
        have hl := List.getLast?_eq_some_getLast hne
        have hlw := hs.last hl (by intro h; exact hb (h ▸ hl)) (by intro h; exact hnl (h ▸ hl))
        have := (hs.push_blank (Or.inl rfl) hl hlw).push hw
        exact ⟨by simpa using this, by simpa using hcb⟩
      · exact ⟨hs.push hw, by simpa using hcb⟩

theorem Normalizing.foldl {acc : Text × Bool} (h : Normalizing acc) (t : Text) :
    Normalizing (t.foldl normalize_step acc) := by
  induction t generalizing acc with
  | nil => exact h
  | cons c t ih => exact ih (h.step c)

/-- A normalized hypothesis has single separators. -/
theorem spaced_normalize (t : Text) : Spaced (normalize_hypothesis t) := by
  have h0 : Normalizing ([], false) := ⟨⟨by simp, by simp, by simp⟩, by simp⟩
  exact (h0.foldl t).spaced.first_part (trim_end_is_first_part _)

/-- A normalized hypothesis does not end with white space. -/
theorem normalize_last (h : (normalize_hypothesis t).getLast? = some c) :
    is_whitespace c = false := by
  unfold normalize_hypothesis trim_end at h
  generalize (t.foldl normalize_step ([], false)).1 = r at h
  have hne : r.rdropWhile is_whitespace ≠ [] := by
    intro hn
    simp [hn] at h
  rw [List.getLast?_eq_some_getLast hne] at h
  cases h
  simpa using List.rdropWhile_last_not is_whitespace r hne

theorem normalize_no_space_tail {t q u : Text} (hu : AllSpace u)
    (h : q ++ u = normalize_hypothesis t) : u = [] := by
  by_contra hne
  have hlast : (normalize_hypothesis t).getLast? = some (u.getLast hne) := by
    rw [← h, List.getLast?_append_of_ne_nil _ hne, List.getLast?_eq_some_getLast hne]
  have hspace := hu _ (List.getLast_mem hne)
  rw [normalize_last hlast] at hspace
  cases hspace

/-! ## The agreement of two hypotheses -/

theorem common_pieces_is_first_part (ls rs : List Text) : common_pieces ls rs <+: rs.flatten := by
  induction ls generalizing rs with
  | nil => simp [common_pieces]
  | cons l ls ih =>
    cases rs with
    | nil => simp [common_pieces]
    | cons r rs =>
      simp only [common_pieces]
      split
      · exact List.nil_prefix
      · rename_i h
        have h : l = r := by simpa using h
        subst h
        exact List.prefix_append_right_inj l |>.mpr (ih rs)

theorem grapheme_common_prefix_is_first_part (g : Segmentation) (l r : Text) :
    grapheme_common_prefix g l r <+: r := by
  have := common_pieces_is_first_part (g.pieces l) (g.pieces r)
  rwa [g.flatten_pieces] at this

theorem split_whitespace_word {w : Text} (h : ∀ c ∈ w, is_whitespace c = false) (hne : w ≠ []) :
    split_whitespace w = [w] := by
  simp [split_whitespace, List.splitOnP_eq_singleton h, hne]

theorem split_whitespace_cons {w t : Text} {s : Char} (h : ∀ c ∈ w, is_whitespace c = false)
    (hne : w ≠ []) (hs : is_whitespace s = true) :
    split_whitespace (w ++ s :: t) = w :: split_whitespace t := by
  simp [split_whitespace, List.splitOnP_append_cons_of_forall_mem h s hs, hne]

theorem join_cons {sep w : Text} {ws : List Text} (h : ws ≠ []) :
    join sep (w :: ws) = w ++ sep ++ join sep ws := by
  cases ws with
  | nil => exact absurd rfl h
  | cons v ws => simp [join, List.intercalate]

/-- The first word of a text that does not start with white space, and what follows it. -/
theorem Spaced.first_word (h : Spaced t) :
    (∀ c ∈ t, is_whitespace c = false) ∨
    ∃ w s r, t = w ++ s :: r ∧ w ≠ [] ∧ (∀ c ∈ w, is_whitespace c = false) ∧
      is_whitespace s = true ∧ s.utf8Size = 1 ∧ Spaced r := by
  have hsplit := List.takeWhile_append_dropWhile (p := (!is_whitespace ·)) (l := t)
  rcases hr : t.dropWhile (!is_whitespace ·) with _ | ⟨s, r⟩
  · left
    intro c hc
    have := List.dropWhile_eq_nil_iff.mp hr c hc
    simpa using this
  · right
    rw [hr] at hsplit
    have hs : is_whitespace s = true := by
      have := List.head_dropWhile_not (!is_whitespace ·) (l := t) (by simp [hr])
      simpa [hr] using this
    refine ⟨t.takeWhile (!is_whitespace ·), s, r, hsplit.symm, ?_, ?_, hs, ?_, ?_⟩
    · intro hw
      rw [hw, List.nil_append] at hsplit
      have := h.head s (by simp [← hsplit])
      simp [hs] at this
    · intro c hc
      simpa using List.mem_takeWhile_imp hc
    · rcases h.blank s (by rw [← hsplit]; simp) hs with rfl | rfl <;> decide
    · have hchain : (s :: r).IsChain _ := (hsplit ▸ h.single).right_of_append
      refine ⟨fun c hc => h.blank c (by rw [← hsplit]; simp [hc]), ?_, hchain.tail⟩
      intro c hc
      cases r with
      | nil => simp at hc
      | cons d r =>
        simp only [List.head?_cons, Option.some.injEq] at hc
        subst hc
        have := (List.isChain_cons_cons.mp hchain).1
        by_contra hd
        exact this ⟨hs, by simpa using hd⟩

/-- Some first words, joined by blanks, are as long as a first part of the text. -/
theorem Spaced.first_words (h : Spaced t) (k : Nat) :
    ∃ q, q <+: t ∧ len q = len (join [' '] ((split_whitespace t).take k)) := by
  -- the induction is on the length: a word and its separator go each time
  obtain ⟨n, hn⟩ : ∃ n, t.length ≤ n := ⟨_, Nat.le_refl _⟩
  induction n generalizing t k with
  | zero =>
    have : t = [] := List.length_eq_zero_iff.mp (by omega)
    subst this
    exact ⟨[], List.nil_prefix, by simp [split_whitespace, join]⟩
  | succ n ih =>
    by_cases hne : t = []
    · subst hne
      exact ⟨[], List.nil_prefix, by simp [split_whitespace, join]⟩
    cases k with
    | zero => exact ⟨[], List.nil_prefix, by simp [join]⟩
    | succ k =>
      rcases h.first_word with hw | ⟨w, s, r, rfl, hwne, hw, hs, hs1, hr⟩
      · exact ⟨t, List.prefix_rfl, by simp [split_whitespace_word hw hne, join]⟩
      · rw [split_whitespace_cons hw hwne hs, List.take_succ_cons]
        by_cases hk : (split_whitespace r).take k = []
        · exact ⟨w, List.prefix_append _ _, by simp [hk, join]⟩
        · obtain ⟨q, hq, hl⟩ := ih hr k (by simp at hn; omega)
          refine ⟨w ++ s :: q, ?_, ?_⟩
          · exact (List.prefix_append_right_inj w).mpr ((List.cons_prefix_cons).mpr ⟨rfl, hq⟩)
          · rw [join_cons hk]
            simp only [len_append, len_cons, len_nil, hl, hs1]
            have : Char.utf8Size ' ' = 1 := by decide
            omega

/-- The agreement that stays after the unstable tail is cut is as long as a first part of the
text. -/
theorem retain_unstable_tail_length (g : Segmentation) (h : Spaced t) :
    ∃ q, q <+: t ∧ len q = len (retain_unstable_tail g t) := by
  unfold retain_unstable_tail
  split
  · exact ⟨[], List.nil_prefix, rfl⟩
  · split
    · exact h.first_words _
    · exact ⟨_, g.take_pieces t _, rfl⟩

/-! ## Offsets at which a caption is cut -/

/-- The offset is the end of a first part of the text. -/
def Cut (t : Text) (i : Nat) : Prop := ∃ p, p <+: t ∧ len p = i

theorem cut_len (t : Text) : Cut t (len t) := ⟨t, List.prefix_rfl, rfl⟩

/-- A character of the text starts and ends at a cut. -/
theorem cut_of_mem_char_indices {i : Nat} (h : (i, c) ∈ char_indices t) :
    Cut t i ∧ Cut t (i + c.utf8Size) := by
  obtain ⟨p, s, rfl, rfl⟩ := mem_char_indices.mp h
  exact ⟨⟨p, List.prefix_append _ _, rfl⟩, ⟨p ++ [c], by simp, by simp⟩⟩

theorem connector_ends_spec {connector : Text} (hne : connector ≠ []) (fuel : Nat) (pre rest : Text)
    (h : rest.length < fuel) :
    ∃ ends, connector_ends (pre ++ rest) connector fuel (len pre) = some ends ∧
      ∀ i ∈ ends, Cut (pre ++ rest) i := by
  induction fuel generalizing pre rest with
  | zero => omega
  | succ fuel ih =>
    simp only [connector_ends, slice?_last_part, Option.bind_eq_bind, Option.bind_some]
    rcases hf : find connector rest with _ | found
    · exact ⟨[], rfl, by simp⟩
    · obtain ⟨p, s, rfl, rfl⟩ := find_spec hf
      have hc : 0 < connector.length := List.length_pos_iff.mpr hne
      have hlen : len pre + len p + len connector = len (pre ++ (p ++ connector)) := by
        simp; omega
      obtain ⟨ends, he, hcut⟩ := ih (pre ++ (p ++ connector)) s (by simp at h; omega)
      rw [List.append_assoc pre] at he hcut
      refine ⟨len (pre ++ (p ++ connector)) :: ends, ?_, ?_⟩
      · simp only [hlen, he, Option.bind_some]
      · intro i hi
        rcases List.mem_cons.mp hi with rfl | hi
        · exact ⟨pre ++ (p ++ connector), by simp, rfl⟩
        · exact hcut i hi

theorem mem_of_mem_dedup {l : List Nat} {x : Nat} (h : x ∈ dedup l) : x ∈ l := by
  fun_induction dedup l with
  | case1 b l ih => exact List.mem_cons_of_mem _ (ih h)
  | case2 a b l _ ih =>
    rcases List.mem_cons.mp h with rfl | h
    · exact List.mem_cons_self
    · exact List.mem_cons_of_mem _ (ih h)
  | case3 l => exact h

/-- A walk over a list that succeeds at every element succeeds. -/
theorem mapM_spec {α β : Type} {P : β → Prop} {f : α → Option β} (l : List α)
    (h : ∀ a ∈ l, ∃ b, f a = some b ∧ P b) : ∃ bs, l.mapM f = some bs ∧ ∀ b ∈ bs, P b := by
  induction l with
  | nil => exact ⟨[], rfl, by simp⟩
  | cons a l ih =>
    obtain ⟨b, hb, hpb⟩ := h a List.mem_cons_self
    obtain ⟨bs, hbs, hp⟩ := ih fun a ha => h a (List.mem_cons_of_mem _ ha)
    refine ⟨b :: bs, by simp [List.mapM_cons, hb, hbs], ?_⟩
    intro x hx
    rcases List.mem_cons.mp hx with rfl | hx
    · exact hpb
    · exact hp x hx

/-- `split_candidates` never panics, and every candidate is a cut. -/
theorem split_candidates_spec (t : Text) :
    ∃ semantic spaces, split_candidates t = some (semantic, spaces) ∧
      (∀ i ∈ semantic, Cut t i) ∧ ∀ i ∈ spaces, Cut t i := by
  have hconn : ∀ c ∈ connectors, c ≠ [] := by decide
  obtain ⟨ends, he, hends⟩ := mapM_spec (P := fun l => ∀ i ∈ l, Cut t i)
    (f := fun c => connector_ends t c (t.length + 1) 0) connectors (by
      intro c hc
      exact connector_ends_spec (hconn c hc) (t.length + 1) [] t (by omega))
  simp only [split_candidates, he, Option.bind_eq_bind, Option.bind_some]
  refine ⟨_, _, rfl, ?_, ?_⟩
  · intro i hi
    rcases List.mem_append.mp ((List.mem_insertionSort _).mp (mem_of_mem_dedup hi)) with hi | hi
    · obtain ⟨⟨j, c⟩, hm, hc⟩ := List.mem_filterMap.mp hi
      split at hc
      · cases hc
        exact (cut_of_mem_char_indices hm).2
      · cases hc
    · obtain ⟨l, hl, hil⟩ := List.mem_flatten.mp hi
      exact hends l hl i hil
  · intro i hi
    obtain ⟨⟨j, c⟩, hm, hc⟩ := List.mem_filterMap.mp
      ((List.mem_insertionSort _).mp (mem_of_mem_dedup hi))
    split at hc
    · cases hc
      exact (cut_of_mem_char_indices hm).2
    · cases hc

theorem or_spec {P : Nat → Prop} {a b : Option Nat} (ha : ∀ i, a = some i → P i)
    (hb : ∃ i, b = some i ∧ P i) : ∃ i, (a <|> b) = some i ∧ P i := by
  cases a with
  | none => simpa using hb
  | some i => exact ⟨i, rfl, ha i rfl⟩

/-- `find_subtitle_split_at_with_limits` never panics, always has an answer, and the answer
is a cut. -/
theorem find_subtitle_split_at_spec (t : Text) (l : Limits) :
    ∃ i, find_subtitle_split_at_with_limits t l = some i ∧ Cut t i := by
  obtain ⟨semantic, spaces, hc, hsem, hsp⟩ := split_candidates_spec t
  simp only [find_subtitle_split_at_with_limits, hc, Option.bind_eq_bind, Option.bind_some]
  have hsem' : ∀ i ∈ (if semantic.filter (!breaks_numeric_money_phrase t ·) = [] then semantic
      else semantic.filter (!breaks_numeric_money_phrase t ·)), Cut t i := by
    intro i hi
    split at hi
    · exact hsem i hi
    · exact hsem i (List.mem_of_mem_filter hi)
  refine or_spec (fun i hi => hsem' i (List.mem_of_mem_filter (List.min?_mem hi))) ?_
  refine or_spec (fun i hi => hsem' i (List.mem_of_mem_filter (List.min?_mem hi))) ?_
  refine or_spec (fun i hi => hsp i (List.mem_of_mem_filter (List.max?_mem hi))) ?_
  refine or_spec (fun i hi => hsp i (List.mem_of_mem_filter (List.min?_mem hi))) ?_
  refine ⟨_, rfl, ?_⟩
  rcases Nat.le_total (byte_after_char_count t (l.char_limit t))
    (spaces[l.max_words - 1]?.getD (len t)) with h | h
  · rw [Nat.min_eq_left h]
    exact ⟨_, List.take_prefix _ _, rfl⟩
  · rw [Nat.min_eq_right h]
    rcases hg : spaces[l.max_words - 1]? with _ | i
    · exact cut_len t
    · exact hsp i (List.mem_of_getElem? hg)

/-! ## What a cut drops -/

/-- The text without white space and commas. -/
def keep (t : Text) : Text := t.filter (!is_space_or_comma ·)

@[simp] theorem keep_nil : keep [] = [] := rfl

@[simp] theorem keep_append (a b : Text) : keep (a ++ b) = keep a ++ keep b := by
  simp [keep]

theorem keep_allSpace (h : AllSpace t) : keep t = [] := by
  simp only [keep, List.filter_eq_nil_iff]
  intro c hc
  simp [is_space_or_comma, h c hc]

theorem keep_trim (t : Text) : keep (trim t) = keep t := by
  obtain ⟨a, b, ht, ha, hb⟩ := trim_spec t
  calc keep (trim t) = keep a ++ keep (trim t) ++ keep b := by
        simp [keep_allSpace ha, keep_allSpace hb]
    _ = keep t := by rw [← keep_append, ← keep_append, ← ht]

theorem keep_trim_end (t : Text) : keep (trim_end t) = keep t := by
  obtain ⟨b, ht, hb⟩ := trim_end_spec t
  calc keep (trim_end t) = keep (trim_end t) ++ keep b := by simp [keep_allSpace hb]
    _ = keep t := by rw [← keep_append, ← ht]

theorem keep_dropWhile (t : Text) : keep (t.dropWhile is_space_or_comma) = keep t := by
  have h : keep (t.takeWhile is_space_or_comma) = [] := by
    simp only [keep, List.filter_eq_nil_iff]
    intro c hc
    simpa using List.mem_takeWhile_imp hc
  calc keep (t.dropWhile is_space_or_comma)
      = keep (t.takeWhile is_space_or_comma) ++ keep (t.dropWhile is_space_or_comma) := by simp [h]
    _ = keep t := by rw [← keep_append, List.takeWhile_append_dropWhile]

theorem keep_last (t : Text) :
    keep (if trim t ≠ [] then [trim t] else []).flatten = keep t := by
  split
  · simp [keep_trim]
  · rename_i h
    have h : trim t = [] := by simpa using h
    simp [keep_allSpace (trim_eq_nil.mp h)]

/-- The chunk loop never panics, ends, and drops only white space and commas. -/
theorem chunk_loop_spec (l : Limits) (fuel : Nat) (t : Text) (h : t.length < fuel) :
    ∃ chunks, chunk_loop l fuel t = some chunks ∧ keep chunks.flatten = keep t := by
  induction fuel generalizing t with
  | zero => omega
  | succ fuel ih =>
    simp only [chunk_loop]
    split
    · obtain ⟨i, hi, p, ⟨s, rfl⟩, rfl⟩ := find_subtitle_split_at_spec t l
      simp only [hi, split_at?_append, Option.bind_eq_bind, Option.bind_some]
      split
      · exact ⟨_, rfl, keep_last _⟩
      · rename_i hne
        have hp : p ≠ [] := by
          rintro rfl
          exact hne (trim_eq_nil.mpr (by simp [AllSpace]))
        have hp := List.length_pos_iff.mpr hp
        have hd := (List.dropWhile_suffix is_space_or_comma (l := s)).length_le
        obtain ⟨chunks, hc, hk⟩ := ih (s.dropWhile is_space_or_comma) (by simp at h; omega)
        refine ⟨trim p :: chunks, by simp [hc], ?_⟩
        rw [List.flatten_cons, keep_append, hk, keep_trim, keep_dropWhile, keep_append]
    · exact ⟨_, rfl, keep_last _⟩

/-- `split_subtitle_chunks_with_limits` never panics, always ends, and its chunks are the
sentence but for white space and commas. -/
theorem split_subtitle_chunks_with_limits_spec (t : Text) (l : Limits) :
    ∃ chunks, split_subtitle_chunks_with_limits t l = some chunks ∧
      keep chunks.flatten = keep t := by
  simp only [split_subtitle_chunks_with_limits]
  split
  · rename_i h
    exact ⟨[], rfl, by simp [keep_allSpace (trim_eq_nil.mp h)]⟩
  · split
    · obtain ⟨chunks, hc, hk⟩ := chunk_loop_spec l _ (trim t) (Nat.lt_succ_self _)
      exact ⟨chunks, hc, by rw [hk, keep_trim]⟩
    · exact ⟨_, rfl, by simp [keep_trim]⟩

end omni_translate.sentence

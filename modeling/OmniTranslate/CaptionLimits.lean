-- Which captions keep to their limits. A cut within the target always does;
-- the loop goes past the target for the first clause boundary it finds, and for
-- the first white space when none stands in reach.
import OmniTranslate.DisplaySegmenter

namespace omni_translate.sentence

open text

/-! ## Counting words -/

/-- The offsets after the white space of a text that starts at an offset. -/
def space_ends : Nat → Text → List Nat
  | _, [] => []
  | i, c :: t =>
    if is_whitespace c then (i + c.utf8Size) :: space_ends (i + c.utf8Size) t
    else space_ends (i + c.utf8Size) t

theorem space_ends_eq (i : Nat) (t : Text) :
    (char_indices_from i t).filterMap (fun (idx, ch) =>
      if is_whitespace ch then some (idx + ch.utf8Size) else none) = space_ends i t := by
  induction t generalizing i with
  | nil => rfl
  | cons _ t ih =>
    simp only [char_indices_from, space_ends]
    split
    · rename_i hc
      rw [List.filterMap_cons_some (by simp [hc]; rfl), ih]
    · rename_i hc
      rw [List.filterMap_cons_none (by simp [hc]), ih]

theorem space_ends_append (i : Nat) (a b : Text) :
    space_ends i (a ++ b) = space_ends i a ++ space_ends (i + len a) b := by
  induction a generalizing i with
  | nil => simp [space_ends]
  | cons _ a ih =>
    simp only [List.cons_append, space_ends, ih, len_cons, Nat.add_assoc]
    split <;> rfl

variable {t : Text}

theorem lt_of_mem_space_ends {i j : Nat} (h : j ∈ space_ends i t) : i < j ∧ j ≤ i + len t := by
  induction t generalizing i with
  | nil => cases h
  | cons c t ih =>
    have hpos := c.utf8Size_pos
    simp only [space_ends] at h
    rw [len_cons]
    split at h
    · rcases List.mem_cons.mp h with rfl | h
      · omega
      · have := ih h
        omega
    · have := ih h
      omega

theorem space_ends_sorted (i : Nat) (t : Text) : (space_ends i t).Pairwise (· < ·) := by
  induction t generalizing i with
  | nil => exact List.Pairwise.nil
  | cons _ t ih =>
    simp only [space_ends]
    split
    · exact List.Pairwise.cons (fun _ hj => (lt_of_mem_space_ends hj).1) (ih _)
    · exact ih _

theorem dedup_of_sorted {l : List Nat} (h : l.Pairwise (· < ·)) : dedup l = l := by
  fun_induction dedup l with
  | case1 b l ih =>
    have := List.rel_of_pairwise_cons h List.mem_cons_self
    omega
  | case2 _ b l _ ih => rw [ih h.tail]
  | case3 l => rfl

/-- The white space candidates are the ends of the white space, in order. -/
theorem split_candidates_spaces {semantic spaces : List Nat}
    (h : split_candidates t = some (semantic, spaces)) : spaces = space_ends 0 t := by
  simp only [split_candidates, Option.bind_eq_bind, Option.bind_eq_some_iff] at h
  obtain ⟨_, _, h⟩ := h
  simp only [Option.some.injEq, Prod.mk.injEq] at h
  rw [← h.2, char_indices, space_ends_eq]
  have hsorted := space_ends_sorted 0 t
  have hle : (space_ends 0 t).Pairwise (· ≤ ·) := hsorted.imp Nat.le_of_lt
  rw [hle.insertionSort_eq, dedup_of_sorted hsorted]

theorem split_whitespace_append_cons (a b : Text) {c : Char} (hc : is_whitespace c = true) :
    split_whitespace (a ++ c :: b) = split_whitespace a ++ split_whitespace b := by
  simp [split_whitespace, List.splitOnP_append_cons a b hc]

@[simp] theorem split_whitespace_nil : split_whitespace [] = [] := by
  simp [split_whitespace]

theorem split_whitespace_allSpace (h : AllSpace t) (a : Text) :
    split_whitespace (t ++ a) = split_whitespace a := by
  induction t with
  | nil => rfl
  | cons c t ih =>
    have := split_whitespace_append_cons [] (t ++ a) (h c List.mem_cons_self)
    simp only [List.nil_append, split_whitespace_nil] at this
    rw [List.cons_append, this, ih fun d hd => h d (List.mem_cons_of_mem _ hd)]

theorem split_whitespace_append_allSpace (a : Text) (h : AllSpace t) :
    split_whitespace (a ++ t) = split_whitespace a := by
  cases t with
  | nil => rw [List.append_nil]
  | cons c t =>
    have htail := split_whitespace_allSpace (fun d hd => h d (List.mem_cons_of_mem _ hd)) []
    simp only [List.append_nil, split_whitespace_nil] at htail
    rw [split_whitespace_append_cons a t (h c List.mem_cons_self), htail, List.append_nil]

theorem split_whitespace_trim (t : Text) : split_whitespace (trim t) = split_whitespace t := by
  obtain ⟨_, _, ht, ha, hb⟩ := trim_spec t
  rw [ht, split_whitespace_append_allSpace _ hb, split_whitespace_allSpace ha]
  rw [← ht]

/-- A text has at most one word more than it has white space. -/
theorem words_le_spaces (i : Nat) (t : Text) :
    (split_whitespace t).length ≤ (space_ends i t).length + 1 := by
  have hsplit : (t.splitOnP is_whitespace).length = (space_ends i t).length + 1 := by
    induction t generalizing i with
    | nil => simp [space_ends]
    | cons _ t ih =>
      rw [List.splitOnP_cons_eq_if_modifyHead]
      simp only [space_ends]
      split
      · rw [List.length_cons, ih, List.length_cons]
      · rw [List.length_modifyHead, ih]
  exact hsplit ▸ List.length_filter_le _ _

variable {p s : Text}

/-- The text up to the end of its white space number `k` has at most that many words. -/
theorem words_within {k : Nat} (h : len p ≤ (space_ends 0 (p ++ s))[k]?.getD (len (p ++ s))) :
    (split_whitespace p).length ≤ k + 1 := by
  have hwords := words_le_spaces 0 p
  rw [space_ends_append] at h
  rcases Nat.lt_or_ge k (space_ends 0 p).length with hk | hk
  · -- the white space stands in the first part, so it is its end
    rw [List.getElem?_append_left hk, List.getElem?_eq_getElem hk, Option.getD_some] at h
    rcases List.eq_nil_or_concat' p with rfl | ⟨q, c, rfl⟩
    · simp
    · have hpos := c.utf8Size_pos
      have hkq : (space_ends 0 q).length ≤ k := by
        by_contra hlt
        have hlt := Nat.lt_of_not_le hlt
        have hmem : (space_ends 0 (q ++ [c]))[k] ∈ space_ends 0 q := by
          simp only [space_ends_append]
          rw [List.getElem_append_left hlt]
          exact List.getElem_mem hlt
        have hle := (lt_of_mem_space_ends hmem).2
        simp only [len_append, len_cons, len_nil] at h
        omega
      have hends : space_ends 0 (q ++ [c]) =
          space_ends 0 q ++ if is_whitespace c then [len q + c.utf8Size] else [] := by
        rw [space_ends_append]
        simp [space_ends]
      by_cases hc : is_whitespace c = true
      · have hspace : AllSpace [c] := by simpa [AllSpace] using hc
        have := words_le_spaces 0 q
        rw [split_whitespace_append_allSpace q hspace]
        omega
      · rw [hends] at hk
        simp [hc] at hk
        omega
  · omega

/-! ## Cuts within the target -/

/-- The limits of a caption: some characters and words fit, and no more characters of a text
with CJK characters than of another. -/
structure Limits.Sound (l : Limits) : Prop where
  cjk : l.max_cjk_chars ≤ l.max_chars
  chars : 0 < l.max_cjk_chars
  words : 0 < l.max_words

theorem subtitle_limits_sound : subtitle_limits.Sound := by constructor <;> decide

theorem display_limits_sound : display_limits.Sound := by constructor <;> decide

variable {l : Limits}

/-- A part of a text has no smaller limit than the text. -/
theorem Limits.Sound.char_limit_le (hl : l.Sound) {a t : Text} (h : ∀ c ∈ a, c ∈ t) :
    l.char_limit t ≤ l.char_limit a := by
  have hcjk := hl.cjk
  unfold Limits.char_limit
  by_cases ha : a.any is_cjk_caption_character = true
  · have ht : t.any is_cjk_caption_character = true := by
      obtain ⟨c, hc, hcjk⟩ := List.any_eq_true.mp ha
      exact List.any_eq_true.mpr ⟨c, h c hc, hcjk⟩
    rw [if_pos ha, if_pos ht]
  · split
    · exact hcjk
    · exact Nat.le_refl _

theorem trim_sublist (t : Text) : (trim t).Sublist t :=
  (List.rdropWhile_prefix _ _).sublist.trans (List.dropWhile_suffix _).sublist

/-- A text within the limits stays within them when it is trimmed. -/
theorem Limits.Sound.trim_fits (hl : l.Sound) (h : needs_subtitle_split_with_limits t l = false) :
    needs_subtitle_split_with_limits (trim t) l = false := by
  have hlimit := hl.char_limit_le fun _ hc => (trim_sublist t).subset hc
  have hlength := (trim_sublist t).length_le
  simp only [needs_subtitle_split_with_limits, Bool.or_eq_false_iff, decide_eq_false_iff_not,
    split_whitespace_trim] at h ⊢
  exact ⟨by omega, h.2⟩

/-- The target of `find_subtitle_split_at_with_limits`. -/
def split_target (l : Limits) (t : Text) : Nat :=
  min (byte_after_char_count t (l.char_limit t)) ((space_ends 0 t)[l.max_words - 1]?.getD (len t))

/-- The text before a cut within the target is within the limits. -/
theorem Limits.Sound.target_fits (hl : l.Sound) (h : len p ≤ split_target l (p ++ s)) :
    needs_subtitle_split_with_limits p l = false := by
  obtain ⟨hchars, hwords⟩ := Nat.le_min.mp h
  have hp : p <+: (p ++ s).take (l.char_limit (p ++ s)) :=
    prefix_of_len_le (List.prefix_append p s) (List.take_prefix _ _) hchars
  have hlength := hp.length_le
  have hlimit := hl.char_limit_le (a := p) (t := p ++ s) (by simp +contextual)
  have hcount := words_within hwords
  have hpos := hl.words
  rw [List.length_take] at hlength
  simp only [needs_subtitle_split_with_limits, Bool.or_eq_false_iff, decide_eq_false_iff_not]
  omega

/-! ## Where a turn cuts -/

/-- The clause boundaries of a text: those inside a money phrase only when there are no
others. -/
def clause_ends (t : Text) : List Nat :=
  match split_candidates t with
  | none => []
  | some (semantic, _) =>
    let safe := semantic.filter (!breaks_numeric_money_phrase t ·)
    if safe = [] then semantic else safe

/-- The boundary that a text may be cut at past its target: its first clause boundary after the
minimal head, or, without one and without white space between the minimal head and the target,
the first white space after the minimal head. -/
def far_boundary (l : Limits) (t : Text) : Option Nat :=
  let head := byte_after_char_count t l.min_head_chars
  ((clause_ends t).filter fun idx => head ≤ idx).min? <|>
    if ((space_ends 0 t).filter fun idx => head ≤ idx ∧ idx ≤ split_target l t) = [] then
      ((space_ends 0 t).filter fun idx => head ≤ idx).min?
    else none

/-- The text before that boundary is within the limits. -/
def in_reach (l : Limits) (t : Text) : Bool :=
  match far_boundary l t with
  | none => true
  | some idx =>
    match split_at? t idx with
    | none => true
    | some (head, _) => !needs_subtitle_split_with_limits (trim head) l

/-- The first element of a range from below is the first element from below, if there is one in
the range. -/
theorem min?_of_range (l : List Nat) (a b : Nat) :
    ((l.filter fun x => a ≤ x ∧ x ≤ b).min? <|> (l.filter fun x => a ≤ x).min?) =
      (l.filter fun x => a ≤ x).min? := by
  cases hm : (l.filter fun x => a ≤ x ∧ x ≤ b).min? with
  | none => simp
  | some _ =>
    obtain ⟨hmem, hleast⟩ := List.min?_eq_some_iff.mp hm
    simp only [List.mem_filter, decide_eq_true_eq] at hmem hleast
    symm
    apply List.min?_eq_some_iff.mpr
    simp only [List.mem_filter, decide_eq_true_eq]
    refine ⟨⟨hmem.1, hmem.2.1⟩, ?_⟩
    intro x hx
    rcases Nat.le_total x b with hxb | hxb
    · exact hleast x ⟨hx.1, hx.2, hxb⟩
    · exact hmem.2.2.trans hxb

/-- A cut is the far boundary, or there is none and the cut is white space within the target, or
the target. -/
theorem find_subtitle_split_at_cases (t : Text) (l : Limits) :
    ∃ i, find_subtitle_split_at_with_limits t l = some i ∧
      (far_boundary l t = some i ∨ far_boundary l t = none ∧ i ≤ split_target l t ∧
        (i ∈ space_ends 0 t ∨ i = split_target l t)) := by
  obtain ⟨semantic, _, hc, _, _⟩ := split_candidates_spec t
  obtain rfl := split_candidates_spaces hc
  simp only [find_subtitle_split_at_with_limits, far_boundary, clause_ends, hc,
    Option.bind_eq_bind, Option.bind_some]
  generalize (if semantic.filter (!breaks_numeric_money_phrase t ·) = [] then semantic
    else semantic.filter (!breaks_numeric_money_phrase t ·)) = clauses
  generalize byte_after_char_count t l.min_head_chars = head
  have htarget : min (byte_after_char_count t (l.char_limit t))
      ((space_ends 0 t)[l.max_words - 1]?.getD (len t)) = split_target l t := rfl
  rw [htarget]
  have hrange := min?_of_range clauses head (split_target l t)
  cases hnear : (clauses.filter fun idx => head ≤ idx ∧ idx ≤ split_target l t).min? with
  | some i =>
    rw [hnear] at hrange
    have hfirst : (clauses.filter fun idx => head ≤ idx).min? = some i := hrange.symm
    exact ⟨i, rfl, Or.inl (by rw [hfirst]; rfl)⟩
  | none =>
    cases hfar : (clauses.filter fun idx => head ≤ idx).min? with
    | some i => exact ⟨i, rfl, Or.inl rfl⟩
    | none =>
      cases hspace : ((space_ends 0 t).filter fun idx =>
          head ≤ idx ∧ idx ≤ split_target l t).max? with
      | some i =>
        have hmem := List.max?_mem hspace
        refine ⟨i, rfl, Or.inr ⟨?_, ?_, Or.inl (List.mem_of_mem_filter hmem)⟩⟩
        · rw [if_neg (List.ne_nil_of_mem hmem)]
          rfl
        · simp only [List.mem_filter, decide_eq_true_eq] at hmem
          exact hmem.2.2
      | none =>
        rw [if_pos (List.max?_eq_none_iff.mp hspace)]
        cases hlater : ((space_ends 0 t).filter fun idx => head ≤ idx).min? with
        | some i => exact ⟨i, rfl, Or.inl rfl⟩
        | none => exact ⟨split_target l t, rfl, Or.inr ⟨rfl, Nat.le_refl _, Or.inr rfl⟩⟩

/-- The text before the cut of a turn is within the limits exactly when its far boundary is in
reach. -/
theorem Limits.Sound.head_fits (hl : l.Sound)
    (h : find_subtitle_split_at_with_limits (p ++ s) l = some (len p)) :
    needs_subtitle_split_with_limits (trim p) l = false ↔ in_reach l (p ++ s) = true := by
  obtain ⟨i, hi, hcases⟩ := find_subtitle_split_at_cases (p ++ s) l
  obtain rfl : len p = i := Option.some.inj (h.symm.trans hi)
  unfold in_reach
  rcases hcases with hfar | ⟨hfar, hle, _⟩
  · simp only [hfar, split_at?_append]
    simp
  · simp only [hfar, iff_true]
    exact hl.trim_fits (hl.target_fits hle)

/-! ## Every turn takes something off -/

/-- The text does not start with white space. -/
def Solid (t : Text) : Prop := ∀ c, t.head? = some c → is_whitespace c = false

theorem solid_trim (t : Text) : Solid (trim t) := by
  intro c hc
  rw [← trim_start_trim t] at hc
  have h := List.head?_dropWhile_not is_whitespace (trim t)
  unfold trim_start at hc
  rw [hc] at h
  simpa using h

theorem solid_dropWhile (t : Text) : Solid (t.dropWhile is_space_or_comma) := by
  intro c hc
  have h := List.head?_dropWhile_not is_space_or_comma t
  rw [hc] at h
  simp only [is_space_or_comma, Bool.or_eq_false_iff] at h
  exact h.1.1

theorem Solid.trim_ne_nil (h : Solid (p ++ s)) (hp : p ≠ []) : trim p ≠ [] := by
  intro hnil
  cases p with
  | nil => exact hp rfl
  | cons c p =>
    have hspace := trim_eq_nil.mp hnil c List.mem_cons_self
    rw [h c rfl] at hspace
    cases hspace

theorem connector_ends_pos {connector : Text} (hne : connector ≠ []) (t : Text) (fuel : Nat)
    {search_from : Nat} {ends : List Nat}
    (h : connector_ends t connector fuel search_from = some ends) : ∀ i ∈ ends, 0 < i := by
  induction fuel generalizing search_from ends with
  | zero => cases h
  | succ fuel ih =>
    obtain ⟨rest, _, h⟩ := Option.bind_eq_some_iff.mp h
    cases hf : find connector rest with
    | none =>
      rw [hf] at h
      cases h
      simp
    | some _ =>
      rw [hf] at h
      obtain ⟨_, hmore, h⟩ := Option.bind_eq_some_iff.mp h
      cases h
      have hpos := len_pos hne
      intro i hi
      rcases List.mem_cons.mp hi with rfl | hi
      · omega
      · exact ih hmore i hi

theorem mapM_members {α β : Type} {f : α → Option β} {l : List α} {bs : List β}
    (h : l.mapM f = some bs) : ∀ b ∈ bs, ∃ a ∈ l, f a = some b := by
  induction l generalizing bs with
  | nil =>
    cases h
    simp
  | cons a l ih =>
    rw [List.mapM_cons] at h
    obtain ⟨b, hb, h⟩ := Option.bind_eq_some_iff.mp h
    obtain ⟨_, hmore, h⟩ := Option.bind_eq_some_iff.mp h
    cases h
    intro x hx
    rcases List.mem_cons.mp hx with rfl | hx
    · exact ⟨a, List.mem_cons_self, hb⟩
    · obtain ⟨a', ha', hx⟩ := ih hmore x hx
      exact ⟨a', List.mem_cons_of_mem _ ha', hx⟩

theorem split_candidates_pos {semantic spaces : List Nat}
    (h : split_candidates t = some (semantic, spaces)) : ∀ i ∈ semantic, 0 < i := by
  have hconn : ∀ c ∈ connectors, c ≠ [] := by decide
  simp only [split_candidates, Option.bind_eq_bind, Option.bind_eq_some_iff] at h
  obtain ⟨_, hends, h⟩ := h
  simp only [Option.some.injEq, Prod.mk.injEq] at h
  intro i hi
  rw [← h.1] at hi
  rcases List.mem_append.mp ((List.mem_insertionSort _).mp (mem_of_mem_dedup hi)) with hi | hi
  · obtain ⟨⟨_, c⟩, _, hc⟩ := List.mem_filterMap.mp hi
    have hpos := c.utf8Size_pos
    simp only at hc
    split at hc
    · cases hc
      omega
    · cases hc
  · obtain ⟨found, hf, hi⟩ := List.mem_flatten.mp hi
    obtain ⟨connector, hmem, hends⟩ := mapM_members hends found hf
    exact connector_ends_pos (hconn connector hmem) t _ hends i hi

theorem clause_ends_pos (t : Text) : ∀ i ∈ clause_ends t, 0 < i := by
  obtain ⟨_, _, hc, _, _⟩ := split_candidates_spec t
  have hpos := split_candidates_pos hc
  intro i hi
  simp only [clause_ends, hc] at hi
  split at hi
  · exact hpos i hi
  · exact hpos i (List.mem_of_mem_filter hi)

/-- A cut is never at the start of the text. -/
theorem Limits.Sound.cut_pos (hl : l.Sound) (hne : t ≠ []) {i : Nat}
    (h : find_subtitle_split_at_with_limits t l = some i) : 0 < i := by
  have hspaces : ∀ j ∈ space_ends 0 t, 0 < j := fun j hj => (lt_of_mem_space_ends hj).1
  have hlen := len_pos hne
  obtain ⟨j, hj, hcases⟩ := find_subtitle_split_at_cases t l
  obtain rfl : i = j := Option.some.inj (h.symm.trans hj)
  rcases hcases with hfar | ⟨_, _, hspace | rfl⟩
  · simp only [far_boundary] at hfar
    cases hclause : ((clause_ends t).filter
        fun idx => byte_after_char_count t l.min_head_chars ≤ idx).min? with
    | some k =>
      rw [hclause] at hfar
      cases hfar
      exact clause_ends_pos t i (List.mem_of_mem_filter (List.min?_mem hclause))
    | none =>
      simp only [hclause, Option.orElse_eq_orElse, Option.orElse_eq_or, Option.none_or] at hfar
      split at hfar
      · exact hspaces i (List.mem_of_mem_filter (List.min?_mem hfar))
      · cases hfar
  · exact hspaces i hspace
  · apply Nat.lt_min.mpr
    constructor
    · have hlimit : 0 < l.char_limit t := by
        have hcjk := hl.cjk
        have hchars := hl.chars
        unfold Limits.char_limit
        split <;> omega
      apply len_pos
      simp only [ne_eq, List.take_eq_nil_iff, not_or]
      exact ⟨by omega, hne⟩
    · cases hk : (space_ends 0 t)[l.max_words - 1]? with
      | none => exact hlen
      | some k => exact hspaces k (List.mem_of_getElem? hk)

/-! ## Whole runs -/

/-- One turn of the loop: a text over the limits is cut, and the rest remains. -/
def Turn (l : Limits) (t rest : Text) : Prop :=
  needs_subtitle_split_with_limits t l = true ∧ ∃ split_at head tail,
    find_subtitle_split_at_with_limits t l = some split_at ∧
      split_at? t split_at = some (head, tail) ∧ rest = tail.dropWhile is_space_or_comma

/-- Every text over the limits that remains at a turn has its far boundary in reach. -/
def Readable (l : Limits) (t : Text) : Prop :=
  ∀ rest, Relation.ReflTransGen (Turn l) t rest →
    needs_subtitle_split_with_limits rest l = true → in_reach l rest = true

/-- The chunks of a result are within the limits. -/
def Fitting (l : Limits) (result : Option (List Text)) : Prop :=
  ∃ chunks, result = some chunks ∧
    ∀ chunk ∈ chunks, needs_subtitle_split_with_limits chunk l = false

theorem Readable.of_short (h : needs_subtitle_split_with_limits t l = false) : Readable l t := by
  intro rest hreach hover
  rcases Relation.ReflTransGen.cases_head hreach with rfl | ⟨_, hturn, _⟩
  · rw [h] at hover
    cases hover
  · cases h.symm.trans hturn.1

/-- A text that is cut is readable when its boundary is in reach and the rest is readable. -/
theorem readable_turn (hover : needs_subtitle_split_with_limits (p ++ s) l = true)
    (hcut : find_subtitle_split_at_with_limits (p ++ s) l = some (len p)) :
    Readable l (p ++ s) ↔
      in_reach l (p ++ s) = true ∧ Readable l (s.dropWhile is_space_or_comma) := by
  have hturn : ∀ next, Turn l (p ++ s) next ↔ next = s.dropWhile is_space_or_comma := by
    intro next
    constructor
    · rintro ⟨_, i, head, _, hi, hsplit, rfl⟩
      obtain rfl : len p = i := Option.some.inj (hcut.symm.trans hi)
      rw [split_at?_append] at hsplit
      cases hsplit
      rfl
    · rintro rfl
      exact ⟨hover, len p, p, s, hcut, split_at?_append p s, rfl⟩
  constructor
  · intro h
    refine ⟨h _ Relation.ReflTransGen.refl hover, ?_⟩
    intro rest hreach
    exact h rest (hreach.head ((hturn _).mpr rfl))
  · rintro ⟨hfirst, hrest⟩ rest hreach hneeds
    rcases Relation.ReflTransGen.cases_head hreach with rfl | ⟨next, hnext, hreach⟩
    · exact hfirst
    · obtain rfl := (hturn next).mp hnext
      exact hrest rest hreach hneeds

theorem fitting_some {chunks : List Text} :
    Fitting l (some chunks) ↔
      ∀ chunk ∈ chunks, needs_subtitle_split_with_limits chunk l = false := by
  simp [Fitting]

theorem Limits.Sound.last_fits (hl : l.Sound) (h : needs_subtitle_split_with_limits t l = false) :
    Fitting l (some (if trim t ≠ [] then [trim t] else [])) := by
  apply fitting_some.mpr
  intro chunk hc
  split at hc
  · rw [List.mem_singleton.mp hc]
    exact hl.trim_fits h
  · cases hc

/-- The chunks of the loop are within the limits exactly when the text is readable. -/
theorem Limits.Sound.chunk_loop_fits (hl : l.Sound) (fuel : Nat) (hfuel : t.length < fuel)
    (hsolid : Solid t) : Fitting l (chunk_loop l fuel t) ↔ Readable l t := by
  induction fuel generalizing t with
  | zero => omega
  | succ fuel ih =>
    simp only [chunk_loop]
    split
    · rename_i hover
      obtain ⟨_, hi, p, ⟨s, rfl⟩, rfl⟩ := find_subtitle_split_at_spec t l
      have hne : p ++ s ≠ [] := by
        intro hnil
        rw [hnil] at hover
        simp [needs_subtitle_split_with_limits] at hover
      have hp : p ≠ [] := by
        rintro rfl
        exact absurd (hl.cut_pos hne hi) (by simp)
      have hlength := List.length_pos_iff.mpr hp
      have hdrop := (List.dropWhile_suffix is_space_or_comma (l := s)).length_le
      rw [List.length_append] at hfuel
      have hrest := ih (t := s.dropWhile is_space_or_comma) (by omega) (solid_dropWhile s)
      obtain ⟨_, hmore, _⟩ :=
        chunk_loop_spec l fuel (s.dropWhile is_space_or_comma) (by omega)
      rw [hmore, fitting_some] at hrest
      simp only [hi, split_at?_append, Option.bind_eq_bind, Option.bind_some,
        if_neg (hsolid.trim_ne_nil hp), hmore]
      rw [fitting_some, List.forall_mem_cons, hl.head_fits hi, hrest, readable_turn hover hi]
    · rename_i hfits
      have hfits : needs_subtitle_split_with_limits t l = false := by simpa using hfits
      exact iff_of_true (hl.last_fits hfits) (Readable.of_short hfits)

/-- The chunks of a sentence are within the limits exactly when its trimmed text is readable. -/
theorem Limits.Sound.chunks_fit (hl : l.Sound) (sentence : Text) :
    Fitting l (split_subtitle_chunks_with_limits sentence l) ↔ Readable l (trim sentence) := by
  simp only [split_subtitle_chunks_with_limits]
  split
  · rename_i hnil
    rw [hnil]
    refine iff_of_true (fitting_some.mpr (by simp)) (Readable.of_short ?_)
    simp [needs_subtitle_split_with_limits]
  · split
    · exact hl.chunk_loop_fits _ (Nat.lt_succ_self _) (solid_trim sentence)
    · rename_i hfits
      have hfits : needs_subtitle_split_with_limits (trim sentence) l = false := by
        simpa using hfits
      exact iff_of_true (fitting_some.mpr (by simpa using hfits)) (Readable.of_short hfits)

theorem chunks_of_fit (sentences : List Text) :
    Fitting display_limits (chunks_of sentences) ↔
      ∀ sentence ∈ sentences, Readable display_limits (trim sentence) := by
  induction sentences with
  | nil => simp [fitting_some]
  | cons s sentences ih =>
    have hfirst := display_limits_sound.chunks_fit s
    obtain ⟨_, hf, _⟩ := split_subtitle_chunks_with_limits_keeps s display_limits
    obtain ⟨_, hm, _⟩ := chunks_of_keeps sentences
    rw [hf, fitting_some] at hfirst
    rw [hm, fitting_some] at ih
    rw [chunks_of_cons, split_sentence, hf, hm]
    simp only [Option.bind_some, Option.map_some]
    rw [fitting_some, List.forall_mem_append, hfirst, ih, List.forall_mem_cons]

/-- A clause of thirty short words before its first comma. -/
def run_on : Text := (List.replicate 30 ['a', ' ']).flatten ++ [',', 'b']

end omni_translate.sentence

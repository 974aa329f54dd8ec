-- Samples that carry tags: a list of them as stretches of one tag each, where
-- each stretch lies, and what the last stretch of a tag leaves out.
import Mathlib.Algebra.Order.BigOperators.Group.List
import Mathlib.Algebra.Order.Group.Nat
import Mathlib.Data.List.Chain

namespace stretches

variable {τ α β : Type}

/-- Stretches, each a tag and its samples. -/
abbrev Stretches (τ α : Type) := List (τ × List α)

variable (g : Stretches τ α)

/-- The samples, each with its tag. -/
def flat : List (τ × α) := g.flatMap fun s => s.2.map fun x => (s.1, x)

def words : List α := g.flatMap fun s => s.2

theorem flat_nil : flat ([] : Stretches τ α) = [] := rfl

theorem flat_append (g g' : Stretches τ α) : flat (g ++ g') = flat g ++ flat g' := by simp [flat]

theorem flat_cons (s : τ × List α) (g : Stretches τ α) : flat (s :: g) = (s.2.map fun x => (s.1, x)) ++ flat g := by
  simp [flat]

theorem words_cons (s : τ × List α) (g : Stretches τ α) : words (s :: g) = s.2 ++ words g := by simp [words]

theorem length_flat : (flat g).length = (words g).length := by
  simp [flat, words, List.length_flatMap]

/-- The samples of the tag follow one another. -/
def Whole (c : τ) (l : List (τ × α)) : Prop :=
  ∃ before those after, l = before ++ those ++ after ∧ (∀ x ∈ before, x.1 ≠ c) ∧ (∀ x ∈ those, x.1 = c) ∧
    ∀ x ∈ after, x.1 ≠ c

theorem whole_nil (c : τ) : Whole c ([] : List (τ × α)) := ⟨[], [], [], rfl, by simp, by simp, by simp⟩

/-- Nothing else lies between two samples of a tag that is whole. -/
theorem Whole.between {c : τ} {l m n k : List (τ × α)} {x y z : τ × α}
    (h : Whole c (l ++ x :: (m ++ y :: (n ++ z :: k)))) (hx : x.1 = c) (hz : z.1 = c) : y.1 = c := by
  obtain ⟨before, those, after, hl, hbefore, hthose, hafter⟩ := h
  have hxat : (before ++ those ++ after)[l.length]? = some x := by
    rw [← hl]
    simp
  have hyat : (before ++ those ++ after)[l.length + (m.length + 1)]? = some y := by
    rw [← hl]
    simp
  have hzat : (before ++ those ++ after)[l.length + (m.length + (n.length + 1) + 1)]? = some z := by
    rw [← hl]
    simp
  have hlow : before.length ≤ l.length := by
    by_contra hlt
    rw [List.append_assoc, List.getElem?_append_left (by omega)] at hxat
    exact hbefore x (List.mem_of_getElem? hxat) hx
  have hhigh : l.length + (m.length + (n.length + 1) + 1) < before.length + those.length := by
    by_contra hge
    rw [List.getElem?_append_right (by rw [List.length_append]; omega)] at hzat
    exact hafter z (List.mem_of_getElem? hzat) hz
  rw [List.append_assoc, List.getElem?_append_right (by omega), List.getElem?_append_left (by omega)] at hyat
  exact hthose y (List.mem_of_getElem? hyat)

variable [DecidableEq τ]

/-- The samples of one tag. -/
def said (c : τ) (g : Stretches τ α) : List α := words (g.filter fun s => s.1 = c)

/-- The samples of the last stretch of a tag. -/
def newest (c : τ) (g : Stretches τ α) : List α := (((g.filter fun s => s.1 = c).getLast?).map (·.2)).getD []

/-- One more piece; it goes on with the last stretch if that has the same tag. -/
def push (t : τ) (xs : List α) : Stretches τ α :=
  match g.getLast? with
  | none => [(t, xs)]
  | some last => if last.1 = t then g.dropLast ++ [(t, last.2 ++ xs)] else g ++ [(t, xs)]

/-- Each stretch holds something, and the next one has another tag. -/
structure Apart (g : Stretches τ α) : Prop where
  chain : g.IsChain fun a b => a.1 ≠ b.1
  held : ∀ s ∈ g, s.2 ≠ []

variable {g : Stretches τ α} {c t : τ} {xs : List α}

omit [DecidableEq τ] in
theorem apart_nil : Apart ([] : Stretches τ α) := ⟨.nil, by simp⟩

/-- A push goes on with the last stretch, or begins one. -/
theorem push_cases (g : Stretches τ α) (t : τ) (xs : List α) :
    (∃ before ys, g = before ++ [(t, ys)] ∧ push g t xs = before ++ [(t, ys ++ xs)]) ∨
      ((∀ last ∈ g.getLast?, last.1 ≠ t) ∧ push g t xs = g ++ [(t, xs)]) := by
  unfold push
  rcases List.eq_nil_or_concat g with rfl | ⟨before, last, rfl⟩
  · exact .inr ⟨by simp, by simp⟩
  · rw [List.concat_eq_append, List.getLast?_append, List.getLast?_singleton, Option.some_or]
    dsimp only
    split
    · next htag =>
      subst htag
      exact .inl ⟨before, last.2, rfl, by simp⟩
    · next htag => exact .inr ⟨by simpa using htag, rfl⟩

@[simp] theorem flat_push : flat (push g t xs) = flat g ++ xs.map fun x => (t, x) := by
  rcases push_cases g t xs with ⟨_, _, rfl, h⟩ | ⟨-, h⟩ <;> rw [h] <;> simp [flat]

@[simp] theorem words_push : words (push g t xs) = words g ++ xs := by
  rcases push_cases g t xs with ⟨_, _, rfl, h⟩ | ⟨-, h⟩ <;> rw [h] <;> simp [words]

theorem push_ne_nil : push g t xs ≠ [] := by
  rcases push_cases g t xs with ⟨_, _, rfl, h⟩ | ⟨-, h⟩ <;> rw [h] <;> simp

theorem push_has (h : ((push g t xs).filter fun s => s.1 = c) ≠ []) : (g.filter fun s => s.1 = c) ≠ [] ∨ t = c := by
  by_cases htag : t = c
  · exact .inr htag
  · rcases push_cases g t xs with ⟨_, _, rfl, hpush⟩ | ⟨-, hpush⟩ <;> rw [hpush] at h <;>
      refine .inl ?_ <;> simpa [htag] using h

theorem Apart.push (h : Apart g) (hxs : xs ≠ []) : Apart (push g t xs) := by
  obtain ⟨hchain, hheld⟩ := h
  rcases push_cases g t xs with ⟨_, _, rfl, hpush⟩ | ⟨hlast, hpush⟩ <;> rw [hpush]
  · refine ⟨?_, fun s hs => ?_⟩
    · rw [List.isChain_append] at hchain ⊢
      simpa using hchain
    · rcases List.mem_append.mp hs with hs | hs
      · exact hheld s (List.mem_append_left _ hs)
      · rw [List.mem_singleton.mp hs]
        simp [hxs]
  · refine ⟨?_, fun s hs => ?_⟩
    · rw [List.isChain_append]
      exact ⟨hchain, .singleton _, by simpa using hlast⟩
    · rcases List.mem_append.mp hs with hs | hs
      · exact hheld s hs
      · rw [List.mem_singleton.mp hs]
        exact hxs

theorem said_eq (c : τ) (g : Stretches τ α) : said c g = ((flat g).filter fun x => x.1 = c).map (·.2) := by
  induction g with
  | nil => rfl
  | cons s g ih =>
    have hflat : flat (s :: g) = (s.2.map fun x => (s.1, x)) ++ flat g := by simp [flat]
    rw [hflat, List.filter_append, List.map_append, ← ih]
    by_cases htag : s.1 = c
    · simp [said, words, htag, List.filter_map, Function.comp_def]
    · simp [said, words, htag, List.filter_map, Function.comp_def]

/-! ## Whole tags -/

omit [DecidableEq τ] in
theorem flat_tags {l : Stretches τ α} (h : ∀ s ∈ l, ¬ (s.1 = c)) : ∀ x ∈ flat l, x.1 ≠ c := by
  intro x hx
  obtain ⟨s, hs, hx⟩ := List.mem_flatMap.mp hx
  obtain ⟨_, -, rfl⟩ := List.mem_map.mp hx
  exact h s hs

/-- A tag is whole where it has one stretch at most. -/
theorem Apart.whole_iff (h : Apart g) : Whole c (flat g) ↔ (g.filter fun s => s.1 = c).length ≤ 1 := by
  rcases hthose : g.filter fun s => s.1 = c with _ | ⟨s, more⟩
  · rw [hthose]
    refine ⟨fun _ => Nat.zero_le _, fun _ => ⟨flat g, [], [], by simp, ?_, by simp, by simp⟩⟩
    exact flat_tags fun s hs => by simpa using List.filter_eq_nil_iff.mp hthose s hs
  · obtain ⟨before, after, rfl, hbefore, htag, hmore⟩ := List.filter_eq_cons_iff.mp hthose
    simp only [decide_eq_true_eq] at hbefore htag
    rw [hthose]
    rcases more with _ | ⟨s', _⟩
    · refine ⟨fun _ => Nat.le_refl _, fun _ => ?_⟩
      refine ⟨flat before, s.2.map fun x => (s.1, x), flat after, by simp [flat_append, flat_cons], flat_tags hbefore,
        ?_, flat_tags fun s hs => by simpa using List.filter_eq_nil_iff.mp hmore s hs⟩
      intro x hx
      obtain ⟨y, -, rfl⟩ := List.mem_map.mp hx
      exact htag
    · refine ⟨fun hwhole => ?_, fun hle => absurd hle (by simp)⟩
      -- another stretch lies between the two, and it holds a sample
      obtain ⟨between, tail, rfl, -, htag', -⟩ := List.filter_eq_cons_iff.mp hmore
      simp only [decide_eq_true_eq] at htag'
      obtain ⟨hchain, hheld⟩ := h
      have hnext := (List.isChain_append.mp hchain).2.1
      rcases between with _ | ⟨m, between⟩
      · rw [List.nil_append, List.isChain_cons_cons] at hnext
        exact absurd (htag.trans htag'.symm) hnext.1
      · rw [List.cons_append, List.isChain_cons_cons] at hnext
        obtain ⟨x, xs, hx⟩ := List.exists_cons_of_ne_nil (hheld s (by simp))
        obtain ⟨y, ys, hy⟩ := List.exists_cons_of_ne_nil (hheld m (by simp))
        obtain ⟨z, zs, hz⟩ := List.exists_cons_of_ne_nil (hheld s' (by simp))
        have hflat : flat (before ++ s :: (m :: between ++ s' :: tail)) =
            flat before ++ (s.1, x) :: ((xs.map fun v => (s.1, v)) ++ (m.1, y) ::
              (((ys.map fun v => (m.1, v)) ++ flat between) ++ (s'.1, z) ::
                ((zs.map fun v => (s'.1, v)) ++ flat tail))) := by
          simp [flat_append, flat_cons, hx, hy, hz]
        rw [hflat] at hwhole
        exact absurd (htag.trans (hwhole.between htag htag').symm) hnext.1

/-- Where a tag has a last stretch, its samples are those of that stretch. -/
theorem newest_cases (c : τ) (g : Stretches τ α) :
    ((g.filter fun s => s.1 = c) = [] ∧ newest c g = [] ∧ said c g = []) ∨
      ∃ before last, (g.filter fun s => s.1 = c) = before ++ [last] ∧ newest c g = last.2 ∧
        said c g = words before ++ last.2 := by
  unfold newest said
  rcases List.eq_nil_or_concat (g.filter fun s => s.1 = c) with hnone | ⟨before, last, hlast⟩
  · simp [hnone, words]
  · rw [List.concat_eq_append] at hlast
    exact .inr ⟨before, last, hlast, by simp [hlast], by simp [hlast, words]⟩

theorem newest_length_le (c : τ) (g : Stretches τ α) : (newest c g).length ≤ (said c g).length := by
  rcases newest_cases c g with ⟨-, hnewest, hsaid⟩ | ⟨_, _, -, hnewest, hsaid⟩ <;> rw [hnewest, hsaid]
  simp

/-- The last stretch of a tag holds all its samples just where the tag is whole. -/
theorem Apart.newest_eq_iff (h : Apart g) : newest c g = said c g ↔ Whole c (flat g) := by
  rw [h.whole_iff]
  rcases newest_cases c g with ⟨hnone, hnewest, hsaid⟩ | ⟨before, _, hlast, hnewest, hsaid⟩ <;> rw [hnewest, hsaid]
  · simp [hnone]
  · rw [hlast]
    rcases before with _ | ⟨s, before⟩
    · simp [words]
    · have hin : s ∈ g.filter fun s => s.1 = c := by
        rw [hlast]
        simp
      have hheld : s.2 ≠ [] := h.held s (List.mem_filter.mp hin).1
      refine ⟨fun heq => ?_, fun hle => absurd hle (by simp)⟩
      have hlength := congrArg List.length heq
      have hpos := List.length_pos_iff.mpr hheld
      rw [List.length_append, words_cons, List.length_append] at hlength
      omega

/-! ## Where the stretches lie -/

/-- Each stretch with its place and its length. -/
def marks (place : Nat) : Stretches τ α → List (τ × Nat × Nat)
  | [] => []
  | s :: g => (s.1, place, s.2.length) :: marks (place + s.2.length) g

omit [DecidableEq τ] in
theorem marks_append (place : Nat) (g g' : Stretches τ α) :
    marks place (g ++ g') = marks place g ++ marks (place + (words g).length) g' := by
  induction g generalizing place with
  | nil => simp [marks, words]
  | cons _ g ih => simp [marks, ih, words_cons, Nat.add_assoc]

omit [DecidableEq τ] in
theorem marks_tags (place : Nat) (g : Stretches τ α) : (marks place g).map (·.1) = g.map (·.1) := by
  induction g generalizing place with
  | nil => rfl
  | cons _ g ih => rw [marks, List.map_cons, ih, List.map_cons]

theorem marks_eq_nil (place : Nat) (g : Stretches τ α) :
    ((marks place g).filter fun m => m.1 = c) = [] ↔ (g.filter fun s => s.1 = c) = [] := by
  have hany : ((marks place g).map (·.1)).filter (fun t => t = c) = (g.map (·.1)).filter fun t => t = c :=
    congrArg _ (marks_tags place g)
  rw [List.filter_map, List.filter_map] at hany
  rw [← @List.map_eq_nil_iff _ _ (·.1), ← @List.map_eq_nil_iff _ _ (·.1) (g.filter _)]
  exact Eq.congr hany rfl

/-- The last mark of a tag shows its newest samples. -/
theorem newest_mark (c : τ) (g : Stretches τ α) :
    ((((marks 0 g).filter fun m => m.1 = c).getLast? = none ∧ newest c g = []) ∨
      ∃ place, ((marks 0 g).filter fun m => m.1 = c).getLast? = some (c, place, (newest c g).length) ∧
        place + (newest c g).length ≤ (words g).length ∧
        ((words g).drop place).take (newest c g).length = newest c g) := by
  induction g using List.reverseRecOn with
  | nil => exact .inl ⟨rfl, rfl⟩
  | append_singleton g s ih =>
    have hmarks : marks 0 (g ++ [s]) = marks 0 g ++ [(s.1, (words g).length, s.2.length)] := by
      simp [marks_append, marks]
    have hwords : words (g ++ [s]) = words g ++ s.2 := by simp [words]
    rw [hmarks, hwords, List.filter_append]
    by_cases htag : s.1 = c
    · have hnewest : newest c (g ++ [s]) = s.2 := by simp [newest, htag]
      simp [htag, hnewest]
    · have hnewest : newest c (g ++ [s]) = newest c g := by simp [newest, htag]
      rw [hnewest]
      simp only [htag, decide_false, Bool.false_eq_true, not_false_eq_true, List.filter_cons_of_neg, List.filter_nil,
        List.append_nil]
      rcases ih with hnone | ⟨place, hlast, _, htake⟩
      · exact .inl hnone
      · refine .inr ⟨place, hlast, by rw [List.length_append]; omega, ?_⟩
        rw [List.drop_append_of_le_length (by omega), List.take_append_of_le_length (by rw [List.length_drop]; omega)]
        exact htake

theorem Apart.newest_ne_nil (h : Apart g) (hc : (g.filter fun s => s.1 = c) ≠ []) : newest c g ≠ [] := by
  rcases newest_cases c g with ⟨hnone, -, -⟩ | ⟨_, last, hlast, hnewest, -⟩
  · exact absurd hnone hc
  · rw [hnewest]
    have hin : last ∈ g.filter fun s => s.1 = c := by
      rw [hlast]
      simp
    exact h.held last (List.mem_filter.mp hin).1

/-! ## Blocks -/

/-- A list is cut into blocks of one length; this is one of them. -/
def block (n : Nat) (l : List β) (k : Nat) : List β := (l.drop (k * n)).take n

omit [DecidableEq τ] in
/-- Full blocks and a last one that is no longer. -/
theorem block_of_flatten {n : Nat} {full : List (List β)} (hfull : ∀ b ∈ full, b.length = n) {rest : List β}
    (hrest : rest.length ≤ n) (k : Nat) : block n (full.flatten ++ rest) k = ((full ++ [rest])[k]?).getD [] := by
  unfold block
  induction full generalizing k with
  | nil =>
    cases k with
    | zero => simpa using List.take_of_length_le hrest
    | succ k =>
      have hle : rest.length ≤ (k + 1) * n := hrest.trans (Nat.le_mul_of_pos_left n (Nat.succ_pos k))
      simp [List.drop_eq_nil_of_le hle]
  | cons b full ih =>
    obtain ⟨hb, hfull⟩ := List.forall_mem_cons.mp hfull
    cases k with
    | zero => simp [← hb]
    | succ k =>
      have hdrop : (k + 1) * n = b.length + k * n := by rw [hb, Nat.succ_mul, Nat.add_comm]
      rw [List.flatten_cons, List.append_assoc, hdrop, List.drop_length_add_append, ih hfull]
      simp

omit [DecidableEq τ] in
/-- Of two ways to fill in a list, one of which is never longer, the outcomes agree just where all parts do. -/
theorem flatMap_eq_iff {ι : Type} {f f' : ι → List β} {l : List ι} (hle : ∀ b ∈ l, (f b).length ≤ (f' b).length) :
    l.flatMap f = l.flatMap f' ↔ ∀ b ∈ l, f b = f' b := by
  refine ⟨fun heq => ?_, fun h => List.flatMap_congr h⟩
  induction l with
  | nil => simp
  | cons b l ih =>
    obtain ⟨_, hl⟩ := List.forall_mem_cons.mp hle
    rw [List.flatMap_cons, List.flatMap_cons] at heq
    have hrest : (l.flatMap f).length ≤ (l.flatMap f').length := by
      rw [List.length_flatMap, List.length_flatMap]
      exact List.sum_le_sum hl
    have hlength := congrArg List.length heq
    rw [List.length_append, List.length_append] at hlength
    obtain ⟨hfirst, hmore⟩ := List.append_inj heq (by omega)
    exact List.forall_mem_cons.mpr ⟨hfirst, ih hl hmore⟩

end stretches

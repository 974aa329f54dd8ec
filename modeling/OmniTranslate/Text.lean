-- Text with byte offsets, as a Rust `str` has it: a text is a list of
-- characters, an offset counts UTF-8 bytes, and a slice whose ends are not on
-- character boundaries has no value.
import Mathlib.Algebra.Ring.Nat
import Mathlib.Data.List.DropRight
import Mathlib.Data.List.Infix

namespace text

abbrev Text := List Char

/-- The length in bytes. -/
def len (t : Text) : Nat := (t.map Char.utf8Size).sum

@[simp] theorem len_nil : len [] = 0 := rfl

@[simp] theorem len_cons (c : Char) (t : Text) : len (c :: t) = c.utf8Size + len t := by
  simp [len]

@[simp] theorem len_append (a b : Text) : len (a ++ b) = len a + len b := by
  simp [len]

variable {t : Text}

theorem len_pos (h : t ≠ []) : 0 < len t := by
  cases t with
  | nil => exact absurd rfl h
  | cons c t => have := c.utf8Size_pos; simp; omega

theorem len_eq_zero : len t = 0 ↔ t = [] := by
  constructor
  · intro h
    by_contra hne
    have := len_pos hne
    omega
  · rintro rfl; rfl

/-! ## Cuts and slices -/

/-- The two parts of a text at a byte offset. There are none when the offset is past the end
or inside a character. -/
def split_at? : Text → Nat → Option (Text × Text)
  | t, 0 => some ([], t)
  | [], _ + 1 => none
  | c :: t, n + 1 =>
    if c.utf8Size ≤ n + 1 then
      (split_at? t (n + 1 - c.utf8Size)).map fun p => (c :: p.1, p.2)
    else none

/-- The text between two byte offsets, or nothing where the slice of a `str` would panic. -/
def slice? (t : Text) (a b : Nat) : Option Text :=
  if a ≤ b then do
    let (_, r) ← split_at? t a
    let (m, _) ← split_at? r (b - a)
    some m
  else none

def is_char_boundary (t : Text) (i : Nat) : Bool := (split_at? t i).isSome

theorem split_at?_append (p s : Text) : split_at? (p ++ s) (len p) = some (p, s) := by
  induction p with
  | nil => cases s <;> rfl
  | cons c p ih =>
    have hc := c.utf8Size_pos
    obtain ⟨n, hn⟩ : ∃ n, len (c :: p) = n + 1 := ⟨len (c :: p) - 1, by simp; omega⟩
    rw [List.cons_append, hn, split_at?]
    simp only [len_cons] at hn
    rw [if_pos (by omega), show n + 1 - c.utf8Size = len p by omega, ih]
    rfl

variable {i : Nat}

theorem split_at?_eq_some {t p s : Text} :
    split_at? t i = some (p, s) ↔ t = p ++ s ∧ len p = i := by
  constructor
  · intro h
    induction t generalizing i p with
    | nil =>
      cases i with
      | zero => simp [split_at?] at h; simp [h]
      | succ n => simp [split_at?] at h
    | cons c t ih =>
      cases i with
      | zero => simp [split_at?] at h; simp [h]
      | succ n =>
        simp only [split_at?] at h
        split at h
        · obtain ⟨⟨q, r⟩, hq, he⟩ := Option.map_eq_some_iff.mp h
          cases he
          obtain ⟨ht, hl⟩ := ih hq
          exact ⟨by simp [ht], by simp; omega⟩
        · cases h
  · rintro ⟨rfl, rfl⟩
    exact split_at?_append p s

theorem slice?_eq_some {t m : Text} {a b : Nat} :
    slice? t a b = some m ↔ ∃ x z, t = x ++ m ++ z ∧ len x = a ∧ len x + len m = b := by
  unfold slice?
  constructor
  · intro h
    split at h
    · simp only [Option.bind_eq_bind, Option.bind_eq_some_iff, Prod.exists] at h
      obtain ⟨x, r, hx, m', z, hm, he⟩ := h
      cases he
      obtain ⟨ht, ha⟩ := split_at?_eq_some.mp hx
      obtain ⟨hr, hb⟩ := split_at?_eq_some.mp hm
      exact ⟨x, z, by simp [ht, hr], ha, by omega⟩
    · cases h
  · rintro ⟨x, z, rfl, rfl, rfl⟩
    simp [split_at?_append]

theorem slice?_append (x m z : Text) :
    slice? (x ++ m ++ z) (len x) (len x + len m) = some m :=
  slice?_eq_some.mpr ⟨x, z, rfl, rfl, rfl⟩

/-- The slice from the start to the end of a first part is that part. -/
theorem slice?_first_part (p s : Text) : slice? (p ++ s) 0 (len p) = some p :=
  slice?_eq_some.mpr ⟨[], s, rfl, rfl, by simp⟩

/-- The slice from the end of a first part to the end is the rest. -/
theorem slice?_last_part (p s : Text) : slice? (p ++ s) (len p) (len (p ++ s)) = some s :=
  slice?_eq_some.mpr ⟨p, [], by simp, rfl, by simp⟩

theorem is_char_boundary_iff : is_char_boundary t i = true ↔ ∃ p, p <+: t ∧ len p = i := by
  unfold is_char_boundary
  rw [Option.isSome_iff_exists]
  constructor
  · rintro ⟨⟨p, s⟩, h⟩
    obtain ⟨rfl, hp⟩ := split_at?_eq_some.mp h
    exact ⟨p, List.prefix_append p s, hp⟩
  · rintro ⟨p, ⟨s, rfl⟩, rfl⟩
    exact ⟨(p, s), split_at?_append p s⟩

/-- Of two first parts of a text, the one with fewer bytes is a first part of the other. -/
theorem prefix_of_len_le {t p q : Text} (hp : p <+: t) (hq : q <+: t) (h : len p ≤ len q) :
    p <+: q := by
  rcases List.prefix_or_prefix_of_prefix hp hq with h1 | ⟨m, rfl⟩
  · exact h1
  · have hm : m = [] := len_eq_zero.mp (by simp at h; omega)
    simp [hm]

theorem len_le_of_first_part {p t : Text} (h : p <+: t) : len p ≤ len t := by
  obtain ⟨s, rfl⟩ := h
  simp

/-! ## White space -/

/-- The characters with the Unicode property `White_Space`. -/
def is_whitespace (c : Char) : Bool :=
  let n := c.toNat
  (9 ≤ n && n ≤ 13) || n == 0x20 || n == 0x85 || n == 0xa0 || n == 0x1680 ||
    (0x2000 ≤ n && n ≤ 0x200a) || n == 0x2028 || n == 0x2029 || n == 0x202f ||
    n == 0x205f || n == 0x3000

def trim_start (t : Text) : Text := t.dropWhile is_whitespace

def trim_end (t : Text) : Text := t.rdropWhile is_whitespace

def trim (t : Text) : Text := trim_end (trim_start t)

/-- The words of a text: its longest runs of characters that are not white space. -/
def split_whitespace (t : Text) : List Text :=
  (t.splitOnP is_whitespace).filter (· ≠ [])

/-- The parts with a separator between each two. -/
def join (sep : Text) (ts : List Text) : Text := sep.intercalate ts

def AllSpace (t : Text) : Prop := ∀ c ∈ t, is_whitespace c = true

/-- A text is its trimmed part between two runs of white space. -/
theorem trim_spec (t : Text) : ∃ a b, t = a ++ trim t ++ b ∧ AllSpace a ∧ AllSpace b := by
  refine ⟨t.takeWhile is_whitespace, (trim_start t).rtakeWhile is_whitespace, ?_, ?_, ?_⟩
  · unfold trim trim_end
    rw [List.append_assoc, List.rdropWhile_append_rtakeWhile]
    exact (List.takeWhile_append_dropWhile).symm
  · exact fun c hc => List.mem_takeWhile_imp hc
  · exact fun c hc => List.mem_rtakeWhile_imp hc

variable {c : Char}

theorem trim_start_cons (h : is_whitespace c = false) : trim_start (c :: t) = c :: t := by
  simp [trim_start, h]

theorem trim_end_is_first_part (t : Text) : trim_end t <+: t := List.rdropWhile_prefix _ _

/-- Cutting white space off the end leaves the text and a run of white space. -/
theorem trim_end_spec (t : Text) : ∃ b, t = trim_end t ++ b ∧ AllSpace b :=
  ⟨t.rtakeWhile is_whitespace, List.rdropWhile_append_rtakeWhile.symm,
    fun _ hc => List.mem_rtakeWhile_imp hc⟩

/-- A trimmed text is empty exactly when the text is white space. -/
theorem trim_eq_nil : trim t = [] ↔ AllSpace t := by
  constructor
  · intro h
    obtain ⟨a, b, ht, ha, hb⟩ := trim_spec t
    rw [ht, h]
    intro c hc
    simp only [List.append_nil, List.mem_append] at hc
    exact hc.elim (ha c) (hb c)
  · intro h
    have hs : trim_start t = [] := List.dropWhile_eq_nil_iff.mpr h
    simp [trim, trim_end, hs]

/-- A trimmed text does not start with white space. -/
theorem trim_start_trim (t : Text) : trim_start (trim t) = trim t := by
  cases htrim : trim t with
  | nil => rfl
  | cons c rest =>
    apply trim_start_cons
    obtain ⟨tail, htail⟩ := trim_end_is_first_part (trim_start t)
    have hstart : t.dropWhile is_whitespace = c :: (rest ++ tail) := by
      rw [← List.cons_append, ← htrim]
      exact htail.symm
    have hhead := List.head?_dropWhile_not is_whitespace t
    rw [hstart] at hhead
    simpa using hhead

theorem trim_trim (t : Text) : trim (trim t) = trim t := by
  have htwice : trim (trim t) = trim_end (trim_start (trim t)) := rfl
  rw [htwice, trim_start_trim]
  exact List.rdropWhile_idempotent _ _

/-! ## Characters with their offsets -/

/-- The characters with their byte offsets, the first at offset `i`. -/
def char_indices_from : Nat → Text → List (Nat × Char)
  | _, [] => []
  | i, c :: t => (i, c) :: char_indices_from (i + c.utf8Size) t

def char_indices (t : Text) : List (Nat × Char) := char_indices_from 0 t

theorem mem_char_indices_from {i n : Nat} :
    (i, c) ∈ char_indices_from n t ↔ ∃ p s, t = p ++ c :: s ∧ i = n + len p := by
  induction t generalizing n with
  | nil => simp [char_indices_from]
  | cons d t ih =>
    simp only [char_indices_from, List.mem_cons, Prod.mk.injEq, ih]
    constructor
    · rintro (⟨rfl, rfl⟩ | ⟨p, s, rfl, rfl⟩)
      · exact ⟨[], t, rfl, rfl⟩
      · exact ⟨d :: p, s, rfl, by simp; omega⟩
    · rintro ⟨p, s, hp, hi⟩
      cases p with
      | nil => simp at hp hi; exact Or.inl ⟨hi, hp.1.symm⟩
      | cons e p =>
        simp only [List.cons_append, List.cons.injEq] at hp
        exact Or.inr ⟨p, s, hp.2, by simp [hp.1, hi]; omega⟩

theorem mem_char_indices : (i, c) ∈ char_indices t ↔ ∃ p s, t = p ++ c :: s ∧ i = len p := by
  simp [char_indices, mem_char_indices_from]

/-- The offset of the first place where the pattern stands. -/
def find (pat : Text) : Text → Option Nat
  | [] => if pat = [] then some 0 else none
  | c :: t => if pat.isPrefixOf (c :: t) then some 0 else (find pat t).map (c.utf8Size + ·)

theorem find_spec {pat t : Text} (h : find pat t = some i) :
    ∃ p s, t = p ++ pat ++ s ∧ i = len p := by
  induction t generalizing i with
  | nil =>
    simp only [find] at h
    split at h
    · rename_i hp
      cases h
      exact ⟨[], [], by simp [hp], rfl⟩
    · cases h
  | cons c t ih =>
    simp only [find] at h
    split at h
    · rename_i hp
      cases h
      obtain ⟨s, hs⟩ := List.isPrefixOf_iff_prefix.mp hp
      exact ⟨[], s, by simp [hs], rfl⟩
    · obtain ⟨j, hj, rfl⟩ := Option.map_eq_some_iff.mp h
      obtain ⟨p, s, rfl, rfl⟩ := ih hj
      exact ⟨c :: p, s, by simp, by simp⟩

/-! ## Segmentations -/

/-- A way to cut every text into pieces that are not empty, such as its grapheme clusters. -/
structure Segmentation where
  pieces : Text → List Text
  flatten_pieces : ∀ t, (pieces t).flatten = t
  pieces_ne_nil : ∀ t, ∀ p ∈ pieces t, p ≠ []

/-- Every character a piece of its own. -/
def Segmentation.chars : Segmentation where
  pieces t := t.map fun c => [c]
  flatten_pieces t := by induction t with
    | nil => rfl
    | cons c t ih => simpa using ih
  pieces_ne_nil t p hp := by
    obtain ⟨c, _, rfl⟩ := List.mem_map.mp hp
    simp

/-- The first pieces of a text, joined, are a first part of it. -/
theorem Segmentation.take_pieces (g : Segmentation) (t : Text) (n : Nat) :
    ((g.pieces t).take n).flatten <+: t := by
  have h := g.flatten_pieces t
  refine ⟨((g.pieces t).drop n).flatten, ?_⟩
  rw [← List.flatten_append, List.take_append_drop, h]

end text

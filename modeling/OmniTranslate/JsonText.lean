-- The text of a JSON value, as `JSON.stringify` writes it. Two texts are equal
-- when the values are, and for a string or a list of strings only then.
import OmniTranslate.Json

namespace json

open text

/-! ## Quoted strings -/

def hex_digit (n : Nat) : Char := if n < 10 then Char.ofNat (48 + n) else Char.ofNat (87 + n)

def hex_value (c : Char) : Nat := if c.toNat < 58 then c.toNat - 48 else c.toNat - 87

theorem hex_value_hex_digit : ∀ n < 16, hex_value (hex_digit n) = n := by decide

/-- The characters with an escape of their own, and its letter. -/
def short_escape (c : Char) : Option Char :=
  if c = '"' then some '"'
  else if c = '\\' then some '\\'
  else if c = Char.ofNat 8 then some 'b'
  else if c = '\t' then some 't'
  else if c = '\n' then some 'n'
  else if c = Char.ofNat 12 then some 'f'
  else if c = '\r' then some 'r'
  else none

def escape (c : Char) : Text :=
  match short_escape c with
  | some letter => ['\\', letter]
  | none =>
    if c.toNat < 32 then ['\\', 'u', '0', '0', hex_digit (c.toNat / 16), hex_digit (c.toNat % 16)]
    else [c]

def quote (s : Text) : Text := '"' :: (s.flatMap escape ++ ['"'])

/-- The character that an escape stands for, by its letter. -/
def long_escape (letter : Char) : Char :=
  if letter = 'b' then Char.ofNat 8
  else if letter = 't' then '\t'
  else if letter = 'n' then '\n'
  else if letter = 'f' then Char.ofNat 12
  else if letter = 'r' then '\r'
  else letter

/-- Reads one character of a quoted string. -/
def unescape : Text → Option (Char × Text)
  | '\\' :: 'u' :: _ :: _ :: a :: b :: rest =>
    some (Char.ofNat (16 * hex_value a + hex_value b), rest)
  | '\\' :: letter :: rest => some (long_escape letter, rest)
  | c :: rest => some (c, rest)
  | [] => none

theorem short_escape_some {c letter : Char} (h : short_escape c = some letter) :
    letter ≠ 'u' ∧ long_escape letter = c := by
  unfold short_escape at h
  repeat' split at h
  any_goals
    obtain rfl := Option.some.inj h
    subst_vars
    decide
  cases h

theorem short_escape_none {c : Char} (h : short_escape c = none) : c ≠ '"' ∧ c ≠ '\\' := by
  constructor
  · rintro rfl
    cases h
  · rintro rfl
    cases h

theorem unescape_escape (c : Char) (rest : Text) : unescape (escape c ++ rest) = some (c, rest) := by
  unfold escape
  cases hs : short_escape c with
  | some letter =>
    obtain ⟨hu, hlong⟩ := short_escape_some hs
    change unescape ('\\' :: letter :: rest) = _
    unfold unescape
    split
    · rename_i heq
      cases heq
      exact absurd rfl hu
    · rename_i heq
      cases heq
      rw [hlong]
    · rename_i hne heq
      cases heq
      exact absurd rfl (hne _ _ rfl)
    · rename_i heq
      cases heq
  | none =>
    simp only
    split
    · have hhigh := hex_value_hex_digit (c.toNat / 16) (by omega)
      have hlow := hex_value_hex_digit (c.toNat % 16) (by omega)
      have hsum : 16 * (c.toNat / 16) + c.toNat % 16 = c.toNat := Nat.div_add_mod c.toNat 16
      simp only [List.cons_append, List.nil_append, unescape, hhigh, hlow, hsum, Char.ofNat_toNat]
    · obtain ⟨_, hslash⟩ := short_escape_none hs
      unfold unescape
      split
      · rename_i heq
        cases heq
        exact absurd rfl hslash
      · rename_i heq
        cases heq
        exact absurd rfl hslash
      · rename_i heq
        cases heq
        rfl
      · rename_i heq
        cases heq

/-- An escape never starts with the quote. -/
theorem escape_ne_quote (c : Char) {rest more : Text} (h : escape c ++ rest = '"' :: more) : False := by
  unfold escape at h
  cases hs : short_escape c with
  | some letter =>
    rw [hs] at h
    cases h
  | none =>
    rw [hs] at h
    simp only at h
    split at h
    · cases h
    · exact (short_escape_none hs).1 (List.cons.inj h).1

theorem escaped_append_inj {s t rest more : Text}
    (h : s.flatMap escape ++ '"' :: rest = t.flatMap escape ++ '"' :: more) :
    s = t ∧ rest = more := by
  induction s generalizing t with
  | nil =>
    cases t with
    | nil => exact ⟨rfl, (List.cons.inj h).2⟩
    | cons d t =>
      rw [List.flatMap_cons, List.append_assoc] at h
      exact absurd h.symm (escape_ne_quote d)
  | cons c s ih =>
    cases t with
    | nil =>
      rw [List.flatMap_cons, List.append_assoc] at h
      exact absurd h (escape_ne_quote c)
    | cons d t =>
      rw [List.flatMap_cons, List.flatMap_cons, List.append_assoc, List.append_assoc] at h
      have hread := congrArg unescape h
      rw [unescape_escape, unescape_escape] at hread
      obtain ⟨rfl, hrest⟩ := Prod.mk.inj (Option.some.inj hread)
      obtain ⟨rfl, hmore⟩ := ih hrest
      exact ⟨rfl, hmore⟩

/-- A quoted string ends where its quote closes. -/
theorem quote_append_inj {s t rest more : Text} (h : quote s ++ rest = quote t ++ more) :
    s = t ∧ rest = more := by
  have hbody := (List.cons.inj h).2
  change s.flatMap escape ++ ['"'] ++ rest = t.flatMap escape ++ ['"'] ++ more at hbody
  rw [List.append_assoc, List.append_assoc] at hbody
  exact escaped_append_inj hbody

/-! ## Texts of values -/

/-- The value of a number. -/
def Number.value : Number → ℚ
  | .pos n => n
  | .neg n => n
  | .float q => q

/-- How numbers are written, which never looks like another kind of value. -/
structure Numerals where
  text : ℚ → Text
  first : ∀ q, ∃ c rest, text q = c :: rest ∧ (c.isDigit = true ∨ c = '-')

/-- Whole numbers, in decimal digits. -/
def integer_text (q : ℚ) : Text :=
  if q.num < 0 then '-' :: Nat.toDigits 10 q.num.natAbs else Nat.toDigits 10 q.num.natAbs

/-- The numerals of whole numbers. -/
def integers : Numerals where
  text := integer_text
  first q := by
    unfold integer_text
    split
    · exact ⟨_, _, rfl, Or.inr rfl⟩
    · cases hd : Nat.toDigits 10 q.num.natAbs with
      | nil => exact absurd hd Nat.toDigits_ne_nil
      | cons c rest =>
        have hmem : c ∈ Nat.toDigits 10 q.num.natAbs := hd ▸ List.mem_cons_self
        exact ⟨c, rest, rfl, Or.inl (Nat.isDigit_of_mem_toDigits (by decide) (by decide) hmem)⟩

mutual

def stringify (numerals : Numerals) : Value → Text
  | .null => "null".toList
  | .bool b => if b then "true".toList else "false".toList
  | .number n => numerals.text n.value
  | .string s => quote s.toList
  | .array items => '[' :: (stringify_items numerals items ++ [']'])
  | .object fields => '\x7b' :: (stringify_fields numerals fields ++ ['\x7d'])

def stringify_items (numerals : Numerals) : List Value → Text
  | [] => []
  | [v] => stringify numerals v
  | v :: w :: items => stringify numerals v ++ ',' :: stringify_items numerals (w :: items)

def stringify_fields (numerals : Numerals) : List (String × Value) → Text
  | [] => []
  | [(field, v)] => quote field.toList ++ ':' :: stringify numerals v
  | (field, v) :: f :: fields =>
    quote field.toList ++ ':' :: stringify numerals v ++ ',' ::
      stringify_fields numerals (f :: fields)

end

variable {numerals : Numerals}

/-- The first character of a text tells strings, lists and the end of a list from the rest. -/
theorem stringify_first (numerals : Numerals) (v : Value) :
    ∃ c rest, stringify numerals v = c :: rest ∧ c ≠ ']' ∧
      (c = '"' → ∃ s, v = .string s) ∧ (c = '[' → ∃ items, v = .array items) := by
  -- a first character that is neither a quote nor a bracket tells nothing more
  have hother : ∀ (c : Char) (rest : Text), stringify numerals v = c :: rest → c ≠ ']' → c ≠ '"' →
      c ≠ '[' → ∃ c rest, stringify numerals v = c :: rest ∧ c ≠ ']' ∧
        (c = '"' → ∃ s, v = .string s) ∧ (c = '[' → ∃ items, v = .array items) :=
    fun c rest htext hclose hquote hlist =>
      ⟨c, rest, htext, hclose, fun h => absurd h hquote, fun h => absurd h hlist⟩
  cases v with
  | null => exact hother 'n' "ull".toList rfl (by decide) (by decide) (by decide)
  | bool b =>
    cases b with
    | true => exact hother 't' "rue".toList rfl (by decide) (by decide) (by decide)
    | false => exact hother 'f' "alse".toList rfl (by decide) (by decide) (by decide)
  | number n =>
    obtain ⟨c, rest, htext, hfirst⟩ := numerals.first n.value
    have hdigit : ∀ d : Char, d.isDigit = false → d ≠ '-' → c ≠ d := by
      rintro d hd hminus rfl
      rcases hfirst with h | h
      · rw [hd] at h
        cases h
      · exact hminus h
    exact hother _ _ (by rw [stringify, htext]) (hdigit _ (by decide) (by decide))
      (hdigit _ (by decide) (by decide)) (hdigit _ (by decide) (by decide))
  | string s =>
    exact ⟨'"', _, rfl, by decide, fun _ => ⟨s, rfl⟩, fun h => absurd h (by decide)⟩
  | array items =>
    exact ⟨'[', _, rfl, by decide, fun h => absurd h (by decide), fun _ => ⟨items, rfl⟩⟩
  | object fields =>
    exact hother _ _ (by rw [stringify]) (by decide) (by decide) (by decide)

theorem stringify_string_inj {v : Value} {s : String} {rest more : Text}
    (h : stringify numerals v ++ rest = stringify numerals (.string s) ++ more) :
    v = .string s ∧ rest = more := by
  obtain ⟨c, tail, htext, _, hstring, _⟩ := stringify_first numerals v
  have hc : c = '"' := by
    rw [htext, stringify, quote] at h
    exact (List.cons.inj h).1
  obtain ⟨t, rfl⟩ := hstring hc
  obtain ⟨hst, hrest⟩ := quote_append_inj h
  rw [String.toList_inj.mp hst]
  exact ⟨rfl, hrest⟩

/-- The items of a list, up to its closing bracket, when the other list is one of strings. -/
theorem stringify_items_inj (items : List Value) (strings : List String) {rest more : Text}
    (h : stringify_items numerals items ++ ']' :: rest =
      stringify_items numerals (strings.map .string) ++ ']' :: more) :
    items = strings.map .string := by
  induction strings generalizing items with
  | nil =>
    cases items with
    | nil => rfl
    | cons v items =>
      obtain ⟨c, tail, htext, hne, _⟩ := stringify_first numerals v
      have hhead : (stringify_items numerals (v :: items) ++ ']' :: rest).head? = some c := by
        cases items <;> simp [stringify_items, htext]
      rw [h] at hhead
      exact absurd (Option.some.inj hhead).symm hne
  | cons s strings ih =>
    cases items with
    | nil =>
      have hhead : (stringify_items numerals ((s :: strings).map .string) ++ ']' :: more).head? =
          some '"' := by
        cases strings <;> simp [stringify_items, stringify, quote]
      rw [← h] at hhead
      cases hhead
    | cons v items =>
      cases strings with
      | nil =>
        cases items with
        | nil =>
          obtain ⟨rfl, _⟩ := stringify_string_inj h
          rfl
        | cons w items =>
          simp only [List.map_cons, List.map_nil, stringify_items, List.append_assoc] at h
          have htail := (stringify_string_inj h).2
          cases (List.cons.inj htail).1
      | cons t strings =>
        cases items with
        | nil =>
          simp only [List.map_cons, stringify_items, List.append_assoc] at h
          have htail := (stringify_string_inj h).2
          cases (List.cons.inj htail).1
        | cons w items =>
          simp only [List.map_cons, stringify_items, List.append_assoc] at h
          obtain ⟨rfl, htail⟩ := stringify_string_inj h
          rw [ih (w :: items) (List.cons.inj htail).2]
          rfl

/-- A string, or a list of strings. -/
def Plain : Value → Prop
  | .string _ => True
  | .array items => ∃ strings : List String, items = strings.map .string
  | _ => False

/-- A plain value is told by its text. -/
theorem stringify_eq_iff {v w : Value} (hw : Plain w) :
    stringify numerals v = stringify numerals w ↔ v = w := by
  constructor
  · intro h
    cases w with
    | string s =>
      have htext : stringify numerals v ++ [] = stringify numerals (.string s) ++ [] := by rw [h]
      exact (stringify_string_inj htext).1
    | array items =>
      obtain ⟨strings, rfl⟩ := hw
      obtain ⟨c, tail, htext, _, _, hlist⟩ := stringify_first numerals v
      have hc : c = '[' := by
        rw [htext, stringify] at h
        exact (List.cons.inj h).1
      obtain ⟨items, rfl⟩ := hlist hc
      rw [stringify_items_inj items strings (List.cons.inj h).2]
    | null => cases hw
    | bool b => cases hw
    | number n => cases hw
    | object fields => cases hw
  · rintro rfl
    rfl

end json

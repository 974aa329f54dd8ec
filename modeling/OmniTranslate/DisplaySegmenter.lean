-- The display lines of `audio/sentence.rs`: `SubtitleDisplaySegmenter` cuts a
-- complete text into sentences, and each sentence into caption chunks with the
-- limits of the overlay.
import OmniTranslate.SentenceText

namespace omni_translate.sentence

open text

def MAX_DISPLAY_CHARS : Nat := 72
def MAX_CJK_DISPLAY_CHARS : Nat := 24
def MAX_DISPLAY_WORDS : Nat := 12
def MIN_DISPLAY_HEAD_CHARS : Nat := 18

def display_limits : Limits :=
  ⟨MAX_DISPLAY_CHARS, MAX_CJK_DISPLAY_CHARS, MAX_DISPLAY_WORDS, MIN_DISPLAY_HEAD_CHARS⟩

/-- The body of `is_abbreviated_display_period`, on the word before the period. -/
def is_abbreviation (preceding_word : Text) : Bool :=
  let upper_initialism := preceding_word ≠ [] ∧ len preceding_word ≤ 4 ∧
    preceding_word.all fun character => character.isUpper || character == '.'
  let common_abbreviation := ["mr".toList, "mrs".toList, "ms".toList, "dr".toList, "prof".toList,
    "sr".toList, "jr".toList, "vs".toList, "etc".toList].contains (preceding_word.map Char.toLower)
  upper_initialism ∨ common_abbreviation

def is_abbreviated_display_period (text : Text) (period_index : Nat) : Option Bool := do
  let before ← slice? text 0 period_index
  some (is_abbreviation (before.rtakeWhile (!is_whitespace ·)))

/-- A mark is a period after an abbreviation. -/
def is_abbreviated_mark (text : Text) (byte_index : Nat) (character : Char) : Option Bool :=
  if character = '.' then is_abbreviated_display_period text byte_index else some false

/-- The characters at which a sentence may end. -/
def is_sentence_mark (c : Char) : Bool :=
  c == '.' || c == '!' || c == '?' || c == ';' || c == '。' || c == '！' || c == '？' ||
    c == '；' || c == '\n'

/-- The marks that end a sentence only before white space or at the end. -/
def needs_blank (c : Char) : Bool := c == '.' || c == '!' || c == '?'

def split_sentence (sentence : Text) : Option (List Text) :=
  split_subtitle_chunks_with_limits sentence display_limits

/-- The loop of `split_text` over the characters, and the piece after the last sentence. -/
def display_loop (text : Text) : List (Nat × Char) → List Text → Nat → Option (List Text)
  | [], lines, start => do
    let rest ← slice? text start (len text)
    let chunks ← split_sentence rest
    some (lines ++ chunks)
  | (byte_index, character) :: characters, lines, start =>
    if !is_sentence_mark character then display_loop text characters lines start
    else if needs_blank character && characters.head?.any (!is_whitespace ·.2) then
      display_loop text characters lines start
    else do
      let abbreviated ← is_abbreviated_mark text byte_index character
      if abbreviated then display_loop text characters lines start
      else do
        let ends := byte_index + character.utf8Size
        let sentence ← slice? text start ends
        let chunks ← split_sentence sentence
        display_loop text characters (lines ++ chunks) ends

/-- `SubtitleDisplaySegmenter::split_text`. -/
def split_text (text : Text) : Option (List Text) :=
  let text := trim text
  if text = [] then some [] else display_loop text (char_indices text) [] 0

/-! ## The sentences of a text -/

/-- A sentence ends with the character between two texts. -/
def closes_sentence (before : Text) (c : Char) (rest : Text) : Bool :=
  is_sentence_mark c && !(needs_blank c && rest.head?.any (!is_whitespace ·)) &&
    !(c == '.' && is_abbreviation (before.rtakeWhile (!is_whitespace ·)))

/-- The sentences of a text of which one part has passed and the next sentence has begun. -/
def sentences_from (passed current : Text) : Text → List Text
  | [] => [current]
  | c :: rest =>
    if closes_sentence (passed ++ current) c rest then
      (current ++ [c]) :: sentences_from (passed ++ current ++ [c]) [] rest
    else sentences_from passed (current ++ [c]) rest

/-- The sentences that `split_text` cuts a text into. -/
def display_sentences (text : Text) : List Text := sentences_from [] [] (trim text)

theorem sentences_from_flatten (passed current rest : Text) :
    (sentences_from passed current rest).flatten = current ++ rest := by
  induction rest generalizing passed current with
  | nil => simp [sentences_from]
  | cons c rest ih =>
    simp only [sentences_from]
    split
    · rw [List.flatten_cons, ih]
      simp
    · rw [ih]
      simp

theorem display_sentences_flatten (text : Text) : (display_sentences text).flatten = trim text :=
  sentences_from_flatten [] [] (trim text)

theorem is_abbreviated_mark_eq (before rest : Text) (c : Char) :
    is_abbreviated_mark (before ++ c :: rest) (len before) c =
      some (c == '.' && is_abbreviation (before.rtakeWhile (!is_whitespace ·))) := by
  unfold is_abbreviated_mark
  split
  · rename_i hc
    simp [is_abbreviated_display_period, slice?_first_part, hc]
  · rename_i hc
    simp [hc]

theorem head_char_indices_from (i : Nat) (t : Text) :
    (char_indices_from i t).head?.any (!is_whitespace ·.2) = t.head?.any (!is_whitespace ·) := by
  cases t <;> rfl

/-- The chunks of some sentences, one after the other. -/
def chunks_of (sentences : List Text) : Option (List Text) :=
  (sentences.mapM split_sentence).map List.flatten

@[simp] theorem chunks_of_nil : chunks_of [] = some [] := rfl

theorem chunks_of_cons (s : Text) (sentences : List Text) :
    chunks_of (s :: sentences) =
      (split_sentence s).bind fun chunks => (chunks_of sentences).map (chunks ++ ·) := by
  unfold chunks_of
  rw [List.mapM_cons]
  cases split_sentence s with
  | none => rfl
  | some chunks => cases sentences.mapM split_sentence <;> rfl

/-- The loop cuts exactly the sentences of the text, and never off a character boundary. -/
theorem display_loop_eq (passed current rest : Text) (lines : List Text) :
    display_loop (passed ++ current ++ rest) (char_indices_from (len (passed ++ current)) rest)
        lines (len passed) =
      (chunks_of (sentences_from passed current rest)).map (lines ++ ·) := by
  induction rest generalizing passed current lines with
  | nil =>
    have hlast : slice? (passed ++ current) (len passed) (len (passed ++ current)) =
        some current := slice?_last_part passed current
    simp only [display_loop, char_indices_from, sentences_from, List.append_nil, hlast,
      chunks_of_cons, chunks_of_nil, Option.bind_eq_bind, Option.bind_some, Option.map_some]
    cases split_sentence current <;> simp
  | cons c rest ih =>
    -- the character joins the current sentence
    have hskip : ∀ lines, display_loop (passed ++ current ++ c :: rest)
        (char_indices_from (len (passed ++ current) + c.utf8Size) rest) lines (len passed) =
        (chunks_of (sentences_from passed (current ++ [c]) rest)).map (lines ++ ·) := by
      intro lines
      have h := ih passed (current ++ [c]) lines
      simpa [Nat.add_assoc] using h
    -- or ends it
    have hcut : ∀ lines, display_loop (passed ++ current ++ c :: rest)
        (char_indices_from (len (passed ++ current) + c.utf8Size) rest) lines
        (len (passed ++ current) + c.utf8Size) =
        (chunks_of (sentences_from (passed ++ current ++ [c]) [] rest)).map (lines ++ ·) := by
      intro lines
      have h := ih (passed ++ current ++ [c]) [] lines
      simpa [Nat.add_assoc] using h
    have hsentence : slice? (passed ++ current ++ c :: rest) (len passed)
        (len (passed ++ current) + c.utf8Size) = some (current ++ [c]) := by
      have h := slice?_append passed (current ++ [c]) rest
      simpa [Nat.add_assoc] using h
    have habbr := is_abbreviated_mark_eq (passed ++ current) rest c
    have hcloses : closes_sentence (passed ++ current) c rest =
        (is_sentence_mark c && !(needs_blank c && rest.head?.any (!is_whitespace ·)) &&
          !(c == '.' && is_abbreviation ((passed ++ current).rtakeWhile (!is_whitespace ·)))) := rfl
    simp only [display_loop, char_indices_from, head_char_indices_from, sentences_from,
      hsentence, habbr, Option.bind_eq_bind, Option.bind_some]
    by_cases hmark : is_sentence_mark c = true
    · by_cases hblank : (needs_blank c && rest.head?.any (!is_whitespace ·)) = true
      · rw [hmark, hblank] at hcloses
        rw [if_neg (by simp [hmark]), if_pos hblank, if_neg (by simp [hcloses])]
        exact hskip lines
      · by_cases habbreviated : (c == '.' &&
            is_abbreviation ((passed ++ current).rtakeWhile (!is_whitespace ·))) = true
        · rw [habbreviated, Bool.not_true, Bool.and_false] at hcloses
          rw [if_neg (by simp [hmark]), if_neg hblank, if_pos habbreviated,
            if_neg (by simp [hcloses])]
          exact hskip lines
        · rw [hmark, Bool.not_eq_true _ |>.mp hblank, Bool.not_eq_true _ |>.mp habbreviated]
            at hcloses
          rw [if_neg (by simp [hmark]), if_neg hblank, if_neg habbreviated,
            if_pos (by simp [hcloses]), chunks_of_cons]
          simp only [hcut]
          cases split_sentence (current ++ [c]) with
          | none => rfl
          | some chunks =>
            cases chunks_of (sentences_from (passed ++ current ++ [c]) [] rest) <;> simp
    · rw [Bool.not_eq_true _ |>.mp hmark] at hcloses
      rw [if_pos (by simp [hmark]), if_neg (by simp [hcloses])]
      exact hskip lines

/-- `split_text` is the chunks of the sentences, in order. -/
theorem split_text_eq (text : Text) :
    split_text text = if trim text = [] then some [] else chunks_of (display_sentences text) := by
  have h := display_loop_eq [] [] (trim text) []
  simp only [List.nil_append, len_nil, Option.map_id'] at h
  simp only [split_text, display_sentences, char_indices, h]

/-! ## What the chunks are -/

/-- A chunk of a caption: not empty, and without white space at its ends. -/
structure Trimmed (chunk : Text) : Prop where
  ne_nil : chunk ≠ []
  trim : trim chunk = chunk

theorem Trimmed.of_trim {t : Text} (h : text.trim t ≠ []) : Trimmed (text.trim t) :=
  ⟨h, trim_trim t⟩

theorem trimmed_last (t : Text) :
    ∀ chunk ∈ (if trim t ≠ [] then [trim t] else []), Trimmed chunk := by
  intro chunk hc
  split at hc
  · rename_i h
    rw [List.mem_singleton.mp hc]
    exact Trimmed.of_trim h
  · cases hc

theorem chunk_loop_trimmed (l : Limits) (fuel : Nat) {t : Text} {chunks : List Text}
    (h : chunk_loop l fuel t = some chunks) : ∀ chunk ∈ chunks, Trimmed chunk := by
  induction fuel generalizing t chunks with
  | zero => cases h
  | succ fuel ih =>
    simp only [chunk_loop] at h
    split at h
    · obtain ⟨i, hi, h⟩ := Option.bind_eq_some_iff.mp h
      obtain ⟨⟨head, tail⟩, hcut, h⟩ := Option.bind_eq_some_iff.mp h
      split at h
      · cases h
        exact trimmed_last t
      · rename_i hne
        obtain ⟨more, hmore, h⟩ := Option.bind_eq_some_iff.mp h
        cases h
        intro chunk hc
        rcases List.mem_cons.mp hc with rfl | hc
        · exact Trimmed.of_trim hne
        · exact ih hmore chunk hc
    · cases h
      exact trimmed_last t

/-- The splitter ended without a panic, with trimmed chunks that are the text but for white
space and commas. -/
def KeptIn (t : Text) (result : Option (List Text)) : Prop :=
  ∃ chunks, result = some chunks ∧ (∀ chunk ∈ chunks, Trimmed chunk) ∧
    keep chunks.flatten = keep t

theorem split_subtitle_chunks_with_limits_keeps (t : Text) (l : Limits) :
    KeptIn t (split_subtitle_chunks_with_limits t l) := by
  obtain ⟨chunks, hc, hkeep⟩ := split_subtitle_chunks_with_limits_spec t l
  refine ⟨chunks, hc, ?_, hkeep⟩
  simp only [split_subtitle_chunks_with_limits] at hc
  split at hc
  · cases hc
    simp
  · rename_i hne
    split at hc
    · exact chunk_loop_trimmed l _ hc
    · cases hc
      intro chunk hmem
      rw [List.mem_singleton.mp hmem]
      exact Trimmed.of_trim hne

theorem chunks_of_keeps (sentences : List Text) :
    KeptIn sentences.flatten (chunks_of sentences) := by
  induction sentences with
  | nil => exact ⟨[], rfl, by simp, rfl⟩
  | cons s sentences ih =>
    obtain ⟨first, hf, htrim, hkeep⟩ := split_subtitle_chunks_with_limits_keeps s display_limits
    obtain ⟨more, hm, htrim', hkeep'⟩ := ih
    refine ⟨first ++ more, ?_, ?_, ?_⟩
    · rw [chunks_of_cons, split_sentence, hf, hm]
      rfl
    · intro chunk hc
      rcases List.mem_append.mp hc with hc | hc
      · exact htrim chunk hc
      · exact htrim' chunk hc
    · rw [List.flatten_append, List.flatten_cons, keep_append, keep_append, hkeep, hkeep']

/-- Whatever the text and the limits, both splitters end without a panic, with trimmed chunks
that are the text but for white space and commas. -/
theorem captions_lose_nothing (text : Text) (limits : Limits) :
    KeptIn text (split_text text) ∧
      KeptIn text (split_subtitle_chunks_with_limits text limits) := by
  refine ⟨?_, split_subtitle_chunks_with_limits_keeps text limits⟩
  rw [split_text_eq]
  split
  · rename_i h
    exact ⟨[], rfl, by simp, by simp [keep_allSpace (trim_eq_nil.mp h)]⟩
  · obtain ⟨lines, hl, htrim, hkeep⟩ := chunks_of_keeps (display_sentences text)
    refine ⟨lines, hl, htrim, ?_⟩
    rw [hkeep, display_sentences_flatten, keep_trim]

end omni_translate.sentence

-- The sentence splitter of `audio/sentence.rs`. `feed_internal` takes one
-- hypothesis of the recognizer and commits a stable part of it. A result of
-- `none` stands for a panic: a slice off a character boundary, out of range or
-- inverted.
import Mathlib.Data.List.Sort
import Mathlib.Data.Rat.Floor
import OmniTranslate.Text

set_option linter.dupNamespace false

namespace omni_translate.sentence

open text

/-! ## Clocks and floats -/

/-- A clock reading, in nanoseconds. -/
abbrev Instant := Nat

/-- A time span, in nanoseconds. -/
abbrev Duration := Nat

def from_millis (ms : Nat) : Duration := ms * 1000000

/-- The operations of `f64` that the splitter uses. Every law below holds for any of them. -/
class F64 (F : Type) extends Add F, Sub F, Mul F, Div F, Min F, Max F, NatCast F,
    OfScientific F where
  /-- `round` and the cast to `u64` -/
  round : F → Nat

/-- Exact arithmetic. -/
instance : F64 ℚ where
  round q := ⌊q + 1 / 2⌋.toNat

def STABLE_PREFIX_AGE : Duration := from_millis 250
def FORCED_REPEAT_INTERVAL : Duration := from_millis 500
def MAX_CONTEXT_SENTENCES : Nat := 3
def MIN_NORMAL_WORDS : Nat := 4
def MIN_NORMAL_GRAPHEMES : Nat := 8
def MIN_FORCED_WORDS : Nat := 4
def MIN_FORCED_GRAPHEMES : Nat := 4
def MIN_FORCE_GROWTH_WORDS : Nat := 3
def MIN_FORCE_GROWTH_GRAPHEMES : Nat := 6
def MAX_SUBTITLE_CHARS : Nat := 120
def MAX_CJK_SUBTITLE_CHARS : Nat := 42
def MAX_SUBTITLE_WORDS : Nat := 22
def MIN_SPLIT_HEAD_CHARS : Nat := 28

/-! ## The text of a hypothesis -/

/-- One turn of the loop of `normalize_hypothesis`. -/
def normalize_step (acc : Text × Bool) (character : Char) : Text × Bool :=
  let (normalized, pending_space) := acc
  if character = '\r' ∨ character = '\n' then
    let normalized := normalized.rdropWhile (· = ' ')
    if normalized ≠ [] ∧ normalized.getLast? ≠ some '\n' then
      (normalized ++ ['\n'], false)
    else (normalized, false)
  else if is_whitespace character then (normalized, true)
  else if pending_space ∧ normalized ≠ [] ∧ normalized.getLast? ≠ some '\n' then
    (normalized ++ [' ', character], false)
  else (normalized ++ [character], false)

def normalize_hypothesis (text : Text) : Text :=
  trim_end (text.foldl normalize_step ([], false)).1

/-- The graphemes that two lists share from the start, joined. -/
def common_pieces : List Text → List Text → Text
  | l :: ls, r :: rs => if l ≠ r then [] else l ++ common_pieces ls rs
  | _, _ => []

variable (g : Segmentation)

def grapheme_common_prefix (left right : Text) : Text :=
  common_pieces (g.pieces left) (g.pieces right)

def retain_unstable_tail (p : Text) : Text :=
  if trim p = [] then []
  else if p.any is_whitespace then
    let words := split_whitespace p
    join [' '] (words.take (words.length - 2))
  else
    let graphemes := g.pieces p
    (graphemes.take (graphemes.length - 4)).flatten

def segment_counts (text : Text) : Nat × Nat :=
  ((split_whitespace text).length, (g.pieces text).length)

/-- The body of `is_normal_segment` and `is_forced_segment`. -/
def segment_reaches (min_words min_graphemes : Nat) (text : Text) : Bool :=
  let (words, graphemes) := segment_counts g text
  if text.any is_whitespace then words ≥ min_words else graphemes ≥ min_graphemes

def is_normal_segment (text : Text) : Bool :=
  segment_reaches g MIN_NORMAL_WORDS MIN_NORMAL_GRAPHEMES text

def is_forced_segment (text : Text) : Bool :=
  segment_reaches g MIN_FORCED_WORDS MIN_FORCED_GRAPHEMES text

def should_emit_forced_pending (previous : Option Text) (pending_text : Text) : Bool :=
  match previous with
  | none => true
  | some previous =>
    if previous = pending_text ∨ len pending_text ≤ len previous then false
    else
      let growth := if previous <+: pending_text then pending_text.drop previous.length
        else pending_text
      let (words, graphemes) := segment_counts g growth
      words ≥ MIN_FORCE_GROWTH_WORDS || graphemes ≥ MIN_FORCE_GROWTH_GRAPHEMES

/-! ## Caption limits -/

def is_cjk_caption_character (character : Char) : Bool :=
  let n := character.toNat
  (0x3040 ≤ n && n ≤ 0x30ff) || (0x3400 ≤ n && n ≤ 0x9fff) || (0xac00 ≤ n && n ≤ 0xd7af)

/-- The limits of one kind of caption. -/
structure Limits where
  max_chars : Nat
  max_cjk_chars : Nat
  max_words : Nat
  min_head_chars : Nat

def subtitle_limits : Limits :=
  ⟨MAX_SUBTITLE_CHARS, MAX_CJK_SUBTITLE_CHARS, MAX_SUBTITLE_WORDS, MIN_SPLIT_HEAD_CHARS⟩

/-- The limit on the characters of a text, smaller when the text has a CJK character. -/
def Limits.char_limit (l : Limits) (text : Text) : Nat :=
  if text.any is_cjk_caption_character then l.max_cjk_chars else l.max_chars

def needs_subtitle_split_with_limits (text : Text) (l : Limits) : Bool :=
  text.length > l.char_limit text || (split_whitespace text).length > l.max_words

/-- The characters after which a clause may end. -/
def is_clause_mark (c : Char) : Bool :=
  c == ',' || c == '，' || c == ':' || c == '：' || c == '-' || c == '—' || c == '、'

def byte_after_grapheme_count (text : Text) (max_graphemes : Nat) : Nat :=
  len ((g.pieces text).take max_graphemes).flatten

def soft_commit_boundary (text : Text) : Option (Option Nat) := do
  let max_end := byte_after_grapheme_count g text (subtitle_limits.char_limit text)
  let head ← slice? text 0 max_end
  let marks := (char_indices head).filterMap fun (index, character) =>
    if is_clause_mark character then some (index + character.utf8Size) else none
  match marks.getLast? with
  | some mark => some (some mark)
  | none =>
    if (split_whitespace head).length ≥ MAX_SUBTITLE_WORDS then
      let spaces := (char_indices head).filterMap fun (index, character) =>
        if is_whitespace character then some index else none
      some spaces[MAX_SUBTITLE_WORDS - 1]?
    else if max_end < len text then some (some max_end)
    else some none

def byte_end_after_trimmed_prefix (text : Text) (prefix_end : Nat) : Option Nat := do
  let head ← slice? text 0 prefix_end
  some (len (trim_end head))

/-! ## Caption chunks -/

def is_ascii_alphanumeric (c : Char) : Bool := c.isAlphanum

def normalize_boundary_word (word : Text) : Text :=
  ((word.dropWhile (!is_ascii_alphanumeric ·)).rdropWhile (!is_ascii_alphanumeric ·)).map
    Char.toLower

def boundary_word_before (text : Text) (idx : Nat) : Option Text := do
  let head ← slice? text 0 idx
  let word ← (split_whitespace head).getLast?
  let word := normalize_boundary_word word
  if word = [] then none else some word

def boundary_word_after (text : Text) (idx : Nat) : Option Text := do
  let tail ← slice? text idx (len text)
  let word ← (split_whitespace tail).head?
  let word := normalize_boundary_word word
  if word = [] then none else some word

def breaks_numeric_money_phrase (text : Text) (idx : Nat) : Bool :=
  match boundary_word_before text idx, boundary_word_after text idx with
  | some before, some after =>
    (before ∈ ["one".toList, "two".toList, "three".toList, "four".toList, "five".toList,
        "six".toList, "seven".toList, "eight".toList, "nine".toList, "ten".toList,
        "hundred".toList, "thousand".toList, "million".toList, "billion".toList] ∧
      after ∈ ["hundred".toList, "thousand".toList, "million".toList, "billion".toList,
        "dollar".toList, "dollars".toList]) ∨
    (before ∈ ["dollar".toList, "dollars".toList] ∧
      after ∈ ["rocket".toList, "ship".toList, "biosphere".toList, "line".toList,
        "light".toList]) ∨
    (before = "rocket".toList ∧ after = "ship".toList)
  | _, _ => false

def connectors : List Text :=
  [" and ".toList, " but ".toList, " because ".toList, " when ".toList, " which ".toList,
    " that ".toList, " to ".toList, " for ".toList]

/-- The loop over the places of one connector. Each turn moves `search_from` past the
connector, so a fuel of one turn for each character is never used up. -/
def connector_ends (text connector : Text) : Nat → Nat → Option (List Nat)
  | 0, _ => none
  | fuel + 1, search_from => do
    let rest ← slice? text search_from (len text)
    match find connector rest with
    | none => some []
    | some found => do
      let idx := search_from + found + len connector
      let more ← connector_ends text connector fuel idx
      some (idx :: more)

/-- `Vec::dedup`: of equal neighbours one stays. -/
def dedup : List Nat → List Nat
  | a :: b :: l => if a = b then dedup (b :: l) else a :: dedup (b :: l)
  | l => l

def split_candidates (text : Text) : Option (List Nat × List Nat) := do
  let marks := (char_indices text).filterMap fun (idx, ch) =>
    if is_clause_mark ch then some (idx + ch.utf8Size) else none
  let ends ← connectors.mapM fun connector => connector_ends text connector (text.length + 1) 0
  let whitespace_candidates := (char_indices text).filterMap fun (idx, ch) =>
    if is_whitespace ch then some (idx + ch.utf8Size) else none
  some (dedup ((marks ++ ends.flatten).insertionSort (· ≤ ·)),
    dedup (whitespace_candidates.insertionSort (· ≤ ·)))

def byte_after_char_count (text : Text) (max_chars : Nat) : Nat := len (text.take max_chars)

def find_subtitle_split_at_with_limits (text : Text) (l : Limits) : Option Nat := do
  let (semantic_candidates, whitespace_candidates) ← split_candidates text
  let safe := semantic_candidates.filter (!breaks_numeric_money_phrase text ·)
  let semantic_candidates := if safe = [] then semantic_candidates else safe
  let char_target := byte_after_char_count text (l.char_limit text)
  let word_target := whitespace_candidates[l.max_words - 1]?.getD (len text)
  let target := min char_target word_target
  let min := byte_after_char_count text l.min_head_chars
  (semantic_candidates.filter fun idx => min ≤ idx ∧ idx ≤ target).min?
    <|> (semantic_candidates.filter fun idx => min ≤ idx).min?
    <|> (whitespace_candidates.filter fun idx => min ≤ idx ∧ idx ≤ target).max?
    <|> (whitespace_candidates.filter fun idx => min ≤ idx).min?
    <|> some target

/-- White space and commas: what a cut between two chunks drops. -/
def is_space_or_comma (c : Char) : Bool := is_whitespace c || c == ',' || c == '，'

/-- The loop of `split_subtitle_chunks_with_limits`. Each turn takes a head that is not
empty off the text, so a fuel of one turn for each character is never used up. -/
def chunk_loop (l : Limits) : Nat → Text → Option (List Text)
  | 0, _ => none
  | fuel + 1, remaining =>
    let last := if trim remaining ≠ [] then [trim remaining] else []
    if needs_subtitle_split_with_limits remaining l then do
      let split_at ← find_subtitle_split_at_with_limits remaining l
      let (head, tail) ← split_at? remaining split_at
      if trim head = [] then some last
      else do
        let chunks ← chunk_loop l fuel (tail.dropWhile is_space_or_comma)
        some (trim head :: chunks)
    else some last

def split_subtitle_chunks_with_limits (sentence : Text) (l : Limits) : Option (List Text) :=
  let trimmed := trim sentence
  if trimmed = [] then some []
  else if needs_subtitle_split_with_limits trimmed l then chunk_loop l (trimmed.length + 1) trimmed
  else some [trimmed]

def split_subtitle_chunks (sentence : Text) : Option (List Text) :=
  split_subtitle_chunks_with_limits sentence subtitle_limits

/-! ## The splitter -/

inductive HypothesisFinality
  | Partial
  | ProviderFinal
deriving DecidableEq

inductive FeedMode
  | Hypothesis (finality : HypothesisFinality)
  | LegacyStablePunctuation
deriving DecidableEq

structure SentenceResult where
  sentence : Text
  context : List Text
  is_forced : Bool
  is_replacement : Bool
  pending_id : Option String
deriving DecidableEq

structure SentenceFeedResult where
  sentences : List SentenceResult
  revision_reset : Bool
  previous_committed : Text

structure ForcedPending where
  id : String
  text : Text

structure SentenceSplitter (F : Type) where
  buffer : Text
  committed : Text
  pending_start : Option Instant
  context : List Text
  active_forced_pending : Option ForcedPending
  last_hypothesis : Text
  agreement_prefix : Text
  agreement_since : Option Instant
  last_distinct_hypothesis_at : Option Instant
  hypothesis_interval_ema_ms : F
  last_forced_at : Option Instant

def split_endings : List Char := ['.', '!', '?', ';', '。', '！', '？', '；', '\n']

variable {F : Type} [F64 F]

namespace SentenceSplitter

def new : SentenceSplitter F where
  buffer := []
  committed := []
  pending_start := none
  context := []
  active_forced_pending := none
  last_hypothesis := []
  agreement_prefix := []
  agreement_since := none
  last_distinct_hypothesis_at := none
  hypothesis_interval_ema_ms := 100.0
  last_forced_at := none

def reset (_ : SentenceSplitter F) : SentenceSplitter F := new

def observe_hypothesis (g : Segmentation) (s : SentenceSplitter F) (now : Instant) :
    SentenceSplitter F :=
  if s.buffer = s.last_hypothesis then s
  else
    let ema := match s.last_distinct_hypothesis_at with
      | some previous_at =>
        let interval_ms := ((now - previous_at : Nat) : F) / 1000000000.0 * 1000.0
        0.2 * interval_ms + (1.0 - 0.2) * s.hypothesis_interval_ema_ms
      | none => s.hypothesis_interval_ema_ms
    let candidate := retain_unstable_tail g ( grapheme_common_prefix g s.last_hypothesis s.buffer)
    { s with
      hypothesis_interval_ema_ms := ema
      last_distinct_hypothesis_at := some now
      agreement_since := if candidate ≠ s.agreement_prefix then some now else s.agreement_since
      agreement_prefix := candidate
      last_hypothesis := s.buffer }

variable (s : SentenceSplitter F)

def stable_prefix_end (now : Instant) : Nat :=
  if s.agreement_since.any (fun since => now - since ≥ STABLE_PREFIX_AGE) then
    len s.agreement_prefix
  else len s.committed

def soft_deadline : Duration :=
  from_millis (F64.round (max (700.0 : F) (min (600.0 + 2.0 * s.hypothesis_interval_ema_ms) 1200.0)))

def hard_deadline : Duration :=
  from_millis (max 1400 (min (s.soft_deadline / 1000000 + 700) 1900))

end SentenceSplitter

/-! ## One feed -/

/-- A character at which the punctuation scan of `feed_internal` may cut, with the character
after it. -/
def ends_sentence (buffer : Text) (byte_i : Nat) (ch : Char) (next_ch : Option Char) :
    Option Bool :=
  if ch ∉ split_endings then some false
  else if (ch = '.' ∨ ch = '!' ∨ ch = '?') ∧
      next_ch.any (fun nc => nc ≠ ' ' ∧ nc ≠ '\n') then some false
  else if ch = '.' ∧ next_ch = some ' ' then do
    let before ← slice? buffer 0 byte_i
    let preceding := before.rtakeWhile (!is_whitespace ·)
    some !(preceding ≠ [] ∧ len preceding ≤ 4 ∧ preceding.all fun c => c.isUpper || c == '.')
  else some true

/-- The punctuation scan over the characters with their offsets. It keeps the end of the last
sentence and the sentences so far. -/
def scan_sentences (buffer : Text) (old_committed_len stable_end : Nat) :
    List (Nat × Char) → Nat → List Text → Option (Nat × List Text)
  | [], last_split, new_sentences => some (last_split, new_sentences)
  | (byte_i, ch) :: rest, last_split, new_sentences =>
    if byte_i < old_committed_len ∨ byte_i ≥ stable_end then
      scan_sentences buffer old_committed_len stable_end rest last_split new_sentences
    else do
      if ← ends_sentence buffer byte_i ch (rest.head?.map Prod.snd) then
        let end_byte := byte_i + ch.utf8Size
        let sentence ← slice? buffer last_split end_byte
        scan_sentences buffer old_committed_len stable_end rest end_byte
          (if trim sentence ≠ [] then new_sentences ++ [trim sentence] else new_sentences)
      else scan_sentences buffer old_committed_len stable_end rest last_split new_sentences

/-- The soft commit of a trimmed stable suffix: the end of the sentence inside the trimmed
suffix, and the sentence. -/
def soft_commit (stable_suffix : Text) : Option (Option (Nat × Text)) := do
  match ← soft_commit_boundary g stable_suffix with
  | none => some none
  | some relative_end => do
    let head ← slice? stable_suffix 0 relative_end
    let sentence := trim head
    if sentence ≠ [] ∧ is_normal_segment g sentence then some (some (relative_end, sentence))
    else some none

/-- The part of `feed_internal` after the punctuation scan: the final flush of a provider, or
a soft commit when the text waits for too long or is too long. -/
def commit_suffix (s : SentenceSplitter F) (now : Instant) (provider_final : Bool)
    (stable_end last_split : Nat) (new_sentences : List Text) :
    Option (Nat × List Text) := do
  let pending_elapsed := (s.pending_start.map (now - ·)).getD 0
  let untrimmed ← slice? s.buffer last_split stable_end
  let stable_suffix := trim untrimmed
  if provider_final ∧ stable_end > last_split then
    if stable_suffix ≠ [] then some (stable_end, new_sentences ++ [stable_suffix])
    else some (last_split, new_sentences)
  else if stable_suffix ≠ [] ∧ (pending_elapsed ≥ s.soft_deadline ∨
      needs_subtitle_split_with_limits stable_suffix subtitle_limits) then do
    match ← soft_commit g stable_suffix with
    | none => some (last_split, new_sentences)
    | some (relative_end, sentence) => do
      let offset ← byte_end_after_trimmed_prefix untrimmed relative_end
      some (last_split + offset, new_sentences ++ [sentence])
  else some (last_split, new_sentences)

/-- The results for the chunks of one sentence. Only the first chunk takes the pending id. -/
def emit_chunks : List Text → List Text → Option String → List Text × List SentenceResult
  | [], context, _ => (context, [])
  | sentence :: chunks, context, pending_id =>
    let context := context ++ [sentence]
    let context := if context.length > MAX_CONTEXT_SENTENCES then context.tail else context
    let (final_context, results) := emit_chunks chunks context none
    (final_context, ⟨sentence, context, false, pending_id.isSome, pending_id⟩ :: results)

def emit_sentences (active : Option ForcedPending) :
    List Text → List Text → Option (List Text × List SentenceResult)
  | [], context => some (context, [])
  | raw_sentence :: rest, context => do
    let pending_id := active.bind fun pending =>
      if pending.text <+: raw_sentence then some pending.id else none
    let chunks ← split_subtitle_chunks raw_sentence
    let (context, results) := emit_chunks chunks context pending_id
    let (context, more) ← emit_sentences active rest context
    some (context, results ++ more)

/-- The last part of `feed_internal`: the text that is not committed waits, and is shown
before its time when it has waited too long. -/
def force_pending (s : SentenceSplitter F) (mode : FeedMode) (now : Instant) (unix_ms : Nat)
    (results : List SentenceResult) : Option (SentenceSplitter F × List SentenceResult) :=
  if len s.buffer > len s.committed then do
    let start := s.pending_start.getD now
    let s := { s with pending_start := some start }
    if results ≠ [] then some (s, results)
    else
      let tail ← slice? s.buffer (len s.committed) (len s.buffer)
      let pending_text := trim tail
      let elapsed := now - start
      let legacy_force := mode = FeedMode.LegacyStablePunctuation ∧ elapsed ≥ s.soft_deadline
      let hard_force := elapsed ≥ s.hard_deadline
      if pending_text ≠ [] ∧ (legacy_force ∨ hard_force) ∧ is_forced_segment g pending_text ∧
          s.last_forced_at.all (fun last => now - last ≥ FORCED_REPEAT_INTERVAL) ∧
          should_emit_forced_pending g (s.active_forced_pending.map (·.text)) pending_text then
        let pending_id := "pending-" ++ toString unix_ms
        some ({ s with
          active_forced_pending := some ⟨pending_id, pending_text⟩
          last_forced_at := some now },
          [⟨pending_text, s.context, true, false, some pending_id⟩])
      else some (s, results)
  else some ({ s with pending_start := none }, results)

namespace SentenceSplitter

/-- A text that contradicts the committed prefix starts the splitter anew. -/
def resets (s : SentenceSplitter F) (full_text : Text) : Bool :=
  s.committed ≠ [] ∧ ¬ s.committed <+: full_text

def stable_end (s : SentenceSplitter F) (mode : FeedMode) (now : Instant) : Nat :=
  match mode with
  | .Hypothesis .ProviderFinal => len s.buffer
  | .Hypothesis .Partial => s.stable_prefix_end now
  | .LegacyStablePunctuation => len s.buffer

/-- The part of `feed_internal` after the cut: the text up to `last_split` is committed and
its sentences are published, or the rest is forced. -/
def publish (g : Segmentation) (s : SentenceSplitter F) (mode : FeedMode) (now : Instant)
    (unix_ms : Nat) (last_split : Nat) (new_sentences : List Text) :
    Option (SentenceSplitter F × List SentenceResult) := do
  let committed ← slice? s.buffer 0 last_split
  let s := { s with committed }
  if new_sentences ≠ [] then
    let (context, results) ← emit_sentences s.active_forced_pending new_sentences s.context
    force_pending g { s with
      context, pending_start := none, active_forced_pending := none, last_forced_at := none }
      mode now unix_ms results
  else force_pending g s mode now unix_ms []

def feed_internal (g : Segmentation) (s : SentenceSplitter F) (full_text : Text) (mode : FeedMode)
    (now : Instant) (unix_ms : Nat) : Option (SentenceSplitter F × SentenceFeedResult) := do
  let full_text := normalize_hypothesis full_text
  let revision_reset := s.resets full_text
  let previous_committed := if revision_reset then s.committed else []
  let s := if revision_reset then s.reset else s
  if len full_text < len s.committed then
    some (s, ⟨[], revision_reset, previous_committed⟩)
  else
    let old_committed_len := len s.committed
    let s := observe_hypothesis g { s with buffer := full_text } now
    let stable_end := s.stable_end mode now
    let (last_split, new_sentences) ← scan_sentences s.buffer old_committed_len stable_end
      (char_indices s.buffer) old_committed_len []
    let (last_split, new_sentences) ← commit_suffix g s now
      (mode = .Hypothesis .ProviderFinal) stable_end last_split new_sentences
    let (s, results) ← publish g s mode now unix_ms last_split new_sentences
    some (s, ⟨results, revision_reset, previous_committed⟩)

end SentenceSplitter

end omni_translate.sentence

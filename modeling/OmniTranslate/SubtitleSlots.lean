-- The display slots of one cue, from `subtitle_translate/scheduler.rs`,
-- `subtitle_translate.rs` and `subtitle_translate/worker.rs`: each feed of the
-- splitter puts its sentences on slots, a preview reserves a slot, and the
-- outcomes of the translations come in between.
import Mathlib.Data.Finset.Basic
import OmniTranslate.Runs
import OmniTranslate.TranslationLifecycle
import OmniTranslate.TranslationScheduler

namespace omni_translate.subtitle_slots

open text runs translation_lifecycle
open sentence (Instant SentenceSplitter SentenceResult F64 HypothesisFinality)
open translation_scheduler (TranslationRank translation_rank TranslationJob normalize_sentence_key)

variable {F : Type} [F64 F]

/-! ## Writes -/

structure TranslationWriteState where
  rank : TranslationRank
  sequence : Nat
deriving DecidableEq

def should_dedupe_written_translation : TranslationRank → Bool
  | .Final | .Replacement => true
  | .Partial | .Forced => false

def should_accept_translation (current : Option TranslationWriteState) (incoming : TranslationWriteState) :
    Bool :=
  match current with
  | none => true
  | some current =>
    decide (current.rank.value < incoming.rank.value) ||
      (incoming.rank = current.rank && decide (current.sequence ≤ incoming.sequence))

structure DisplaySlot where
  source : Text
  translated : Text
  pending : Bool
  write_state : Option TranslationWriteState
deriving DecidableEq

/-- What the standard library says of the characters of Unicode. -/
structure Unicode where
  is_alphanumeric : Char → Bool
  to_lowercase : Char → Text

def substantive_translation_dedupe_key (u : Unicode) (text : Text) : Option Text :=
  let normalized := (text.filter u.is_alphanumeric).flatMap u.to_lowercase
  if 8 ≤ normalized.length then some normalized else none

def normalized_nonempty_translation (text : Text) : Option Text :=
  if trim text = [] then none else some (trim text)

/-! ## The ledger -/

/-- The ledger of a cue, with the fields that the slots depend on. -/
structure CueTranslationLedger (F : Type) where
  splitter : SentenceSplitter F
  revision : Nat
  forced_pending : AList (fun _ : String => String × Text)
  completed_replacements : Finset String
  pending_display_index : Option Nat
  pending_display_by_id : AList (fun _ : String => Nat)
  final_translation_cache : AList (fun _ : Text => Text)
  /-- The slots and the texts that a final translation was written with. -/
  written_final_translation_keys : Finset (Nat × Text)
  display_slots : List DisplaySlot

namespace CueTranslationLedger

def new_for_revision (revision : Nat) : CueTranslationLedger F where
  splitter := SentenceSplitter.new
  revision
  forced_pending := ∅
  completed_replacements := ∅
  pending_display_index := none
  pending_display_by_id := ∅
  final_translation_cache := ∅
  written_final_translation_keys := ∅
  display_slots := []

variable (ledger : CueTranslationLedger F)

/-- A slot shows another sentence. -/
def show_source (index : Nat) (sentence : Text) : CueTranslationLedger F :=
  { ledger with display_slots := ledger.display_slots.modify index fun slot => { slot with source := sentence } }

/-- The slot is found under the pending id of the sentence. -/
def reserve (index : Nat) (pending_id : Option String) : CueTranslationLedger F :=
  match pending_id with
  | some pending_id =>
    { ledger with pending_display_by_id := ledger.pending_display_by_id.insert pending_id index }
  | none => ledger

/-- The slot that a sentence finds reserved. -/
def reserved (result : SentenceResult) : Option Nat :=
  (if result.is_replacement then result.pending_id.bind ledger.pending_display_by_id.lookup else none).or
    (if result.is_forced then ledger.pending_display_index else none)

def ensure_display_slot (result : SentenceResult) : CueTranslationLedger F × Nat :=
  match if result.is_replacement then result.pending_id.bind ledger.pending_display_by_id.lookup else none with
  | some index => (ledger.show_source index result.sentence, index)
  | none =>
    match if result.is_forced then ledger.pending_display_index else none with
    | some index => ((ledger.show_source index result.sentence).reserve index result.pending_id, index)
    | none =>
      let index := ledger.display_slots.length
      let ledger := { ledger with display_slots := ledger.display_slots ++ [⟨result.sentence, [], true, none⟩] }
      if result.is_forced then
        ({ ledger with pending_display_index := some index }.reserve index result.pending_id, index)
      else (ledger, index)

def reset_for_revision_state : CueTranslationLedger F :=
  { ledger with
    forced_pending := ∅
    completed_replacements := ∅
    pending_display_index := none
    pending_display_by_id := ∅
    written_final_translation_keys := ∅
    display_slots := [] }

def sync_ledger_revision (cue_revision : Option Nat) : CueTranslationLedger F :=
  { ledger with revision := cue_revision.getD (saturating_succ ledger.revision) }.reset_for_revision_state

def cache_final_translation (sentence translated : Text) : CueTranslationLedger F :=
  if trim translated = [] then ledger
  else
    { ledger with
      final_translation_cache :=
        ledger.final_translation_cache.insert (normalize_sentence_key sentence) (trim translated) }

variable (u : Unicode)

def has_written_final_translation (display_index : Nat) (translated : Text) : Bool :=
  (substantive_translation_dedupe_key u translated).any fun key =>
    (display_index, key) ∈ ledger.written_final_translation_keys

def mark_final_translation_written (display_index : Nat) (translated : Text) : CueTranslationLedger F :=
  match substantive_translation_dedupe_key u translated with
  | some key =>
    { ledger with
      written_final_translation_keys := insert (display_index, key) ledger.written_final_translation_keys }
  | none => ledger

/-- The slot with the translation, or nothing where an older one does not replace it. -/
def apply_translation_to_slot (display_index : Nat) (translated : Text) (state : TranslationWriteState) :
    Option (CueTranslationLedger F) := do
  let slot ← ledger.display_slots[display_index]?
  if should_accept_translation slot.write_state state then
    some { ledger with
      display_slots := ledger.display_slots.set display_index { slot with
        translated
        pending := state.rank = .Partial ∨ state.rank = .Forced
        write_state := some state } }
  else none

/-- `TranslationResultWriter::write`. -/
def write (display_index : Nat) (translated : Text) (state : TranslationWriteState) : CueTranslationLedger F :=
  if ledger.display_slots.length ≤ display_index then ledger
  else if should_dedupe_written_translation state.rank ∧
      ledger.has_written_final_translation u display_index translated then ledger
  else
    match ledger.apply_translation_to_slot display_index translated state with
    | none => ledger
    | some next =>
      if should_dedupe_written_translation state.rank then
        next.mark_final_translation_written u display_index translated
      else next

/-- What the worker finds when an outcome comes: whether it is past its deadline, whether the cue is
there, and whether its translation was written before. -/
structure Arrival where
  expired : Bool
  cue_exists : Bool
  written : Bool

/-- A replacement settles its preview. -/
def settle (pending_id : Option String) : CueTranslationLedger F :=
  match pending_id with
  | some pending_id =>
    { ledger with
      completed_replacements := insert pending_id ledger.completed_replacements
      forced_pending := ledger.forced_pending.erase pending_id
      pending_display_by_id := ledger.pending_display_by_id.erase pending_id }
  | none => ledger

/-- The previews of other cues. -/
def retain_other_cues (cue_id : String) : AList (fun _ : String => String × Text) :=
  (ledger.forced_pending.entries.filter fun entry => entry.2.1 ≠ cue_id).foldr
    (fun entry kept => kept.insert entry.1 entry.2) ∅

/-- `handle_translation_outcome` of a translation that succeeded. -/
def handle_translation_outcome (job : TranslationJob) (translated : Text) (arrival : Arrival) :
    CueTranslationLedger F :=
  let rank := translation_rank job.result
  if arrival.expired ∨ job.cue_revision ≠ ledger.revision ∨ arrival.cue_exists = false then ledger
  else
    match normalized_nonempty_translation translated with
    | none => ledger
    | some translated =>
      if should_dedupe_written_translation rank ∧ arrival.written then ledger
      else
        let state : TranslationWriteState := ⟨rank, job.sequence⟩
        if job.result.is_replacement then
          let ledger := (ledger.settle job.result.pending_id).write u job.display_index translated state
          { ledger.cache_final_translation job.result.sentence translated with pending_display_index := none }
        else if job.result.is_forced then
          match job.result.pending_id with
          | some pending_id =>
            if pending_id ∈ ledger.completed_replacements then ledger
            else
              { ledger with
                forced_pending := ledger.forced_pending.insert pending_id (job.cue_id, translated)
                  }.write u job.display_index translated state
          | none => ledger
        else
          let ledger := { ledger with
            forced_pending := ledger.retain_other_cues job.cue_id
            pending_display_index := none }
          (ledger.write u job.display_index translated state).cache_final_translation job.result.sentence
            translated

end CueTranslationLedger

/-! ## The board -/

/-- The ledger, and the finished sentences of the revision in the order in which the splitter emitted
them, with the slots they were put on. -/
structure Board (F : Type) where
  ledger : CueTranslationLedger F
  placed : List (Text × Nat)

inductive Op where
  | feed (full_text : Text) (finality : HypothesisFinality) (now : Instant) (unix_ms : Nat)
    (cue_revision : Option Nat)
  | outcome (job : TranslationJob) (translated : Text) (arrival : CueTranslationLedger.Arrival)
  /-- A translation from the cache, of a text in the target language, or of a part. -/
  | write (display_index : Nat) (translated : Text) (state : TranslationWriteState)

namespace Board

def new (revision : Nat) : Board F := ⟨.new_for_revision revision, []⟩

def place (board : Board F) (result : SentenceResult) : Board F :=
  let (ledger, index) := board.ledger.ensure_display_slot result
  { ledger, placed := if result.is_forced then board.placed else board.placed ++ [(result.sentence, index)] }

/-- The board before the sentences of a feed are placed; a text that contradicts what was committed
starts another revision. -/
def enter (board : Board F) (splitter : SentenceSplitter F) (revision_reset : Bool)
    (cue_revision : Option Nat) : Board F :=
  if revision_reset then
    { ledger := { board.ledger with splitter }.sync_ledger_revision cue_revision, placed := [] }
  else { board with ledger := { board.ledger with splitter } }

/-- A feed that panics ends the worker, and the board stays as it is. -/
def step (g : Segmentation) (u : Unicode) (board : Board F) : Op → Board F
  | .feed full_text finality now unix_ms cue_revision =>
    match board.ledger.splitter.feed_internal g full_text (.Hypothesis finality) now unix_ms with
    | none => board
    | some (splitter, fed) =>
      run place (board.enter splitter fed.revision_reset cue_revision) fed.sentences
  | .outcome job translated arrival =>
    { board with ledger := board.ledger.handle_translation_outcome u job translated arrival }
  | .write display_index translated state =>
    { board with ledger := board.ledger.write u display_index translated state }

/-- The finished sentences stand on slots in their order, and each slot shows its sentence. -/
structure InOrder (board : Board F) : Prop where
  ascending : (board.placed.map Prod.snd).Pairwise (· < ·)
  shown : ∀ entry ∈ board.placed, (board.ledger.display_slots[entry.2]?).map (·.source) = some entry.1

/-- A slot that is reserved for the sentence holds no finished one, and for a finished sentence none
stands further on. -/
def Fits (board : Board F) (result : SentenceResult) : Prop :=
  ∀ index ∈ board.ledger.reserved result, ∀ entry ∈ board.placed,
    entry.2 ≠ index ∧ (result.is_forced = false → entry.2 < index)

/-- Every sentence of the feed fits when it is placed. -/
def Fitting (g : Segmentation) (board : Board F) : Op → Prop
  | .feed full_text finality now unix_ms cue_revision =>
    ∀ fed ∈ board.ledger.splitter.feed_internal g full_text (.Hypothesis finality) now unix_ms,
      Along place Fits (board.enter fed.1 fed.2.revision_reset cue_revision) fed.2.sentences
  | _ => True

end Board

end omni_translate.subtitle_slots

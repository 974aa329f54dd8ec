-- The ledger of the provider's responses (`audio/omni/response_ledger.rs`): which cue a
-- response belongs to. A lineage is found by an item, by a response, in the order of arrival
-- or by the cue that is being spoken.
import OmniTranslate.Runs
import OmniTranslate.Text

namespace omni_translate.response_ledger

open runs

def MAX_COMPLETED_RESPONSE_LINEAGES : Nat := 64

structure ResponseLineage where
  session_generation : Nat
  cue_id : String
  source_item_id : Option String
  translation_item_id : Option String
  response_id : Option String
  completed : Bool
deriving DecidableEq

structure ResponseLedger where
  session_generation : Nat
  lineages : List ResponseLineage
deriving DecidableEq

def is_blank (value : String) : Bool := text.trim value.toList = []

/-- A trimmed id that says something. -/
def normalized_id (value : Option String) : Option String :=
  (value.map fun value => String.ofList (text.trim value.toList)).filter fun value =>
    value ≠ "" ∧ value ≠ "(none)"

namespace ResponseLedger

def new : ResponseLedger := ⟨0, []⟩

variable (ledger : ResponseLedger)

def set_generation (session_generation : Nat) : ResponseLedger :=
  if ledger.session_generation ≠ session_generation then ⟨session_generation, []⟩ else ledger

def clear : ResponseLedger := { ledger with lineages := [] }

/-! ## Pruning -/

/-- The loop of `prune_completed_lineages`, which ends when there is nothing left to remove. -/
def prune_loop : Nat → List ResponseLineage → List ResponseLineage
  | 0, lineages => lineages
  | fuel + 1, lineages =>
    if lineages.countP (·.completed) > MAX_COMPLETED_RESPONSE_LINEAGES then
      prune_loop fuel (lineages.eraseP (·.completed))
    else lineages

def prune_completed_lineages : ResponseLedger :=
  { ledger with lineages := prune_loop ledger.lineages.length ledger.lineages }

/-! ## Sources -/

/-- The lineage has the cue, or the source. -/
def has_cue_or_source (cue_id : String) (source_item_id : Option String)
    (lineage : ResponseLineage) : Bool :=
  lineage.cue_id = cue_id ∨ (source_item_id.isSome ∧ lineage.source_item_id = source_item_id)

def record_source (cue_id : String) (source_item_id : Option String) : ResponseLedger :=
  let source_item_id := normalized_id source_item_id
  match ledger.lineages.findIdx? (has_cue_or_source cue_id source_item_id) with
  | some i =>
    { ledger with lineages := ledger.lineages.modify i fun lineage =>
        { lineage with
          cue_id := cue_id
          source_item_id := lineage.source_item_id.or source_item_id } }
  | none =>
    prune_completed_lineages { ledger with lineages := ledger.lineages ++
      [⟨ledger.session_generation, cue_id, source_item_id, none, none, false⟩] }

def is_unanswered_source (source_item_id : String) (lineage : ResponseLineage) : Bool :=
  lineage.source_item_id = some source_item_id ∧ lineage.response_id = none ∧ ¬ lineage.completed

/-- The ledger and the cues of the lineages that are removed. -/
def discard_unanswered_source (source_item_id : String) : ResponseLedger × List String :=
  ({ ledger with lineages := ledger.lineages.filter (!is_unanswered_source source_item_id ·) },
    (ledger.lineages.filter (is_unanswered_source source_item_id)).map (·.cue_id))

/-! ## Responses -/

/-- What a provider event says of a response, with its ids normalized. -/
structure ResponseIds where
  response_id : Option String
  source_item_id : Option String
  translation_item_id : Option String

namespace ResponseIds

variable (ids : ResponseIds)

def has_item_lineage : Bool := ids.source_item_id.isSome ∨ ids.translation_item_id.isSome

def is_response_only : Bool := ids.response_id.isSome ∧ ¬ ids.has_item_lineage

/-- An id of the event speaks against the lineage. -/
def conflicts (lineage : ResponseLineage) : Bool :=
  (ids.source_item_id.isSome ∧ lineage.source_item_id ≠ ids.source_item_id) ∨
    (ids.translation_item_id.isSome ∧ lineage.translation_item_id.isSome ∧
      lineage.translation_item_id ≠ ids.translation_item_id) ∨
    (ids.response_id.isSome ∧ lineage.response_id.isSome ∧ lineage.response_id ≠ ids.response_id)

/-- The lineage with the ids that it does not have yet. -/
def fill (lineage : ResponseLineage) : ResponseLineage :=
  { lineage with
    response_id := lineage.response_id.or ids.response_id
    source_item_id := lineage.source_item_id.or ids.source_item_id
    translation_item_id := lineage.translation_item_id.or ids.translation_item_id }

end ResponseIds

variable (ids : ResponseIds)

def item_index : Option Nat :=
  (ledger.lineages.findIdx? fun lineage =>
    ids.source_item_id.isSome ∧ lineage.source_item_id = ids.source_item_id).or
  (ledger.lineages.findIdx? fun lineage =>
    ids.translation_item_id.isSome ∧ lineage.translation_item_id = ids.translation_item_id)

def response_index : Option Nat :=
  ledger.lineages.findIdx? fun lineage =>
    ids.response_id.isSome ∧ lineage.response_id = ids.response_id

/-- The lineage that the ids name, if there is one. `none` is a refusal. -/
def exact_index : Option (Option Nat) :=
  let item_index := ledger.item_index ids
  let response_index := ledger.response_index ids
  if ids.has_item_lineage ∧ item_index.isNone ∧ response_index.isNone then none
  else if item_index.isSome ∧ response_index.isSome ∧ item_index ≠ response_index then none
  else
    match item_index.or response_index with
    | none => some none
    | some index =>
      match ledger.lineages[index]? with
      | none => none
      | some lineage => if ids.conflicts lineage then none else some (some index)

/-- A response that comes before its speech has stopped belongs to the cue that is being spoken. -/
def materialize (exact_index : Option Nat) (fallback_cue_id : Option String) : ResponseLedger :=
  if exact_index.isNone ∧ ids.is_response_only ∧ ¬ ledger.lineages.any (!·.completed) then
    match fallback_cue_id.filter (!is_blank ·) with
    | some cue_id => ledger.record_source cue_id none
    | none => ledger
  else ledger

def fifo_index : Option Nat := ledger.lineages.findIdx? (!·.completed)

def fallback_index (fallback_cue_id : Option String) : Option Nat :=
  ledger.lineages.findIdx? fun lineage =>
    ¬ lineage.completed ∧ fallback_cue_id.any (lineage.cue_id = ·)

def owner_index (exact_index : Option Nat) (fallback_cue_id : Option String) : Option Nat :=
  exact_index.or
    (if ids.is_response_only then ledger.fifo_index.or (ledger.fallback_index fallback_cue_id)
    else (ledger.fallback_index fallback_cue_id).or ledger.fifo_index)

/-- `bind_response` after its ids are normalized. -/
def bind_ids (fallback_cue_id : Option String) : ResponseLedger × Option ResponseLineage :=
  match ledger.exact_index ids with
  | none => (ledger, none)
  | some exact_index =>
    let ledger := ledger.materialize ids exact_index fallback_cue_id
    match ledger.owner_index ids exact_index fallback_cue_id with
    | none => (ledger, none)
    | some index =>
      match ledger.lineages[index]? with
      | none => (ledger, none)
      | some lineage =>
        ({ ledger with lineages := ledger.lineages.set index (ids.fill lineage) },
          some (ids.fill lineage))

def bind_response (response_id source_item_id translation_item_id fallback_cue_id : Option String) :
    ResponseLedger × Option ResponseLineage :=
  ledger.bind_ids ⟨normalized_id response_id, normalized_id source_item_id,
    normalized_id translation_item_id⟩ fallback_cue_id

def complete_response (response_id : Option String) : ResponseLedger :=
  let response_id := normalized_id response_id
  match ledger.lineages.findIdx? fun lineage =>
      response_id.isSome ∧ lineage.response_id = response_id with
  | some i =>
    prune_completed_lineages { ledger with
      lineages := ledger.lineages.modify i fun lineage => { lineage with completed := true } }
  | none => ledger.prune_completed_lineages

end ResponseLedger

inductive LedgerOp
  | set_generation (session_generation : Nat)
  | record_source (cue_id : String) (source_item_id : Option String)
  | discard_unanswered_source (source_item_id : String)
  | bind_response (response_id source_item_id translation_item_id fallback_cue_id : Option String)
  | complete_response (response_id : Option String)
  | clear

def step (ledger : ResponseLedger) : LedgerOp → ResponseLedger
  | .set_generation session_generation => ledger.set_generation session_generation
  | .record_source cue_id source_item_id => ledger.record_source cue_id source_item_id
  | .discard_unanswered_source source_item_id => (ledger.discard_unanswered_source source_item_id).1
  | .bind_response response_id source_item_id translation_item_id fallback_cue_id =>
    (ledger.bind_response response_id source_item_id translation_item_id fallback_cue_id).1
  | .complete_response response_id => ledger.complete_response response_id
  | .clear => ledger.clear

end omni_translate.response_ledger

-- The subtitle delta stream of `state/subtitle_delta.rs`, which sends the
-- changes of the subtitle window, and the index of `stores/app-store.ts`, which
-- applies them. The law says exactly when a dispatch leaves the index with the
-- window of the overlay.
import OmniTranslate.Runs
import OmniTranslate.Sentence
import OmniTranslate.TranslationLifecycle

namespace omni_translate.subtitle_delta

open runs
open sentence (Instant Duration from_millis)
open translation_lifecycle (SubtitleCue)

def SUBTITLE_BASELINE_LIMIT : Nat := 32
def SUBTITLE_WINDOW_LIMIT : Nat := 32
def AGGREGATE_EMIT_INTERVAL : Duration := from_millis 100

/-- The largest integer up to which the numbers of the index count exactly. -/
def MAX_SAFE_INTEGER : Nat := 2 ^ 53 - 1

/-- `wrapping_add(1).max(1)` of a `u64`. -/
def next_counter (n : Nat) : Nat := max ((n + 1) % 2 ^ 64) 1

/-- Cues by their id. A map is read by key only, so it is a function here. -/
abbrev CueMap := String → Option SubtitleCue

def by_id (cues : List SubtitleCue) : CueMap :=
  cues.foldl (fun m cue => Function.update m cue.cue_id (some cue)) (fun _ => none)

/-! ## The stream -/

inductive DeltaOperation
  | reset
  | remove
  | upsert
deriving DecidableEq

structure SubtitleDelta where
  stream_id : String
  generation : Nat
  seq : Nat
  operation : DeltaOperation
  cue : Option SubtitleCue

/-- The stream. `U` stands for the fingerprint of the urgent fields of an audio snapshot,
which the stream only compares. -/
structure SubtitleDeltaStream (U : Type) where
  stream_id : String
  generation : Nat
  seq : Nat
  known_cues : CueMap
  ordered_cue_ids : List String
  last_aggregate_emit_at : Option Instant
  last_urgent_fingerprint : Option U

structure SubtitleDispatchBatch where
  deltas : List SubtitleDelta
  emit_audio_snapshot : Bool
  emit_runtime_snapshot : Bool

variable {U : Type}

namespace SubtitleDeltaStream

def new (stream_id : String) : SubtitleDeltaStream U where
  stream_id := stream_id
  generation := 1
  seq := 0
  known_cues := fun _ => none
  ordered_cue_ids := []
  last_aggregate_emit_at := none
  last_urgent_fingerprint := none

def push_delta (operation : DeltaOperation)
    (acc : SubtitleDeltaStream U × List SubtitleDelta) (cue : Option SubtitleCue) :
    SubtitleDeltaStream U × List SubtitleDelta :=
  let s := { acc.1 with seq := next_counter acc.1.seq }
  (s, acc.2 ++ [⟨s.stream_id, s.generation, s.seq, operation, cue⟩])

variable (s : SubtitleDeltaStream U) (current_cues : List SubtitleCue)

/-- The known cues that left the window, oldest first. -/
def removed_cues : List SubtitleCue :=
  (s.ordered_cue_ids.reverse.filter fun cue_id => (by_id current_cues cue_id).isNone).filterMap
    s.known_cues

/-- The cues of the window that are new or changed, oldest first. -/
def changed_cues : List SubtitleCue :=
  current_cues.reverse.filter fun cue => s.known_cues cue.cue_id ≠ some cue

/-- The part of `prepare_dispatch` that pushes the deltas. -/
def push_deltas : SubtitleDeltaStream U × List SubtitleDelta :=
  if current_cues = [] ∧ s.ordered_cue_ids ≠ [] then
    push_delta .reset ({ s with generation := next_counter s.generation, seq := 0 }, []) none
  else
    let removed := (s.removed_cues current_cues).map some
    let changed := (s.changed_cues current_cues).map some
    changed.foldl (push_delta .upsert) (removed.foldl (push_delta .remove) (s, []))

def prepare_dispatch [DecidableEq U] (recent_cues : List SubtitleCue) (urgent_fingerprint : U)
    (now : Instant) : SubtitleDeltaStream U × SubtitleDispatchBatch :=
  let current_cues := recent_cues.take SUBTITLE_BASELINE_LIMIT
  let (s, deltas) := s.push_deltas current_cues
  let urgent_changed := s.last_urgent_fingerprint ≠ some urgent_fingerprint
  let aggregate_due := s.last_aggregate_emit_at.all fun last =>
    now - last ≥ AGGREGATE_EMIT_INTERVAL
  let emit_audio_snapshot := urgent_changed ∨ aggregate_due
  ({ s with
    known_cues := by_id current_cues
    ordered_cue_ids := current_cues.map (·.cue_id)
    last_aggregate_emit_at := if emit_audio_snapshot then some now else s.last_aggregate_emit_at
    last_urgent_fingerprint :=
      if urgent_changed then some urgent_fingerprint else s.last_urgent_fingerprint },
    ⟨deltas, emit_audio_snapshot, urgent_changed⟩)

end SubtitleDeltaStream

/-! ## The index of the renderer -/

structure SubtitleCueIndex where
  cueById : CueMap
  orderedCueIds : List String
  streamId : String
  generation : Nat
  seq : Nat

inductive SubtitleDeltaApplyResult
  | applied
  | ignored
  | resync
deriving DecidableEq

/-- The loop of `indexSubtitleBaseline`: of cues with one id the first stays. -/
def indexBaselineCues : List SubtitleCue → CueMap × List String → CueMap × List String
  | [], acc => acc
  | cue :: cues, (cueById, orderedCueIds) =>
    if (cueById cue.cue_id).isSome then indexBaselineCues cues (cueById, orderedCueIds)
    else indexBaselineCues cues
      (Function.update cueById cue.cue_id (some cue), orderedCueIds ++ [cue.cue_id])

def indexSubtitleBaseline (recentCues : List SubtitleCue) (streamId : String)
    (generation seq : Nat) : SubtitleCueIndex :=
  let (cueById, orderedCueIds) :=
    indexBaselineCues (recentCues.take SUBTITLE_WINDOW_LIMIT) (fun _ => none, [])
  ⟨cueById, orderedCueIds, streamId, generation, seq⟩

/-- The ids past the window limit leave the index. -/
def capWindow (cueById : CueMap) (orderedCueIds : List String) : CueMap × List String :=
  if orderedCueIds.length > SUBTITLE_WINDOW_LIMIT then
    ((orderedCueIds.drop SUBTITLE_WINDOW_LIMIT).foldl (fun m cueId => Function.update m cueId none)
      cueById, orderedCueIds.take SUBTITLE_WINDOW_LIMIT)
  else (cueById, orderedCueIds)

def isExpectedReset (current : SubtitleCueIndex) (delta : SubtitleDelta) : Bool :=
  delta.operation = .reset ∧ delta.generation = current.generation + 1 ∧ delta.seq = 1

def applySubtitleDeltaToIndex (current : SubtitleCueIndex) (delta : SubtitleDelta) :
    SubtitleDeltaApplyResult × SubtitleCueIndex :=
  if current.streamId = "" then (.resync, current)
  else if delta.stream_id ≠ current.streamId then (.resync, current)
  else if delta.generation ≠ current.generation ∧ ¬ isExpectedReset current delta then
    (.resync, current)
  else if ¬ isExpectedReset current delta ∧ delta.seq ≤ current.seq then (.ignored, current)
  else if ¬ isExpectedReset current delta ∧ delta.seq ≠ current.seq + 1 then (.resync, current)
  else if isExpectedReset current delta then
    (.applied, ⟨fun _ => none, [], delta.stream_id, delta.generation, delta.seq⟩)
  else
    match delta.cue with
    | none => (.resync, current)
    | some cue =>
      match delta.operation with
      | .reset => (.resync, current)
      | .remove =>
        if (current.cueById cue.cue_id).isNone then (.applied, { current with seq := delta.seq })
        else
          let (cueById, orderedCueIds) := capWindow
            (Function.update current.cueById cue.cue_id none)
            (current.orderedCueIds.filter (· ≠ cue.cue_id))
          (.applied, { current with cueById, orderedCueIds, seq := delta.seq })
      | .upsert =>
        let isNew := (current.cueById cue.cue_id).isNone
        let (cueById, orderedCueIds) := capWindow
          (Function.update current.cueById cue.cue_id (some cue))
          (if isNew then cue.cue_id :: current.orderedCueIds else current.orderedCueIds)
        (.applied, { current with cueById, orderedCueIds, seq := delta.seq })

/-- The index after deltas in order, and the result of each. -/
def applySubtitleDeltas : SubtitleCueIndex → List SubtitleDelta →
    List SubtitleDeltaApplyResult × SubtitleCueIndex
  | index, [] => ([], index)
  | index, delta :: deltas =>
    let (result, index) := applySubtitleDeltaToIndex index delta
    let (results, index) := applySubtitleDeltas index deltas
    (result :: results, index)

def indexedCues (index : SubtitleCueIndex) : List SubtitleCue :=
  index.orderedCueIds.filterMap index.cueById

end omni_translate.subtitle_delta

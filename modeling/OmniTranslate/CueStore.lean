-- The subtitle cues of the audio state, from `state.rs`, `state/source_publish.rs`,
-- `state/report_publish.rs`, `state/source_finality.rs`, `state/cue_lifecycle.rs` and
-- `state/ignored_fragment.rs`: the newest cue stands twice, as the active cue and at the front
-- of the recent ones, and which sources the provider has finished is kept apart from both.
import OmniTranslate.TranslationLifecycle
import OmniTranslate.Sentence
import OmniTranslate.Runs
import Mathlib.Data.Finset.Basic

namespace omni_translate.cue_store

open text sentence translation_lifecycle

/-! ## The stores -/

structure SubtitleOverlay where
  active_cue : Option SubtitleCue
  recent_cues : List SubtitleCue
  queue_depth : Nat
  dropped_cue_count : Nat
deriving DecidableEq

def SubtitleOverlay.empty : SubtitleOverlay where
  active_cue := none
  recent_cues := []
  queue_depth := 0
  dropped_cue_count := 0

structure SourceFinalityStore where
  cue_ids : Finset String
deriving DecidableEq

namespace SourceFinalityStore

variable (store : SourceFinalityStore)

def set (cue_id : String) (is_final : Bool) : SourceFinalityStore :=
  if is_final then ⟨insert cue_id store.cue_ids⟩ else ⟨store.cue_ids.erase cue_id⟩

def insert (cue_id : String) : SourceFinalityStore :=
  store.set cue_id true

def remove (cue_id : String) : SourceFinalityStore :=
  store.set cue_id false

def clear : SourceFinalityStore := ⟨∅⟩

def contains (cue_id : String) : Bool := cue_id ∈ store.cue_ids

end SourceFinalityStore

structure AudioStateStore where
  subtitles : SubtitleOverlay
  source_final_cues : SourceFinalityStore
  subtitle_sequence : Nat
deriving DecidableEq

def AudioStateStore.new : AudioStateStore where
  subtitles := SubtitleOverlay.empty
  source_final_cues := SourceFinalityStore.clear
  subtitle_sequence := 0

variable (s : AudioStateStore)

/-- The counter is a `u64` that wraps around. -/
def next_subtitle_sequence : Nat := (s.subtitle_sequence + 1) % 2 ^ 64

def subtitle_source_is_final (cue_id : String) : Bool :=
  s.source_final_cues.contains cue_id

/-- The finality with which `process_translation_cues` feeds the source of a cue to its
splitter. -/
def fed_finality (cue_id : String) : HypothesisFinality :=
  if subtitle_source_is_final s cue_id then .ProviderFinal else .Partial

/-! ## Eviction -/

def MAX_UNFINISHED_SUBTITLE_CUES : Nat := 18

def cue_needs_more_time (cue : SubtitleCue) : Bool :=
  if !cue.committed || !(cue.translation_state = some .Final ∨ cue.translation_state = some .Error)
  then true
  else
    let block_layout := cue.display_segments.any fun segment =>
      trim segment.source_text = [] && trim segment.translated_text ≠ []
    !block_layout && cue.display_segments.any fun segment =>
      trim segment.source_text ≠ [] && trim segment.translated_text = []

/-- The cues without the last one that needs more time. -/
def remove_last_unfinished (cues : List SubtitleCue) : List SubtitleCue :=
  (cues.reverse.eraseP cue_needs_more_time).reverse

/-- The loop of `trim_recent_subtitle_cues`, with the turns it has left. -/
def evict : Nat → SubtitleOverlay → SubtitleOverlay
  | 0, overlay => overlay
  | turns + 1, overlay =>
    if overlay.recent_cues.any cue_needs_more_time then
      evict turns
        { overlay with
          recent_cues := remove_last_unfinished overlay.recent_cues
          dropped_cue_count := overlay.dropped_cue_count + 1 }
    else overlay

variable (overlay : SubtitleOverlay)

def trim_recent_subtitle_cues : SubtitleOverlay :=
  let unfinished_count := overlay.recent_cues.countP cue_needs_more_time
  let trimmed := evict (unfinished_count - MAX_UNFINISHED_SUBTITLE_CUES) overlay
  { trimmed with queue_depth := trimmed.recent_cues.length }

/-! ## The cues by their ids -/

/-- The loops over `recent_cues` that change the first cue with an id and break. -/
def update_first (cue_id : String) (f : SubtitleCue → SubtitleCue) :
    List SubtitleCue → List SubtitleCue
  | [] => []
  | cue :: cues => if cue.cue_id = cue_id then f cue :: cues else cue :: update_first cue_id f cues

def update_active (cue_id : String) (f : SubtitleCue → SubtitleCue) (active : Option SubtitleCue) :
    Option SubtitleCue :=
  active.map fun cue => if cue.cue_id = cue_id then f cue else cue

def find_cue (cue_id : String) (cues : List SubtitleCue) : Option SubtitleCue :=
  cues.find? (·.cue_id = cue_id)

def push_front (cue : SubtitleCue) : SubtitleOverlay :=
  trim_recent_subtitle_cues
    { overlay with active_cue := some cue, recent_cues := cue :: overlay.recent_cues }

/-- `retain` on the recent cues, and the active cue goes if it is one of those that go. -/
def retain (p : SubtitleCue → Bool) : SubtitleOverlay :=
  trim_recent_subtitle_cues
    { overlay with
      recent_cues := overlay.recent_cues.filter p
      active_cue := overlay.active_cue.filter p }

/-! ## Source updates -/

def normalized_translation_state (cue : SubtitleCue) : SubtitleTranslationState :=
  cue.translation_state.getD
    (if cue.translation_committed then .Final
      else if trim cue.translated_text = [] then .Pending
      else .Streaming)

/-- The cue that `push_subtitle_cue` puts into the overlay. -/
def normalized_cue (cue : SubtitleCue) (sequence : Nat) : SubtitleCue :=
  let cue : SubtitleCue :=
    { cue with
      revision := some (cue.revision.getD 1)
      sequence := some (cue.sequence.getD sequence)
      translation_state := some (normalized_translation_state cue)
      translation_committed := normalized_translation_state cue = .Final }
  if cue.committed then finalize_cue_display_segments cue else cue

def push_subtitle_cue (cue : SubtitleCue) : AudioStateStore :=
  let sequence := next_subtitle_sequence s
  { subtitles := push_front s.subtitles (normalized_cue cue sequence)
    source_final_cues := s.source_final_cues.set cue.cue_id cue.committed
    subtitle_sequence := sequence }

/-- What `update_or_push_stt_cue` does to the active cue: the guard of the entry in
`recent_cues`, the other way round. -/
def update_active_stt_cue (active : SubtitleCue) (source_text : Text) (committed : Bool)
    (sequence : Nat) : SubtitleCue :=
  if ¬ active.committed ∨ committed ∨ source_text = [] ∨
      len source_text ≥ len active.source_text then
    let active := apply_source_update active source_text committed sequence
    if committed then finalize_cue_display_segments active else active
  else active

def update_or_push_stt_cue (s : AudioStateStore) (cue_id : String) (source_text : Text)
    (committed : Bool) (now : Nat) : AudioStateStore :=
  let source_final_cues := s.source_final_cues.set cue_id committed
  let sequence := next_subtitle_sequence s
  let updated (cue : Option SubtitleCue) :=
    translation_lifecycle.update_or_push_stt_cue cue cue_id source_text committed sequence now
  let subtitles :=
    if s.subtitles.recent_cues.any (·.cue_id = cue_id) then
      { s.subtitles with
        recent_cues := update_first cue_id (fun cue => updated (some cue)) s.subtitles.recent_cues
        active_cue := update_active cue_id
          (update_active_stt_cue · source_text committed sequence) s.subtitles.active_cue }
    else push_front s.subtitles (updated none)
  { subtitles, source_final_cues, subtitle_sequence := sequence }

/-- The two copies of the cue are ended by a reading of the clock each, `now` and `later`. -/
def commit_stt_cue (s : AudioStateStore) (cue_id : String) (source_text : Text)
    (direction : String) (now later : Nat) : AudioStateStore :=
  let source_final_cues := s.source_final_cues.insert cue_id
  let sequence := next_subtitle_sequence s
  let committed (unix_ms : Nat) (cue : Option SubtitleCue) :=
    translation_lifecycle.commit_stt_cue cue cue_id direction source_text sequence unix_ms
  let subtitles :=
    if s.subtitles.recent_cues.any (·.cue_id = cue_id) then
      { s.subtitles with
        recent_cues :=
          update_first cue_id (fun cue => committed now (some cue)) s.subtitles.recent_cues
        active_cue :=
          update_active cue_id (fun cue => committed later (some cue)) s.subtitles.active_cue }
    else push_front s.subtitles (committed now none)
  { subtitles, source_final_cues, subtitle_sequence := sequence }

/-! ## Translation updates -/

/-- The part that the translation and the display updates share: an update of the first cue with
the id, and of the active one if the first took it. -/
def publish (cue_id : String) (update : SubtitleCue → SubtitleCue × Bool) : SubtitleOverlay × Bool :=
  let accepted := (find_cue cue_id overlay.recent_cues).any fun cue => (update cue).2
  let recent_cues := update_first cue_id (fun cue => (update cue).1) overlay.recent_cues
  if accepted then
    ({ overlay with
      recent_cues := recent_cues
      active_cue := update_active cue_id (fun cue => (update cue).1) overlay.active_cue }, true)
  else ({ overlay with recent_cues := recent_cues }, false)

/-- A final translation or an error ends the cue, in `recent_cues` only. -/
def apply_subtitle_cue_translation (cue_id : String) (expected_revision : Option Nat)
    (translated_text : Text) (state : SubtitleTranslationState) (now : Nat) : AudioStateStore × Bool :=
  let sequence := next_subtitle_sequence s
  let mutation : TranslationMutation := { expected_revision, sequence, translated_text, state }
  let published := publish s.subtitles cue_id (apply_translation_update · mutation)
  let ended : SubtitleOverlay :=
    if published.2 ∧ (state = .Final ∨ state = .Error) then
      { published.1 with
        recent_cues := update_first cue_id (fun cue => { cue with ended_at := now })
          published.1.recent_cues }
    else published.1
  ({ s with subtitles := ended, subtitle_sequence := sequence }, published.2)

def update_subtitle_cue_translation (cue_id : String) (translated_text : Text) (committed : Bool)
    (now : Nat) : AudioStateStore :=
  (apply_subtitle_cue_translation s cue_id none translated_text
    (if committed then .Final else .Streaming) now).1

def update_subtitle_cue_translation_for_revision (cue_id : String) (expected_revision : Nat)
    (translated_text : Text) (state : SubtitleTranslationState) (now : Nat) : AudioStateStore × Bool :=
  apply_subtitle_cue_translation s cue_id (some expected_revision) translated_text state now

def mark_subtitle_translation_error (cue_id : String) (expected_revision : Nat) (message : Text)
    (now : Nat) : AudioStateStore × Bool :=
  update_subtitle_cue_translation_for_revision s cue_id expected_revision message .Error now

def mark_current_subtitle_translation_error (cue_id : String) (message : Text) (now : Nat) : AudioStateStore × Bool :=
  apply_subtitle_cue_translation s cue_id none message .Error now

def update_subtitle_cue_display_segments_for_revision (cue_id : String) (expected_revision : Nat)
    (display_source_text : Text) (display_segments : List SubtitleDisplaySegment)
    (translated_text : Text) (state : SubtitleTranslationState) : AudioStateStore × Bool :=
  let sequence := next_subtitle_sequence s
  let mutation : TranslationMutation :=
    { expected_revision := some expected_revision, sequence, translated_text, state }
  let published := publish s.subtitles cue_id
    (apply_display_update · mutation display_source_text display_segments)
  ({ s with subtitles := published.1, subtitle_sequence := sequence }, published.2)

/-- The revision is read from a snapshot, before the update. If an operation comes in between, what
follows is an update for a revision like any other. -/
def update_subtitle_cue_display_segments (cue_id : String) (display_source_text : Text)
    (display_segments : List SubtitleDisplaySegment) (translated_text : Text) (committed : Bool) : AudioStateStore :=
  match find_cue cue_id s.subtitles.recent_cues with
  | none => s
  | some cue =>
    (update_subtitle_cue_display_segments_for_revision s cue_id (cue_revision cue)
      display_source_text display_segments translated_text
      (if committed then .Final
        else if trim translated_text = [] then .Pending
        else .Streaming)).1

def commit_subtitle_cue (cue_id : String) (now later : Nat) : AudioStateStore :=
  let sequence := next_subtitle_sequence s
  { s with
    subtitles :=
      { s.subtitles with
        recent_cues := update_first cue_id (commit_cue · sequence now) s.subtitles.recent_cues
        active_cue := update_active cue_id (commit_cue · sequence later) s.subtitles.active_cue }
    subtitle_sequence := sequence }

/-! ## Removal -/

def clear_subtitle_cues : AudioStateStore :=
  { s with subtitles := SubtitleOverlay.empty, source_final_cues := SourceFinalityStore.clear }

def discard_uncommitted_subtitle_cues : AudioStateStore :=
  { s with subtitles := retain s.subtitles (·.committed) }

def discard_uncommitted_subtitle_cues_by_direction (route_direction : String) : AudioStateStore :=
  { s with
    subtitles := retain s.subtitles fun cue =>
      cue.committed || cue.route_direction ≠ route_direction }

def discard_uncommitted_subtitle_cue (cue_id : String) : AudioStateStore :=
  { s with
    subtitles := retain s.subtitles fun cue => cue.cue_id ≠ cue_id || cue.committed
    source_final_cues := s.source_final_cues.remove cue_id }

def discard_ignored_provider_cue (s : AudioStateStore) (cue_id : String) : AudioStateStore :=
  { s with
    subtitles := retain s.subtitles (·.cue_id ≠ cue_id)
    source_final_cues := s.source_final_cues.remove cue_id }

/-! ## Runs -/

inductive CueOp
  | push_subtitle_cue (cue : SubtitleCue)
  | update_or_push_stt_cue (cue_id : String) (source_text : Text) (committed : Bool) (now : Nat)
  | commit_stt_cue (cue_id : String) (source_text : Text) (direction : String) (now later : Nat)
  | update_subtitle_cue_translation (cue_id : String) (translated_text : Text) (committed : Bool)
      (now : Nat)
  | update_subtitle_cue_translation_for_revision (cue_id : String) (expected_revision : Nat)
      (translated_text : Text) (state : SubtitleTranslationState) (now : Nat)
  | mark_subtitle_translation_error (cue_id : String) (expected_revision : Nat) (message : Text)
      (now : Nat)
  | mark_current_subtitle_translation_error (cue_id : String) (message : Text) (now : Nat)
  | update_subtitle_cue_display_segments (cue_id : String) (display_source_text : Text)
      (display_segments : List SubtitleDisplaySegment) (translated_text : Text) (committed : Bool)
  | update_subtitle_cue_display_segments_for_revision (cue_id : String) (expected_revision : Nat)
      (display_source_text : Text) (display_segments : List SubtitleDisplaySegment)
      (translated_text : Text) (state : SubtitleTranslationState)
  | commit_subtitle_cue (cue_id : String) (now later : Nat)
  | clear_subtitle_cues
  | discard_uncommitted_subtitle_cues
  | discard_uncommitted_subtitle_cues_by_direction (route_direction : String)
  | discard_uncommitted_subtitle_cue (cue_id : String)
  | discard_ignored_provider_cue (cue_id : String)

def step : CueOp → AudioStateStore
  | .push_subtitle_cue cue => push_subtitle_cue s cue
  | .update_or_push_stt_cue cue_id source_text committed now =>
    update_or_push_stt_cue s cue_id source_text committed now
  | .commit_stt_cue cue_id source_text direction now later =>
    commit_stt_cue s cue_id source_text direction now later
  | .update_subtitle_cue_translation cue_id translated_text committed now =>
    update_subtitle_cue_translation s cue_id translated_text committed now
  | .update_subtitle_cue_translation_for_revision cue_id expected_revision translated_text state
      now =>
    (update_subtitle_cue_translation_for_revision s cue_id expected_revision translated_text state
      now).1
  | .mark_subtitle_translation_error cue_id expected_revision message now =>
    (mark_subtitle_translation_error s cue_id expected_revision message now).1
  | .mark_current_subtitle_translation_error cue_id message now =>
    (mark_current_subtitle_translation_error s cue_id message now).1
  | .update_subtitle_cue_display_segments cue_id display_source_text display_segments
      translated_text committed =>
    update_subtitle_cue_display_segments s cue_id display_source_text display_segments
      translated_text committed
  | .update_subtitle_cue_display_segments_for_revision cue_id expected_revision
      display_source_text display_segments translated_text state =>
    (update_subtitle_cue_display_segments_for_revision s cue_id expected_revision
      display_source_text display_segments translated_text state).1
  | .commit_subtitle_cue cue_id now later => commit_subtitle_cue s cue_id now later
  | .clear_subtitle_cues => clear_subtitle_cues s
  | .discard_uncommitted_subtitle_cues => discard_uncommitted_subtitle_cues s
  | .discard_uncommitted_subtitle_cues_by_direction route_direction =>
    discard_uncommitted_subtitle_cues_by_direction s route_direction
  | .discard_uncommitted_subtitle_cue cue_id => discard_uncommitted_subtitle_cue s cue_id
  | .discard_ignored_provider_cue cue_id => discard_ignored_provider_cue s cue_id

def reached (ops : List CueOp) : AudioStateStore := runs.run step AudioStateStore.new ops

end omni_translate.cue_store

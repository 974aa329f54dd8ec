-- A subtitle cue and the updates it takes, from `state/translation_lifecycle.rs`,
-- `state/source_publish.rs`, `state/report_publish.rs` and
-- `state/cue_lifecycle.rs`: source updates advance its revision, translation
-- updates must name it.
import OmniTranslate.Text

namespace omni_translate.translation_lifecycle

open text

def U64_MAX : Nat := 2 ^ 64 - 1

/-- `saturating_add(1)` of a `u64`. -/
def saturating_succ (n : Nat) : Nat := if n < U64_MAX then n + 1 else n

inductive SubtitleTranslationState
  | Pending
  | Streaming
  | Final
  | Error
  | Superseded
deriving DecidableEq

structure SubtitleDisplaySegment where
  source_text : Text
  translated_text : Text
  pending : Bool
deriving DecidableEq

structure SubtitleCue where
  cue_id : String
  revision : Option Nat
  sequence : Option Nat
  route_direction : String
  source_text : Text
  display_source_text : Text
  display_segments : List SubtitleDisplaySegment
  translated_text : Text
  started_at : Nat
  ended_at : Nat
  committed : Bool
  translation_committed : Bool
  translation_state : Option SubtitleTranslationState
deriving DecidableEq

variable (cue : SubtitleCue)

def cue_revision : Nat := cue.revision.getD 1

def new_subtitle_cue (cue_id route_direction : String) (source_text : Text) (committed : Bool)
    (sequence unix_ms : Nat) : SubtitleCue where
  cue_id := cue_id
  revision := some 1
  sequence := some sequence
  route_direction := route_direction
  source_text := source_text
  display_source_text := []
  display_segments := []
  translated_text := []
  started_at := unix_ms
  ended_at := unix_ms
  committed := committed
  translation_committed := false
  translation_state := some .Pending

def finalize_cue_display_segments : SubtitleCue :=
  { cue with
    display_segments := cue.display_segments.map fun segment => { segment with pending := false } }

/-! ## Source updates -/

def comparison_text (text : Text) : Text := text.filter (!is_whitespace ·)

def source_replaces_revision (previous incoming : Text) : Bool :=
  let previous := comparison_text previous
  let incoming := comparison_text incoming
  previous ≠ [] ∧ previous ≠ incoming ∧ ¬ previous <+: incoming

def apply_source_update (source_text : Text) (committed : Bool) (sequence : Nat) : SubtitleCue :=
  let source_changed := cue.source_text ≠ source_text
  let semantic_source_changed := comparison_text cue.source_text ≠ comparison_text source_text
  let opened : SubtitleCue :=
    { cue with translation_committed := false, translation_state := some .Pending }
  let updated :=
    if semantic_source_changed ∧ source_replaces_revision cue.source_text source_text then
      { opened with revision := some (saturating_succ (cue_revision cue)) }
    else if semantic_source_changed then opened
    else cue
  { updated with
    sequence := if source_changed ∨ cue.committed ≠ committed then some sequence
      else cue.sequence
    source_text := source_text
    committed := committed }

def route_direction_from_cue_id (cue_id : String) : String :=
  if (find "outbound".toList cue_id.toList).isSome then "outbound" else "inbound"

/-- `update_or_push_stt_cue`, on the entry of the cue in `recent_cues`. A shorter partial text
does not undo a committed one. -/
def update_or_push_stt_cue (cue : Option SubtitleCue) (cue_id : String) (source_text : Text)
    (committed : Bool) (sequence unix_ms : Nat) : SubtitleCue :=
  match cue with
  | none =>
    new_subtitle_cue cue_id (route_direction_from_cue_id cue_id) source_text committed sequence
      unix_ms
  | some cue =>
    if cue.committed ∧ ¬ committed ∧ source_text ≠ [] ∧ len source_text < len cue.source_text then
      cue
    else
      let cue := apply_source_update cue source_text committed sequence
      if committed then finalize_cue_display_segments cue else cue

/-- `commit_stt_cue`, on the entry of the cue in `recent_cues`. -/
def commit_stt_cue (cue : Option SubtitleCue) (cue_id direction : String) (source_text : Text)
    (sequence unix_ms : Nat) : SubtitleCue :=
  match cue with
  | none => new_subtitle_cue cue_id direction source_text true sequence unix_ms
  | some cue =>
    { finalize_cue_display_segments (apply_source_update cue source_text true sequence) with
      ended_at := unix_ms }

/-! ## Translation updates -/

def transition_allowed (current : Option SubtitleTranslationState)
    (incoming : SubtitleTranslationState) : Bool :=
  match current.getD .Pending with
  | .Pending => true
  | .Streaming => incoming ≠ .Pending
  | .Final | .Error | .Superseded => false

structure TranslationMutation where
  expected_revision : Option Nat
  sequence : Nat
  translated_text : Text
  state : SubtitleTranslationState

def translation_update_allowed (mutation : TranslationMutation) : Bool :=
  !mutation.expected_revision.any (· ≠ cue_revision cue) &&
    transition_allowed cue.translation_state mutation.state

/-- The cue after a translation update, and whether the update was taken. -/
def apply_translation_update (mutation : TranslationMutation) : SubtitleCue × Bool :=
  if !translation_update_allowed cue mutation then (cue, false)
  else if cue.translation_state = some mutation.state ∧
      cue.translated_text = mutation.translated_text then (cue, false)
  else
    let cue : SubtitleCue :=
      { cue with
        translated_text := mutation.translated_text
        sequence := some mutation.sequence
        translation_state := some mutation.state
        translation_committed := mutation.state = .Final }
    if mutation.state = .Final ∨ mutation.state = .Error then
      (finalize_cue_display_segments cue, true)
    else (cue, true)

def apply_display_update (mutation : TranslationMutation) (display_source_text : Text)
    (display_segments : List SubtitleDisplaySegment) : SubtitleCue × Bool :=
  if !translation_update_allowed cue mutation then (cue, false)
  else
    let (updated, translation_changed) := apply_translation_update cue mutation
    let display_changed := updated.display_source_text ≠ display_source_text ∨
      updated.display_segments ≠ display_segments
    if ¬ translation_changed ∧ ¬ display_changed then (updated, false)
    else
      ({ updated with
        display_source_text := display_source_text
        display_segments := display_segments
        sequence := some mutation.sequence }, true)

/-- The commit of a cue that `commit_subtitle_cue` makes. -/
def commit_cue (sequence unix_ms : Nat) : SubtitleCue :=
  let translated : SubtitleCue :=
    if trim cue.translated_text ≠ [] ∧ cue.translation_state ≠ some .Error then
      { cue with translation_committed := true, translation_state := some .Final }
    else cue
  { finalize_cue_display_segments { translated with committed := true, sequence := some sequence }
    with ended_at := unix_ms }

/-! ## What the updates keep -/

/-- The source of a cue: what only source updates change. -/
def source_of : Option Nat × Text := (cue.revision, cue.source_text)

variable (cue : SubtitleCue)

theorem source_of_translation_update (mutation : TranslationMutation) :
    source_of (apply_translation_update cue mutation).1 = source_of cue := by
  unfold apply_translation_update
  split
  · rfl
  · split
    · rfl
    · split <;> rfl

theorem source_of_display_update (mutation : TranslationMutation) (display_source_text : Text)
    (display_segments : List SubtitleDisplaySegment) :
    source_of (apply_display_update cue mutation display_source_text display_segments).1 =
      source_of cue := by
  have h := source_of_translation_update cue mutation
  unfold apply_display_update
  split
  · rfl
  · simp only
    split
    · exact h
    · exact h

theorem source_of_commit (sequence unix_ms : Nat) :
    source_of (commit_cue cue sequence unix_ms) = source_of cue := by
  unfold commit_cue
  split <;> rfl

theorem saturating_succ_ne {n : Nat} (h : saturating_succ n ≠ n) : n < saturating_succ n := by
  unfold saturating_succ at h ⊢
  split
  · omega
  · rename_i hn
    exact absurd (if_neg hn) h

/-- A source update leaves the revision or advances it. -/
theorem apply_source_update_revision (source_text : Text) (committed : Bool) (sequence : Nat) :
    (apply_source_update cue source_text committed sequence).revision = cue.revision ∨
      (apply_source_update cue source_text committed sequence).revision =
        some (saturating_succ (cue_revision cue)) := by
  unfold apply_source_update
  simp only
  split
  · exact Or.inr rfl
  · split
    · exact Or.inl rfl
    · exact Or.inl rfl

/-- A published cue has a revision, and it is that of the cue before or a later one. -/
structure Advances (old : Option SubtitleCue) (cue : SubtitleCue) : Prop where
  revised : cue.revision.isSome = true
  later : ∀ c, old = some c → cue_revision c = cue_revision cue ∨ cue_revision c < cue_revision cue

theorem advances_new (cue_id direction : String) (source_text : Text) (committed : Bool)
    (sequence unix_ms : Nat) :
    Advances none (new_subtitle_cue cue_id direction source_text committed sequence unix_ms) :=
  ⟨rfl, by simp⟩

theorem advances_source_update {cue : SubtitleCue} (h : cue.revision.isSome = true)
    (source_text : Text) (committed : Bool) (sequence : Nat) :
    Advances (some cue) (apply_source_update cue source_text committed sequence) := by
  rcases apply_source_update_revision cue source_text committed sequence with hr | hr
  · refine ⟨by rw [hr]; exact h, ?_⟩
    simp [cue_revision, hr]
  · refine ⟨by rw [hr]; rfl, ?_⟩
    rintro c ⟨⟩
    have hnew : cue_revision (apply_source_update cue source_text committed sequence) =
        saturating_succ (cue_revision cue) := by
      rw [cue_revision, hr]
      rfl
    rw [hnew]
    by_cases hsat : saturating_succ (cue_revision cue) = cue_revision cue
    · exact Or.inl hsat.symm
    · exact Or.inr (saturating_succ_ne hsat)

theorem advances_update_or_push {old : Option SubtitleCue}
    (h : ∀ cue, old = some cue → cue.revision.isSome = true) (cue_id : String)
    (source_text : Text) (committed : Bool) (sequence unix_ms : Nat) :
    Advances old (update_or_push_stt_cue old cue_id source_text committed sequence unix_ms) := by
  unfold update_or_push_stt_cue
  cases old with
  | none => exact advances_new _ _ _ _ _ _
  | some cue =>
    have hupdate := advances_source_update (h cue rfl) source_text committed sequence
    simp only
    split
    · refine ⟨h cue rfl, ?_⟩
      rintro c ⟨⟩
      exact Or.inl rfl
    · split
      · exact ⟨hupdate.revised, hupdate.later⟩
      · exact hupdate

theorem advances_commit {old : Option SubtitleCue}
    (h : ∀ cue, old = some cue → cue.revision.isSome = true) (cue_id direction : String)
    (source_text : Text) (sequence unix_ms : Nat) :
    Advances old (commit_stt_cue old cue_id direction source_text sequence unix_ms) := by
  cases old with
  | none => exact advances_new _ _ _ _ _ _
  | some cue =>
    have hupdate := advances_source_update (h cue rfl) source_text true sequence
    exact ⟨hupdate.revised, hupdate.later⟩

/-- An update that names the revision of the cue is never refused as stale. -/
theorem allowed_of_revision {cue : SubtitleCue} {mutation : TranslationMutation}
    (h : mutation.expected_revision = some (cue_revision cue)) :
    translation_update_allowed cue mutation =
      transition_allowed cue.translation_state mutation.state := by
  simp [translation_update_allowed, h]

end omni_translate.translation_lifecycle

-- What the operations of the cue store do to one cue. Each update keeps the contract of the cue: its
-- revision, its translation and whom it listens to. Copies of a cue that differ in the time they end
-- only become copies again.
import OmniTranslate.CueStore
import OmniTranslate.Descent

namespace omni_translate.cue_store

open text sentence translation_lifecycle descent

/-! ## Eviction -/

theorem remove_last_unfinished_sublist (cues : List SubtitleCue) :
    (remove_last_unfinished cues).Sublist cues := by
  have h : (cues.reverse.eraseP cue_needs_more_time).Sublist cues.reverse := List.eraseP_sublist
  simpa [remove_last_unfinished] using h.reverse

variable {cues : List SubtitleCue} (cue : SubtitleCue)

theorem remove_last_unfinished_cons (h : 0 < cues.countP cue_needs_more_time) :
    remove_last_unfinished (cue :: cues) = cue :: remove_last_unfinished cues := by
  obtain ⟨c, hc, hneeds⟩ := List.countP_pos_iff.mp h
  have hmem : c ∈ cues.reverse := List.mem_reverse.mpr hc
  simp [remove_last_unfinished, List.eraseP_append_left hneeds _ hmem]

theorem countP_eraseP (p : SubtitleCue → Bool) (cues : List SubtitleCue) :
    (cues.eraseP p).countP p = cues.countP p - 1 := by
  induction cues with
  | nil => rfl
  | cons cue cues ih =>
    by_cases hp : p cue = true
    · simp [List.eraseP_cons_of_pos hp, hp]
    · simp [List.eraseP_cons_of_neg hp, hp, ih]

theorem countP_remove_last_unfinished (cues : List SubtitleCue) :
    (remove_last_unfinished cues).countP cue_needs_more_time =
      cues.countP cue_needs_more_time - 1 := by
  simp [remove_last_unfinished, List.countP_reverse, countP_eraseP]

theorem evict_sublist (turns : Nat) (overlay : SubtitleOverlay) :
    (evict turns overlay).recent_cues.Sublist overlay.recent_cues := by
  induction turns generalizing overlay with
  | zero => exact List.Sublist.refl _
  | succ turns ih =>
    unfold evict
    split
    · exact (ih _).trans (remove_last_unfinished_sublist _)
    · exact List.Sublist.refl _

theorem evict_active (turns : Nat) (overlay : SubtitleOverlay) :
    (evict turns overlay).active_cue = overlay.active_cue := by
  induction turns generalizing overlay with
  | zero => rfl
  | succ turns ih =>
    unfold evict
    split
    · exact ih _
    · rfl

variable {overlay : SubtitleOverlay}

theorem evict_front (turns : Nat) {cue : SubtitleCue} (hcues : overlay.recent_cues = cue :: cues)
    (h : turns ≤ overlay.recent_cues.countP cue_needs_more_time - 1) :
    ∃ rest, (evict turns overlay).recent_cues = cue :: rest := by
  induction turns generalizing overlay cues with
  | zero => exact ⟨cues, hcues⟩
  | succ turns ih =>
    have hrest : 0 < cues.countP cue_needs_more_time := by
      rw [hcues, List.countP_cons] at h
      split at h <;> omega
    unfold evict
    split
    · have hfront : remove_last_unfinished overlay.recent_cues =
          cue :: remove_last_unfinished cues := by
        rw [hcues]
        exact remove_last_unfinished_cons cue hrest
      apply ih hfront
      simp only [countP_remove_last_unfinished]
      omega
    · exact ⟨cues, hcues⟩

theorem trim_sublist (overlay : SubtitleOverlay) :
    (trim_recent_subtitle_cues overlay).recent_cues.Sublist overlay.recent_cues :=
  evict_sublist _ _

@[simp] theorem trim_active (overlay : SubtitleOverlay) :
    (trim_recent_subtitle_cues overlay).active_cue = overlay.active_cue :=
  evict_active _ _

theorem trim_front {cue : SubtitleCue} (h : overlay.recent_cues = cue :: cues) :
    ∃ rest, (trim_recent_subtitle_cues overlay).recent_cues = cue :: rest := by
  apply evict_front _ h
  unfold MAX_UNFINISHED_SUBTITLE_CUES
  omega

theorem push_front_recent (overlay : SubtitleOverlay) (cue : SubtitleCue) :
    ∃ rest, (push_front overlay cue).recent_cues = cue :: rest := by
  apply trim_front
  rfl

theorem retain_recent {cue : SubtitleCue} {p : SubtitleCue → Bool}
    (h : overlay.recent_cues = cue :: cues) (hp : p cue = true) :
    ∃ rest, (retain overlay p).recent_cues = cue :: rest := by
  apply trim_front
  simp only [h]
  exact List.filter_cons_of_pos hp

/-! ## The cues by their ids -/

theorem find_cue_cons_self (cues : List SubtitleCue) :
    find_cue cue.cue_id (cue :: cues) = some cue := by
  simp [find_cue]

variable {cue_id : String}

theorem find_cue_id {cue : SubtitleCue} (h : find_cue cue_id cues = some cue) :
    cue.cue_id = cue_id := by
  simpa using List.find?_some h

variable {f : SubtitleCue → SubtitleCue}

/-- An update that leaves the first cue with the id leaves them all. -/
theorem update_first_eq_self (h : ∀ cue, find_cue cue_id cues = some cue → f cue = cue) :
    update_first cue_id f cues = cues := by
  induction cues with
  | nil => rfl
  | cons cue cues ih =>
    unfold update_first
    split
    · rename_i hid
      rw [h cue (hid ▸ find_cue_cons_self cue cues)]
    · rename_i hid
      rw [ih fun c hc => h c (by simpa [find_cue, hid] using hc)]

@[simp] theorem update_first_id (cue_id : String) (cues : List SubtitleCue) :
    update_first cue_id id cues = cues :=
  update_first_eq_self fun _ _ => rfl

theorem update_first_update_first {f g : SubtitleCue → SubtitleCue}
    (h : ∀ cue, (f cue).cue_id = cue.cue_id) :
    update_first cue_id g (update_first cue_id f cues) =
      update_first cue_id (fun cue => g (f cue)) cues := by
  induction cues with
  | nil => rfl
  | cons cue cues ih =>
    by_cases hid : cue.cue_id = cue_id
    · simp [update_first, hid, h cue]
    · simp [update_first, hid, ih]

theorem descends_update_first {goes : SubtitleCue → SubtitleCue → Prop}
    {born lost : SubtitleCue → Prop} (hrefl : ∀ cue, goes cue cue)
    (h : ∀ cue, find_cue cue_id cues = some cue → goes cue (f cue)) :
    Descends goes born lost cues (update_first cue_id f cues) := by
  induction cues with
  | nil => exact Descends.nil
  | cons cue cues ih =>
    unfold update_first
    split
    · rename_i hid
      exact Descends.kept (h cue (hid ▸ find_cue_cons_self cue cues)) (Descends.refl hrefl cues)
    · rename_i hid
      exact Descends.kept (hrefl cue) (ih fun c hc => h c (by simpa [find_cue, hid] using hc))

theorem descends_update_active {goes : SubtitleCue → SubtitleCue → Prop}
    {born lost : SubtitleCue → Prop} (hrefl : ∀ cue, goes cue cue) {active : Option SubtitleCue}
    (h : ∀ cue, active = some cue → cue.cue_id = cue_id → goes cue (f cue)) :
    Descends goes born lost active.toList (update_active cue_id f active).toList := by
  cases active with
  | none => exact Descends.nil
  | some cue =>
    refine Descends.kept ?_ Descends.nil
    dsimp only
    split
    · rename_i hid
      exact h cue rfl hid
    · exact hrefl cue

/-! ## What an operation may do to a cue -/

/-- The cue an operation changes in place. -/
def CueOp.target : CueOp → Option String
  | .update_or_push_stt_cue cue_id .. | .commit_stt_cue cue_id ..
  | .update_subtitle_cue_translation cue_id ..
  | .update_subtitle_cue_translation_for_revision cue_id ..
  | .mark_subtitle_translation_error cue_id .. | .mark_current_subtitle_translation_error cue_id ..
  | .update_subtitle_cue_display_segments cue_id ..
  | .update_subtitle_cue_display_segments_for_revision cue_id ..
  | .commit_subtitle_cue cue_id .. => some cue_id
  | _ => none

/-- The revision an update carries. -/
def CueOp.expected_revision : CueOp → Option Nat
  | .update_subtitle_cue_translation_for_revision _ expected_revision ..
  | .mark_subtitle_translation_error _ expected_revision ..
  | .update_subtitle_cue_display_segments_for_revision _ expected_revision .. =>
    some expected_revision
  | _ => none

/-- The cue and the text of a source update. -/
def CueOp.source : CueOp → Option (String × Text)
  | .update_or_push_stt_cue cue_id source_text .. | .commit_stt_cue cue_id source_text .. =>
    some (cue_id, source_text)
  | _ => none

/-- An operation after which cues may be gone: it discards them, or it puts a new one in front. -/
def CueOp.removes : CueOp → Bool
  | .push_subtitle_cue .. | .update_or_push_stt_cue .. | .commit_stt_cue .. | .clear_subtitle_cues
  | .discard_uncommitted_subtitle_cues | .discard_uncommitted_subtitle_cues_by_direction ..
  | .discard_uncommitted_subtitle_cue .. | .discard_ignored_provider_cue .. => true
  | _ => false

def Settled (cue : SubtitleCue) : Prop :=
  cue.translation_state = some .Final ∨ cue.translation_state = some .Error

/-- What an operation may make of a cue that stays. -/
structure Evolves (op : CueOp) (cue cue' : SubtitleCue) : Prop where
  same_id : cue'.cue_id = cue.cue_id
  revision_le : cue_revision cue ≤ cue_revision cue'
  settled : Settled cue → cue'.translation_state ≠ cue.translation_state →
    op.source = some (cue.cue_id, cue'.source_text) ∧
      comparison_text cue'.source_text ≠ comparison_text cue.source_text
  stale : ∀ revision, op.expected_revision = some revision → revision ≠ cue_revision cue →
    cue' = cue
  frame : op.target ≠ some cue.cue_id → cue' = cue

/-- A cue whose translation counts as committed exactly when it is final. -/
def Flagged (cue : SubtitleCue) : Prop :=
  cue.translation_committed = true ↔ cue.translation_state = some .Final

/-- A cue that an operation brings into the store. A source update does so only for an id that
none of the recent cues has. -/
inductive Born (s : AudioStateStore) : CueOp → SubtitleCue → Prop
  | pushed (cue : SubtitleCue) :
    Born s (.push_subtitle_cue cue) (normalized_cue cue (next_subtitle_sequence s))
  | updated (cue_id : String) (source_text : Text) (committed : Bool) (now : Nat) :
    find_cue cue_id s.subtitles.recent_cues = none →
    Born s (.update_or_push_stt_cue cue_id source_text committed now)
      (new_subtitle_cue cue_id (route_direction_from_cue_id cue_id) source_text committed
        (next_subtitle_sequence s) now)
  | committed (cue_id : String) (source_text : Text) (direction : String) (now later : Nat) :
    find_cue cue_id s.subtitles.recent_cues = none →
    Born s (.commit_stt_cue cue_id source_text direction now later)
      (new_subtitle_cue cue_id direction source_text true (next_subtitle_sequence s) now)

/-- An evolution that also keeps the flag of the translation right. -/
structure Edit (op : CueOp) (cue cue' : SubtitleCue) : Prop extends Evolves op cue cue' where
  flagged : Flagged cue → Flagged cue'

theorem Edit.refl (op : CueOp) (cue : SubtitleCue) : Edit op cue cue where
  same_id := rfl
  revision_le := Nat.le_refl _
  settled := fun _ h => absurd rfl h
  stale := fun _ _ _ => rfl
  frame := fun _ => rfl
  flagged := id

/-- A cue without the time it ends. -/
def timeless : SubtitleCue := { cue with ended_at := 0 }

theorem timeless_eq_iff {cue cue' : SubtitleCue} :
    timeless cue = timeless cue' ↔ cue' = { cue with ended_at := cue'.ended_at } := by
  constructor
  · intro h
    cases cue'
    simpa [timeless] using h.symm
  · intro h
    rw [h]
    rfl

/-! ## The updates of one cue -/

/-- The fields of a cue that its contract is about. -/
def contract : String × Option Nat × Text × Bool × Option SubtitleTranslationState :=
  (cue.cue_id, cue.revision, cue.source_text, cue.translation_committed, cue.translation_state)

theorem saturating_succ_ge (n : Nat) : n ≤ saturating_succ n := by
  unfold saturating_succ
  split <;> omega

/-- A source update with the same text but for whitespace leaves the translation and the revision.
Any other one reopens the translation. -/
theorem contract_source_update (source_text : Text) (committed : Bool) (sequence : Nat) :
    (contract (apply_source_update cue source_text committed sequence) =
        (cue.cue_id, cue.revision, source_text, cue.translation_committed,
          cue.translation_state)) ∨
      (comparison_text source_text ≠ comparison_text cue.source_text ∧
        ∃ revision : Option Nat, cue_revision cue ≤ revision.getD 1 ∧
          contract (apply_source_update cue source_text committed sequence) =
            (cue.cue_id, revision, source_text, false, some .Pending)) := by
  unfold apply_source_update
  simp only
  split
  · rename_i h
    exact Or.inr ⟨Ne.symm h.1, _, saturating_succ_ge _, rfl⟩
  · split
    · rename_i h
      exact Or.inr ⟨Ne.symm h, cue.revision, Nat.le_refl _, rfl⟩
    · exact Or.inl rfl

theorem contract_finalize :
    contract (finalize_cue_display_segments cue) = contract cue := rfl

variable (mutation : TranslationMutation)

/-- An update that was not taken left the cue as it was. -/
theorem translation_update_cases :
    apply_translation_update cue mutation = (cue, false) ∨
      ((apply_translation_update cue mutation).2 = true ∧
        translation_update_allowed cue mutation = true ∧
        contract (apply_translation_update cue mutation).1 =
          (cue.cue_id, cue.revision, cue.source_text, decide (mutation.state = .Final),
            some mutation.state)) := by
  unfold apply_translation_update
  split
  · exact Or.inl rfl
  · rename_i hallowed
    have hallowed : translation_update_allowed cue mutation = true := by simpa using hallowed
    split
    · exact Or.inl rfl
    · split
      · exact Or.inr ⟨rfl, hallowed, rfl⟩
      · exact Or.inr ⟨rfl, hallowed, rfl⟩

theorem translation_update_id : (apply_translation_update cue mutation).1.cue_id = cue.cue_id := by
  rcases translation_update_cases cue mutation with hrefused | ⟨_, _, hcontract⟩
  · rw [hrefused]
  · exact congrArg (·.1) hcontract

theorem display_update_cases (display_source_text : Text)
    (display_segments : List SubtitleDisplaySegment) :
    apply_display_update cue mutation display_source_text display_segments = (cue, false) ∨
      ((apply_display_update cue mutation display_source_text display_segments).2 = true ∧
        translation_update_allowed cue mutation = true ∧
        contract (apply_display_update cue mutation display_source_text display_segments).1 =
          contract (apply_translation_update cue mutation).1) := by
  unfold apply_display_update
  split
  · exact Or.inl rfl
  · rename_i hallowed
    have hallowed : translation_update_allowed cue mutation = true := by simpa using hallowed
    rcases translation_update_cases cue mutation with h | ⟨h, _, _⟩
    · rw [h]
      simp only
      split
      · exact Or.inl rfl
      · exact Or.inr ⟨rfl, hallowed, rfl⟩
    · simp only [h, not_true_eq_false, false_and, if_false]
      exact Or.inr ⟨trivial, hallowed, rfl⟩

/-- The quiet-period commit makes a translation final unless there is none or it failed. -/
theorem contract_commit (sequence unix_ms : Nat) :
    contract (commit_cue cue sequence unix_ms) = contract cue ∨
      (cue.translation_state ≠ some .Error ∧
        contract (commit_cue cue sequence unix_ms) =
          (cue.cue_id, cue.revision, cue.source_text, true, some .Final)) := by
  unfold commit_cue
  split
  · rename_i h
    exact Or.inr ⟨h.2, rfl⟩
  · exact Or.inl rfl

theorem not_allowed_of_settled {cue : SubtitleCue} (h : Settled cue)
    (mutation : TranslationMutation) : translation_update_allowed cue mutation = false := by
  rcases h with h | h
  · simp [translation_update_allowed, transition_allowed, h]
  · simp [translation_update_allowed, transition_allowed, h]

section edits

variable {op : CueOp} {cue cue' : SubtitleCue}

/-- An operation that carries no other revision, and moves neither the revision nor the state of
the translation. -/
theorem edit_of_kept (htarget : op.target = some cue.cue_id)
    (hexpected : ∀ revision, op.expected_revision = some revision → revision = cue_revision cue)
    (hid : cue'.cue_id = cue.cue_id) (hrevision : cue'.revision = cue.revision)
    (hflag : cue'.translation_committed = cue.translation_committed)
    (hstate : cue'.translation_state = cue.translation_state) : Edit op cue cue' where
  same_id := hid
  revision_le := by simp [cue_revision, hrevision]
  settled := fun _ hleft => absurd hstate hleft
  stale := fun revision hcarried hne => absurd (hexpected revision hcarried) hne
  frame := fun hother => absurd htarget hother
  flagged := by simp [Flagged, hflag, hstate]

theorem edit_of_source {source_text : Text} {committed : Bool} {sequence : Nat}
    (hop : op.source = some (cue.cue_id, source_text))
    (h : contract cue' = contract (apply_source_update cue source_text committed sequence)) :
    Edit op cue cue' := by
  have htarget : op.target = some cue.cue_id ∧ op.expected_revision = none := by
    cases op <;> simp_all [CueOp.source, CueOp.target, CueOp.expected_revision]
  rcases contract_source_update cue source_text committed sequence with hc | ⟨hne, rev, hrev, hc⟩
  · obtain ⟨hid, hrevision, _, hflag, hstate⟩ := by simpa [contract] using h.trans hc
    exact edit_of_kept htarget.1 (by simp [htarget.2]) hid hrevision hflag hstate
  · obtain ⟨hid, hrevision, hsource, hflag, hstate⟩ := by simpa [contract] using h.trans hc
    refine ⟨⟨hid, ?_, ?_, ?_, ?_⟩, ?_⟩
    · have heq : cue_revision cue' = rev.getD 1 := by rw [cue_revision, hrevision]
      rw [heq]
      exact hrev
    · rw [hsource]
      exact fun _ _ => ⟨hop, hne⟩
    · simp [htarget.2]
    · exact fun hother => absurd htarget.1 hother
    · simp [Flagged, hflag, hstate]

/-- An update that is allowed carries no other revision, and finds no settled translation. -/
theorem edit_of_allowed {mutation : TranslationMutation} (htarget : op.target = some cue.cue_id)
    (hexpected : ∀ revision, op.expected_revision = some revision →
      mutation.expected_revision = some revision)
    (hallowed : translation_update_allowed cue mutation = true)
    (h : contract cue' = contract cue ∨
      contract cue' = (cue.cue_id, cue.revision, cue.source_text,
        decide (mutation.state = .Final), some mutation.state)) : Edit op cue cue' := by
  have hcurrent : ∀ revision, op.expected_revision = some revision →
      revision = cue_revision cue := by
    intro revision hcarried
    by_contra hne
    simp [translation_update_allowed, hexpected revision hcarried, hne] at hallowed
  rcases h with h | h
  · obtain ⟨hid, hrevision, _, hflag, hstate⟩ := by simpa [contract] using h
    exact edit_of_kept htarget hcurrent hid hrevision hflag hstate
  · obtain ⟨hid, hrevision, _, hflag, hstate⟩ := by simpa [contract] using h
    refine ⟨⟨hid, ?_, ?_, ?_, ?_⟩, ?_⟩
    · simp [cue_revision, hrevision]
    · intro hsettled
      simp [not_allowed_of_settled hsettled] at hallowed
    · exact fun revision hcarried hne => absurd (hcurrent revision hcarried) hne
    · exact fun hother => absurd htarget hother
    · simp [Flagged, hflag, hstate]

theorem edit_of_commit (hid : cue.cue_id = cue_id) (htarget : op.target = some cue_id)
    (hexpected : op.expected_revision = none) (sequence unix_ms : Nat) :
    Edit op cue (commit_cue cue sequence unix_ms) := by
  subst hid
  rcases contract_commit cue sequence unix_ms with h | ⟨hne, h⟩
  · obtain ⟨hid, hrevision, _, hflag, hstate⟩ := by simpa [contract] using h
    exact edit_of_kept htarget (by simp [hexpected]) hid hrevision hflag hstate
  · obtain ⟨hid, hrevision, _, hflag, hstate⟩ := by simpa [contract] using h
    refine ⟨⟨hid, ?_, ?_, ?_, ?_⟩, ?_⟩
    · simp [cue_revision, hrevision]
    · rintro (hfinal | herror) hleft
      · exact absurd (hstate.trans hfinal.symm) hleft
      · exact absurd herror hne
    · simp [hexpected]
    · exact fun hother => absurd htarget hother
    · simp [Flagged, hflag, hstate]

end edits

/-! ## The two copies of a cue -/

theorem contract_of_timeless {cue cue' : SubtitleCue} (h : timeless cue = timeless cue') :
    contract cue = contract cue' := by
  rw [timeless_eq_iff.mp h]
  rfl

theorem timeless_source_update {cue cue' : SubtitleCue} (h : timeless cue = timeless cue')
    (source_text : Text) (committed : Bool) (sequence : Nat) :
    timeless (apply_source_update cue source_text committed sequence) =
      timeless (apply_source_update cue' source_text committed sequence) := by
  rw [timeless_eq_iff.mp h]
  unfold apply_source_update
  simp only [cue_revision]
  split
  · rfl
  · split
    · rfl
    · rfl

theorem timeless_finalize {cue cue' : SubtitleCue} (h : timeless cue = timeless cue') :
    timeless (finalize_cue_display_segments cue) =
      timeless (finalize_cue_display_segments cue') := by
  rw [timeless_eq_iff.mp h]
  rfl

theorem timeless_translation_update {cue cue' : SubtitleCue} (h : timeless cue = timeless cue')
    (mutation : TranslationMutation) :
    timeless (apply_translation_update cue mutation).1 =
        timeless (apply_translation_update cue' mutation).1 ∧
      (apply_translation_update cue mutation).2 = (apply_translation_update cue' mutation).2 := by
  have heq := timeless_eq_iff.mp h
  have hallowed : translation_update_allowed cue' mutation =
      translation_update_allowed cue mutation := by
    rw [heq]
    rfl
  have hstate : cue'.translation_state = cue.translation_state := by rw [heq]
  have htext : cue'.translated_text = cue.translated_text := by rw [heq]
  unfold apply_translation_update
  rw [hallowed, hstate, htext]
  by_cases hrefused : (!translation_update_allowed cue mutation) = true
  · simp only [if_pos hrefused]
    exact ⟨h, trivial⟩
  · by_cases hrepeat : cue.translation_state = some mutation.state ∧
        cue.translated_text = mutation.translated_text
    · simp only [if_neg hrefused, if_pos hrepeat]
      exact ⟨h, trivial⟩
    · simp only [if_neg hrefused, if_neg hrepeat]
      rw [heq]
      by_cases hends : mutation.state = .Final ∨ mutation.state = .Error
      · simp only [if_pos hends]
        exact ⟨rfl, trivial⟩
      · simp only [if_neg hends]
        exact ⟨rfl, trivial⟩

theorem timeless_display_update {cue cue' : SubtitleCue} (h : timeless cue = timeless cue')
    (mutation : TranslationMutation) (display_source_text : Text)
    (display_segments : List SubtitleDisplaySegment) :
    timeless (apply_display_update cue mutation display_source_text display_segments).1 =
      timeless (apply_display_update cue' mutation display_source_text display_segments).1 := by
  obtain ⟨hcue, haccepted⟩ := timeless_translation_update h mutation
  have hcue := timeless_eq_iff.mp hcue
  have hallowed : translation_update_allowed cue' mutation =
      translation_update_allowed cue mutation := by
    rw [timeless_eq_iff.mp h]
    rfl
  unfold apply_display_update
  rw [hallowed]
  split
  · exact h
  · simp only
    rw [hcue, ← haccepted]
    split
    · rfl
    · rfl

theorem timeless_commit {cue cue' : SubtitleCue} (h : timeless cue = timeless cue')
    (sequence now later : Nat) :
    timeless (commit_cue cue sequence now) = timeless (commit_cue cue' sequence later) := by
  rw [timeless_eq_iff.mp h]
  unfold commit_cue
  split
  · rfl
  · rfl

/-- The guards of the two copies say the same. -/
theorem update_active_stt_cue_eq (active : SubtitleCue) (cue_id : String) (source_text : Text)
    (committed : Bool) (sequence now : Nat) :
    update_active_stt_cue active source_text committed sequence =
      translation_lifecycle.update_or_push_stt_cue (some active) cue_id source_text committed
        sequence now := by
  unfold update_active_stt_cue translation_lifecycle.update_or_push_stt_cue
  simp only
  by_cases h : active.committed = true ∧ ¬ committed = true ∧ source_text ≠ [] ∧
      len source_text < len active.source_text
  · rw [if_pos h, if_neg]
    obtain ⟨hold, hnew, htext, hlt⟩ := h
    simp only [not_or, not_not]
    exact ⟨hold, hnew, htext, by omega⟩
  · rw [if_neg h, if_pos]
    by_contra hnot
    simp only [not_or, not_not] at hnot
    obtain ⟨hold, hnew, htext, hlt⟩ := hnot
    exact h ⟨hold, hnew, htext, by omega⟩

theorem timeless_update_or_push {cue cue' : SubtitleCue} (h : timeless cue = timeless cue')
    (cue_id : String) (source_text : Text) (committed : Bool) (sequence now : Nat) :
    timeless (translation_lifecycle.update_or_push_stt_cue (some cue) cue_id source_text committed
        sequence now) =
      timeless (translation_lifecycle.update_or_push_stt_cue (some cue') cue_id source_text
        committed sequence now) := by
  have hupdate := timeless_source_update h source_text committed sequence
  have heq := timeless_eq_iff.mp h
  have hold : cue'.committed = cue.committed := by rw [heq]
  have htext : cue'.source_text = cue.source_text := by rw [heq]
  unfold translation_lifecycle.update_or_push_stt_cue
  simp only [hold, htext]
  split
  · exact h
  · split
    · exact timeless_finalize hupdate
    · exact hupdate

theorem timeless_commit_stt {cue cue' : SubtitleCue} (h : timeless cue = timeless cue')
    (cue_id direction : String) (source_text : Text) (sequence now later : Nat) :
    timeless (translation_lifecycle.commit_stt_cue (some cue) cue_id direction source_text sequence
        now) =
      timeless (translation_lifecycle.commit_stt_cue (some cue') cue_id direction source_text
        sequence later) :=
  timeless_finalize (timeless_source_update h source_text true sequence)

end omni_translate.cue_store

-- The laws of the cue store. An operation changes one cue in place, puts a new one in front or
-- takes some out; the rest, over every run, follows from what it may do to one cue.
import OmniTranslate.CueEdits

namespace omni_translate.cue_store

open text sentence translation_lifecycle descent
open Descends (refl sublist)

/-! ## What a step does to the overlay -/

/-- The ways in which an operation changes the overlay. A change in place makes the same of the two
copies of a cue, up to the time they end. -/
inductive Moves (s : AudioStateStore) (op : CueOp) (overlay : SubtitleOverlay) : Prop
  | edited (cue_id : String) (f g : SubtitleCue → SubtitleCue)
      (recent : overlay.recent_cues = update_first cue_id f s.subtitles.recent_cues)
      (active : overlay.active_cue = update_active cue_id g s.subtitles.active_cue)
      (edit_recent : ∀ cue, find_cue cue_id s.subtitles.recent_cues = some cue →
        Edit op cue (f cue))
      (edit_active : ∀ cue, s.subtitles.active_cue = some cue → cue.cue_id = cue_id →
        Edit op cue (g cue))
      (same : ∀ cue active, find_cue cue_id s.subtitles.recent_cues = some cue →
        timeless cue = timeless active → timeless (f cue) = timeless (g active))
  | pushed (cue : SubtitleCue) (born : Born s op cue) (push : overlay = push_front s.subtitles cue)
  | retained (p : SubtitleCue → Bool) (removes : op.removes = true)
      (same : ∀ cue cue', timeless cue = timeless cue' → p cue = p cue')
      (rest : overlay = retain s.subtitles p)
  | cleared (removes : op.removes = true) (none_left : overlay = SubtitleOverlay.empty)

variable {s : AudioStateStore} {overlay : SubtitleOverlay}

theorem moves_nowhere (op : CueOp) (hrecent : overlay.recent_cues = s.subtitles.recent_cues)
    (hactive : overlay.active_cue = s.subtitles.active_cue) : Moves s op overlay := by
  refine Moves.edited "" id id ?_ ?_ ?_ ?_ ?_
  · rw [hrecent, update_first_id]
  · rw [hactive]
    simp [update_active]
  · exact fun cue _ => Edit.refl op cue
  · exact fun cue _ _ => Edit.refl op cue
  · exact fun _ _ _ hsame => hsame

variable {cue : SubtitleCue} {cue_id : String} {op : CueOp} {source_text : Text}

theorem edit_update_or_push (hid : cue.cue_id = cue_id) (hop : op.source = some (cue_id, source_text))
    (committed : Bool) (sequence now : Nat) :
    Edit op cue (translation_lifecycle.update_or_push_stt_cue (some cue) cue_id source_text
      committed sequence now) := by
  subst hid
  unfold translation_lifecycle.update_or_push_stt_cue
  simp only
  split
  · exact Edit.refl op cue
  · split
    · exact edit_of_source hop (contract_finalize _)
    · exact edit_of_source hop rfl

theorem edit_commit_stt (hid : cue.cue_id = cue_id) (hop : op.source = some (cue_id, source_text))
    (direction : String) (sequence unix_ms : Nat) :
    Edit op cue (translation_lifecycle.commit_stt_cue (some cue) cue_id direction source_text
      sequence unix_ms) := by
  subst hid
  have hcontract : contract (translation_lifecycle.commit_stt_cue (some cue) cue.cue_id direction
      source_text sequence unix_ms) = contract (apply_source_update cue source_text true sequence) :=
    rfl
  exact edit_of_source hop hcontract

theorem any_id {cues : List SubtitleCue} : cues.any (·.cue_id = cue_id) = false ↔ find_cue cue_id cues = none := by
  simp [find_cue]

theorem moves_update_or_push (s : AudioStateStore) (cue_id : String) (source_text : Text)
    (committed : Bool) (now : Nat) :
    Moves s (.update_or_push_stt_cue cue_id source_text committed now)
      (update_or_push_stt_cue s cue_id source_text committed now).subtitles := by
  unfold update_or_push_stt_cue
  split
  · refine Moves.edited cue_id _ _ rfl rfl ?_ ?_ ?_
    · intro cue hfind
      exact edit_update_or_push (find_cue_id hfind) rfl _ _ _
    · intro cue _ hid
      rw [update_active_stt_cue_eq cue cue_id source_text committed _ now]
      exact edit_update_or_push hid rfl _ _ _
    · intro cue active _ hsame
      rw [update_active_stt_cue_eq active cue_id source_text committed _ now]
      exact timeless_update_or_push hsame cue_id source_text committed _ now
  · rename_i hnew
    have hnone := any_id.mp (eq_false_of_ne_true hnew)
    exact Moves.pushed _ (Born.updated cue_id source_text committed now hnone) rfl

theorem moves_commit_stt (s : AudioStateStore) (cue_id : String) (source_text : Text)
    (direction : String) (now later : Nat) :
    Moves s (.commit_stt_cue cue_id source_text direction now later)
      (commit_stt_cue s cue_id source_text direction now later).subtitles := by
  unfold commit_stt_cue
  split
  · refine Moves.edited cue_id _ _ rfl rfl ?_ ?_ ?_
    · intro cue hfind
      exact edit_commit_stt (find_cue_id hfind) rfl direction _ now
    · intro cue _ hid
      exact edit_commit_stt hid rfl direction _ later
    · intro cue active _ hsame
      exact timeless_commit_stt hsame cue_id direction source_text _ now later
  · rename_i hnew
    have hnone := any_id.mp (eq_false_of_ne_true hnew)
    exact Moves.pushed _ (Born.committed cue_id source_text direction now later hnone) rfl

/-- An update that `publish` hands to the two copies of a cue: refused, and then nothing changes,
or taken. -/
structure Publishes (op : CueOp) (cue_id : String) (update : SubtitleCue → SubtitleCue × Bool) :
    Prop where
  cases : ∀ cue, cue.cue_id = cue_id → update cue = (cue, false) ∨
    ((update cue).2 = true ∧ ∀ cue', contract cue' = contract (update cue).1 → Edit op cue cue')
  same_id : ∀ cue, (update cue).1.cue_id = cue.cue_id
  same : ∀ cue cue', timeless cue = timeless cue' →
    timeless (update cue).1 = timeless (update cue').1

variable {update : SubtitleCue → SubtitleCue × Bool}

theorem Publishes.edit (h : Publishes op cue_id update) (hid : cue.cue_id = cue_id) : Edit op cue (update cue).1 := by
  rcases h.cases cue hid with hrefused | ⟨_, htaken⟩
  · rw [hrefused]
    exact Edit.refl op cue
  · exact htaken _ rfl

theorem publish_refused (h : (publish overlay cue_id update).2 = false) :
    (∀ cue, find_cue cue_id overlay.recent_cues = some cue → (update cue).2 = false) ∧
      (publish overlay cue_id update).1 =
        { overlay with
          recent_cues := update_first cue_id (fun cue => (update cue).1) overlay.recent_cues } := by
  unfold publish at h ⊢
  simp only at h ⊢
  split at h
  · cases h
  · rename_i hrefused
    refine ⟨?_, by rw [if_neg hrefused]⟩
    intro cue hfind
    simpa [hfind] using hrefused

theorem publish_taken (h : (publish overlay cue_id update).2 = true) :
    (∀ cue, find_cue cue_id overlay.recent_cues = some cue → (update cue).2 = true) ∧
      (publish overlay cue_id update).1 =
        { overlay with
          recent_cues := update_first cue_id (fun cue => (update cue).1) overlay.recent_cues
          active_cue :=
            update_active cue_id (fun cue => (update cue).1) overlay.active_cue } := by
  unfold publish at h ⊢
  simp only at h ⊢
  split at h
  · rename_i htaken
    refine ⟨?_, by rw [if_pos htaken]⟩
    intro cue hfind
    simpa [hfind] using htaken
  · cases h

/-- A published update, and a mark on the first copy that leaves all but the time it ends. -/
theorem moves_publish (h : Publishes op cue_id update) (mark : SubtitleCue → SubtitleCue)
    (hmark : ∀ cue, timeless (mark cue) = timeless cue)
    (hactive : overlay.active_cue = (publish s.subtitles cue_id update).1.active_cue)
    (hrecent : overlay.recent_cues =
      if (publish s.subtitles cue_id update).2 then
        update_first cue_id mark (publish s.subtitles cue_id update).1.recent_cues
      else (publish s.subtitles cue_id update).1.recent_cues) : Moves s op overlay := by
  cases htaken : (publish s.subtitles cue_id update).2 with
  | false =>
    obtain ⟨hfirst, hoverlay⟩ := publish_refused htaken
    rw [htaken, if_neg Bool.false_ne_true, hoverlay] at hrecent
    rw [hoverlay] at hactive
    refine moves_nowhere op ?_ hactive
    rw [hrecent]
    apply update_first_eq_self
    intro cue hfind
    rcases h.cases cue (find_cue_id hfind) with hrefused | ⟨haccepted, _⟩
    · rw [hrefused]
    · rw [hfirst cue hfind] at haccepted
      cases haccepted
  | true =>
    obtain ⟨hfirst, hoverlay⟩ := publish_taken htaken
    rw [htaken, if_pos rfl, hoverlay, update_first_update_first h.same_id] at hrecent
    rw [hoverlay] at hactive
    refine Moves.edited cue_id _ _ hrecent hactive ?_ ?_ ?_
    · intro cue hfind
      rcases h.cases cue (find_cue_id hfind) with hrefused | ⟨_, hedit⟩
      · have := hfirst cue hfind
        simp [hrefused] at this
      · exact hedit _ (contract_of_timeless (hmark _))
    · exact fun cue _ hid => h.edit hid
    · intro cue active _ hsame
      exact (hmark _).trans (h.same cue active hsame)

section translations

variable {op : CueOp} {cue_id : String} {mutation : TranslationMutation}

theorem publishes_translation (htarget : op.target = some cue_id)
    (hexpected : ∀ revision, op.expected_revision = some revision →
      mutation.expected_revision = some revision) :
    Publishes op cue_id (apply_translation_update · mutation) where
  cases := by
    rintro cue rfl
    rcases translation_update_cases cue mutation with hrefused | ⟨htaken, hallowed, hcontract⟩
    · exact Or.inl hrefused
    · refine Or.inr ⟨htaken, fun _ h => ?_⟩
      exact edit_of_allowed htarget hexpected hallowed (Or.inr (h.trans hcontract))
  same_id := fun cue => translation_update_id cue mutation
  same := fun _ _ h => (timeless_translation_update h mutation).1

theorem publishes_display (htarget : op.target = some cue_id)
    (hexpected : ∀ revision, op.expected_revision = some revision →
      mutation.expected_revision = some revision) (display_source_text : Text)
    (display_segments : List SubtitleDisplaySegment) :
    Publishes op cue_id
      (apply_display_update · mutation display_source_text display_segments) where
  cases := by
    rintro cue rfl
    rcases display_update_cases cue mutation display_source_text display_segments with
      hrefused | ⟨htaken, hallowed, hcontract⟩
    · exact Or.inl hrefused
    · refine Or.inr ⟨htaken, fun _ h => ?_⟩
      refine edit_of_allowed htarget hexpected hallowed ?_
      rcases translation_update_cases cue mutation with hkept | ⟨_, _, hmoved⟩
      · left
        rw [h, hcontract, hkept]
      · right
        rw [h, hcontract, hmoved]
  same_id := by
    intro cue
    rcases display_update_cases cue mutation display_source_text display_segments with
      hrefused | ⟨_, _, hcontract⟩
    · rw [hrefused]
    · exact (congrArg (·.1) hcontract).trans (translation_update_id cue mutation)
  same := fun _ _ h => timeless_display_update h mutation display_source_text display_segments

theorem moves_translation (s : AudioStateStore) {expected_revision : Option Nat}
    (htarget : op.target = some cue_id) (hexpected : op.expected_revision = expected_revision)
    (translated_text : Text) (state : SubtitleTranslationState) (now : Nat) :
    Moves s op (apply_subtitle_cue_translation s cue_id expected_revision translated_text state
      now).1.subtitles := by
  subst hexpected
  have hpublishes : Publishes op cue_id (apply_translation_update ·
      ⟨op.expected_revision, next_subtitle_sequence s, translated_text, state⟩) :=
    publishes_translation htarget fun _ h => h
  unfold apply_subtitle_cue_translation
  simp only
  by_cases hends : state = .Final ∨ state = .Error
  · refine moves_publish hpublishes (fun cue => { cue with ended_at := now }) (fun _ => rfl) ?_ ?_
    · split <;> rfl
    · simp only [hends, and_true]
      split <;> rfl
  · refine moves_publish hpublishes id (fun _ => rfl) ?_ ?_
    · simp [hends]
    · simp [hends]

theorem moves_display (s : AudioStateStore) {expected_revision : Nat}
    (htarget : op.target = some cue_id)
    (hexpected : ∀ revision, op.expected_revision = some revision → expected_revision = revision)
    (display_source_text : Text) (display_segments : List SubtitleDisplaySegment)
    (translated_text : Text) (state : SubtitleTranslationState) :
    Moves s op (update_subtitle_cue_display_segments_for_revision s cue_id expected_revision
      display_source_text display_segments translated_text state).1.subtitles := by
  refine moves_publish (publishes_display htarget ?_ display_source_text display_segments) id
    (fun _ => rfl) rfl ?_
  · exact fun revision h => congrArg some (hexpected revision h)
  · rw [update_first_id, ite_self]
    rfl

end translations

theorem step_moves (s : AudioStateStore) (op : CueOp) : Moves s op (step s op).subtitles := by
  cases op with
  | push_subtitle_cue cue => exact Moves.pushed _ (Born.pushed cue) rfl
  | update_or_push_stt_cue cue_id source_text committed now =>
    exact moves_update_or_push s cue_id source_text committed now
  | commit_stt_cue cue_id source_text direction now later =>
    exact moves_commit_stt s cue_id source_text direction now later
  | update_subtitle_cue_translation cue_id translated_text committed now =>
    exact moves_translation s rfl rfl translated_text _ now
  | update_subtitle_cue_translation_for_revision cue_id expected_revision translated_text state
      now =>
    exact moves_translation s rfl rfl translated_text state now
  | mark_subtitle_translation_error cue_id expected_revision message now =>
    exact moves_translation s rfl rfl message .Error now
  | mark_current_subtitle_translation_error cue_id message now =>
    exact moves_translation s rfl rfl message .Error now
  | update_subtitle_cue_display_segments cue_id display_source_text display_segments
      translated_text committed =>
    dsimp only [step, update_subtitle_cue_display_segments]
    split
    · exact moves_nowhere _ rfl rfl
    · exact moves_display s rfl (fun _ h => by cases h) display_source_text display_segments
        translated_text _
  | update_subtitle_cue_display_segments_for_revision cue_id expected_revision
      display_source_text display_segments translated_text state =>
    exact moves_display s rfl (fun _ h => by cases h; rfl) display_source_text display_segments
      translated_text state
  | commit_subtitle_cue cue_id now later =>
    refine Moves.edited cue_id _ _ rfl rfl ?_ ?_ ?_
    · exact fun cue hfind => edit_of_commit (find_cue_id hfind) rfl rfl _ _
    · exact fun cue _ hid => edit_of_commit hid rfl rfl _ _
    · exact fun cue _ _ hsame => timeless_commit hsame _ now later
  | clear_subtitle_cues => exact Moves.cleared rfl rfl
  | discard_uncommitted_subtitle_cues =>
    refine Moves.retained (·.committed) rfl ?_ rfl
    intro cue cue' hsame
    rw [timeless_eq_iff.mp hsame]
  | discard_uncommitted_subtitle_cues_by_direction _ =>
    refine Moves.retained _ rfl ?_ rfl
    intro cue cue' hsame
    rw [timeless_eq_iff.mp hsame]
  | discard_uncommitted_subtitle_cue cue_id =>
    refine Moves.retained _ rfl ?_ rfl
    intro cue cue' hsame
    rw [timeless_eq_iff.mp hsame]
  | discard_ignored_provider_cue cue_id =>
    refine Moves.retained _ rfl ?_ rfl
    intro cue cue' hsame
    rw [timeless_eq_iff.mp hsame]

/-! ## The step law -/

theorem Born.removes (h : Born s op cue) : op.removes = true := by
  cases h with
  | pushed => rfl
  | updated => rfl
  | committed => rfl

theorem Born.flagged (h : Born s op cue) : Flagged cue := by
  cases h with
  | pushed cue =>
    unfold normalized_cue Flagged
    simp only
    split
    · simp [finalize_cue_display_segments]
    · simp
  | updated => simp [Flagged, new_subtitle_cue]
  | committed => simp [Flagged, new_subtitle_cue]

/-- How the copies of the cues in one place go on in a step. -/
def Follows (s : AudioStateStore) (op : CueOp) (cues cues' : List SubtitleCue) : Prop :=
  Descends (Edit op) (Born s op) (fun _ => op.removes = true) cues cues'

theorem recent_cues_follow (s : AudioStateStore) (op : CueOp) :
    Follows s op s.subtitles.recent_cues (step s op).subtitles.recent_cues := by
  rcases step_moves s op with ⟨_, _, _, hrecent, _, hedit, _, _⟩ | ⟨_, hborn, hpush⟩ |
    ⟨_, hop, _, hrest⟩ | ⟨hop, hnone⟩
  · rw [hrecent]
    exact descends_update_first (Edit.refl op) hedit
  · rw [hpush]
    refine sublist (fun _ => hborn.removes) ?_ (trim_sublist _)
    exact Descends.new hborn (refl (Edit.refl op) _)
  · rw [hrest]
    refine sublist (fun _ => hop) (refl (Edit.refl op) _) ?_
    exact (trim_sublist _).trans List.filter_sublist
  · rw [hnone]
    exact sublist (fun _ => hop) (refl (Edit.refl op) _) (List.nil_sublist _)

theorem active_cue_follows (s : AudioStateStore) (op : CueOp) :
    Follows s op s.subtitles.active_cue.toList (step s op).subtitles.active_cue.toList := by
  rcases step_moves s op with ⟨_, _, _, _, hactive, _, hedit, _⟩ | ⟨cue, hborn, hpush⟩ |
    ⟨p, hop, _, hrest⟩ | ⟨hop, hnone⟩
  · rw [hactive]
    exact descends_update_active (Edit.refl op) hedit
  · rw [hpush, push_front, trim_active]
    refine Descends.new hborn ?_
    exact sublist (fun _ => hborn.removes) (refl (Edit.refl op) _)
      (List.nil_sublist _)
  · rw [hrest, retain, trim_active]
    refine sublist (fun _ => hop) (refl (Edit.refl op) _) ?_
    cases s.subtitles.active_cue with
    | none => exact List.Sublist.refl _
    | some cue =>
      by_cases hp : p cue = true
      · simp [Option.filter, hp]
      · simp [Option.filter, hp]
  · rw [hnone]
    exact sublist (fun _ => hop) (refl (Edit.refl op) _) (List.nil_sublist _)

theorem Follows.flagged {cues cues' : List SubtitleCue} (h : Follows s op cues cues')
    (hflagged : ∀ cue ∈ cues, Flagged cue) : ∀ cue ∈ cues', Flagged cue := by
  intro cue hcue
  rcases h.of_mem hcue with hborn | ⟨old, hold, hedit⟩
  · exact hborn.flagged
  · exact hedit.flagged (hflagged old hold)

theorem Follows.evolves {cues cues' : List SubtitleCue} (h : Follows s op cues cues') :
    Descends (Evolves op) (Born s op) (fun _ => op.removes = true) cues cues' :=
  Descends.mono (fun _ _ hedit => hedit.toEvolves) (fun _ hborn => hborn) (fun _ hlost => hlost) h

/-! ## The run laws -/

/-- A cue and what has become of it. -/
def Later (cue cue' : SubtitleCue) : Prop :=
  cue'.cue_id = cue.cue_id ∧ cue_revision cue ≤ cue_revision cue'

theorem Later.trans (a b c : SubtitleCue) (hab : Later a b) (hbc : Later b c) : Later a c :=
  ⟨hbc.1.trans hab.1, hab.2.trans hbc.2⟩

/-- What has become of a cue that came into the store in the course of a run. -/
def BornDuring (s : AudioStateStore) (ops : List CueOp) (cue : SubtitleCue) : Prop :=
  ∃ earlier op later first, ops = earlier ++ op :: later ∧
    Born (runs.run step s earlier) op first ∧ Later first cue

/-- How the copies of the cues in one place go on in a run. -/
def FollowsAlong (s : AudioStateStore) (ops : List CueOp) (cues cues' : List SubtitleCue) : Prop :=
  Descends Later (BornDuring s ops) (fun _ => ∃ op ∈ ops, op.removes = true) cues cues'

theorem FollowsAlong.cons {ops : List CueOp} {cues cues' cues'' : List SubtitleCue} (h : Follows s op cues cues')
    (h' : FollowsAlong (step s op) ops cues' cues'') : FollowsAlong s (op :: ops) cues cues'' := by
  have hfirst : FollowsAlong s (op :: ops) cues cues' := by
    refine Descends.mono ?_ ?_ ?_ h
    · exact fun _ _ hedit => ⟨hedit.same_id, hedit.revision_le⟩
    · exact fun cue hborn => ⟨[], op, ops, cue, rfl, hborn, rfl, Nat.le_refl _⟩
    · exact fun _ hop => ⟨op, List.mem_cons_self, hop⟩
  have hrest : FollowsAlong s (op :: ops) cues' cues'' := by
    refine Descends.mono ?_ ?_ ?_ h'
    · exact fun _ _ hlater => hlater
    · rintro cue ⟨earlier, o, later, first, rfl, hborn, hlater⟩
      exact ⟨op :: earlier, o, later, first, rfl, hborn, hlater⟩
    · rintro _ ⟨o, ho, hremoves⟩
      exact ⟨o, List.mem_cons_of_mem op ho, hremoves⟩
  refine Descends.trans Later.trans ?_ (fun _ _ _ hlost => hlost) hfirst hrest
  rintro cue _ ⟨earlier, o, later, first, hops, hborn, hlater⟩ hcue
  exact ⟨earlier, o, later, first, hops, hborn, Later.trans _ _ _ hlater hcue⟩

theorem follow_along (s : AudioStateStore) (ops : List CueOp) :
    FollowsAlong s ops s.subtitles.recent_cues (runs.run step s ops).subtitles.recent_cues ∧
      FollowsAlong s ops s.subtitles.active_cue.toList
        (runs.run step s ops).subtitles.active_cue.toList := by
  induction ops generalizing s with
  | nil =>
    have hrefl : ∀ cue, Later cue cue := fun _ => ⟨rfl, Nat.le_refl _⟩
    exact ⟨refl hrefl _, refl hrefl _⟩
  | cons op ops ih =>
    obtain ⟨hrecent, hactive⟩ := ih (step s op)
    exact ⟨FollowsAlong.cons (recent_cues_follow s op) hrecent,
      FollowsAlong.cons (active_cue_follows s op) hactive⟩

/-- The cues of the overlay, with the second copy of the newest. -/
def cues (s : AudioStateStore) : List SubtitleCue :=
  s.subtitles.recent_cues ++ s.subtitles.active_cue.toList

theorem cues_flagged (ops : List CueOp) : ∀ cue ∈ cues (reached ops), Flagged cue := by
  refine runs.run_keeps step (fun s => ∀ cue ∈ cues s, Flagged cue) ?_ ?_ ops
  · intro s op h cue hcue
    rcases List.mem_append.mp hcue with hcue | hcue
    · refine (recent_cues_follow s op).flagged (fun c hc => h c ?_) cue hcue
      exact List.mem_append_left _ hc
    · refine (active_cue_follows s op).flagged (fun c hc => h c ?_) cue hcue
      exact List.mem_append_right _ hc
  · intro cue hcue
    cases hcue

/-- In every reachable state a translation is committed exactly when it is final. In every step
from there each copy of a cue that stays keeps its id and does not fall back in revision, leaves a
final translation or an error only for a source of another text, and is unchanged by an update for
another revision; over any further run it does not fall back either. A cue that is pushed under an
id that the store has is a new one, and leaves the other as it is. -/
theorem cues_keep_their_contract (ops : List CueOp) :
    (∀ cue ∈ cues (reached ops),
      (cue.translation_committed = true ↔ cue.translation_state = some .Final)) ∧
    (∀ op,
      Descends (Evolves op) (Born (reached ops) op) (fun _ => op.removes = true)
        (reached ops).subtitles.recent_cues (step (reached ops) op).subtitles.recent_cues ∧
      Descends (Evolves op) (Born (reached ops) op) (fun _ => op.removes = true)
        (reached ops).subtitles.active_cue.toList
        (step (reached ops) op).subtitles.active_cue.toList) ∧
    ∀ more,
      FollowsAlong (reached ops) more (reached ops).subtitles.recent_cues
        (reached (ops ++ more)).subtitles.recent_cues ∧
      FollowsAlong (reached ops) more (reached ops).subtitles.active_cue.toList
        (reached (ops ++ more)).subtitles.active_cue.toList := by
  refine ⟨cues_flagged ops, fun op => ⟨?_, ?_⟩, fun more => ?_⟩
  · exact (recent_cues_follow (reached ops) op).evolves
  · exact (active_cue_follows (reached ops) op).evolves
  · have hrun : reached (ops ++ more) = runs.run step (reached ops) more :=
      runs.run_append step _ _ _
    rw [hrun]
    exact follow_along (reached ops) more

/-! ## The active cue -/

/-- The active cue is the first of the recent ones, up to the time it ends. -/
def InSync (overlay : SubtitleOverlay) : Prop :=
  ∀ active, overlay.active_cue = some active →
    ∃ cue rest, overlay.recent_cues = cue :: rest ∧ timeless cue = timeless active

theorem id_of_timeless {cue cue' : SubtitleCue} (h : timeless cue = timeless cue') :
    cue'.cue_id = cue.cue_id := by
  rw [timeless_eq_iff.mp h]

theorem Moves.in_sync (hmoves : Moves s op overlay) (h : InSync s.subtitles) : InSync overlay := by
  intro active hactive
  rcases hmoves with ⟨cue_id, f, _, hrecent, hupdate, _, _, hsame⟩ | ⟨cue, _, hpush⟩ |
    ⟨_, _, hp, hrest⟩ | ⟨_, hnone⟩
  · rw [hupdate, update_active] at hactive
    obtain ⟨old, hold, rfl⟩ := Option.map_eq_some_iff.mp hactive
    obtain ⟨cue, rest, hcues, hcopies⟩ := h old hold
    by_cases hid : cue.cue_id = cue_id
    · refine ⟨f cue, rest, ?_, ?_⟩
      · rw [hrecent, hcues, update_first, if_pos hid]
      · rw [if_pos ((id_of_timeless hcopies).trans hid)]
        refine hsame cue old ?_ hcopies
        rw [hcues, ← hid]
        exact find_cue_cons_self cue rest
    · refine ⟨cue, update_first cue_id f rest, ?_, ?_⟩
      · rw [hrecent, hcues, update_first, if_neg hid]
      · rw [if_neg ((id_of_timeless hcopies).symm ▸ hid)]
        exact hcopies
  · rw [hpush, push_front, trim_active] at hactive
    obtain ⟨rest, hcues⟩ := push_front_recent s.subtitles cue
    rw [hpush]
    exact ⟨cue, rest, hcues, congrArg timeless (Option.some.inj hactive)⟩
  · rw [hrest, retain, trim_active] at hactive
    obtain ⟨hold, hkept⟩ := Option.filter_eq_some_iff.mp hactive
    obtain ⟨cue, rest, hcues, hcopies⟩ := h active hold
    obtain ⟨rest', hfront⟩ := retain_recent hcues ((hp cue active hcopies).trans hkept)
    rw [hrest]
    exact ⟨cue, rest', hfront, hcopies⟩
  · rw [hnone] at hactive
    cases hactive

theorem reached_in_sync (ops : List CueOp) : InSync (reached ops).subtitles := by
  refine runs.run_keeps step (fun s => InSync s.subtitles) ?_ ?_ ops
  · exact fun s op h => (step_moves s op).in_sync h
  · intro active hactive
    cases hactive

/-! ## Late partial texts -/

/-- A call of `update_or_push_stt_cue` that the guard against regressions ignores: a shorter partial
text for a committed cue. -/
def Ignored (s : AudioStateStore) (cue_id : String) (source_text : Text) (committed : Bool) :
    Prop :=
  ∃ cue, find_cue cue_id s.subtitles.recent_cues = some cue ∧ cue.committed = true ∧
    committed = false ∧ source_text ≠ [] ∧ len source_text < len cue.source_text

/-- Nothing about the cue has changed: its two copies are those of before, and so is the finality
of its source, also as it is fed to the splitter. -/
structure Untouched (cue_id : String) (s s' : AudioStateStore) : Prop where
  recent : find_cue cue_id s'.subtitles.recent_cues = find_cue cue_id s.subtitles.recent_cues
  active : s'.subtitles.active_cue = s.subtitles.active_cue
  finality : subtitle_source_is_final s' cue_id = subtitle_source_is_final s cue_id
  fed : fed_finality s' cue_id = fed_finality s cue_id

/-- Both guards ignore the same calls. -/
theorem ignored_overlay (hsync : InSync s.subtitles) {committed : Bool} (h : Ignored s cue_id source_text committed)
    (now : Nat) : (update_or_push_stt_cue s cue_id source_text committed now).subtitles = s.subtitles := by
  obtain ⟨cue, hfind, hcommitted, hpartial, htext, hlt⟩ := h
  have hguard : ∀ (c : SubtitleCue) (sequence : Nat), c.committed = true →
      c.source_text = cue.source_text →
      translation_lifecycle.update_or_push_stt_cue (some c) cue_id source_text committed sequence
        now = c := by
    intro c sequence hc hsource
    unfold translation_lifecycle.update_or_push_stt_cue
    simp [hc, hsource, hpartial, htext, hlt]
  have hany : s.subtitles.recent_cues.any (·.cue_id = cue_id) = true := by
    by_contra hnone
    rw [any_id.mp (eq_false_of_ne_true hnone)] at hfind
    cases hfind
  have hrecent : ∀ sequence, update_first cue_id (fun c =>
      translation_lifecycle.update_or_push_stt_cue (some c) cue_id source_text committed sequence
        now) s.subtitles.recent_cues = s.subtitles.recent_cues := by
    intro sequence
    apply update_first_eq_self
    intro c hc
    obtain rfl : cue = c := Option.some.inj (hfind.symm.trans hc)
    exact hguard cue sequence hcommitted rfl
  have hactive : ∀ sequence, update_active cue_id
      (update_active_stt_cue · source_text committed sequence) s.subtitles.active_cue =
        s.subtitles.active_cue := by
    intro sequence
    cases ha : s.subtitles.active_cue with
    | none => rfl
    | some active =>
      obtain ⟨first, rest, hcues, hcopies⟩ := hsync active ha
      unfold update_active
      simp only [Option.map_some, Option.some.injEq]
      split
      · rename_i hid
        -- the active cue is a copy of the one that the guard has seen
        have hfirst : find_cue cue_id s.subtitles.recent_cues = some first := by
          rw [hcues, ← hid, id_of_timeless hcopies]
          exact find_cue_cons_self first rest
        obtain rfl : cue = first := Option.some.inj (hfind.symm.trans hfirst)
        rw [update_active_stt_cue_eq active cue_id source_text committed sequence now]
        apply hguard
        · rw [timeless_eq_iff.mp hcopies]
          exact hcommitted
        · rw [timeless_eq_iff.mp hcopies]
      · rfl
  unfold update_or_push_stt_cue
  simp only [hany, if_true, hrecent, hactive]

/-- The set of final sources does not look at the guards. -/
theorem partial_is_not_final (s : AudioStateStore) (cue_id : String) (source_text : Text)
    (now : Nat) :
    subtitle_source_is_final (update_or_push_stt_cue s cue_id source_text false now) cue_id =
      false := by
  simp [subtitle_source_is_final, update_or_push_stt_cue, SourceFinalityStore.set,
    SourceFinalityStore.contains]

/-- A late partial text that the guards ignore leaves all of the cue as it was exactly when the
provider was not known to have finished its source. -/
theorem a_late_partial_is_ignored_iff (ops : List CueOp) (cue_id : String) (source_text : Text)
    (committed : Bool) (now : Nat) (h : Ignored (reached ops) cue_id source_text committed) :
    Untouched cue_id (reached ops)
        (step (reached ops) (.update_or_push_stt_cue cue_id source_text committed now)) ↔
      subtitle_source_is_final (reached ops) cue_id = false := by
  have hoverlay := ignored_overlay (reached_in_sync ops) h now
  obtain ⟨_, _, _, rfl, _⟩ := h
  have hfinal : subtitle_source_is_final (step (reached ops) (.update_or_push_stt_cue cue_id
      source_text false now)) cue_id = false := partial_is_not_final _ _ _ _
  constructor
  · intro hsame
    exact hsame.finality.symm.trans hfinal
  · intro hbefore
    refine ⟨?_, ?_, hfinal.trans hbefore.symm, ?_⟩
    · exact congrArg (fun overlay => find_cue cue_id overlay.recent_cues) hoverlay
    · exact congrArg SubtitleOverlay.active_cue hoverlay
    · simp only [fed_finality, hfinal, hbefore]

/-- A cue that its quiet period has committed, and not the provider. -/
def committed_by_quiet : List CueOp :=
  [.update_or_push_stt_cue "cue-1" "hello world".toList false 1, .commit_subtitle_cue "cue-1" 2 3]

theorem a_partial_after_the_quiet_period_is_ignored :
    Ignored (reached committed_by_quiet) "cue-1" "hello".toList false ∧
      Untouched "cue-1" (reached committed_by_quiet)
        (step (reached committed_by_quiet)
          (.update_or_push_stt_cue "cue-1" "hello".toList false 4)) := by
  have hignored : Ignored (reached committed_by_quiet) "cue-1" "hello".toList false :=
    ⟨_, rfl, rfl, rfl, by decide, by decide⟩
  refine ⟨hignored, ?_⟩
  exact (a_late_partial_is_ignored_iff committed_by_quiet "cue-1" "hello".toList false 4
    hignored).mpr (by decide +kernel)

/-- A cue that the provider has finished. -/
def committed_by_provider : List CueOp :=
  [.commit_stt_cue "cue-1" "hello world".toList "inbound" 1 2]

theorem a_late_partial_undoes_the_finality :
    Ignored (reached committed_by_provider) "cue-1" "hello".toList false ∧
      fed_finality (reached committed_by_provider) "cue-1" = .ProviderFinal ∧
      ¬ Untouched "cue-1" (reached committed_by_provider)
        (step (reached committed_by_provider)
          (.update_or_push_stt_cue "cue-1" "hello".toList false 3)) := by
  refine ⟨⟨_, rfl, rfl, rfl, by decide, by decide⟩, by decide +kernel, fun h => ?_⟩
  have hfinal := h.finality
  revert hfinal
  decide +kernel

end omni_translate.cue_store

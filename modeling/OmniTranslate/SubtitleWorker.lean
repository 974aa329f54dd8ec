-- The secondary subtitle worker of `subtitle_translate/worker.rs` on one cue.
-- The store advances the revision of the cue when its text is replaced; the
-- ledger of the worker takes the revision over only when its splitter finds
-- its committed text contradicted. The law says exactly when the two agree.
import OmniTranslate.Runs
import OmniTranslate.Sentence
import OmniTranslate.TranslationLifecycle

namespace omni_translate.subtitle_translate

open text runs translation_lifecycle
open sentence (Instant SentenceSplitter F64 HypothesisFinality normalize_hypothesis)

set_option linter.unusedSectionVars false

variable {F : Type} [F64 F]

/-! ## The ledger -/

/-- The ledger of a cue, with the fields that decide its feeds. -/
structure CueTranslationLedger (F : Type) where
  splitter : SentenceSplitter F
  revision : Nat
  last_processed_text : Text

def CueTranslationLedger.new_for_revision (revision : Nat) : CueTranslationLedger F :=
  ⟨SentenceSplitter.new, revision, []⟩

def sync_ledger_revision (cue : SubtitleCue) (ledger : CueTranslationLedger F) :
    CueTranslationLedger F :=
  { ledger with revision := cue.revision.getD (saturating_succ ledger.revision) }

/-! ## The system of one cue -/

/-- The entry of the cue in the store, its finality, and the ledger of the worker. `replaced`
records that the revision was advanced since the ledger took its own. -/
structure CueSystem (F : Type) where
  cue : Option SubtitleCue
  source_final : Bool
  ledger : Option (CueTranslationLedger F)
  alive : Bool
  replaced : Bool

def CueSystem.new : CueSystem F := ⟨none, false, none, true, false⟩

/-- What a poll reads beside the cue: whether the cue may be translated, whether the scheduler
has work for it, whether the provider failed for good, which of its timeouts have passed, and
the clocks. -/
structure Poll where
  translation_allowed : Bool
  has_translation_work : Bool
  fatal_provider_error : Bool
  commit_quiet_passed : Bool
  source_only_timeout_passed : Bool
  sequence : Nat
  message : Text
  now : Instant
  unix_ms : Nat

inductive Op
  | update_or_push_stt_cue (source_text : Text) (committed : Bool) (sequence unix_ms : Nat)
  | commit_stt_cue (direction : String) (source_text : Text) (sequence unix_ms : Nat)
  | translation_update (mutation : TranslationMutation)
  | display_update (mutation : TranslationMutation) (display_source_text : Text)
      (display_segments : List SubtitleDisplaySegment)
  | commit_subtitle_cue (sequence unix_ms : Nat)
  | poll (p : Poll)

namespace CueSystem

variable (s : CueSystem F)

/-- A source update of the cue. -/
def publish (cue : SubtitleCue) (source_final : Bool) : CueSystem F :=
  { s with
    cue := some cue
    source_final
    replaced := s.replaced || s.cue.any (fun old => cue_revision old ≠ cue_revision cue) }

/-- A translation, a display update or a commit of the cue, if it is there. -/
def write (f : SubtitleCue → SubtitleCue) : CueSystem F :=
  { s with cue := s.cue.map f }

/-- The terminal error that the worker publishes under the revision of its ledger. -/
def publish_terminal_translation_error (p : Poll) (revision : Nat) : CueSystem F :=
  s.write fun cue => (apply_translation_update cue ⟨some revision, p.sequence, p.message, .Error⟩).1

/-- The ledgers that a poll keeps: of cues it may feed or that have work. -/
def retain (p : Poll) : CueSystem F :=
  if s.cue.any (fun cue => !cue.translation_committed && p.translation_allowed) ||
      p.has_translation_work then s
  else { s with ledger := none }

/-- The ledger of the cue, made when it is not there. -/
def enter (cue : SubtitleCue) : CueSystem F × CueTranslationLedger F :=
  match s.ledger with
  | some ledger => (s, ledger)
  | none =>
    let ledger := CueTranslationLedger.new_for_revision (cue.revision.getD 1)
    ({ s with ledger := some ledger, replaced := false }, ledger)

variable (g : Segmentation)

/-- The feed of the cue's text. A panic ends the worker. -/
def feed (s : CueSystem F) (p : Poll) (cue : SubtitleCue) (ledger : CueTranslationLedger F) : CueSystem F :=
  let finality := if s.source_final then HypothesisFinality.ProviderFinal else .Partial
  match ledger.splitter.feed_internal g cue.source_text (.Hypothesis finality) p.now p.unix_ms with
  | none => { s with alive := false }
  | some (splitter, result) =>
    let ledger := { ledger with splitter }
    let ledger := if result.revision_reset then sync_ledger_revision cue ledger else ledger
    { s with
      ledger := some { ledger with last_processed_text := cue.source_text }
      replaced := s.replaced && !result.revision_reset }

/-- What the worker does with a cue before it feeds it: a cue whose text did not change may be
closed instead. -/
def closes (p : Poll) (cue : SubtitleCue) (ledger : CueTranslationLedger F) : Bool :=
  cue.source_text = ledger.last_processed_text &&
    ((cue.translated_text ≠ [] && !p.has_translation_work && p.commit_quiet_passed) ||
      (cue.translated_text = [] && !p.has_translation_work && p.source_only_timeout_passed))

/-- `process_translation_cues` on the cue. -/
def process_translation_cue (s : CueSystem F) (p : Poll) (cue : SubtitleCue) : CueSystem F :=
  if cue.source_text = [] then s
  else
    let (s, ledger) := s.enter cue
    if p.fatal_provider_error then s.publish_terminal_translation_error p ledger.revision
    else if closes p cue ledger then
      if cue.translated_text ≠ [] then s.write (commit_cue · p.sequence p.unix_ms)
      else s.publish_terminal_translation_error p ledger.revision
    else s.feed g p cue ledger

/-- One turn of the worker's loop, on the cue. -/
def poll (s : CueSystem F) (p : Poll) : CueSystem F :=
  if !s.alive then s
  else
    let s := s.retain p
    match s.cue with
    | none => s
    | some cue =>
      if !cue.translation_committed && p.translation_allowed then s.process_translation_cue g p cue
      else s

def step (cue_id : String) (s : CueSystem F) : Op → CueSystem F
  | .update_or_push_stt_cue source_text committed sequence unix_ms =>
    s.publish (update_or_push_stt_cue s.cue cue_id source_text committed sequence unix_ms) committed
  | .commit_stt_cue direction source_text sequence unix_ms =>
    s.publish (commit_stt_cue s.cue cue_id direction source_text sequence unix_ms) true
  | .translation_update mutation => s.write fun cue => (apply_translation_update cue mutation).1
  | .display_update mutation text segments =>
    s.write fun cue => (apply_display_update cue mutation text segments).1
  | .commit_subtitle_cue sequence unix_ms => s.write (commit_cue · sequence unix_ms)
  | .poll p => s.poll g p

end CueSystem

/-! ## What a poll does to the two revisions -/

variable {g : Segmentation}

/-- A feed reports a reset exactly when the text contradicts the committed text. -/
theorem feed_internal_reset {s s' : SentenceSplitter F} {t : Text} {mode : sentence.FeedMode}
    {now : Instant} {unix_ms : Nat} {r : sentence.SentenceFeedResult}
    (h : s.feed_internal g t mode now unix_ms = some (s', r)) :
    r.revision_reset = s.resets (normalize_hypothesis t) := by
  simp only [SentenceSplitter.feed_internal] at h
  generalize (if s.resets (normalize_hypothesis t) = true then s.reset else s) = started at h
  split at h
  · cases h
    rfl
  · simp only [Option.bind_eq_bind, Option.bind_eq_some_iff, Prod.exists] at h
    obtain ⟨_, _, _, _, _, _, _, _, _, heq⟩ := h
    cases heq
    rfl

/-- The ledger is level with the store, or behind it when the text was replaced. -/
structure Tracked (s : CueSystem F) : Prop where
  revised : ∀ cue, s.cue = some cue → cue.revision.isSome = true
  level : ∀ ledger, s.ledger = some ledger → ∃ cue, s.cue = some cue ∧
    if s.replaced then ledger.revision < cue_revision cue else ledger.revision = cue_revision cue

theorem tracked_new : Tracked (CueSystem.new : CueSystem F) :=
  ⟨by simp [CueSystem.new], by simp [CueSystem.new]⟩

variable {s : CueSystem F} {cue : SubtitleCue}

theorem Tracked.publish (h : Tracked s) (source_final : Bool) (ha : Advances s.cue cue) :
    Tracked (s.publish cue source_final) := by
  refine ⟨?_, ?_⟩
  · rintro _ ⟨⟩
    exact ha.revised
  · intro ledger hl
    obtain ⟨old, hold, hlevel⟩ := h.level ledger hl
    refine ⟨cue, rfl, ?_⟩
    simp only [CueSystem.publish, hold, Option.any_some]
    have hlater := ha.later old hold
    by_cases hr : s.replaced = true
    · rw [if_pos hr] at hlevel
      simp only [hr, Bool.true_or, if_true]
      omega
    · rw [if_neg hr] at hlevel
      rcases hlater with heq | _
      · simp [hr, heq, hlevel]
      · have hne : cue_revision old ≠ cue_revision cue := by omega
        simp only [hr, Bool.false_or, hne, ne_eq, not_false_eq_true, decide_true, if_true]
        omega

theorem Tracked.write (h : Tracked s) {f : SubtitleCue → SubtitleCue}
    (hf : ∀ cue, source_of (f cue) = source_of cue) : Tracked (s.write f) := by
  have hrev : ∀ cue, (f cue).revision = cue.revision := fun cue => congrArg Prod.fst (hf cue)
  refine ⟨?_, ?_⟩
  · intro cue hc
    obtain ⟨old, hold, rfl⟩ := Option.map_eq_some_iff.mp hc
    rw [hrev]
    exact h.revised old hold
  · intro ledger hl
    obtain ⟨old, hold, hlevel⟩ := h.level ledger hl
    refine ⟨f old, by simp [CueSystem.write, hold], ?_⟩
    simpa only [CueSystem.write, cue_revision, hrev] using hlevel

theorem Tracked.retain (h : Tracked s) (p : Poll) : Tracked (s.retain p) := by
  unfold CueSystem.retain
  split
  · exact h
  · exact ⟨h.revised, by simp⟩

theorem Tracked.enter (h : Tracked s) (hc : s.cue = some cue) :
    Tracked (s.enter cue).1 ∧ (s.enter cue).1.cue = some cue ∧
      (s.enter cue).1.ledger = some (s.enter cue).2 := by
  unfold CueSystem.enter
  split
  · rename_i ledger hl
    exact ⟨h, hc, hl⟩
  · refine ⟨⟨h.revised, ?_⟩, hc, rfl⟩
    rintro ledger ⟨⟩
    exact ⟨cue, hc, rfl⟩

variable {ledger : CueTranslationLedger F}

theorem feed_spec (p : Poll) (h : Tracked s) (hc : s.cue = some cue) (hl : s.ledger = some ledger) : Tracked (s.feed g p cue ledger) := by
  obtain ⟨cue', hc', hlevel⟩ := h.level ledger hl
  obtain rfl : cue = cue' := by
    rw [hc] at hc'
    exact Option.some.inj hc'
  unfold CueSystem.feed
  simp only
  split
  · exact ⟨h.revised, h.level⟩
  · rename_i _ result _
    refine ⟨h.revised, ?_⟩
    rintro _ ⟨⟩
    refine ⟨cue, hc, ?_⟩
    cases result.revision_reset with
    | false => simpa using hlevel
    | true =>
      obtain ⟨_, hr⟩ := Option.isSome_iff_exists.mp (h.revised cue hc)
      simp [sync_ledger_revision, cue_revision, hr]

theorem Tracked.poll (g : Segmentation) (h : Tracked s) (p : Poll) : Tracked (s.poll g p) := by
  have herr : ∀ revision, ∀ cue : SubtitleCue, source_of
      (apply_translation_update cue ⟨some revision, p.sequence, p.message, .Error⟩).1 =
        source_of cue := fun _ _ => source_of_translation_update _ _
  unfold CueSystem.poll
  split
  · exact h
  · have hr := h.retain p
    simp only
    split
    · exact hr
    · rename_i cue hc
      split
      · unfold CueSystem.process_translation_cue
        obtain ⟨he, hec, hel⟩ := hr.enter hc
        split
        · exact hr
        · simp only
          split
          · exact he.write (herr _)
          · split
            · split
              · exact he.write fun cue => source_of_commit cue _ _
              · exact he.write (herr _)
            · exact feed_spec p he hec hel
      · exact hr

theorem Tracked.step (g : Segmentation) (cue_id : String) (h : Tracked s) (op : Op) :
    Tracked (s.step g cue_id op) := by
  cases op with
  | update_or_push_stt_cue source_text _ sequence unix_ms =>
    exact h.publish _ (advances_update_or_push h.revised _ _ _ _ _)
  | commit_stt_cue _ source_text sequence unix_ms =>
    exact h.publish _ (advances_commit h.revised _ _ _ _ _)
  | translation_update mutation => exact h.write fun cue => source_of_translation_update cue _
  | display_update mutation _ _ =>
    exact h.write fun cue => source_of_display_update cue _ _ _
  | commit_subtitle_cue sequence unix_ms => exact h.write fun cue => source_of_commit cue _ _
  | poll p => exact h.poll g p

/-! ## When the ledger is level -/

/-- The poll feeds the cue, and the feed does not panic. -/
def feeds (g : Segmentation) (s : CueSystem F) (p : Poll) : Bool :=
  s.alive && s.cue.any fun cue =>
    !cue.translation_committed && p.translation_allowed && cue.source_text ≠ [] &&
      !p.fatal_provider_error && !CueSystem.closes p cue (s.enter cue).2 &&
      (((s.enter cue).1.feed g p cue (s.enter cue).2).alive)

/-- The ledger has the revision of the store, so no update under it is refused as stale. -/
def Level (s : CueSystem F) : Prop :=
  ∃ cue ledger, s.cue = some cue ∧ s.ledger = some ledger ∧
    ledger.revision = cue_revision cue ∧ ∀ mutation : TranslationMutation,
      mutation.expected_revision = some ledger.revision →
        translation_update_allowed cue mutation =
          transition_allowed cue.translation_state mutation.state

/-- After a poll that feeds the cue, the ledger is level. -/
def level_after (g : Segmentation) (s : CueSystem F) : Op → Prop
  | .poll p => feeds g s p = true → Level (s.poll g p)
  | _ => True

/-- At a poll that feeds the cue: if the revision was advanced since the ledger took its own,
the text contradicts what the splitter of the ledger has committed. -/
def replacement_is_seen (g : Segmentation) (s : CueSystem F) : Op → Prop
  | .poll p => feeds g s p = true → s.replaced = true → ∀ cue ledger, s.cue = some cue →
      s.ledger = some ledger →
      ledger.splitter.resets (normalize_hypothesis cue.source_text) = true
  | _ => True

/-- A poll that feeds the cue is the feed of the entered ledger. -/
theorem poll_of_feeds {p : Poll} (h : feeds g s p = true) :
    ∃ cue, s.cue = some cue ∧ s.poll g p = (s.enter cue).1.feed g p cue (s.enter cue).2 ∧
      ((s.enter cue).1.feed g p cue (s.enter cue).2).alive = true := by
  simp only [feeds, Bool.and_eq_true, Option.any_eq_true] at h
  obtain ⟨halive, cue, hc, ⟨⟨⟨⟨hcommit, hallowed⟩, htext⟩, hfatal⟩, hclose⟩, hfeed⟩ := h
  refine ⟨cue, hc, ?_, hfeed⟩
  have hretain : s.retain p = s := by
    unfold CueSystem.retain
    rw [if_pos (by simp [hc, hcommit, hallowed])]
  have htext : cue.source_text ≠ [] := by simpa using htext
  simp only [CueSystem.poll, halive, hretain, hc, hcommit, hallowed,
    CueSystem.process_translation_cue, if_neg htext]
  simp only [Bool.not_eq_true'] at hfatal hclose
  simp [hfatal, hclose]

theorem level_iff (hc : s.cue = some cue) (hl : s.ledger = some ledger) : Level s ↔ ledger.revision = cue_revision cue := by
  constructor
  · rintro ⟨_, _, hc', hl', heq, _⟩
    rw [hc] at hc'
    rw [hl] at hl'
    cases hc'
    cases hl'
    exact heq
  · intro heq
    refine ⟨cue, ledger, hc, hl, heq, ?_⟩
    intro mutation hm
    exact allowed_of_revision (by rw [hm, heq])

/-- After a feed, the ledger is level when the revision was not advanced or the splitter
reset. -/
theorem level_after_feed {p : Poll} (h : Tracked s) (hc : s.cue = some cue) (hl : s.ledger = some ledger)
    (halive : (s.feed g p cue ledger).alive = true) :
    Level (s.feed g p cue ledger) ↔ s.replaced = false ∨
      ledger.splitter.resets (normalize_hypothesis cue.source_text) = true := by
  have htracked := feed_spec (g := g) p h hc hl
  unfold CueSystem.feed at halive htracked ⊢
  simp only at halive htracked ⊢
  split
  · rename_i hnone
    simp [hnone] at halive
  · rename_i splitter result hsome
    have hreset := feed_internal_reset hsome
    simp only [hsome] at htracked
    obtain ⟨_, hc', hlevel⟩ := htracked.level _ rfl
    rw [← hreset]
    refine (level_iff hc' rfl).trans ?_
    rcases hr : s.replaced with _ | _
    · simpa [hr] using hlevel
    · cases hres : result.revision_reset with
      | false =>
        simp only [hr, hres, Bool.not_false, Bool.and_self, if_true, Bool.false_eq_true,
          if_false] at hlevel ⊢
        simp only [Bool.true_eq_false, or_self, iff_false]
        omega
      | true => simpa [hr, hres] using hlevel

theorem Level.revision (h : Level s) : s.ledger.map (·.revision) = s.cue.map cue_revision := by
  obtain ⟨cue, ledger, hc, hl, heq, _⟩ := h
  simp [hc, hl, heq]

/-- One poll: the ledger is level after it exactly when a replacement is seen. -/
theorem level_after_iff (g : Segmentation) (h : Tracked s) (op : Op) :
    level_after g s op ↔ replacement_is_seen g s op := by
  cases op with
  | poll _ =>
    refine imp_congr_right fun hfeeds => ?_
    obtain ⟨cue, hc, hpoll, halive⟩ := poll_of_feeds hfeeds
    rw [hpoll]
    obtain ⟨he, hec, hel⟩ := h.enter hc
    rw [level_after_feed he hec hel halive]
    unfold CueSystem.enter
    rcases hl : s.ledger with _ | ledger
    · simp
    · simp only [Option.some.injEq]
      constructor
      · rintro hor hr c _ hc' rfl
        obtain rfl : cue = c := Option.some.inj (hc.symm.trans hc')
        exact hor.resolve_left (by simp [hr])
      · intro hseen
        by_cases hr : s.replaced = true
        · exact Or.inr (hseen hr cue ledger hc rfl)
        · exact Or.inl (by simpa using hr)
  | _ => rfl

/-- Over every run of source updates, writes and polls, the ledger is level with the store
after every poll that feeds the cue exactly when every such poll sees the replacements of the
text. -/
theorem the_ledger_stays_level_iff (g : Segmentation) (cue_id : String) (ops : List Op) :
    Along (CueSystem.step g cue_id) (level_after g) (CueSystem.new : CueSystem F) ops ↔
      Along (CueSystem.step g cue_id) (replacement_is_seen g) (CueSystem.new : CueSystem F)
        ops := by
  refine Along.congr (fun s : CueSystem F => Tracked s) tracked_new
    (Along.of_forall (fun _ _ => True) (fun _ _ => trivial) _ _) ?_ ?_
  · intro s op h _
    exact level_after_iff g h op
  · intro s op h _ _
    exact h.step g cue_id op

/-- A poll in which nothing is in the way of the feed. -/
def plain_poll (now : Instant) : Op :=
  .poll ⟨true, false, false, false, false, 0, [], now, 0⟩

/-- A partial text that is rewritten before any of it is committed. -/
def a_rewritten_text : List Op :=
  [.update_or_push_stt_cue "hello".toList false 1 0, plain_poll 0,
    .update_or_push_stt_cue "goodbye".toList false 2 0, plain_poll 1]

theorem a_rewritten_text_leaves_the_ledger_behind :
    ¬ Along (CueSystem.step Segmentation.chars "cue-1") (level_after Segmentation.chars)
      (CueSystem.new : CueSystem ℚ) a_rewritten_text := by
  intro h
  have hlevel := (h.2.2.2.1 (by decide +kernel)).revision
  revert hlevel
  decide +kernel

end omni_translate.subtitle_translate

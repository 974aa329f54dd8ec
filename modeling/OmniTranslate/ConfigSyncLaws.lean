-- When the windows settle on one configuration: they do if they take turns,
-- and a window that changes its draft while another one's is on its way can
-- leave them apart.
import OmniTranslate.ConfigSync
import Mathlib.Data.Fintype.Basic

namespace omni_translate.config_sync

open runs
open Function (update_self update_of_ne)

variable {Window Draft Text : Type}
variable {merge : Draft → Draft} {stringify : Draft → Text}
variable {s : System Window Draft Text} {w : WindowState Draft Text} {latest : Text} {owner window : Window}

/-- No event is in flight, every persist queue is idle and its last save did not fail. -/
def Settled (s : System Window Draft Text) : Prop :=
  (∀ sender receiver, s.events sender receiver = []) ∧
    ∀ window, (s.windows window).inflight = none ∧ (s.windows window).pending = none ∧
      (s.windows window).failed = false

/-- All windows hold the stored configuration. -/
def Agreed (stringify : Draft → Text) (s : System Window Draft Text) : Prop :=
  ∀ window, stringify (s.windows window).config_draft = stringify s.stored

/-- A window changes its draft, to one that is complete, only when no event and no save of another
window is under way, and it retries its save only when no other draft is on its way to it. -/
def Turn (merge : Draft → Draft) (stringify : Draft → Text) (s : System Window Draft Text) :
    Op Window Draft → Prop
  | .changes window config_draft =>
    stringify config_draft ≠ (s.windows window).last_serialized_config →
      stringify (merge config_draft) = stringify config_draft ∧
        ∀ other ≠ window, (∀ receiver, s.events other receiver = []) ∧ (s.windows other).inflight = none
  | .retries window =>
    ∀ sender, ∀ next ∈ s.events sender window, stringify next = stringify (s.windows window).config_draft
  | _ => True

/-! ## One persist queue -/

variable (stringify) in
/-- What a queue saves last is the latest draft; a window that did not write it saves nothing else. -/
structure Saves (latest : Text) (other : Prop) (w : WindowState Draft Text) : Prop where
  idle : w.inflight = none → w.pending = none
  pending : ∀ next, w.pending = some next → stringify next = latest
  flight : ∀ flight, w.inflight = some flight → w.pending = none ∨ other → stringify flight.next_config = latest

/-- A save is still to be made, or the last one failed. -/
def Owing (w : WindowState Draft Text) : Prop :=
  w.pending.isSome ∨ (∃ flight, w.inflight = some flight ∧ flight.phase ≠ .refreshing) ∨
    (w.inflight = none ∧ w.failed = true)

variable {other : Prop}

theorem Saves.flush (hpending : ∀ next, w.pending = some next → stringify next = latest)
    (hflight : ∀ flight, w.inflight = some flight → w.pending = none ∨ other →
      stringify flight.next_config = latest) : Saves stringify latest other (flush_persist_queue w) := by
  unfold flush_persist_queue
  split
  · next next hnone hsome =>
    refine ⟨fun h => rfl, fun next h => (by cases h), fun flight h _ => ?_⟩
    rw [← Option.some.inj h]
    exact hpending next hsome
  · next hne =>
    refine ⟨fun hnone => ?_, hpending, hflight⟩
    rcases h : w.pending with _ | next
    · rfl
    · exact (hne next hnone h).elim

theorem Saves.finish (h : Saves stringify latest other w) (failed : Bool) :
    Saves stringify latest other (finish_flush w failed) :=
  .flush h.pending fun _ hnone => by cases hnone

theorem Saves.phase (h : Saves stringify latest other w) {flight flight' : Flight Draft}
    (hflight : w.inflight = some flight) (hsame : flight'.next_config = flight.next_config) :
    Saves stringify latest other { w with inflight := some flight' } := by
  refine ⟨fun hnone => (by cases hnone), h.pending, fun _ hf hother => ?_⟩
  rw [← Option.some.inj hf, hsame]
  exact h.flight flight hflight hother

theorem Saves.fails (h : Saves stringify latest other w) {flight : Flight Draft}
    (hflight : w.inflight = some flight) : Saves stringify latest other (attempt_fails w flight) := by
  unfold attempt_fails
  split
  · exact h.phase hflight rfl
  · exact h.finish true

theorem Owing.flush (h : w.pending.isSome) : Owing (flush_persist_queue w) := by
  unfold flush_persist_queue
  split
  · exact .inr (.inl ⟨_, rfl, Phase.noConfusion⟩)
  · exact .inl h

theorem Owing.finish (h : w.pending.isSome) (failed : Bool) : Owing (finish_flush w failed) := .flush h

theorem Owing.failed : Owing (finish_flush w true) := by
  rcases h : w.pending with _ | _
  · unfold finish_flush flush_persist_queue
    exact .inr (.inr (by simp [h]))
  · exact .finish (by simp [h]) true

theorem Owing.fails {flight : Flight Draft} : Owing (attempt_fails w flight) := by
  unfold attempt_fails
  split
  · exact .inr (.inl ⟨_, rfl, Phase.noConfusion⟩)
  · exact .failed

/-- A queue neither changes the draft of its window nor what it was serialized to. -/
@[simp] theorem flush_draft : (flush_persist_queue w).config_draft = w.config_draft := by
  unfold flush_persist_queue
  split <;> rfl

@[simp] theorem flush_last : (flush_persist_queue w).last_serialized_config = w.last_serialized_config := by
  unfold flush_persist_queue
  split <;> rfl

@[simp] theorem finish_draft (failed : Bool) : (finish_flush w failed).config_draft = w.config_draft :=
  flush_draft

@[simp] theorem finish_last (failed : Bool) :
    (finish_flush w failed).last_serialized_config = w.last_serialized_config := flush_last

@[simp] theorem fails_draft (flight : Flight Draft) : (attempt_fails w flight).config_draft = w.config_draft := by
  unfold attempt_fails
  split
  · rfl
  · exact finish_draft true

@[simp] theorem fails_last (flight : Flight Draft) :
    (attempt_fails w flight).last_serialized_config = w.last_serialized_config := by
  unfold attempt_fails
  split
  · rfl
  · exact finish_last true

/-! ## All windows -/

/-- The draft that a window comes to hold when every event of the owner has reached it. -/
def coming (s : System Window Draft Text) (owner receiver : Window) : Draft :=
  (s.events owner receiver).getLast?.getD (s.windows receiver).config_draft

variable (merge stringify) in
/-- One window, the owner, has written the latest draft: all windows come to hold it, and it is
stored or the owner still has to save it. -/
structure Aligned (s : System Window Draft Text) (owner : Window) (latest : Text) : Prop where
  quiet : ∀ other ≠ owner, ∀ receiver, s.events other receiver = []
  complete : ∀ receiver, ∀ next ∈ s.events owner receiver, stringify (merge next) = stringify next
  coming : ∀ receiver, stringify (coming s owner receiver) = latest
  serialized : ∀ window, (s.windows window).last_serialized_config = stringify (s.windows window).config_draft
  saves : ∀ window, Saves stringify latest (window ≠ owner) (s.windows window)
  stored : stringify s.stored = latest ∨ Owing (s.windows owner)

theorem Aligned.agreed (h : Aligned merge stringify s owner latest) (hsettled : Settled s) :
    Agreed stringify s := by
  intro window
  have hcoming := h.coming window
  rw [config_sync.coming, hsettled.1 owner window] at hcoming
  obtain ⟨hidle, hnone, hok⟩ := hsettled.2 owner
  rcases h.stored with hstored | hpending | ⟨_, hflight, -⟩ | ⟨-, hfailed⟩
  · rw [hstored]
    exact hcoming
  · rw [hnone] at hpending
    cases hpending
  · rw [hidle] at hflight
    cases hflight
  · rw [hok] at hfailed
    cases hfailed

theorem aligned_start {stored : Draft} (hstored : stringify (merge stored) = stringify stored) (owner : Window) :
    Aligned merge stringify (start merge stringify stored : System Window Draft Text) owner (stringify stored) where
  quiet _ _ _ := rfl
  complete _ _ h := by cases h
  coming _ := hstored
  serialized _ := rfl
  saves _ := ⟨fun _ => rfl, fun _ h => (by cases h), fun _ h => (by cases h)⟩
  stored := .inl rfl

variable [DecidableEq Window]

section

variable (h : Aligned merge stringify s owner latest)

include h

/-- A change in one window's queue, while its draft and the events stay. -/
theorem Aligned.of_queue {stored : Draft}
    (hdraft : stringify w.config_draft = stringify (s.windows window).config_draft)
    (hlast : w.last_serialized_config = (s.windows window).last_serialized_config)
    (hsaves : Saves stringify latest (window ≠ owner) w)
    (hstored : stringify stored = latest ∨ Owing (if window = owner then w else s.windows owner)) :
    Aligned merge stringify { update s window w with stored } owner latest := by
  have hdrafts (k : Window) : stringify (Function.update s.windows window w k).config_draft =
      stringify (s.windows k).config_draft := by
    by_cases hk : k = window
    · subst hk
      rw [update_self, hdraft]
    · rw [update_of_ne hk]
  refine ⟨h.quiet, h.complete, fun receiver => ?_, fun k => ?_, fun k => ?_, ?_⟩
  · rw [← h.coming receiver]
    unfold config_sync.coming
    rcases hevents : (s.events owner receiver).getLast? with _ | _
    · simpa only [update, hevents, Option.getD_none] using hdrafts receiver
    · simp only [update, hevents, Option.getD_some]
  · by_cases hk : k = window
    · subst hk
      simp only [update, update_self, hlast, hdraft, h.serialized]
    · simp only [update, update_of_ne hk, h.serialized]
  · by_cases hk : k = window
    · subst hk
      simpa only [update, update_self] using hsaves
    · simpa only [update, update_of_ne hk] using h.saves k
  · refine hstored.imp_right fun howing => ?_
    by_cases hk : owner = window
    · subst hk
      simpa only [update, update_self, if_true] using howing
    · rw [if_neg (Ne.symm hk)] at howing
      simpa only [update, update_of_ne hk] using howing

/-! ## Steps -/

/-- A step in a queue that leaves the store as it is. -/
theorem Aligned.in_queue
    (hdraft : stringify w.config_draft = stringify (s.windows window).config_draft)
    (hlast : w.last_serialized_config = (s.windows window).last_serialized_config)
    (hsaves : Saves stringify latest (window ≠ owner) w)
    (howing : window = owner → stringify s.stored = latest ∨ Owing w) :
    Aligned merge stringify (update s window w) owner latest := by
  refine h.of_queue hdraft hlast hsaves ?_
  by_cases hk : window = owner
  · rw [if_pos hk]
    exact howing hk
  · rw [if_neg hk]
    exact h.stored

theorem Aligned.saves_step (window : Window) (ok : Bool) :
    Aligned merge stringify (config_sync.saves s window ok) owner latest := by
  unfold config_sync.saves
  split
  · next next_config attempt hflight =>
    split
    · refine h.of_queue rfl rfl ((h.saves window).phase hflight rfl) ?_
      rcases hpending : (s.windows window).pending with _ | next
      · exact .inl ((h.saves window).flight _ hflight (.inl hpending))
      · by_cases hk : window = owner
        · rw [if_pos hk]
          exact .inr (.inl (by simp [hpending]))
        · exact .inl ((h.saves window).flight _ hflight (.inr hk))
    · exact h.in_queue (congrArg stringify (fails_draft _)) (fails_last _) ((h.saves window).fails hflight) fun _ => .inr .fails
  · exact h

theorem Aligned.refreshes_step (window : Window) (ok : Bool) :
    Aligned merge stringify (refreshes s window ok) owner latest := by
  unfold refreshes
  split
  · next next_config attempt hflight =>
    split
    · refine h.in_queue (congrArg stringify (finish_draft _)) (finish_last _) ((h.saves window).finish false) fun hk => ?_
      subst hk
      rcases h.stored with hstored | hpending | ⟨_, hflight', hphase⟩ | ⟨hnone, -⟩
      · exact .inl hstored
      · exact .inr (.finish hpending false)
      · rw [hflight, Option.some.injEq] at hflight'
        exact absurd (hflight' ▸ rfl) hphase
      · rw [hflight] at hnone
        cases hnone
    · exact h.in_queue (congrArg stringify (fails_draft _)) (fails_last _) ((h.saves window).fails hflight) fun _ => .inr .fails
  · exact h

theorem Aligned.wakes_step (window : Window) :
    Aligned merge stringify (wakes s window) owner latest := by
  unfold wakes
  split
  · next next_config attempt hflight =>
    exact h.in_queue rfl rfl ((h.saves window).phase hflight rfl) fun _ =>
      .inr (.inr (.inl ⟨_, rfl, Phase.noConfusion⟩))
  · exact h

omit [DecidableEq Window] in
/-- The draft of a window is the latest one when no other is on its way to it. -/
theorem Aligned.latest_draft
    (hevents : ∀ next ∈ s.events owner window, stringify next = stringify (s.windows window).config_draft) :
    stringify (s.windows window).config_draft = latest := by
  have hcoming := h.coming window
  unfold config_sync.coming at hcoming
  rcases hlast : (s.events owner window).getLast? with _ | next
  · rwa [hlast, Option.getD_none] at hcoming
  · rw [hlast, Option.getD_some] at hcoming
    rw [← hcoming, hevents next (List.mem_of_getLast? hlast)]

theorem Aligned.retries_step (hturn : Turn merge stringify s (.retries window)) :
    Aligned merge stringify (retries s window) owner latest := by
  have hdraft := h.latest_draft (hturn owner)
  refine h.in_queue (congrArg stringify flush_draft) flush_last (.flush ?_ ?_) fun _ => .inr (.flush rfl)
  · intro next hnext
    rw [← Option.some.inj hnext, hdraft]
  · intro flight hflight hother
    exact (h.saves window).flight flight hflight (.inr (hother.resolve_left fun hnone => by cases hnone))

end

variable [DecidableEq Text]

/-- An event that is delivered becomes the draft of its receiver. -/
theorem apply_external {next : Draft} (hserialized : w.last_serialized_config = stringify w.config_draft)
    (hcomplete : stringify (merge next) = stringify next) :
    stringify (apply_external_config_sync merge stringify w next).config_draft = stringify next ∧
      (apply_external_config_sync merge stringify w next).last_serialized_config =
        stringify (apply_external_config_sync merge stringify w next).config_draft := by
  unfold apply_external_config_sync
  split
  · next hsame => exact ⟨by rw [hsame, hserialized], hserialized⟩
  · refine ⟨?_, rfl⟩
    unfold set_config_draft
    dsimp only
    split
    · next hsame => rw [← hsame, hcomplete]
    · exact hcomplete

omit [DecidableEq Window] in
theorem Saves.apply (h : Saves stringify latest other w) (next : Draft) :
    Saves stringify latest other (apply_external_config_sync merge stringify w next) := by
  unfold apply_external_config_sync
  split
  · exact h
  · exact ⟨h.idle, h.pending, h.flight⟩

omit [DecidableEq Window] in
theorem Owing.apply (h : Owing w) (next : Draft) :
    Owing (apply_external_config_sync merge stringify w next) := by
  unfold apply_external_config_sync
  split
  · exact h
  · exact h

section

variable (h : Aligned merge stringify s owner latest)

include h

theorem Aligned.delivers_step (sender receiver : Window) :
    Aligned merge stringify (delivers merge stringify s sender receiver) owner latest := by
  unfold delivers
  split
  · exact h
  · next next rest hevents =>
    -- Only the owner's events are in flight.
    obtain rfl : sender = owner := by
      by_contra hne
      rw [h.quiet sender hne] at hevents
      cases hevents
    have hcomplete := h.complete receiver next (by rw [hevents]; exact List.mem_cons_self)
    obtain ⟨hdraft, hserialized⟩ := apply_external (h.serialized receiver) hcomplete
    refine ⟨fun other hne r => ?_, fun r d hd => ?_, fun r => ?_, fun k => ?_, fun k => ?_, ?_⟩
    · dsimp only
      rw [update_of_ne hne]
      exact h.quiet other hne r
    · dsimp only at hd
      rw [update_self] at hd
      by_cases hr : r = receiver
      · subst hr
        rw [update_self] at hd
        exact h.complete r d (by rw [hevents]; exact List.mem_cons_of_mem next hd)
      · rw [update_of_ne hr] at hd
        exact h.complete r d hd
    · have hcoming := h.coming r
      unfold config_sync.coming at hcoming ⊢
      dsimp only [update]
      rw [update_self]
      by_cases hr : r = receiver
      · subst hr
        rw [update_self, update_self]
        rw [hevents] at hcoming
        rcases hlast : rest.getLast? with _ | d
        · rw [List.getLast?_eq_none_iff.mp hlast] at hcoming
          rw [Option.getD_none, hdraft]
          exact hcoming
        · rw [List.getLast?_cons, hlast, Option.getD_some] at hcoming
          exact hcoming
      · rw [update_of_ne hr, update_of_ne hr]
        exact hcoming
    · by_cases hk : k = receiver
      · subst hk
        simp only [update, update_self, hserialized]
      · simp only [update, update_of_ne hk, h.serialized]
    · by_cases hk : k = receiver
      · subst hk
        simpa only [update, update_self] using (h.saves k).apply next
      · simpa only [update, update_of_ne hk] using h.saves k
    · refine h.stored.imp_right fun howing => ?_
      by_cases hk : sender = receiver
      · subst hk
        simpa only [update, update_self] using howing.apply next
      · simpa only [update, update_of_ne hk] using howing

/-- A window that changes its draft in its turn becomes the owner. -/
theorem Aligned.changes_step {config_draft : Draft}
    (hturn : Turn merge stringify s (.changes window config_draft)) :
    ∃ owner latest, Aligned merge stringify (changes stringify s window config_draft) owner latest := by
  unfold changes
  dsimp only
  split
  · next hsame =>
    refine ⟨owner, latest, h.in_queue ?_ rfl ?_ fun hk => ?_⟩
    · exact hsame.trans (h.serialized window)
    · obtain ⟨hidle, hpending, hflight⟩ := h.saves window
      exact ⟨hidle, hpending, hflight⟩
    · exact hk ▸ h.stored
  · next hnew =>
    obtain ⟨hcomplete, hothers⟩ := hturn hnew
    refine ⟨window, stringify config_draft, fun other hne r => ?_, fun r d hd => ?_, fun r => ?_, fun k => ?_,
      fun k => ?_, ?_⟩
    · simp only [emit, update, if_neg hne]
      exact (hothers other hne).1 r
    · simp only [emit, update, if_true, List.mem_append, List.mem_singleton] at hd
      rcases hd with hold | rfl
      · by_cases hk : window = owner
        · subst hk
          exact h.complete r d hold
        · rw [h.quiet window hk r] at hold
          cases hold
      · exact hcomplete
    · simp [config_sync.coming, emit, update]
    · by_cases hk : k = window
      · subst hk
        simp only [emit, update, update_self, flush_draft, flush_last]
      · simp only [emit, update, update_of_ne hk, h.serialized]
    · by_cases hk : k = window
      · subst hk
        simp only [emit, update, update_self]
        refine .flush (fun next hnext => ?_) fun flight _ hother => ?_
        · rw [Option.some.inj hnext]
        · exact (hother.elim (fun hnone => by cases hnone) fun hne => (hne rfl).elim)
      · simp only [emit, update, update_of_ne hk]
        have hnone := (hothers k hk).2
        refine ⟨(h.saves k).idle, fun next hnext => ?_, fun flight hflight => ?_⟩
        · rw [(h.saves k).idle hnone] at hnext
          cases hnext
        · rw [hnone] at hflight
          cases hflight
    · refine .inr ?_
      simp only [emit, update, update_self]
      exact .flush rfl

/-! ## Runs -/

theorem Aligned.step {op : Op Window Draft} (hturn : Turn merge stringify s op) :
    ∃ owner latest, Aligned merge stringify (step merge stringify s op) owner latest := by
  cases op with
  | changes window _ => exact h.changes_step hturn
  | delivers sender receiver => exact ⟨owner, latest, h.delivers_step sender receiver⟩
  | saves window ok => exact ⟨owner, latest, h.saves_step window ok⟩
  | refreshes window ok => exact ⟨owner, latest, h.refreshes_step window ok⟩
  | wakes window => exact ⟨owner, latest, h.wakes_step window⟩
  | retries window => exact ⟨owner, latest, h.retries_step hturn⟩

end

/-- Windows that take turns agree whenever they settle. -/
theorem windows_agree_in_turns (stored : Draft) (hstored : stringify (merge stored) = stringify stored)
    (ops : List (Op Window Draft))
    (hturns : Along (step merge stringify) (Turn merge stringify) (start merge stringify stored) ops)
    (hsettled : Settled (run (step merge stringify) (start merge stringify stored) ops)) :
    Agreed stringify (run (step merge stringify) (start merge stringify stored) ops) := by
  intro window
  have hrun := hturns.keeps (fun s => ∃ owner latest, Aligned merge stringify s owner latest)
    (fun s _ h hturn => h.elim fun owner h => h.elim fun latest h => h.step hturn)
    ⟨window, _, aligned_start hstored window⟩
  obtain ⟨owner, latest, halign⟩ := hrun
  exact halign.agreed hsettled window

/-! ## Two windows -/

instance decidableTurn [Fintype Window] [DecidableEq Draft] (s : System Window Draft Text) :
    (op : Op Window Draft) → Decidable (Turn merge stringify s op)
  | .changes window config_draft => inferInstanceAs (Decidable
      (stringify config_draft ≠ (s.windows window).last_serialized_config →
        stringify (merge config_draft) = stringify config_draft ∧
          ∀ other ≠ window, (∀ receiver, s.events other receiver = []) ∧ (s.windows other).inflight = none))
  | .retries window => inferInstanceAs (Decidable (∀ sender, ∀ next ∈ s.events sender window,
      stringify next = stringify (s.windows window).config_draft))
  | .delivers _ _ => isTrue trivial
  | .saves _ _ => isTrue trivial
  | .refreshes _ _ => isTrue trivial
  | .wakes _ => isTrue trivial

instance [Fintype Window] [DecidableEq Draft] (s : System Window Draft Text) : Decidable (Settled s) :=
  inferInstanceAs (Decidable ((∀ sender receiver, s.events sender receiver = []) ∧
    ∀ window, (s.windows window).inflight = none ∧ (s.windows window).pending = none ∧
      (s.windows window).failed = false))

instance [Fintype Window] (s : System Window Draft Text) : Decidable (Agreed stringify s) :=
  inferInstanceAs (Decidable (∀ window, stringify (s.windows window).config_draft = stringify s.stored))

/-- One window changes its draft and saves it at the second attempt, then the other does. -/
def in_turns : List (Op Bool String) :=
  [.changes true "a", .saves true false, .delivers true false, .wakes true, .saves true true,
    .refreshes true true, .delivers true true, .changes false "b", .saves false true, .retries false,
    .delivers false true, .refreshes false true, .delivers false false, .saves false true, .refreshes false true]

theorem two_windows_agree_in_turns :
    Agreed id (run (step id id) (start id id "") in_turns) :=
  windows_agree_in_turns "" rfl in_turns (by decide +kernel) (by decide +kernel)

/-- Both windows change their drafts, and each receives the other's event last. -/
def at_once : List (Op Bool String) :=
  [.changes true "a", .changes false "b", .delivers true true, .delivers false true, .delivers false false,
    .delivers true false, .saves true true, .refreshes true true, .saves false true, .refreshes false true]

/-- Two windows that change their drafts at once settle apart. -/
theorem two_windows_settle_apart :
    ¬ ∀ ops : List (Op Bool String), Settled (run (step id id) (start id id "") ops) →
      Agreed id (run (step id id) (start id id "") ops) := by
  intro h
  have hapart : Settled (run (step id id) (start id id "") at_once) ∧
      ¬ Agreed id (run (step id id) (start id id "") at_once) := by decide +kernel
  exact hapart.2 (h at_once hapart.1)

end omni_translate.config_sync

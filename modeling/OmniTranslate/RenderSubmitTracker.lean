-- The tracker of what is submitted to an endpoint (`RenderSubmitTracker` of
-- `speech/render_submit_tracker.rs`), and the reference windows that it emits.
import Mathlib.Algebra.Group.Nat.Defs
import OmniTranslate.Runs

namespace omni_translate.render_submit

open runs

def USIZE_MAX : Nat := 2 ^ 64 - 1

def saturating_add (a b : Nat) : Nat := min (a + b) USIZE_MAX

/-- A plain sum of two counts, which wraps. -/
def wrapping_add (a b : Nat) : Nat := (a + b) % 2 ^ 64

structure RenderReferenceWindow where
  start_frame : Nat
  end_frame : Nat
  submitted_frames : Nat
  endpoint_padding_frames : Nat
  played_frames : Nat
deriving DecidableEq

structure RenderSubmitTracker where
  total_frames : Nat
  total_reference_frames : Nat
  reference_frames : Nat
  physical_prefix_frames : Nat
  reference_start_frame : Nat
  submitted_frames : Nat
  submitted_frame_base : Nat
deriving DecidableEq

namespace RenderSubmitTracker

def new_with_reference_at_and_prefix (total_frames total_reference_frames reference_frames
    physical_prefix_frames submitted_frame_base : Nat) : RenderSubmitTracker where
  total_frames := total_frames
  total_reference_frames :=
    min total_reference_frames (total_frames - min physical_prefix_frames total_frames)
  reference_frames := max reference_frames 1
  physical_prefix_frames := min physical_prefix_frames total_frames
  reference_start_frame := 0
  submitted_frames := 0
  submitted_frame_base := submitted_frame_base

variable (t : RenderSubmitTracker)

/-- Where the window that is filled now ends. -/
def reference_end : Nat :=
  min (wrapping_add t.reference_start_frame t.reference_frames) t.total_reference_frames

def next_write_frames (available_frames : Nat) : Nat :=
  let remaining_frames := t.total_frames - t.submitted_frames
  if t.submitted_frames < t.physical_prefix_frames then
    min (min available_frames (t.physical_prefix_frames - t.submitted_frames)) remaining_frames
  else if t.reference_start_frame ≥ t.total_reference_frames then
    min available_frames remaining_frames
  else
    let next_reference_end :=
      min (saturating_add t.physical_prefix_frames t.reference_end) t.total_frames
    let pending_reference_frames := min (next_reference_end - t.submitted_frames) remaining_frames
    if available_frames ≥ pending_reference_frames then pending_reference_frames else 0

def window (endpoint_padding_frames end_frame : Nat) : RenderReferenceWindow where
  start_frame := t.reference_start_frame
  end_frame := end_frame
  submitted_frames := saturating_add t.submitted_frame_base t.submitted_frames
  endpoint_padding_frames := endpoint_padding_frames
  played_frames :=
    min (saturating_add t.submitted_frame_base (t.submitted_frames - endpoint_padding_frames)) USIZE_MAX

/-- What a write does once its frames are counted. -/
def record_submitted (endpoint_padding_frames : Nat) :
    RenderSubmitTracker × Except String (Option RenderReferenceWindow) :=
  if endpoint_padding_frames > t.submitted_frames then
    let submitted_frames := t.submitted_frames
    (t, .error (s!"WASAPI render padding {endpoint_padding_frames} exceeds submitted position " ++
      s!"{submitted_frames}"))
  else if t.submitted_frames ≤ t.physical_prefix_frames then (t, .ok none)
  else
    let reference_end_frame :=
      min (t.submitted_frames - t.physical_prefix_frames) t.total_reference_frames
    if reference_end_frame ≠ t.reference_end then (t, .ok none)
    else
      ({ t with reference_start_frame := reference_end_frame },
        .ok (if t.reference_start_frame < reference_end_frame then
          some (t.window endpoint_padding_frames reference_end_frame) else none))

def record_write (written_frames endpoint_padding_frames : Nat) :
    RenderSubmitTracker × Except String (Option RenderReferenceWindow) :=
  if written_frames = 0 ∨ saturating_add t.submitted_frames written_frames > t.total_frames then
    (t, .error "invalid WASAPI render write progress")
  else
    record_submitted { t with submitted_frames := wrapping_add t.submitted_frames written_frames }
      endpoint_padding_frames

def is_complete : Bool := t.submitted_frames = t.total_frames

end RenderSubmitTracker

/-! ## The render loop -/

/-- A reading of the endpoint: the frames it has room for, and its padding after the write. -/
structure Reading where
  available : Nat
  padding : Nat

structure Rendering where
  tracker : RenderSubmitTracker
  windows : List RenderReferenceWindow
  errors : List String
deriving DecidableEq

def turn (s : Rendering) (reading : Reading) : Rendering :=
  let written := s.tracker.next_write_frames reading.available
  if written = 0 then s
  else
    match s.tracker.record_write written reading.padding with
    | (tracker, .ok window) => { s with tracker, windows := s.windows ++ window.toList }
    | (tracker, .error error) => { s with tracker, errors := s.errors ++ [error] }

/-- The padding is no more than what is submitted by then. -/
def in_position (s : Rendering) (reading : Reading) : Prop :=
  reading.padding ≤ s.tracker.submitted_frames + s.tracker.next_write_frames reading.available

instance (s : Rendering) (reading : Reading) : Decidable (in_position s reading) :=
  inferInstanceAs (Decidable (_ ≤ _))

/-- Windows that lie one after the other, none empty, each as long as it may be. -/
def Cover (reference total : Nat) : Nat → List RenderReferenceWindow → Nat → Prop
  | start, [], stop => start = stop
  | start, w :: ws, stop => w.start_frame = start ∧ start < w.end_frame ∧
      w.end_frame = min (start + reference) total ∧ Cover reference total w.end_frame ws stop

theorem Cover.snoc {reference total start stop : Nat} {ws : List RenderReferenceWindow}
    (h : Cover reference total start ws stop) {w : RenderReferenceWindow} (hstart : w.start_frame = stop)
    (hnonempty : stop < w.end_frame) (hend : w.end_frame = min (stop + reference) total) :
    Cover reference total start (ws ++ [w]) w.end_frame := by
  induction ws generalizing start with
  | nil =>
    obtain rfl : start = stop := h
    exact ⟨hstart, hnonempty, hend, rfl⟩
  | cons _ ws ih => exact ⟨h.1, h.2.1, h.2.2.1, ih h.2.2.2⟩

/-- The tracker of a rendering that started with `t`. -/
structure Sound (t : RenderSubmitTracker) (s : Rendering) : Prop where
  total : s.tracker.total_frames = t.total_frames
  total_reference : s.tracker.total_reference_frames = t.total_reference_frames
  reference : s.tracker.reference_frames = t.reference_frames
  lead : s.tracker.physical_prefix_frames = t.physical_prefix_frames
  accepted : s.errors = []
  bounded : s.tracker.submitted_frames ≤ t.total_frames
  covered : Cover t.reference_frames t.total_reference_frames 0 s.windows s.tracker.reference_start_frame
  within : s.tracker.reference_start_frame ≤ t.total_reference_frames
  -- what is submitted, before and after the lead
  before : s.tracker.submitted_frames ≤ t.physical_prefix_frames → s.windows = []
  after : t.physical_prefix_frames ≤ s.tracker.submitted_frames →
    t.physical_prefix_frames + s.tracker.reference_start_frame ≤ s.tracker.submitted_frames
  filling : t.physical_prefix_frames ≤ s.tracker.submitted_frames →
    s.tracker.reference_start_frame < t.total_reference_frames →
      s.tracker.submitted_frames = t.physical_prefix_frames + s.tracker.reference_start_frame
  played : ∀ w ∈ s.windows, w.played_frames ≤ w.submitted_frames

/-- Sizes that a constructor gives, whose sums fit their word. -/
structure Sized (t : RenderSubmitTracker) : Prop where
  lead : t.physical_prefix_frames + t.total_reference_frames ≤ t.total_frames
  reference : 0 < t.reference_frames
  fits : t.total_frames + t.reference_frames ≤ USIZE_MAX

variable {t : RenderSubmitTracker} {s : Rendering}

theorem Sound.reference_end_eq (h : Sound t s) (hsized : Sized t) :
    s.tracker.reference_end =
      min (s.tracker.reference_start_frame + t.reference_frames) t.total_reference_frames := by
  have hwithin := h.within
  have hlead := hsized.lead
  have hfits := hsized.fits
  unfold RenderSubmitTracker.reference_end wrapping_add
  rw [h.reference, h.total_reference, Nat.mod_eq_of_lt]
  unfold USIZE_MAX at hfits
  omega

/-- How many frames are written next: up to the lead, one window, or what is left. -/
theorem Sound.next_write_frames_eq (h : Sound t s) (hsized : Sized t) (available : Nat) :
    s.tracker.next_write_frames available =
      if s.tracker.submitted_frames < t.physical_prefix_frames then
        min available (t.physical_prefix_frames - s.tracker.submitted_frames)
      else if s.tracker.reference_start_frame ≥ t.total_reference_frames then
        min available (t.total_frames - s.tracker.submitted_frames)
      else if available ≥ s.tracker.reference_end - s.tracker.reference_start_frame then
        s.tracker.reference_end - s.tracker.reference_start_frame
      else 0 := by
  have hend := h.reference_end_eq hsized
  have hlead := hsized.lead
  have hfits := hsized.fits
  have hfilling := h.filling
  have hafter := h.after
  simp only [RenderSubmitTracker.next_write_frames, saturating_add, h.total, h.lead, h.total_reference]
  split
  · omega
  · split
    · rfl
    · have hpending : min (min (min (t.physical_prefix_frames + s.tracker.reference_end) USIZE_MAX)
          t.total_frames - s.tracker.submitted_frames)
            (t.total_frames - s.tracker.submitted_frames) =
          s.tracker.reference_end - s.tracker.reference_start_frame := by omega
      rw [hpending]

/-- A write that stays within the total and is not played too early is counted. -/
theorem record_write_eq (hfits : t.total_frames ≤ USIZE_MAX) {written padding : Nat} (hpos : written ≠ 0)
    (hroom : t.submitted_frames + written ≤ t.total_frames)
    (hpadding : padding ≤ t.submitted_frames + written) :
    let counted := { t with submitted_frames := t.submitted_frames + written }
    let stop := min (counted.submitted_frames - t.physical_prefix_frames) t.total_reference_frames
    t.record_write written padding =
      if counted.submitted_frames ≤ t.physical_prefix_frames then (counted, .ok none)
      else if stop ≠ t.reference_end then (counted, .ok none)
      else ({ counted with reference_start_frame := stop },
        .ok (if t.reference_start_frame < stop then some (counted.window padding stop) else none)) := by
  have hadd : wrapping_add t.submitted_frames written = t.submitted_frames + written := by
    unfold wrapping_add USIZE_MAX at *
    omega
  have haccept : ¬ (written = 0 ∨ saturating_add t.submitted_frames written > t.total_frames) := by
    unfold saturating_add
    omega
  unfold RenderSubmitTracker.record_write
  rw [if_neg haccept, hadd]
  unfold RenderSubmitTracker.record_submitted
  rw [if_neg (Nat.not_lt.mpr hpadding)]
  rfl

theorem window_played (padding stop : Nat) :
    (t.window padding stop).played_frames ≤ (t.window padding stop).submitted_frames := by
  simp only [RenderSubmitTracker.window, saturating_add]
  omega

theorem Sound.turn (h : Sound t s) (hsized : Sized t) {reading : Reading}
    (hpadding : in_position s reading) : Sound t (turn s reading) := by
  have hnext := h.next_write_frames_eq hsized reading.available
  have hend := h.reference_end_eq hsized
  obtain ⟨_, _, _⟩ := hsized
  have ⟨htotal, htotal_reference, _, hphysical, _, hbounded, _, hwithin, _, hafter, hfilling, _⟩ := h
  unfold in_position at hpadding
  unfold render_submit.turn
  generalize s.tracker.next_write_frames reading.available = written at *
  by_cases hzero : written = 0
  · rwa [if_pos hzero]
  have hroom : s.tracker.submitted_frames + written ≤ s.tracker.total_frames := by
    split_ifs at hnext <;> omega
  rw [if_neg hzero, record_write_eq (by omega) hzero hroom hpadding]
  by_cases hfirst : s.tracker.submitted_frames < t.physical_prefix_frames
  · -- the lead is written up to its end at most
    rw [if_pos hfirst] at hnext
    rw [if_pos (by dsimp only; omega)]
    have hnone := h.before (Nat.le_of_lt hfirst)
    have hstart : 0 = s.tracker.reference_start_frame := by simpa [hnone, Cover] using h.covered
    exact { h with
      bounded := htotal ▸ hroom
      covered := by simpa using h.covered
      before := by simp [hnone]
      after := by simp only; omega
      filling := by simp only; omega
      played := by simpa using h.played }
  rw [if_neg hfirst] at hnext
  have hstop : min (s.tracker.submitted_frames + written - s.tracker.physical_prefix_frames)
      s.tracker.total_reference_frames = s.tracker.reference_end := by
    split_ifs at hnext <;> omega
  rw [if_neg (by dsimp only; omega)]
  dsimp only
  rw [hstop, if_neg (not_not_intro rfl)]
  by_cases hopen : s.tracker.reference_start_frame < s.tracker.reference_end
  · -- a window is full
    rw [if_pos hopen]
    rw [if_neg (by omega)] at hnext
    have hwritten : written = s.tracker.reference_end - s.tracker.reference_start_frame := by
      split_ifs at hnext <;> omega
    exact { h with
      bounded := htotal ▸ hroom
      covered := h.covered.snoc rfl hopen hend
      within := by simp only; omega
      before := by simp only; omega
      after := by simp only; omega
      filling := by simp only; omega
      played := fun w hw => by
        rcases List.mem_append.mp hw with hw | hw
        · exact h.played w hw
        · rw [List.mem_singleton.mp hw]
          exact window_played _ _ }
  · -- the tail
    have hdone : s.tracker.reference_end = s.tracker.reference_start_frame := by omega
    rw [if_neg hopen]
    exact { h with
      bounded := htotal ▸ hroom
      covered := by simpa [hdone] using h.covered
      within := by simp only; omega
      before := by simp only; omega
      after := by simp only; omega
      filling := by simp only; omega
      played := by simpa using h.played }

theorem new_sized {total_frames reference_frames : Nat}
    (hfits : total_frames + max reference_frames 1 ≤ USIZE_MAX)
    (total_reference_frames physical_prefix_frames submitted_frame_base : Nat) :
    Sized ( RenderSubmitTracker.new_with_reference_at_and_prefix total_frames total_reference_frames reference_frames
      physical_prefix_frames submitted_frame_base) := by
  refine ⟨?_, ?_, hfits⟩
  · simp only [ RenderSubmitTracker.new_with_reference_at_and_prefix]
    omega
  · exact Nat.lt_of_lt_of_le Nat.one_pos (Nat.le_max_right _ _)

theorem start_sound (t : RenderSubmitTracker) (hstart : t.reference_start_frame = 0)
    (hsubmitted : t.submitted_frames = 0) : Sound t ⟨t, [], []⟩ := by
  refine ⟨rfl, rfl, rfl, rfl, rfl, ?_, hstart.symm, ?_, fun _ => rfl, ?_, ?_, nofun⟩ <;> dsimp only <;> omega

/-- What a rendering of a tracker's sizes has come to. -/
structure Tracked (t : RenderSubmitTracker) (s : Rendering) : Prop where
  accepted : s.errors = []
  bounded : s.tracker.submitted_frames ≤ t.total_frames
  covered : Cover t.reference_frames t.total_reference_frames 0 s.windows s.tracker.reference_start_frame
  complete : s.tracker.is_complete = true → s.tracker.reference_start_frame = t.total_reference_frames
  after_lead : s.windows ≠ [] → t.physical_prefix_frames < s.tracker.submitted_frames
  played : ∀ w ∈ s.windows, w.played_frames ≤ w.submitted_frames
  progress : s.tracker.is_complete = false → ∀ available ≥ t.reference_frames,
    0 < s.tracker.next_write_frames available

theorem Sound.tracked (h : Sound t s) (hsized : Sized t) : Tracked t s := by
  have hend := h.reference_end_eq hsized
  have ⟨hlead, hreference, _⟩ := hsized
  have ⟨htotal, _, _, _, _, hbounded, _, hwithin, _, hafter, hfilling, _⟩ := h
  refine ⟨h.accepted, hbounded, h.covered, fun hcomplete => ?_, fun hsome => ?_, h.played,
    fun hopen _ _ => ?_⟩
  · have hcomplete : s.tracker.submitted_frames = s.tracker.total_frames := of_decide_eq_true hcomplete
    omega
  · by_contra hearly
    exact hsome (h.before (Nat.not_lt.mp hearly))
  · have hopen : s.tracker.submitted_frames ≠ s.tracker.total_frames := of_decide_eq_false hopen
    rw [h.next_write_frames_eq hsized]
    split_ifs <;> omega

end omni_translate.render_submit

-- The pacer of the source frames (`AudioFrameQueue` and `AudioFramePacer` of the Bridge's
-- `lib.rs`): where each frame goes that is pushed, and when a poll releases one. Times are
-- nanoseconds.
import OmniTranslate.Runs

namespace omni_translate.audio_frame_pacer

open runs

variable {T : Type}

/-! ## The queue -/

structure AudioFrameQueue (T : Type) where
  frames : List T
  capacity : Nat
  dropped_frame_count : Nat
  underrun_count : Nat

namespace AudioFrameQueue

def new (capacity : Nat) : AudioFrameQueue T := ⟨[], capacity, 0, 0⟩

def push (q : AudioFrameQueue T) (frame : T) : AudioFrameQueue T :=
  if q.capacity = 0 then { q with dropped_frame_count := q.dropped_frame_count + 1 }
  else
    let q := if q.frames.length = q.capacity then
        { q with frames := q.frames.tail, dropped_frame_count := q.dropped_frame_count + 1 }
      else q
    { q with frames := q.frames ++ [frame] }

def pop (q : AudioFrameQueue T) : AudioFrameQueue T × Option T :=
  match q.frames with
  | [] => ({ q with underrun_count := q.underrun_count + 1 }, none)
  | frame :: frames => ({ q with frames }, some frame)

def clear (q : AudioFrameQueue T) : AudioFrameQueue T := { q with frames := [] }

end AudioFrameQueue

/-! ## The pacer -/

structure AudioFramePacer (T : Type) where
  queue : AudioFrameQueue T
  frame_interval : Nat
  next_deadline : Option Nat

namespace AudioFramePacer

def new (capacity frame_interval : Nat) : AudioFramePacer T := ⟨.new capacity, frame_interval, none⟩

def push (p : AudioFramePacer T) (frame : T) (now : Nat) : AudioFramePacer T :=
  { p with queue := p.queue.push frame, next_deadline := some (p.next_deadline.getD now) }

def poll (p : AudioFramePacer T) (now : Nat) : AudioFramePacer T × Option T :=
  match p.next_deadline with
  | none => (p, none)
  | some deadline =>
    if now < deadline then (p, none)
    else
      let (queue, frame) := p.queue.pop
      -- The next deadline follows the last one, not the time of the poll.
      ({ p with queue, next_deadline := frame.map fun _ => deadline + p.frame_interval }, frame)

def clear (p : AudioFramePacer T) : AudioFramePacer T :=
  { p with queue := p.queue.clear, next_deadline := none }

end AudioFramePacer

/-! ## Runs -/

inductive Op (T : Type) where
  | push (frame : T) (now : Nat)
  | poll (now : Nat)
  | clear

/-- The pacer with what was pushed and what came out, the time of the last push that found no
deadline, and the releases since. -/
structure Pacing (T : Type) where
  pacer : AudioFramePacer T
  pushed : List T
  released : List T
  anchor : Nat
  releases : Nat

def Pacing.start (capacity frame_interval : Nat) : Pacing T :=
  ⟨.new capacity frame_interval, [], [], 0, 0⟩

def Pacing.step (s : Pacing T) : Op T → Pacing T
  | .push frame now =>
    let anchored := s.pacer.next_deadline = none
    { s with
      pacer := s.pacer.push frame now
      pushed := s.pushed ++ [frame]
      anchor := if anchored then now else s.anchor
      releases := if anchored then 0 else s.releases }
  | .poll now =>
    let (pacer, frame) := s.pacer.poll now
    { s with
      pacer
      released := s.released ++ frame.toList
      releases := s.releases + frame.toList.length }
  | .clear => { s with pacer := s.pacer.clear }

/-- How a frame left the queue. -/
inductive Fate where
  | released
  | dropped
  | cleared
deriving DecidableEq

/-- The frames that left, the first one first. They and the queue are what was pushed. -/
structure Accounted (s : Pacing T) (gone : List (T × Fate)) : Prop where
  fits : s.pacer.queue.frames.length ≤ s.pacer.queue.capacity
  pushed : s.pushed = gone.map (·.1) ++ s.pacer.queue.frames
  released : s.released = (gone.filter (·.2 = .released)).map (·.1)
  dropped : s.pacer.queue.dropped_frame_count = (gone.filter (·.2 = .dropped)).length

/-- The deadline is as many intervals after its anchor as frames were released since. -/
structure Paced (every : Nat) (s : Pacing T) : Prop where
  interval : s.pacer.frame_interval = every
  waits : s.pacer.queue.frames ≠ [] → s.pacer.next_deadline.isSome
  deadline : ∀ d ∈ s.pacer.next_deadline, d = s.anchor + s.releases * every

variable {s : Pacing T} {gone : List (T × Fate)} {every : Nat}

/-- What one step takes out of the queue is its front; only a clear clears. -/
theorem Accounted.step (h : Accounted s gone) (op : Op T) :
    ∃ left, Accounted (s.step op) (gone ++ left) ∧ (op ≠ .clear → ∀ g ∈ left, g.2 ≠ .cleared) := by
  obtain ⟨hfits, hpushed, hreleased, hdropped⟩ := h
  cases op with
  | push frame now =>
    simp only [Pacing.step, AudioFramePacer.push, AudioFrameQueue.push]
    split
    · rename_i hnone
      have hempty : s.pacer.queue.frames = [] := List.length_eq_zero_iff.mp (by omega)
      exact ⟨[(frame, .dropped)], ⟨hfits, by simp [hpushed, hempty], by simp [hreleased],
        by simp [hdropped]⟩, by simp⟩
    · rename_i hsome
      split
      · rename_i hfull
        obtain ⟨oldest, frames, hframes⟩ :=
          List.exists_cons_of_length_pos (l := s.pacer.queue.frames) (by omega)
        rw [hframes] at hfits hpushed
        exact ⟨[(oldest, .dropped)], ⟨by simpa [hframes] using hfits, by simp [hpushed, hframes],
          by simp [hreleased], by simp [hdropped]⟩, by simp⟩
      · refine ⟨[], ⟨?_, by simp [hpushed], by simp [hreleased], by simp [hdropped]⟩, by simp⟩
        simp only [List.length_append, List.length_singleton]
        omega
  | poll now =>
    have hstays : Accounted s (gone ++ []) := by simpa using ⟨hfits, hpushed, hreleased, hdropped⟩
    simp only [Pacing.step, AudioFramePacer.poll]
    split
    · exact ⟨[], by simpa using hstays, by simp⟩
    · split
      · exact ⟨[], by simpa using hstays, by simp⟩
      · simp only [AudioFrameQueue.pop]
        split
        · rename_i hempty
          exact ⟨[], ⟨hfits, by simp [hpushed, hempty], by simp [hreleased], by simp [hdropped]⟩,
            by simp⟩
        · rename_i oldest frames hframes
          rw [hframes] at hfits hpushed
          exact ⟨[(oldest, .released)], ⟨Nat.le_of_succ_le hfits, by simp [hpushed],
            by simp [hreleased], by simp [hdropped]⟩, by simp⟩
  | clear =>
    refine ⟨s.pacer.queue.frames.map (·, .cleared), ⟨Nat.zero_le _, ?_, ?_, ?_⟩, by simp⟩
    · simp [Pacing.step, AudioFramePacer.clear, AudioFrameQueue.clear, hpushed, Function.comp_def]
    · simp [Pacing.step, hreleased, List.filter_map, Function.comp_def]
    · simp [Pacing.step, AudioFramePacer.clear, AudioFrameQueue.clear, hdropped, List.filter_map,
        Function.comp_def]

/-- What left over a run is what left at its steps. -/
theorem run_accounted (capacity frame_interval : Nat) (ops : List (Op T)) :
    ∃ gone, Accounted (run Pacing.step (.start capacity frame_interval) ops) gone ∧
      (.clear ∉ ops → ∀ g ∈ gone, g.2 ≠ Fate.cleared) := by
  induction ops using List.reverseRecOn with
  | nil => exact ⟨[], ⟨Nat.zero_le _, rfl, rfl, rfl⟩, by simp⟩
  | append_singleton ops op ih =>
    obtain ⟨gone, hgone, hold⟩ := ih
    obtain ⟨left, hleft, hnew⟩ := hgone.step op
    rw [run_snoc]
    refine ⟨gone ++ left, hleft, fun hclear g hg => ?_⟩
    rw [List.mem_append, List.mem_singleton, not_or] at hclear
    rcases List.mem_append.mp hg with hg | hg
    · exact hold hclear.1 g hg
    · exact hnew (Ne.symm hclear.2) g hg

theorem Paced.step (h : Paced every s) (op : Op T) : Paced every (s.step op) := by
  obtain ⟨hinterval, hwaits, hdeadline⟩ := h
  cases op with
  | push frame now =>
    refine ⟨hinterval, fun _ => rfl, fun d hd => ?_⟩
    cases hnone : s.pacer.next_deadline with
    | none => simpa [Pacing.step, AudioFramePacer.push, hnone, eq_comm] using hd
    | some deadline =>
      have hkept : deadline = d := by simpa [Pacing.step, AudioFramePacer.push, hnone] using hd
      simpa [Pacing.step, hnone, hkept] using hdeadline deadline hnone
  | poll now =>
    simp only [Pacing.step, AudioFramePacer.poll]
    split
    · exact ⟨hinterval, hwaits, by simpa using hdeadline⟩
    · rename_i deadline hsome
      split
      · exact ⟨hinterval, hwaits, by simpa using hdeadline⟩
      · simp only [AudioFrameQueue.pop]
        split
        · rename_i hempty
          exact ⟨hinterval, fun hframes => absurd hempty hframes, by simp⟩
        · refine ⟨hinterval, fun _ => rfl, fun d hd => ?_⟩
          have hnext : deadline + s.pacer.frame_interval = d := by simpa using hd
          rw [← hnext, hinterval, hdeadline deadline hsome]
          simp [Nat.add_mul, Nat.add_assoc]
  | clear => exact ⟨hinterval, by simp [Pacing.step, AudioFramePacer.clear, AudioFrameQueue.clear],
      by simp [Pacing.step, AudioFramePacer.clear]⟩

theorem run_paced (capacity every : Nat) (ops : List (Op T)) :
    Paced every (run Pacing.step (.start capacity every) ops) :=
  run_keeps Pacing.step (Paced every) (fun _ op h => h.step op)
    ⟨rfl, fun hframes => absurd rfl hframes, by simp [Pacing.start, AudioFramePacer.new]⟩ ops

/-- A poll releases the oldest frame from the deadline on, and nothing before it. -/
theorem Paced.poll_eq (h : Paced every s) (now : Nat) :
    (s.pacer.poll now).2 =
      if s.anchor + s.releases * every ≤ now then s.pacer.queue.frames.head? else none := by
  unfold AudioFramePacer.poll
  split
  · rename_i hnone
    have hempty : s.pacer.queue.frames = [] := by
      by_contra hframes
      simpa [hnone] using h.waits hframes
    simp [hempty]
  · rename_i deadline hdeadline
    rw [← h.deadline deadline hdeadline]
    split
    · rw [if_neg (by omega)]
    · rw [if_pos (by omega)]
      simp only [AudioFrameQueue.pop]
      split <;> simp [*]

theorem length_gone (hno : ∀ g ∈ gone, g.2 ≠ .cleared) :
    gone.length =
      (gone.filter (·.2 = .released)).length + (gone.filter (·.2 = .dropped)).length := by
  rw [List.length_eq_length_filter_add (·.2 = .released)]
  congr 2
  refine List.filter_congr fun g hg => ?_
  have := hno g hg
  cases hfate : g.2 <;> simp_all

/-- Frames come out in the order of the pushes and make room from the front; the release after `k`
others since the anchor comes with the first poll from `k` intervals after it on. -/
theorem frames_come_in_order_and_at_their_rate (capacity every : Nat) (ops : List (Op T)) :
    let s := run Pacing.step (.start capacity every) ops
    (∃ gone, Accounted s gone ∧ (.clear ∉ ops → ∀ g ∈ gone, g.2 ≠ Fate.cleared)) ∧
      s.released.Sublist s.pushed ∧
      (.clear ∉ ops → s.pushed.length =
        s.released.length + s.pacer.queue.dropped_frame_count + s.pacer.queue.frames.length) ∧
      (s.pacer.queue.frames ≠ [] → s.pacer.next_deadline.isSome) ∧
      (∀ d ∈ s.pacer.next_deadline, d = s.anchor + s.releases * every) ∧
      ∀ now, (s.pacer.poll now).2 =
        if s.anchor + s.releases * every ≤ now then s.pacer.queue.frames.head? else none := by
  intro s
  obtain ⟨gone, hgone, hclear⟩ := run_accounted capacity every ops
  have hpaced : Paced every s := run_paced capacity every ops
  refine ⟨⟨gone, hgone, hclear⟩, ?_, fun hno => ?_, hpaced.waits, hpaced.deadline,
    hpaced.poll_eq⟩
  · rw [hgone.pushed, hgone.released]
    exact (List.filter_sublist.map _).trans (List.sublist_append_left _ _)
  · rw [hgone.pushed, hgone.released, hgone.dropped, List.length_append, List.length_map,
      List.length_map, length_gone (hclear hno)]

end omni_translate.audio_frame_pacer

-- The laws of the playback at rest: the counters are those of the guards and the cues that there are,
-- and while a restart goes on nothing new begins.
import OmniTranslate.PlaybackQuiescence

namespace omni_translate.playback_quiescence

open maps runs bridge_playback_ack
open Shared (act strong_count)
open Option (some.inj)

/-! ## What is counted -/

/-- No cue is bound to an owner. -/
def Unowned (cues : AList fun _ : String => BridgePlaybackCue) : Prop :=
  ∀ id cue, cues.lookup id = some cue → cue.authority = none

structure Counted (s : Shared) : Prop where
  acks : s.state.snapshot.pending_bridge_acks = s.ack_guards
  submissions : s.state.snapshot.pending_playback_submissions = s.submission_guards
  cues : s.state.snapshot.active_bridge_cues = s.state.active_bridge_cues.entries.length
  barrier : s.restart_guards = if s.state.snapshot.restart_barrier then 1 else 0
  strong : s.strong_count ≤ ISIZE_MAX + 1
  quiet : s.state.snapshot.restart_barrier = true →
    s.ack_guards = 0 ∧ s.submission_guards = 0 ∧
    s.state.snapshot.pending_native_audio = false ∧ Unowned s.state.active_bridge_cues

/-- Nothing is going on: no guard is alive, no cue is tracked, and there is nothing to play. -/
structure AtRest (s : Shared) : Prop where
  native : s.state.snapshot.pending_native_audio = false
  commands : s.state.snapshot.queued_commands = 0 ∧ s.state.snapshot.active_commands = 0
  frames : ∀ frames ∈ s.state.snapshot.pending_audio_frames, frames = 0
  guards : s.ack_guards = 0 ∧ s.submission_guards = 0 ∧ s.restart_guards = 0
  cues : s.state.active_bridge_cues.entries = []

section

variable {cues : AList fun _ : String => BridgePlaybackCue}

theorem Unowned.erase (h : Unowned cues) (id : String) : Unowned (cues.erase id) := by
  intro other cue hcue
  by_cases hid : other = id
  · rw [hid, AList.lookup_erase] at hcue
    cases hcue
  · rw [AList.lookup_erase_ne hid] at hcue
    exact h other cue hcue

theorem Unowned.insert (h : Unowned cues) (id : String) (frames rate : Option Nat) :
    Unowned (cues.insert id ⟨none, frames, rate⟩) := by
  intro other cue hcue
  by_cases hid : other = id
  · rw [hid, AList.lookup_insert] at hcue
    rw [← some.inj hcue]
  · rw [AList.lookup_insert_ne hid] at hcue
    exact h other cue hcue

theorem unowned_of_nil (h : cues.entries = []) : Unowned cues := by
  intro id cue hcue
  have hin : id ∈ cues := AList.lookup_isSome.mp (by rw [hcue]; rfl)
  exact absurd hin (entries_eq_nil.mp h id)

end

/-! ## What an operation leaves alone -/

/-- The operation changes the audio and the cues, but neither the guards' counters, nor the barrier,
nor the native audio. -/
structure SameGuards (before after : TranslationPlaybackQuiescenceSnapshot) : Prop where
  acks : after.pending_bridge_acks = before.pending_bridge_acks
  submissions : after.pending_playback_submissions = before.pending_playback_submissions
  barrier : after.restart_barrier = before.restart_barrier
  native : after.pending_native_audio = before.pending_native_audio

theorem set_cues_counted (state : TranslationPlaybackQuiescenceState)
    (cues : AList fun _ : String => BridgePlaybackCue) :
    SameGuards state.snapshot (state.set_cues cues).snapshot ∧
      (state.set_cues cues).active_bridge_cues = cues ∧
      (state.set_cues cues).snapshot.active_bridge_cues = cues.entries.length :=
  ⟨⟨rfl, rfl, rfl, rfl⟩, rfl, rfl⟩

/-- What keeps the counters right when only the cues change. -/
theorem Counted.cues_change {s : Shared} (h : Counted s)
    {state : TranslationPlaybackQuiescenceState} (hsame : SameGuards s.state.snapshot state.snapshot)
    (hcount : state.snapshot.active_bridge_cues = state.active_bridge_cues.entries.length)
    (howned : s.state.snapshot.restart_barrier = true → Unowned state.active_bridge_cues) :
    Counted { s with state } := by
  refine ⟨hsame.acks.trans h.acks, hsame.submissions.trans h.submissions, hcount, ?_, h.strong,
    fun hbarrier => ?_⟩
  · rw [hsame.barrier]
    exact h.barrier
  · rw [hsame.barrier] at hbarrier
    obtain ⟨hacks, hsubmissions, hnative, -⟩ := h.quiet hbarrier
    exact ⟨hacks, hsubmissions, hsame.native.trans hnative, howned hbarrier⟩

theorem Counted.set_cues {s : Shared} (h : Counted s)
    {cues : AList fun _ : String => BridgePlaybackCue}
    (howned : s.state.snapshot.restart_barrier = true → Unowned cues) :
    Counted { s with state := s.state.set_cues cues } := by
  obtain ⟨hsame, hcues, hcount⟩ := set_cues_counted s.state cues
  exact h.cues_change hsame (by rw [hcount, hcues]) (by exact howned)

section

variable {s s' : Shared}

theorem Counted.observe (h : Counted s) (cue_id status : String) :
    Counted { s with state := observe_bridge_playback_status s.state cue_id status } := by
  have hold : s.state.snapshot.restart_barrier = true → Unowned s.state.active_bridge_cues :=
    fun hbarrier => (h.quiet hbarrier).2.2.2
  unfold observe_bridge_playback_status
  split
  · split
    · exact h.set_cues hold
    · exact h.set_cues fun hbarrier => (hold hbarrier).insert cue_id none none
  · split
    · split
      · exact h.set_cues fun hbarrier => (hold hbarrier).erase cue_id
      · exact h.set_cues hold
    · exact h

theorem Counted.expect (h : Counted s) (cue_id : String) (authority : TranslationPlaybackAuthority)
    (audio_frames output_sample_rate_hz : Nat) :
    Counted { s with
      state := expect_bridge_playback_cue_for_owner s.state cue_id authority audio_frames
        output_sample_rate_hz } := by
  unfold expect_bridge_playback_cue_for_owner unless_restarting
  split
  · exact h
  · split
    · exact h
    · rename_i hopen
      exact h.set_cues fun hbarrier => absurd hbarrier hopen

theorem Counted.observe_for_owner (h : Counted s) (cue_id status : String)
    (authority : TranslationPlaybackAuthority) :
    Counted { s with state :=
      (observe_bridge_playback_status_for_owner s.state cue_id status authority).1 } := by
  unfold observe_bridge_playback_status_for_owner
  split
  · exact h
  · split
    · exact h.set_cues fun hbarrier => ((h.quiet hbarrier).2.2.2).erase cue_id
    · exact h

theorem Counted.native (h : Counted s) (pending : Bool) :
    Counted { s with state := set_pending_native_audio s.state pending } := by
  unfold set_pending_native_audio unless_restarting
  split
  · split
    · exact h
    · rename_i hopen
      exact ⟨h.acks, h.submissions, h.cues, h.barrier, h.strong,
        fun hbarrier => absurd hbarrier hopen⟩
  · rename_i hquiet
    refine ⟨h.acks, h.submissions, h.cues, h.barrier, h.strong, fun hbarrier => ?_⟩
    obtain ⟨hacks, hsubmissions, -, hcues⟩ := h.quiet hbarrier
    exact ⟨hacks, hsubmissions, Bool.not_eq_true _ ▸ hquiet, hcues⟩

/-- There is always room in the counter for one more handle. -/
theorem clone_handle_some {after : Shared} (h : s.clone_handle after = some s') :
    s' = after ∧ s.strong_count ≤ ISIZE_MAX := by
  unfold Shared.clone_handle at h
  split at h
  · cases h
  · rename_i hroom
    exact ⟨(some.inj h).symm, Nat.not_lt.mp hroom⟩

section

variable (h : Counted s)

include h

theorem Counted.begin_ack (hact : s.begin_bridge_ack = some s') : Counted s' := by
  unfold Shared.begin_bridge_ack at hact
  split at hact
  · rw [← some.inj hact]
    exact h
  · rename_i hopen
    obtain ⟨rfl, _⟩ := clone_handle_some hact
    have hacks := h.acks
    refine ⟨?_, h.submissions, h.cues, h.barrier, ?_, fun hbarrier => absurd hbarrier hopen⟩
    · simp only [strong_count, ISIZE_MAX, USIZE_MAX] at *
      omega
    · simp only [strong_count] at *
      omega

theorem Counted.begin_submission (hact : s.wait_for_restart_barrier = some s') : Counted s' := by
  unfold Shared.wait_for_restart_barrier at hact
  split at hact
  · rw [← some.inj hact]
    exact h
  · rename_i hopen
    obtain ⟨rfl, _⟩ := clone_handle_some hact
    have hsubmissions := h.submissions
    refine ⟨h.acks, ?_, h.cues, h.barrier, ?_, fun hbarrier => absurd hbarrier hopen⟩
    · simp only [strong_count, ISIZE_MAX, USIZE_MAX] at *
      omega
    · simp only [strong_count] at *
      omega

/-- What the code calls quiescent is a state at rest. -/
theorem Counted.at_rest_iff : s.state.snapshot.is_quiescent = true ↔ AtRest s := by
  have hbarrier := h.barrier
  unfold TranslationPlaybackQuiescenceSnapshot.is_quiescent
  rw [h.acks, h.submissions, h.cues]
  simp only [Bool.and_eq_true, Bool.not_eq_true', decide_eq_true_eq]
  constructor
  · rintro ⟨⟨⟨⟨⟨⟨⟨hnative, hqueued⟩, hactive⟩, hframes⟩, hsubmissions⟩, hacks⟩, hcues⟩, hopen⟩
    rw [hopen] at hbarrier
    refine ⟨hnative, ⟨hqueued, hactive⟩, fun frames hin => ?_, ⟨hacks, hsubmissions, hbarrier⟩,
      List.length_eq_zero_iff.mp hcues⟩
    rw [hin] at hframes
    simpa using hframes
  · rintro ⟨hnative, ⟨hqueued, hactive⟩, hframes, ⟨hacks, hsubmissions, hrestarts⟩, hcues⟩
    rw [hrestarts] at hbarrier
    have hopen : s.state.snapshot.restart_barrier = false := by
      by_contra hclosed
      rw [if_pos (Bool.not_eq_false _ ▸ hclosed)] at hbarrier
      cases hbarrier
    refine ⟨⟨⟨⟨⟨⟨⟨hnative, hqueued⟩, hactive⟩, ?_⟩, hsubmissions⟩, hacks⟩,
      List.length_eq_zero_iff.mpr hcues⟩, hopen⟩
    cases hpending : s.state.snapshot.pending_audio_frames with
    | none => rfl
    | some frames => simp [hframes frames hpending]

theorem Counted.begin_restart (hact : s.try_begin_restart_barrier = some s') : Counted s' := by
  unfold Shared.try_begin_restart_barrier at hact
  split at hact
  · rename_i hquiescent
    obtain ⟨rfl, _⟩ := clone_handle_some hact
    have hrest := h.at_rest_iff.mp hquiescent
    refine ⟨h.acks, h.submissions, h.cues, ?_, ?_, fun _ =>
      ⟨hrest.guards.1, hrest.guards.2.1, hrest.native, unowned_of_nil hrest.cues⟩⟩
    · simp [hrest.guards.2.2]
    · simp only [strong_count] at *
      omega
  · rw [← some.inj hact]
    exact h

theorem Counted.drop_guard :
    Counted s.drop_ack_guard ∧ Counted s.drop_submission_guard ∧ Counted s.drop_restart_guard := by
  have hstrong := h.strong
  have hacks := h.acks
  have hsubmissions := h.submissions
  refine ⟨?_, ?_, ?_⟩
  · unfold Shared.drop_ack_guard
    split
    · exact h
    · refine ⟨by simp [hacks], h.submissions, h.cues, h.barrier, ?_, fun hbarrier => ?_⟩
      · simp only [strong_count] at *
        omega
      · exact absurd (h.quiet hbarrier).1 ‹_›
  · unfold Shared.drop_submission_guard
    split
    · exact h
    · refine ⟨h.acks, by simp [hsubmissions], h.cues, h.barrier, ?_, fun hbarrier => ?_⟩
      · simp only [strong_count] at *
        omega
      · exact absurd (h.quiet hbarrier).2.1 ‹_›
  · unfold Shared.drop_restart_guard
    split
    · exact h
    · rename_i hsome
      have hbarrier := h.barrier
      refine ⟨h.acks, h.submissions, h.cues, ?_, ?_, fun hnone => by cases hnone⟩
      · split at hbarrier
        · simp [hbarrier]
        · exact absurd hbarrier hsome
      · simp only [strong_count] at *
        omega

theorem Counted.act {op : QuiescenceOp} (hact : s.act op = some s') : Counted s' := by
  cases op with
  | set_pending_native_audio pending => exact some.inj hact ▸ h.native pending
  | set_queue_state _ _ frames rate =>
    rw [← some.inj hact]
    exact h.cues_change ⟨rfl, rfl, rfl, rfl⟩ h.cues fun hbarrier => (h.quiet hbarrier).2.2.2
  | begin_bridge_ack => exact h.begin_ack hact
  | observe_bridge_playback_status cue_id status =>
    exact some.inj hact ▸ h.observe cue_id status
  | expect_bridge_playback_cue_for_owner cue_id authority frames rate =>
    exact some.inj hact ▸ h.expect cue_id authority frames rate
  | observe_bridge_playback_status_for_owner cue_id status authority =>
    exact some.inj hact ▸ h.observe_for_owner cue_id status authority
  | wait_for_restart_barrier => exact h.begin_submission hact
  | try_begin_restart_barrier => exact h.begin_restart hact
  | drop_ack_guard => exact some.inj hact ▸ h.drop_guard.1
  | drop_submission_guard => exact some.inj hact ▸ h.drop_guard.2.1
  | drop_restart_guard => exact some.inj hact ▸ h.drop_guard.2.2
  | clone_handle =>
    obtain ⟨rfl, _⟩ := clone_handle_some hact
    refine ⟨h.acks, h.submissions, h.cues, h.barrier, ?_, h.quiet⟩
    simp only [strong_count] at *
    omega
  | drop_handle =>
    rw [← some.inj hact]
    have hstrong := h.strong
    refine ⟨h.acks, h.submissions, h.cues, h.barrier, ?_, h.quiet⟩
    simp only [strong_count] at *
    omega

end

theorem act_restarting {op : QuiescenceOp} (hact : s.act op = some s')
    (hbarrier : s.state.snapshot.restart_barrier = true) :
    s'.state.snapshot.restart_barrier = true ∨ op = .drop_restart_guard := by
  cases op with
  | drop_restart_guard => exact Or.inr rfl
  | set_pending_native_audio pending =>
    rw [← some.inj hact]
    cases pending <;> simp [set_pending_native_audio, unless_restarting, hbarrier]
  | begin_bridge_ack => grind [act, Shared.begin_bridge_ack]
  | wait_for_restart_barrier => grind [act, Shared.wait_for_restart_barrier]
  | try_begin_restart_barrier =>
    grind [act, Shared.try_begin_restart_barrier, Shared.clone_handle]
  | observe_bridge_playback_status cue_id status =>
    rw [← some.inj hact]
    simp only [observe_bridge_playback_status]
    split
    · split <;> exact Or.inl hbarrier
    · split
      · split <;> exact Or.inl hbarrier
      · exact Or.inl hbarrier
  | expect_bridge_playback_cue_for_owner cue_id authority frames rate =>
    rw [← some.inj hact]
    simp [expect_bridge_playback_cue_for_owner, unless_restarting, hbarrier]
  | observe_bridge_playback_status_for_owner cue_id status authority =>
    rw [← some.inj hact]
    simp only [observe_bridge_playback_status_for_owner]
    split
    · exact Or.inl hbarrier
    · split <;> exact Or.inl hbarrier
  | set_queue_state _ _ frames rate => exact Or.inl (some.inj hact ▸ hbarrier)
  | drop_ack_guard => grind [act, Shared.drop_ack_guard]
  | drop_submission_guard => grind [act, Shared.drop_submission_guard]
  | clone_handle => grind [act, Shared.clone_handle]
  | drop_handle => exact Or.inl (some.inj hact ▸ hbarrier)

theorem act_grants {op : QuiescenceOp} (hact : s.act op = some s')
    (hmore : s.restart_guards < s'.restart_guards) :
    s.state.snapshot.is_quiescent = true ∧ s'.restart_guards = s.restart_guards + 1 := by
  cases op with
  | try_begin_restart_barrier =>
    grind [act, Shared.try_begin_restart_barrier, Shared.clone_handle]
  | begin_bridge_ack => grind [act, Shared.begin_bridge_ack, Shared.clone_handle]
  | wait_for_restart_barrier =>
    grind [act, Shared.wait_for_restart_barrier, Shared.clone_handle]
  | drop_ack_guard => grind [act, Shared.drop_ack_guard]
  | drop_submission_guard => grind [act, Shared.drop_submission_guard]
  | drop_restart_guard => grind [act, Shared.drop_restart_guard]
  | clone_handle => grind [act, Shared.clone_handle]
  | _ =>
    rw [← some.inj hact] at hmore
    exact absurd hmore (lt_irrefl _)

/-- A cue that is bound to an owner. -/
def Bound (s : Shared) (id : String) (authority : TranslationPlaybackAuthority) : Prop :=
  ∃ cue ∈ s.state.active_bridge_cues.lookup id, cue.authority = some authority

theorem Counted.restarting_iff (h : Counted s) :
    s.state.snapshot.restart_barrier = true ↔ s.restart_guards ≠ 0 := by
  rw [h.barrier]
  split <;> simp [*]

/-- While the barrier stands nothing that it holds up is there. -/
theorem Counted.held_up (h : Counted s) (hbarrier : s.state.snapshot.restart_barrier = true) :
    s.ack_guards = 0 ∧ s.submission_guards = 0 ∧ (∀ id authority, ¬ Bound s id authority) ∧
      s.state.snapshot.pending_native_audio = false := by
  obtain ⟨hacks, hsubmissions, hnative, hcues⟩ := h.quiet hbarrier
  refine ⟨hacks, hsubmissions, ?_, hnative⟩
  rintro id authority ⟨cue, hcue, hbound⟩
  rw [hcues id cue hcue] at hbound
  cases hbound

end

/-! ## Every run -/

theorem run_counted {ops : List QuiescenceOp} {s : Shared} (h : run step start ops = some s) :
    Counted s := by
  have hstart : Counted ⟨default, 0, 0, 0, 1⟩ := by
    refine ⟨rfl, rfl, rfl, rfl, by decide, fun hbarrier => by cases hbarrier⟩
  have hall : ∀ reached ∈ run step start ops, Counted reached := by
    refine run_keeps step (fun s => ∀ reached ∈ s, Counted reached) ?_ ?_ ops
    · intro before op hbefore reached hreached
      obtain ⟨last, hlast, hact⟩ := Option.bind_eq_some_iff.mp hreached
      exact (hbefore last hlast).act hact
    · intro reached hreached
      rw [← some.inj hreached]
      exact hstart
  exact hall s h

/-- As long as the process runs, the counters are the numbers of live guards and of tracked cues, the
barrier stands exactly while a restart guard is alive, a restart guard is granted only at rest, and
while one is alive there is no other guard, no cue of an owner and no native audio, and none
begins. -/
theorem a_restart_meets_no_playback {ops : List QuiescenceOp} {s : Shared}
    (h : run step start ops = some s) :
    s.state.snapshot.pending_bridge_acks = s.ack_guards ∧
    s.state.snapshot.pending_playback_submissions = s.submission_guards ∧
    s.state.snapshot.active_bridge_cues = s.state.active_bridge_cues.entries.length ∧
    (s.state.snapshot.restart_barrier = true ↔ s.restart_guards ≠ 0) ∧
    (s.restart_guards ≠ 0 → s.ack_guards = 0 ∧ s.submission_guards = 0 ∧
      (∀ id authority, ¬ Bound s id authority) ∧
      s.state.snapshot.pending_native_audio = false) ∧
    ∀ op s', s.act op = some s' →
      (s.restart_guards < s'.restart_guards →
        s.state.snapshot.is_quiescent = true ∧ AtRest s ∧ s'.restart_guards = 1) ∧
      (s.restart_guards ≠ 0 →
        s'.ack_guards ≤ s.ack_guards ∧ s'.submission_guards ≤ s.submission_guards ∧
        (∀ id authority, Bound s' id authority → Bound s id authority) ∧
        (s'.state.snapshot.pending_native_audio = true →
          s.state.snapshot.pending_native_audio = true)) := by
  have hcounted := run_counted h
  refine ⟨hcounted.acks, hcounted.submissions, hcounted.cues, hcounted.restarting_iff,
    fun hguard => hcounted.held_up (hcounted.restarting_iff.mpr hguard), fun op s' hact =>
      ⟨fun hmore => ?_, fun hguard => ?_⟩⟩
  · obtain ⟨hquiescent, hone⟩ := act_grants hact hmore
    have hrest := hcounted.at_rest_iff.mp hquiescent
    exact ⟨hquiescent, hrest, by rw [hone, hrest.guards.2.2]⟩
  · rcases act_restarting hact (hcounted.restarting_iff.mpr hguard) with hstill | rfl
    · obtain ⟨_, _, hcues, hnative⟩ := (hcounted.act hact).held_up hstill
      refine ⟨by omega, by omega, fun id authority hbound => absurd hbound (hcues id authority), ?_⟩
      rw [hnative]
      exact fun hnot => by cases hnot
    · -- the end of the restart touches nothing else
      rw [← some.inj hact]
      unfold Shared.drop_restart_guard
      rw [if_neg hguard]
      exact ⟨le_rfl, le_rfl, fun _ _ hbound => hbound, id⟩

/-- A restart that is granted after an acknowledgement has ended. -/
theorem a_restart_after_an_acknowledgement :
    let ops := [QuiescenceOp.begin_bridge_ack, .try_begin_restart_barrier, .drop_ack_guard,
      .try_begin_restart_barrier, .begin_bridge_ack]
    ∃ s, run step start ops = some s ∧ s.restart_guards = 1 ∧
      s.state.snapshot.pending_bridge_acks = s.ack_guards ∧ s.ack_guards = 0 := by
  intro ops
  have hrun : run step start ops = some ⟨{ default with snapshot := { default.snapshot with
      restart_barrier := true } }, 0, 0, 1, 1⟩ := rfl
  have hlaws := a_restart_meets_no_playback hrun
  exact ⟨_, hrun, rfl, hlaws.1, (hlaws.2.2.2.2.1 (by decide)).1⟩

end omni_translate.playback_quiescence

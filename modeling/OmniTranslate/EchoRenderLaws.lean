-- The laws of the render clock: an observation asks for a reset because of the
-- render side when a hard boundary was published since the last one. The position
-- that a stream finds in the clock when it starts is the one thing that breaks it.
import OmniTranslate.EchoRender

namespace omni_translate.echo_render

open runs
open translation_lifecycle (U64_MAX saturating_succ)

/-! ## The positions of the epochs -/

namespace AecDelayEstimator

theorem lookup_forget_oldest {fuel : Nat} {positions : EpochPositions} {epoch v : Nat}
    (h : (forget_oldest fuel positions).lookup epoch = some v) : positions.lookup epoch = some v := by
  induction fuel generalizing positions with
  | zero => exact h
  | succ fuel ih =>
    unfold forget_oldest at h
    split at h
    · exact h
    · split at h
      · exact h
      · rename_i oldest _
        have hrest := ih h
        by_cases heq : epoch = oldest
        · rw [heq, AList.lookup_erase] at hrest
          cases hrest
        · rwa [AList.lookup_erase_ne heq] at hrest

/-- An epoch is tracked as before, or with the position of the observation. -/
theorem lookup_track_epoch {observation : CaptureClockObservation} {positions : EpochPositions} {epoch v : Nat}
    (h : (track_epoch observation positions).lookup epoch = some v) :
    (observation.render_timeline_epoch = some epoch ∧ observation.render_submitted_frames = some v) ∨
      (positions.lookup epoch = some v ∧
        (observation.render_timeline_epoch = some epoch → observation.render_submitted_frames = none)) := by
  unfold track_epoch at h
  split at h
  · rename_i e submitted he hs
    have hinsert := lookup_forget_oldest h
    by_cases heq : epoch = e
    · rw [heq, AList.lookup_insert] at hinsert
      exact .inl ⟨heq ▸ he, hs.trans hinsert⟩
    · rw [AList.lookup_insert_ne heq] at hinsert
      refine .inr ⟨hinsert, fun h => absurd (Option.some.inj (h.symm.trans he)) heq⟩
  · rename_i hnot
    refine .inr ⟨h, fun he => ?_⟩
    cases hs : observation.render_submitted_frames with
    | none => rfl
    | some submitted => exact (hnot _ _ he hs).elim

end AecDelayEstimator

/-! ## What a step publishes -/

namespace System

variable (s : System)

/-- The observation that the estimator compares. -/
def seen (packet : CapturedPacket) : CaptureClockObservation :=
  s.estimator.clamped (packet.observation s.clock)

/-- The packet asks for a reset because of the render side. -/
def demands (packet : CapturedPacket) : Bool := s.estimator.render_reset_demanded (s.seen packet)

def hard_boundary : Prop := ∃ reason ∈ s.published, is_hard reason = true

/-- What a step of the render side leaves. -/
def rendered : Step → Marked
  | .mark boundary observed_at => mark_echo_render_discontinuity boundary observed_at s.clock
  | .push reference => push_echo_reference_at reference s.clock
  | .observe _ => ⟨s.clock, none⟩

/-- The reference is accepted below the position that an observation has taken for its session. -/
def below_baseline (reference : RenderReference) : Prop :=
  (started_session reference.render_session_id s.clock).isSome ∧ reference.matcher_error = false ∧
    ∃ v ∈ s.estimator.render_submitted_frames_by_epoch.lookup reference.render_session_id,
      reference.submitted_frames < v

end System

def Step.session_started : Step → Option Nat
  | .mark (.SessionStarted owner) _ => some owner.session_id
  | _ => none

def Step.pushed : Step → Option RenderReference
  | .push reference => some reference
  | _ => none

/-- The generation of hard boundaries does not run out, and no reference is below what was observed. -/
def Meets (s : System) (op : Step) : Prop :=
  (∀ reason ∈ (s.rendered op).reason, is_hard reason = true → s.clock.hard_reset_generation < U64_MAX) ∧
    ∀ reference ∈ op.pushed, ¬ s.below_baseline reference

instance (s : System) (op : Step) : Decidable (Meets s op) := by
  unfold Meets System.below_baseline
  infer_instance

/-- Each session id is started once, the frames of a session do not go back, and the padding is part of them. -/
structure Promised (ops : List Step) : Prop where
  once : (ops.filterMap Step.session_started).Nodup
  ascending : (ops.filterMap Step.pushed).Pairwise fun first second =>
    first.render_session_id = second.render_session_id → first.submitted_frames ≤ second.submitted_frames
  padded : ∀ reference ∈ ops.filterMap Step.pushed, reference.endpoint_padding_frames ≤ reference.submitted_frames

theorem Promised.before {before after : List Step} (h : Promised (before ++ after)) : Promised before := by
  obtain ⟨honce, hascending, hpadded⟩ := h
  rw [List.filterMap_append] at honce hascending hpadded
  exact ⟨(List.nodup_append.mp honce).1, (List.pairwise_append.mp hascending).1,
    fun reference hmem => hpadded reference (List.mem_append_left _ hmem)⟩

/-! ## The reasons and the counters -/

/-- How the counters of the clock stand to the reasons published since the last observation. -/
structure System.Counted (s : System) : Prop where
  hard : s.clock.hard_reset_generation =
    s.estimator.last_render_hard_reset_generation.getD 0 + s.published.countP is_hard
  last : s.published ≠ [] → s.clock.last_discontinuity_reason = s.published.getLast?
  quiet : s.published = [] → ∀ v, s.estimator.last_render_discontinuity_count = some v →
    v = s.clock.discontinuity_count

section

variable {clock : EchoRenderClock} {boundary : EchoRenderBoundary} {reference : RenderReference} {observed_at : Nat}

/-- The counters move with the reason that is published, and only with it. -/
structure Publishes (clock : EchoRenderClock) (marked : Marked) : Prop where
  silent : marked.reason = none → marked.clock.discontinuity_count = clock.discontinuity_count ∧
    marked.clock.hard_reset_generation = clock.hard_reset_generation ∧
    marked.clock.last_discontinuity_reason = clock.last_discontinuity_reason
  spoken : ∀ reason, marked.reason = some reason →
    marked.clock.hard_reset_generation = (clock.publish_discontinuity reason).hard_reset_generation ∧
    marked.clock.last_discontinuity_reason = some reason

theorem boundary_marked_counters (clock : EchoRenderClock) (boundary : EchoRenderBoundary) :
    (boundary_marked clock boundary).clock.discontinuity_count = clock.discontinuity_count ∧
      (boundary_marked clock boundary).clock.hard_reset_generation = clock.hard_reset_generation ∧
      (boundary_marked clock boundary).clock.last_discontinuity_reason = clock.last_discontinuity_reason := by
  cases boundary with
  | StreamStarted _ =>
    simp only [boundary_marked, stream_started]
    split <;> simp
  | _ => exact ⟨rfl, rfl, rfl⟩

/-- A boundary without a reason leaves the timing of the clock alone; one with a reason clears it. -/
theorem mark_cases (clock : EchoRenderClock) (boundary : EchoRenderBoundary) (observed_at : Nat) :
    (mark_echo_render_discontinuity boundary observed_at clock = boundary_marked clock boundary ∧
      (boundary_marked clock boundary).reason = none) ∨
    ∃ reason, mark_echo_render_discontinuity boundary observed_at clock =
      ⟨((boundary_marked clock boundary).clock.clear_render_timing observed_at).publish_discontinuity reason,
        some reason⟩ := by
  unfold mark_echo_render_discontinuity
  cases hreason : (boundary_marked clock boundary).reason with
  | none => exact .inl ⟨by simp [hreason], rfl⟩
  | some reason => exact .inr ⟨reason, by simp [hreason]⟩

/-- A reference is refused with a reason, or without one, or is taken into the clock. -/
theorem push_cases (clock : EchoRenderClock) (reference : RenderReference) :
    (started_session reference.render_session_id clock = none ∧ push_echo_reference_at reference clock =
      ⟨clock.publish_discontinuity "wasapi-render-frame-session-mismatch",
        some "wasapi-render-frame-session-mismatch"⟩) ∨
    (reference.matcher_error = true ∧ push_echo_reference_at reference clock = ⟨clock, none⟩) ∨
    ∃ session, started_session reference.render_session_id clock = some session ∧ reference.matcher_error = false ∧
      ∃ known, known = clock.with_session reference.render_session_id { session with
          last_player_position := some reference.player_position
          last_submitted_frames := some reference.submitted_frames } ∧
        (push_echo_reference_at reference clock = ⟨known.with_reference reference, none⟩ ∨
          push_echo_reference_at reference clock =
            ⟨(known.publish_discontinuity "wasapi-render-position-regressed").with_reference reference,
              some "wasapi-render-position-regressed"⟩) := by
  unfold push_echo_reference_at
  cases hsession : started_session reference.render_session_id clock with
  | none => exact .inl ⟨rfl, rfl⟩
  | some session =>
    cases herror : reference.matcher_error with
    | true => exact .inr (.inl ⟨rfl, by simp⟩)
    | false =>
      refine .inr (.inr ⟨session, rfl, rfl, _, rfl, ?_⟩)
      cases session.position_regressed reference <;> simp

theorem mark_publishes : Publishes clock (mark_echo_render_discontinuity boundary observed_at clock) := by
  obtain ⟨hcount, hhard, hlast⟩ := boundary_marked_counters clock boundary
  rcases mark_cases clock boundary observed_at with ⟨hmark, hreason⟩ | ⟨reason, hmark⟩
  · rw [hmark]
    exact ⟨fun _ => ⟨hcount, hhard, hlast⟩, fun reason h => by simp [hreason] at h⟩
  · rw [hmark]
    refine ⟨by simp, fun _ h => ?_⟩
    obtain rfl := Option.some.inj h
    simp [EchoRenderClock.publish_discontinuity, EchoRenderClock.clear_render_timing, hhard]

theorem push_publishes : Publishes clock (push_echo_reference_at reference clock) := by
  rcases push_cases clock reference with
    ⟨-, hpush⟩ | ⟨-, hpush⟩ | ⟨session, -, -, known, rfl, hpush | hpush⟩ <;> rw [hpush]
  · exact ⟨by simp, fun reason h => by obtain rfl := Option.some.inj h; exact ⟨rfl, rfl⟩⟩
  · exact ⟨fun _ => ⟨rfl, rfl, rfl⟩, by simp⟩
  · exact ⟨fun _ => ⟨rfl, rfl, rfl⟩, by simp⟩
  · exact ⟨by simp, fun reason h => by obtain rfl := Option.some.inj h; exact ⟨rfl, rfl⟩⟩

end

section

variable {s : System} {op : Step}

theorem rendered_publishes : Publishes s.clock (s.rendered op) := by
  cases op with
  | mark _ _ => exact mark_publishes
  | push _ => exact push_publishes
  | observe _ => exact ⟨fun _ => ⟨rfl, rfl, rfl⟩, by simp [System.rendered]⟩

@[simp] theorem follow_positions (estimator : AecDelayEstimator) (observation : CaptureClockObservation) :
    (estimator.follow_capture_episode observation).render_submitted_frames_by_epoch =
      estimator.render_submitted_frames_by_epoch := by
  unfold AecDelayEstimator.follow_capture_episode
  split_ifs <;> rfl

/-- Pinning the time of a packet leaves what it says of the render side. -/
theorem clamped_render (estimator : AecDelayEstimator) (observation : CaptureClockObservation) :
    (estimator.clamped observation) = { observation with
      packet_qpc_100ns := (estimator.clamped observation).packet_qpc_100ns } := by
  unfold AecDelayEstimator.clamped
  split <;> rfl

theorem seen_render (s : System) (packet : CapturedPacket) :
    (s.seen packet).render_submitted_frames = s.clock.last_submitted_frames ∧
    (s.seen packet).render_timeline_epoch = s.clock.render_timeline_epoch ∧
    (s.seen packet).render_discontinuity_count = s.clock.discontinuity_count ∧
    (s.seen packet).render_hard_reset_generation = s.clock.hard_reset_generation ∧
    (s.seen packet).render_discontinuity_reason = s.clock.last_discontinuity_reason ∧
    ((s.seen packet).render_endpoint_padding_frames = none ∨
      (s.seen packet).render_endpoint_padding_frames = s.clock.last_endpoint_padding_frames) := by
  unfold System.seen
  rw [clamped_render]
  cases hactive : packet.playback_active <;> simp [CapturedPacket.observation, active_render_delay_frames, hactive]

/-- The baselines that an observation leaves. -/
theorem observed_baseline (s : System) (packet : CapturedPacket) :
    (s.step (.observe packet)).estimator.last_render_hard_reset_generation = some s.clock.hard_reset_generation ∧
    (s.step (.observe packet)).estimator.last_render_discontinuity_count = some s.clock.discontinuity_count ∧
    (s.step (.observe packet)).estimator.render_submitted_frames_by_epoch =
      AecDelayEstimator.track_epoch (s.seen packet) s.estimator.render_submitted_frames_by_epoch := by
  obtain ⟨-, -, hcount, hhard, -⟩ := seen_render s packet
  refine ⟨?_, ?_, ?_⟩
  · rw [← hhard]
    rfl
  · rw [← hcount]
    rfl
  · simp [System.step, AecDelayEstimator.observe_capture, AecDelayEstimator.take_baseline,
      AecDelayEstimator.count_faults, System.seen]

theorem counted_step (h : s.Counted) (hmeets : Meets s op) : (s.step op).Counted := by
  have hrendered : ∀ marked, marked = s.rendered op → (s.marked marked).Counted := by
    rintro marked rfl
    have hpublishes := @rendered_publishes s op
    cases hreason : (s.rendered op).reason with
    | none =>
      obtain ⟨hcount, hhard, hlast⟩ := hpublishes.silent hreason
      constructor <;> simp only [System.marked, hreason, Option.toList_none, List.append_nil, hcount, hhard, hlast]
      · exact h.hard
      · exact h.last
      · exact h.quiet
    | some reason =>
      obtain ⟨hhard, hlast⟩ := hpublishes.spoken reason hreason
      constructor <;> simp only [System.marked, hreason, Option.toList_some, hhard, hlast]
      · have hroom := hmeets.1 reason hreason
        have hold := h.hard
        by_cases hr : is_hard reason = true
        · simp [EchoRenderClock.publish_discontinuity, hr, saturating_succ, hroom hr]
          omega
        · simp [EchoRenderClock.publish_discontinuity, hr]
          omega
      · simp
      · simp
  cases op with
  | mark | push => exact hrendered _ rfl
  | observe packet =>
    obtain ⟨hhard, hcount, -⟩ := observed_baseline s packet
    refine ⟨?_, fun hne => absurd rfl hne, fun _ _ hv => ?_⟩
    · rw [hhard]
      simp [System.step]
    · rw [hcount] at hv
      exact (Option.some.inj hv).symm

end

/-! ## The position of the timeline -/

/-- The position in the clock belongs to an epoch, is not below what was observed for it, and covers the padding;
a session whose stream has not started was neither observed nor is it the timeline. -/
structure Placed (announced : List Nat) (clock : EchoRenderClock) (positions : EpochPositions) : Prop where
  epoch : clock.render_timeline_epoch = none → clock.last_submitted_frames = none
  above : ∀ epoch c v, clock.render_timeline_epoch = some epoch → clock.last_submitted_frames = some c →
    positions.lookup epoch = some v → v ≤ c
  padded : ∀ padding c, clock.last_endpoint_padding_frames = some padding → clock.last_submitted_frames = some c →
    padding ≤ c
  known : ∀ epoch, clock.render_timeline_epoch = some epoch ∨ (positions.lookup epoch).isSome ∨
    (clock.active_render_sessions.lookup epoch).isSome → epoch ∈ announced
  pending : ∀ epoch session, clock.active_render_sessions.lookup epoch = some session → session.started = false →
    clock.render_timeline_epoch ≠ some epoch ∧ positions.lookup epoch = none

namespace Placed

variable {announced : List Nat} {clock : EchoRenderClock} {positions : EpochPositions} {owner : RenderOwner}

section

variable (h : Placed announced clock positions)

include h

theorem publish (reason : String) :
    Placed announced (clock.publish_discontinuity reason) positions :=
  ⟨h.epoch, h.above, h.padded, h.known, h.pending⟩

theorem clear (observed_at : Nat) :
    Placed announced (clock.clear_render_timing observed_at) positions := by
  refine ⟨fun _ => rfl, ?_, ?_, h.known, h.pending⟩ <;> simp [EchoRenderClock.clear_render_timing]

theorem session_started (hnew : owner.session_id ∉ announced) :
    Placed (announced ++ [owner.session_id]) (session_started owner clock).clock positions := by
  have hunknown := mt (h.known owner.session_id) hnew
  rw [not_or, not_or] at hunknown
  obtain ⟨hepoch, hposition, -⟩ := hunknown
  refine ⟨h.epoch, h.above, h.padded, fun epoch hsome => ?_, fun epoch session hsession hpending => ?_⟩
  · by_cases heq : epoch = owner.session_id
    · simp [heq]
    · have hold := h.known epoch
      rw [echo_render.session_started, AList.lookup_insert_ne heq] at hsome
      exact List.mem_append_left _ (hold hsome)
  · by_cases heq : epoch = owner.session_id
    · subst heq
      exact ⟨hepoch, by simpa using hposition⟩
    · rw [echo_render.session_started, AList.lookup_insert_ne heq] at hsession
      exact h.pending epoch session hsession hpending

theorem stream_started : Placed announced (stream_started owner clock).clock positions := by
  unfold echo_render.stream_started
  cases hmatching : matching_pending owner clock with
  | none => exact h
  | some session =>
    obtain ⟨hsession, hcond⟩ := Option.filter_eq_some_iff.mp hmatching
    have hpending : session.started = false := by simp at hcond; exact hcond.2
    obtain ⟨-, hnever⟩ := h.pending _ session hsession hpending
    refine ⟨by simp, fun epoch _ _ he _ hv => ?_, h.padded, fun epoch hsome => ?_,
      fun epoch session' hsession' hpending' => ?_⟩
    · obtain rfl := Option.some.inj he
      rw [hnever] at hv
      cases hv
    · refine h.known epoch ?_
      by_cases heq : epoch = owner.session_id
      · subst heq
        exact .inr (.inr (by rw [hsession]; rfl))
      · rcases hsome with he | hsome
        · exact absurd (Option.some.inj he).symm heq
        · rw [AList.lookup_insert_ne heq] at hsome
          exact .inr hsome
    · by_cases heq : epoch = owner.session_id
      · subst heq
        rw [AList.lookup_insert] at hsession'
        obtain rfl := Option.some.inj hsession'
        cases hpending'
      · rw [AList.lookup_insert_ne heq] at hsession'
        exact ⟨fun he => heq (Option.some.inj he).symm, (h.pending epoch session' hsession' hpending').2⟩

theorem session_ended (normally_drained stream_started : Bool) :
    Placed announced (session_ended owner normally_drained stream_started clock).clock positions := by
  have herase : ∀ epoch session, (clock.active_render_sessions.erase owner.session_id).lookup epoch = some session →
      clock.active_render_sessions.lookup epoch = some session := by
    intro epoch session hsession
    by_cases heq : epoch = owner.session_id
    · rw [heq, AList.lookup_erase] at hsession
      cases hsession
    · rwa [AList.lookup_erase_ne heq] at hsession
  refine ⟨h.epoch, h.above, h.padded, fun epoch hsome => h.known epoch ?_, fun epoch session hsession => ?_⟩
  · rcases hsome with hsome | hsome | hsome
    · exact .inl hsome
    · exact .inr (.inl hsome)
    · obtain ⟨session, hsession⟩ := Option.isSome_iff_exists.mp hsome
      exact .inr (.inr (Option.isSome_iff_exists.mpr ⟨session, herase epoch session hsession⟩))
  · exact h.pending epoch session (herase epoch session hsession)

/-- A reference that is not below what was observed becomes the position. -/
theorem with_reference {reference : RenderReference} {session : RenderSession}
    (hsession : started_session reference.render_session_id clock = some session)
    (habove : ∀ v, positions.lookup reference.render_session_id = some v → v ≤ reference.submitted_frames)
    (hpadded : reference.endpoint_padding_frames ≤ reference.submitted_frames) {new : RenderSession}
    {known : EchoRenderClock} (hknown : known = clock.with_session reference.render_session_id new)
    (hnew : new.started = true) : Placed announced (known.with_reference reference) positions := by
  subst hknown
  obtain ⟨hold, -⟩ := Option.filter_eq_some_iff.mp hsession
  have hmine : reference.render_session_id ∈ announced :=
    h.known _ (.inr (.inr (Option.isSome_iff_exists.mpr ⟨session, hold⟩)))
  refine ⟨by simp [EchoRenderClock.with_reference], fun epoch c v he hc hv => ?_, fun _ c hp hc => ?_,
    fun epoch hsome => ?_, fun epoch other hother hpending => ?_⟩
  · obtain rfl := Option.some.inj he
    obtain rfl := Option.some.inj hc
    exact habove v hv
  · obtain rfl := Option.some.inj hp
    obtain rfl := Option.some.inj hc
    exact hpadded
  · by_cases heq : epoch = reference.render_session_id
    · exact heq ▸ hmine
    · rcases hsome with he | hv | hs
      · exact absurd (Option.some.inj he).symm heq
      · exact h.known epoch (.inr (.inl hv))
      · simp only [EchoRenderClock.with_reference, EchoRenderClock.with_session, AList.lookup_insert_ne heq] at hs
        exact h.known epoch (.inr (.inr hs))
  · by_cases heq : epoch = reference.render_session_id
    · subst heq
      simp only [EchoRenderClock.with_reference, EchoRenderClock.with_session, AList.lookup_insert] at hother
      rw [← Option.some.inj hother, hnew] at hpending
      cases hpending
    · simp only [EchoRenderClock.with_reference, EchoRenderClock.with_session, AList.lookup_insert_ne heq] at hother
      exact ⟨fun he => heq (Option.some.inj he).symm, (h.pending epoch other hother hpending).2⟩

/-- An observation takes the position in the clock as the baseline of the timeline. -/
theorem observe {observation : CaptureClockObservation}
    (hepoch : observation.render_timeline_epoch = clock.render_timeline_epoch)
    (hframes : observation.render_submitted_frames = clock.last_submitted_frames) :
    Placed announced clock (AecDelayEstimator.track_epoch observation positions) := by
  have htrack := @AecDelayEstimator.lookup_track_epoch observation positions
  rw [hepoch, hframes] at htrack
  refine ⟨h.epoch, fun epoch c v he hc hv => ?_, h.padded, fun epoch hsome => ?_,
    fun epoch session hsession hpending => ?_⟩
  · rcases htrack hv with ⟨-, hv⟩ | ⟨hv, -⟩
    · exact le_of_eq (Option.some.inj (hv.symm.trans hc))
    · exact h.above epoch c v he hc hv
  · rcases hsome with he | hv | hs
    · exact h.known epoch (.inl he)
    · obtain ⟨v, hv⟩ := Option.isSome_iff_exists.mp hv
      rcases htrack hv with ⟨he, -⟩ | ⟨hv, -⟩
      · exact h.known epoch (.inl he)
      · exact h.known epoch (.inr (.inl (by rw [hv]; rfl)))
    · exact h.known epoch (.inr (.inr hs))
  · obtain ⟨hnot, hnever⟩ := h.pending epoch session hsession hpending
    refine ⟨hnot, Option.eq_none_iff_forall_ne_some.mpr fun v hv => ?_⟩
    rcases htrack hv with ⟨he, -⟩ | ⟨hv, -⟩
    · exact hnot he
    · rw [hnever] at hv
      cases hv

theorem boundary (boundary : EchoRenderBoundary) (observed_at : Nat)
    (hnew : ∀ id, (Step.mark boundary observed_at).session_started = some id → id ∉ announced) :
    Placed (announced ++ (Step.mark boundary observed_at).session_started.toList)
      (mark_echo_render_discontinuity boundary observed_at clock).clock positions := by
  have hmarked : Placed (announced ++ (Step.mark boundary observed_at).session_started.toList)
      (boundary_marked clock boundary).clock positions := by
    cases boundary with
    | SessionStarted owner => exact h.session_started (hnew _ rfl)
    | StreamStarted owner =>
      rw [Step.session_started, Option.toList_none, List.append_nil]
      · exact h.stream_started
      · simp
    | SessionEnded owner drained started =>
      rw [Step.session_started, Option.toList_none, List.append_nil]
      · exact h.session_ended drained started
      · simp
    | DeviceFault reason =>
      rw [Step.session_started, Option.toList_none, List.append_nil]
      · exact h
      · simp
  rcases mark_cases clock boundary observed_at with ⟨hmark, -⟩ | ⟨reason, hmark⟩ <;> rw [hmark]
  · exact hmarked
  · exact (hmarked.clear observed_at).publish reason

end

end Placed

theorem placed_step {announced : List Nat} {s : System} {op : Step}
    (h : Placed announced s.clock s.estimator.render_submitted_frames_by_epoch) (hmeets : Meets s op)
    (hnew : ∀ id, op.session_started = some id → id ∉ announced)
    (hpadded : ∀ reference, op = .push reference → reference.endpoint_padding_frames ≤ reference.submitted_frames) :
    Placed (announced ++ op.session_started.toList) (s.step op).clock
      (s.step op).estimator.render_submitted_frames_by_epoch := by
  cases op with
  | mark boundary observed_at => exact h.boundary boundary observed_at hnew
  | push reference =>
    simp only [Step.session_started, Option.toList_none, List.append_nil, System.step, System.marked]
    have habove : ∀ session, started_session reference.render_session_id s.clock = some session →
        reference.matcher_error = false → ∀ v, s.estimator.render_submitted_frames_by_epoch.lookup
          reference.render_session_id = some v → v ≤ reference.submitted_frames := by
      intro session hsession herror v hv
      by_contra hlt
      exact hmeets.2 reference rfl ⟨by rw [hsession]; rfl, herror, v, hv, by omega⟩
    rcases push_cases s.clock reference with
      ⟨-, hpush⟩ | ⟨-, hpush⟩ | ⟨session, hsession, herror, known, hknown, hpush⟩
    · rw [hpush]
      exact h.publish _
    · rw [hpush]
      exact h
    · have hstarted := (Option.filter_eq_some_iff.mp hsession).2
      have hplaced := h.with_reference hsession (habove session hsession herror) (hpadded reference rfl) hknown hstarted
      rcases hpush with hpush | hpush <;> rw [hpush]
      · exact hplaced
      · exact hplaced.publish "wasapi-render-position-regressed"
  | observe packet =>
    obtain ⟨hframes, hepoch, -⟩ := seen_render s packet
    obtain ⟨-, -, hpositions⟩ := observed_baseline s packet
    rw [hpositions, Step.session_started, Option.toList_none, List.append_nil]
    · exact h.observe hepoch hframes
    · simp

/-! ## What an observation asks for -/

section

variable {announced : List Nat} {s : System} (packet : CapturedPacket)

/-- No position in the clock looks like a step back. -/
theorem no_position_discontinuity
    (h : Placed announced s.clock s.estimator.render_submitted_frames_by_epoch) :
    s.estimator.render_position_discontinuity (s.seen packet) = false := by
  obtain ⟨hframes, hepoch, -, -, -, hpadding⟩ := seen_render s packet
  unfold AecDelayEstimator.render_position_discontinuity
  rw [hframes]
  cases hc : s.clock.last_submitted_frames with
  | none => rfl
  | some c =>
    simp only [Option.any_some, Bool.or_eq_false_iff]
    constructor
    · unfold AecDelayEstimator.position_regressed
      rw [hepoch]
      cases he : s.clock.render_timeline_epoch with
      | none => simp [h.epoch he] at hc
      | some epoch =>
        dsimp only
        cases hv : s.estimator.render_submitted_frames_by_epoch.lookup epoch with
        | none => rfl
        | some v => simpa using h.above epoch c v he hc hv
    · rcases hpadding with hnone | hsame
      · simp [hnone]
      · rw [hsame]
        cases hp : s.clock.last_endpoint_padding_frames with
        | none => rfl
        | some padding => simpa using h.padded padding c hp hc

theorem published_hard_reset_iff (h : s.Counted) :
    s.estimator.published_hard_reset (s.seen packet) = true ↔ s.hard_boundary := by
  obtain ⟨-, -, -, hhard, -⟩ := seen_render s packet
  have hcount := h.hard
  unfold AecDelayEstimator.published_hard_reset System.hard_boundary
  rw [hhard, decide_eq_true_iff, ← List.countP_pos_iff]
  omega

/-- A change whose last reason is no underrun is a hard boundary. -/
theorem hard_of_published (h : s.Counted) (hpublished : s.estimator.published_render_discontinuity (s.seen packet) = true)
    (hreason : (s.seen packet).render_discontinuity_reason ≠ some WASAPI_RENDER_UNDERRUN) : s.hard_boundary := by
  obtain ⟨-, -, hcount, -, hlast, -⟩ := seen_render s packet
  rw [hlast] at hreason
  unfold AecDelayEstimator.published_render_discontinuity at hpublished
  rw [hcount] at hpublished
  have hsome : s.published ≠ [] := by
    intro hnil
    cases hv : s.estimator.last_render_discontinuity_count with
    | none => simp [hv] at hpublished
    | some v => simp [hv, h.quiet hnil v hv] at hpublished
  rw [h.last hsome, List.getLast?_eq_some_getLast hsome] at hreason
  refine ⟨s.published.getLast hsome, List.getLast_mem hsome, ?_⟩
  simpa [is_hard] using hreason

theorem demands_iff (h : s.Counted) (hplaced : Placed announced s.clock s.estimator.render_submitted_frames_by_epoch) :
    s.demands packet = true ↔ s.hard_boundary := by
  unfold System.demands AecDelayEstimator.render_reset_demanded AecDelayEstimator.render_boundary_requires_aec_reset
  rw [no_position_discontinuity packet hplaced, Bool.or_false, Bool.or_eq_true, published_hard_reset_iff packet h]
  refine or_iff_left_of_imp fun hsoft => ?_
  simp only [Bool.and_eq_true, decide_eq_true_iff] at hsoft
  exact hard_of_published packet h hsoft.1 hsoft.2

/-- An observation of a position below the baseline of its epoch asks for a reset, whatever was published. -/
theorem demands_of_below_baseline {reference : RenderReference} (h : s.below_baseline reference) :
    (s.step (.push reference)).demands packet = true := by
  obtain ⟨hstarted, herror, _, hv, hlt⟩ := h
  obtain ⟨_, hsession⟩ := Option.isSome_iff_exists.mp hstarted
  have hclock : ∃ known : EchoRenderClock, (s.step (.push reference)).clock = known.with_reference reference := by
    rcases push_cases s.clock reference with
      ⟨hnone, -⟩ | ⟨hrefused, -⟩ | ⟨-, -, -, known, -, hpush | hpush⟩
    · rw [hsession] at hnone
      cases hnone
    · rw [herror] at hrefused
      cases hrefused
    · exact ⟨_, congrArg Marked.clock hpush⟩
    · exact ⟨_, congrArg Marked.clock hpush⟩
  obtain ⟨known, hknown⟩ := hclock
  obtain ⟨hframes, hepoch, -⟩ := seen_render (s.step (.push reference)) packet
  rw [hknown] at hframes hepoch
  have hregressed : (s.step (.push reference)).estimator.position_regressed
      ((s.step (.push reference)).seen packet) reference.submitted_frames = true := by
    unfold AecDelayEstimator.position_regressed
    rw [hepoch]
    change (s.estimator.render_submitted_frames_by_epoch.lookup reference.render_session_id).any _ = true
    rw [hv]
    simpa using hlt
  unfold System.demands AecDelayEstimator.render_reset_demanded AecDelayEstimator.render_position_discontinuity
  rw [hframes]
  simp [EchoRenderClock.with_reference, hregressed]

end

/-- A clock that nothing was published to, and an estimator that has observed nothing. -/
def System.start (sample_rate_hz : Nat) : System where
  estimator := { sample_rate_hz := sample_rate_hz }

/-- What a packet is told of the render side. -/
structure Answers (s : System) (packet : CapturedPacket) : Prop where
  demand : s.demands packet = true ↔ s.hard_boundary
  required : s.demands packet = true → (s.estimate packet).aec_reset_required = true
  reason : s.estimator.capture_discontinuity_boundary (s.seen packet) = false →
    ((s.estimate packet).aec_reset_reason = some "wasapi-render-session-discontinuity" ↔ s.demands packet = true)

theorem answers_of_demands {s : System} {packet : CapturedPacket} (h : s.demands packet = true ↔ s.hard_boundary) :
    Answers s packet := by
  refine ⟨h, fun hdemand => ?_, fun _ => ?_⟩
  · have hdemand' : s.estimator.render_reset_demanded (s.seen packet) = true := hdemand
    change (s.estimator.aec_reset_reason (s.seen packet)).isSome = true
    unfold AecDelayEstimator.aec_reset_reason
    split <;> rfl
  · change s.estimator.aec_reset_reason (s.seen packet) = _ ↔ s.estimator.render_reset_demanded (s.seen packet) = true
    unfold AecDelayEstimator.aec_reset_reason
    split_ifs <;> simp_all

theorem run_placed {sample_rate_hz : Nat} {ops : List Step} (hpromised : Promised ops)
    (hmeets : Along System.step Meets (.start sample_rate_hz) ops) :
    (run System.step (.start sample_rate_hz) ops).Counted ∧
      Placed (ops.filterMap Step.session_started) (run System.step (.start sample_rate_hz) ops).clock
        (run System.step (.start sample_rate_hz) ops).estimator.render_submitted_frames_by_epoch := by
  induction ops using List.reverseRecOn with
  | nil =>
    constructor
    · constructor <;> simp [System.start]
    · constructor <;> simp [System.start]
  | append_singleton ops op ih =>
    obtain ⟨hbefore, hop, -⟩ := Along.append.mp hmeets
    obtain ⟨hcounted, hplaced⟩ := ih hpromised.before hbefore
    rw [run_snoc]
    refine ⟨counted_step hcounted hop, ?_⟩
    have hnew : ∀ id, op.session_started = some id → id ∉ ops.filterMap Step.session_started := by
      intro id hid hmem
      have honce := hpromised.once
      rw [List.filterMap_append, List.nodup_append] at honce
      exact honce.2.2 id hmem id (by simp [hid]) rfl
    have hstep := placed_step hplaced hop hnew fun reference hreference =>
      hpromised.padded reference (by simp [hreference, Step.pushed])
    cases hid : op.session_started <;> simpa [List.filterMap_append, hid] using hstep

/-- In a run in which no reference is accepted below the position that was observed for its session, an observation
asks for a reset because of the render side exactly when a hard boundary was published since the last one; after a
reference below it, the next observation asks for one whatever was published. -/
theorem render_resets_follow_hard_boundaries (sample_rate_hz : Nat) (ops : List Step) (hpromised : Promised ops)
    (hmeets : Along System.step Meets (.start sample_rate_hz) ops) :
    (∀ before packet after, ops = before ++ .observe packet :: after →
      Answers (run System.step (.start sample_rate_hz) before) packet) ∧
    ∀ (s : System) reference packet, s.below_baseline reference →
      (s.step (.push reference)).demands packet = true := by
  refine ⟨?_, fun s reference packet => demands_of_below_baseline packet⟩
  rintro before packet after rfl
  obtain ⟨hcounted, hplaced⟩ := run_placed hpromised.before (Along.append.mp hmeets).1
  exact answers_of_demands (demands_iff packet hcounted hplaced)

/-! ## A stream that starts where another was -/

def a_renderer (session_id : Nat) : RenderOwner := ⟨session_id, "endpoint", "renderer", 1⟩

def a_reference (session_id submitted_frames : Nat) : RenderReference where
  render_session_id := session_id
  samples := 960
  channel_count := 2
  player_position := 0
  submitted_frames := submitted_frames
  endpoint_padding_frames := 480
  physical_prefix_offset_frames := 0
  render_time := 0

def a_packet (index : Nat) : CapturedPacket where
  device_frame_index := 480 * index
  packet_qpc_100ns := 100000 * index
  capture_buffer_frames := 960

/-- One session ends normally, the next one starts on the same endpoint. -/
def two_sessions (between : List Step) : List Step :=
  [.mark (.SessionStarted (a_renderer 1)) 0, .mark (.StreamStarted (a_renderer 1)) 1, .push (a_reference 1 4800),
    .observe (a_packet 1), .mark (.SessionEnded (a_renderer 1) true true) 2,
    .mark (.SessionStarted (a_renderer 2)) 3, .mark (.StreamStarted (a_renderer 2)) 4] ++ between ++
    [.push (a_reference 2 480)]

/-- Without a packet between the start of the stream and its first reference, the reset for a lost device is the only
one. -/
theorem a_fault_is_answered : Answers (run System.step (.start 48000)
    (two_sessions [] ++ [.mark (.DeviceFault "device-lost") 5, .mark (.DeviceFault "wasapi-render-underrun") 6]))
    (a_packet 2) := by
  have hpromised : Promised (two_sessions [] ++ [.mark (.DeviceFault "device-lost") 5,
    .mark (.DeviceFault "wasapi-render-underrun") 6] ++ [.observe (a_packet 2)]) := ⟨by decide, by decide, by decide⟩
  exact (render_resets_follow_hard_boundaries 48000 _ hpromised (by decide +kernel)).1 _ (a_packet 2) [] rfl

/-- A packet between the start of the stream and its first reference takes the position of the session before for
the new one, and the next packet asks for a reset although nothing was published. -/
theorem an_observed_start_asks_for_a_reset :
    Promised (two_sessions [.observe (a_packet 2)] ++ [.observe (a_packet 3)]) ∧
    (run System.step (.start 48000) (two_sessions [.observe (a_packet 2)])).published = [] ∧
    (run System.step (.start 48000) (two_sessions [.observe (a_packet 2)])).demands (a_packet 3) = true ∧
    ((run System.step (.start 48000) (two_sessions [.observe (a_packet 2)])).estimate (a_packet 3)).aec_reset_reason =
      some "wasapi-render-session-discontinuity" :=
  ⟨⟨by decide, by decide, by decide⟩, by decide +kernel, by decide +kernel, by decide +kernel⟩

end omni_translate.echo_render

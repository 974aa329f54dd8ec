-- Writing one frame of translated audio (`write_bridge_audio_frame` of
-- `bridge/ipc/audio_writer.rs`) among the other threads that use the playback
-- quiescence: the cue is registered before the frame is sent, and taken back when
-- the frame fails, unless the frame fails before that.
import OmniTranslate.PlaybackQuiescence
import OmniTranslate.TranslationFrameLaws

namespace omni_translate.audio_writer

open calls runs
open playback_quiescence
open translated_pcm_authority (BridgeTranslationSinkOwner)

/-! ## The write -/

/-- What a write meets: the snapshots that it reads, the failures of the pipe and of JSON, and what the other threads
do to the quiescence until it may begin, until its checks, until the cue is registered, and until the outcome is
known. -/
structure WriteOutside where
  snapshot : BridgeRuntimeSnapshot
  current : BridgeRuntimeSnapshot
  stamp : FrameStamp
  serialize_error : Option String
  open_error : Option String
  write_error : Option String
  ack_size_error : Option String
  ack_read_error : Option String
  ack : Except String AudioFrameAck
  waiting : List QuiescenceOp
  before : List QuiescenceOp
  meanwhile : List QuiescenceOp
  during : List QuiescenceOp

/-- `unwrap_err` of a result that is one. -/
def unwrap_err : Except String Nat → String
  | .error error => error
  | .ok _ => ""

/-- The acknowledgement, seen by a desktop whose Bridge may have changed in the meantime. -/
def acknowledged (prepared : PreparedFrame) (current : BridgeRuntimeSnapshot) (ack : AudioFrameAck) :
    Except String Nat :=
  let accepted_result := accepted_translation_frames_for_header prepared.header ack
  if translation_sink_owner_changed prepared.frame_owner current then
    .error (translation_write_error_for_owner (some prepared.frame_owner) current
      "translation acknowledgement arrived after the Bridge owner changed")
  else
    match ack.error_code, prepared.physical_owner with
    | some "bridge.session-mismatch", some expected_owner =>
      .error (translation_generation_ended_error expected_owner current (unwrap_err accepted_result))
    | _, _ => accepted_result

/-- From the header's JSON on. -/
def send_frame (prepared : PreparedFrame) (outside : WriteOutside) : Except String Nat :=
  let for_owner (error : String) : String :=
    translation_write_error_for_owner prepared.physical_owner outside.current error
  match outside.serialize_error, outside.open_error, outside.write_error, outside.ack_size_error,
    outside.ack_read_error with
  | some error, _, _, _, _ => .error error
  | none, some error, _, _, _ => .error (for_owner ("Bridge audio pipe open failed: " ++ error))
  | none, none, some error, _, _ => .error (for_owner ("Bridge audio pipe write failed: " ++ error))
  | none, none, none, some error, _ => .error (for_owner ("Bridge audio pipe ack size read failed: " ++ error))
  | none, none, none, none, some error => .error (for_owner ("Bridge audio pipe ack read failed: " ++ error))
  | none, none, none, none, none =>
    match outside.ack with
    | .error error => .error error
    | .ok ack => acknowledged prepared outside.current ack

/-- The operations of other threads. -/
def others (ops : List QuiescenceOp) (s : Shared) : Option Shared := run step (some s) ops

/-- A section that waits for the end of a restart is not over while the restart goes on. -/
def unless_held_up (op : QuiescenceOp) (s : Shared) : Option Shared :=
  if s.state.snapshot.restart_barrier then none else s.act op

/-- The quiescence when the frame is checked. The guard of the acknowledgement is alive from here on. -/
def at_checks (outside : WriteOutside) (s : Shared) : Option Shared :=
  (others outside.waiting s).bind fun s => (unless_held_up .begin_bridge_ack s).bind (others outside.before)

/-- Registers the cue; only a blank one does not wait for the end of a restart. -/
def register_cue (write : FrameWrite) (owner : BridgeTranslationSinkOwner) (s : Shared) : Option Shared :=
  let op := .expect_bridge_playback_cue_for_owner write.cue_id (playback_authority owner)
    (write.samples.length / write.channel_count) write.sample_rate_hz
  if text.trim write.cue_id.toList = [] then s.act op else unless_held_up op s

/-- The quiescence after the cue is registered and the frame is sent. -/
def at_outcome (write : FrameWrite) (outside : WriteOutside) (owner : BridgeTranslationSinkOwner) (s : Shared) :
    Option Shared :=
  (others outside.meanwhile s).bind fun s => (register_cue write owner s).bind (others outside.during)

def close_failed_translation_cue (cue_id : String) (owner : BridgeTranslationSinkOwner) (s : Shared) : Shared :=
  { s with state :=
      (observe_bridge_playback_status_for_owner s.state cue_id "route-failed" (playback_authority owner)).1 }

/-- A frame of physical playback for an owner; `none` as long as the call does not return. -/
def write_bridge_audio_frame (write : FrameWrite) (owner : BridgeTranslationSinkOwner) (outside : WriteOutside)
    (s : Shared) : Option (Except String Nat × Shared) :=
  (at_checks outside s).bind fun checked =>
    match prepare_frame outside.snapshot (some owner) outside.stamp write with
    | .error error => some (.error error, checked.drop_ack_guard)
    | .ok prepared =>
      (at_outcome write outside owner checked).map fun served =>
        match send_frame prepared outside with
        | .ok accepted_frames => (.ok accepted_frames, served.drop_ack_guard)
        | .error error => (.error error, (close_failed_translation_cue write.cue_id owner served).drop_ack_guard)

/-! ## What a failed write leaves -/

/-- The checks before the cue is registered: the direction is one, the Bridge of the snapshot has this owner, and it
runs. -/
structure PassesChecks (write : FrameWrite) (owner : BridgeTranslationSinkOwner) (snapshot : BridgeRuntimeSnapshot) :
    Prop where
  direction : write.route_direction = "inbound" ∨ write.route_direction = "outbound"
  same_owner : from_snapshot snapshot = some owner
  running : snapshot.process_status = "running" ∧ snapshot.bridge_state ∈ ["running", "degraded"]

theorem parse_direction_iff (value : String) :
    (∃ direction, parse_route_direction value = .ok direction) ↔ value = "inbound" ∨ value = "outbound" := by
  unfold parse_route_direction
  split
  · exact ⟨fun _ => .inl rfl, fun _ => ⟨_, rfl⟩⟩
  · exact ⟨fun _ => .inr rfl, fun _ => ⟨_, rfl⟩⟩
  · next hin hout =>
    refine ⟨?_, fun h => absurd h (not_or.mpr ⟨hin, hout⟩)⟩
    rintro ⟨_, h⟩
    cases h

section

variable {write : FrameWrite} {owner : BridgeTranslationSinkOwner} {snapshot : BridgeRuntimeSnapshot}
  {stamp : FrameStamp}

theorem passes_checks_of_prepared (hsink : write.translation_sink = .PhysicalPlayback) {prepared : PreparedFrame}
    (h : prepare_frame snapshot (some owner) stamp write = .ok prepared) : PassesChecks write owner snapshot := by
  obtain ⟨_, hdirection, h⟩ := bind_ok h
  obtain ⟨_, _, h⟩ := bind_ok h
  obtain ⟨_, hsame, h⟩ := bind_ok h
  obtain ⟨_, hrunning, -⟩ := bind_ok h
  refine ⟨(parse_direction_iff _).mp ⟨_, hdirection⟩, ?_, require_ok hrunning⟩
  have hunchanged := require_ok hsame
  simpa [physical_owner, hsink, translation_sink_owner_changed] using hunchanged

theorem prepared_of_passes_checks (hsink : write.translation_sink = .PhysicalPlayback)
    (h : PassesChecks write owner snapshot) :
    ∃ prepared, prepare_frame snapshot (some owner) stamp write = .ok prepared := by
  obtain ⟨direction, hdirection⟩ := (parse_direction_iff _).mpr h.direction
  have hsame : (physical_owner write (some owner) owner).all
      (fun owner => !translation_sink_owner_changed owner snapshot) = true := by
    simp [physical_owner, hsink, translation_sink_owner_changed, h.same_owner]
  unfold prepare_frame
  rw [hdirection, ok_bind, h.same_owner]
  dsimp only [expect]
  rw [ok_bind, require_pos hsame, ok_bind, require_pos h.running, ok_bind, (from_snapshot_owner h.same_owner).2.2]
  exact ⟨_, rfl⟩

end

/-- The cue of the owner is among those that playback waits for. -/
def awaits (s : Shared) (cue_id : String) (owner : BridgeTranslationSinkOwner) : Bool :=
  bridge_playback_cue_matches_owner s.state cue_id (playback_authority owner)

theorem awaits_drop_ack_guard (s : Shared) (cue_id : String) (owner : BridgeTranslationSinkOwner) :
    awaits s.drop_ack_guard cue_id owner = awaits s cue_id owner := by
  unfold Shared.drop_ack_guard
  split <;> rfl

theorem closed_is_not_awaited (s : Shared) (cue_id : String) (owner : BridgeTranslationSinkOwner) :
    awaits (close_failed_translation_cue cue_id owner s) cue_id owner = false := by
  unfold close_failed_translation_cue observe_bridge_playback_status_for_owner
  cases hmatch : bridge_playback_cue_matches_owner s.state cue_id (playback_authority owner) with
  | false => exact hmatch
  | true =>
    change ((s.state.active_bridge_cues.erase cue_id).lookup cue_id).any _ = false
    rw [AList.lookup_erase]
    rfl

/-- A frame that fails before its cue is registered leaves the quiescence alone; one that fails later closes the
cue. -/
theorem write_failed {write : FrameWrite} {owner : BridgeTranslationSinkOwner} {outside : WriteOutside} {s s' : Shared}
    {error : String} (h : write_bridge_audio_frame write owner outside s = some (.error error, s')) :
    ∃ checked, at_checks outside s = some checked ∧
      ((prepare_frame outside.snapshot (some owner) outside.stamp write = .error error ∧ s' = checked.drop_ack_guard) ∨
        ∃ prepared served, prepare_frame outside.snapshot (some owner) outside.stamp write = .ok prepared ∧
          s' = (close_failed_translation_cue write.cue_id owner served).drop_ack_guard) := by
  obtain ⟨checked, hchecked, h⟩ := Option.bind_eq_some_iff.mp h
  refine ⟨checked, hchecked, ?_⟩
  split at h
  · next early hearly =>
    obtain ⟨hsame, hstate⟩ := Prod.mk.inj (Option.some.inj h)
    cases hsame
    exact .inl ⟨hearly, hstate.symm⟩
  · next prepared hprepared =>
    obtain ⟨served, -, hlast⟩ := Option.map_eq_some_iff.mp h
    refine .inr ⟨prepared, served, hprepared, ?_⟩
    split at hlast
    · cases (Prod.mk.inj hlast).1
    · exact (Prod.mk.inj hlast).2.symm

/-- A failed frame of a physical cue leaves no entry of the cue with its owner exactly if it passed the checks
before the cue is registered, or there was no such entry when it did not. -/
theorem a_failed_write_leaves_no_cue_iff {write : FrameWrite} (hsink : write.translation_sink = .PhysicalPlayback)
    {owner : BridgeTranslationSinkOwner} {outside : WriteOutside} {s s' : Shared} {error : String}
    (h : write_bridge_audio_frame write owner outside s = some (.error error, s')) :
    awaits s' write.cue_id owner = false ↔
      PassesChecks write owner outside.snapshot ∨
        (at_checks outside s).all (fun checked => !awaits checked write.cue_id owner) = true := by
  obtain ⟨checked, hchecked, ⟨hearly, rfl⟩ | ⟨prepared, served, hprepared, rfl⟩⟩ := write_failed h
  · rw [awaits_drop_ack_guard, hchecked]
    refine ⟨fun hnone => .inr (by simp [hnone]), ?_⟩
    rintro (hpasses | hnone)
    · obtain ⟨prepared, hok⟩ := @prepared_of_passes_checks write owner outside.snapshot outside.stamp hsink hpasses
      rw [hok] at hearly
      cases hearly
    · simpa using hnone
  · rw [awaits_drop_ack_guard]
    exact ⟨fun _ => .inl (passes_checks_of_prepared hsink hprepared), fun _ => closed_is_not_awaited served _ _⟩

/-- A write among no other threads, on a pipe that cannot be opened. -/
def unopened (snapshot : BridgeRuntimeSnapshot) : WriteOutside where
  snapshot := snapshot
  current := snapshot
  stamp := ⟨"u", 0⟩
  serialize_error := none
  open_error := some "not found"
  write_error := none
  ack_size_error := none
  ack_read_error := none
  ack := .error ""
  waiting := []
  before := []
  meanwhile := []
  during := []

/-- The first frame of a cue is registered and accepted. -/
def one_frame_in : List QuiescenceOp :=
  [.begin_bridge_ack, .expect_bridge_playback_cue_for_owner "c" (playback_authority ready_owner) 480 48000, .drop_ack_guard]

/-- The quiescence with the cue of that frame. -/
def awaiting : Shared where
  state := default.set_cues (AList.insert "c" ⟨some (playback_authority ready_owner), some 480, some 48000⟩ ∅)
  ack_guards := 0
  submission_guards := 0
  restart_guards := 0
  handles := 1

theorem one_frame_awaits : run step start one_frame_in = some awaiting := by
  rfl

/-- A call that fails, and what holds of the quiescence that it leaves. -/
def fails_with (p : Shared → Bool) (result : Option (Except String Nat × Shared)) : Bool :=
  result.any fun result => !result.1.toBool && p result.2

theorem failed {p : Shared → Bool} {result : Option (Except String Nat × Shared)} (h : fails_with p result = true) :
    ∃ error s', result = some (.error error, s') ∧ p s' = true := by
  obtain ⟨⟨outcome, s'⟩, hresult, hleft⟩ := (Option.any_eq_true _ _).mp h
  rw [Bool.and_eq_true] at hleft
  cases outcome with
  | ok _ => exact absurd hleft.1 (by simp [Except.toBool])
  | error error => exact ⟨error, s', hresult, hleft.2⟩

/-- The second frame of the cue, on a pipe that is gone. -/
theorem a_frame_without_a_pipe_closes_its_cue :
    ∃ error s', write_bridge_audio_frame (silent_frame 2) ready_owner (unopened ready_snapshot) awaiting =
      some (.error error, s') ∧ awaits s' "c" ready_owner = false := by
  have hfails : fails_with (fun _ => true)
      (write_bridge_audio_frame (silent_frame 2) ready_owner (unopened ready_snapshot) awaiting) = true := by
    decide +kernel
  obtain ⟨error, s', hwrite, -⟩ := failed hfails
  exact ⟨error, s', hwrite,
    (a_failed_write_leaves_no_cue_iff rfl hwrite).mpr (.inl ⟨.inl rfl, by decide +kernel, rfl, by decide⟩)⟩

/-- The next frame of the cue meets a Bridge of a new generation: it fails, and the cue stays. -/
theorem a_superseded_frame_leaves_its_cue :
    ¬ ∀ (write : FrameWrite) (owner : BridgeTranslationSinkOwner) (outside : WriteOutside) (ops : List QuiescenceOp)
        (s s' : Shared) (error : String), write.translation_sink = .PhysicalPlayback → run step start ops = some s →
        write_bridge_audio_frame write owner outside s = some (.error error, s') →
        awaits s' write.cue_id owner = false := by
  intro hall
  have hfails : fails_with (fun s' => awaits s' "c" ready_owner) (write_bridge_audio_frame (silent_frame 2) ready_owner
      (unopened { ready_snapshot with source_generation := 2, source_generation_token := some "b:s:2" })
      awaiting) = true := by
    decide +kernel
  obtain ⟨error, s', hwrite, hleft⟩ := failed hfails
  have hclosed := hall _ _ _ one_frame_in _ _ _ rfl one_frame_awaits hwrite
  rw [show (silent_frame 2).cue_id = "c" from rfl, hleft] at hclosed
  cases hclosed

end omni_translate.audio_writer

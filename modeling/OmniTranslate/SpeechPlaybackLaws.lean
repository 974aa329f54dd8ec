-- When a task that was played was played whole: the Bridge takes its first chunk as
-- the first of a cue, and all of its chunks have audio.
import OmniTranslate.SpeechPlayback
import OmniTranslate.VirtualMicCues

namespace omni_translate.speech_playback

open audio_writer runs calls
open bridge_playback_ack (TranslationPlaybackAuthority)
open playback (VirtualMicCueLedger VirtualMicKey VirtualMicCueProgress Bridge.translation_non_playback_reason)
open virtual_mic (Admits Ends Expects begin_admits complete_terminal_cases complete_success_cases)

variable {S : Type} {s s' t : BridgeAudio S} {key : VirtualMicKey} {index count : Nat}

/-! ## The ledger between frames -/

/-- No write is in flight, and a cue is active from its first chunk on. -/
def Settled (ledger : VirtualMicCueLedger) : Prop :=
  ∀ key progress, ledger.active.lookup key = some progress →
    0 < progress.next_chunk_index ∧ progress.write_in_flight = false

theorem Settled.ends {ledger : VirtualMicCueLedger} (h : ∀ k ≠ key, ∀ progress,
      ledger.active.lookup k = some progress → 0 < progress.next_chunk_index ∧ progress.write_in_flight = false)
    (hfresh : key ∉ ledger.terminal) : Settled (ledger.complete_terminal key).1 := by
  rcases complete_terminal_cases ledger key with ⟨hin, -⟩ | ⟨hends, -⟩
  · exact absurd hin hfresh
  · intro k progress hk
    rw [hends.active k] at hk
    split at hk
    · cases hk
    · next hne => exact h k hne progress hk

theorem Settled.terminal {ledger : VirtualMicCueLedger} (h : Settled ledger) (key : VirtualMicKey) :
    Settled (ledger.complete_terminal key).1 := by
  rcases complete_terminal_cases ledger key with ⟨-, heq⟩ | ⟨hends, -⟩
  · rw [heq]
    exact h
  · intro k progress hk
    rw [hends.active k] at hk
    split at hk
    · cases hk
    · exact h k progress hk

/-- What a ledger knows of a cue after the chunk has been written. -/
def progress_after (index count : Nat) : Option VirtualMicCueProgress :=
  if min (index + 1) (2 ^ 32 - 1) = count then none else some ⟨count, min (index + 1) (2 ^ 32 - 1), false⟩

/-- The ledger after a chunk that it admitted was written. -/
structure Wrote (ledger ledger' : VirtualMicCueLedger) (key : VirtualMicKey) (index count : Nat) : Prop where
  active : ∀ k, ledger'.active.lookup k =
    if k = key then progress_after index count else ledger.active.lookup k
  terminal : progress_after index count ≠ none → ledger'.terminal = ledger.terminal

theorem wrote_of_admitted {ledger admitted : VirtualMicCueLedger} (h : Admits ledger admitted key index count) :
    Wrote ledger (admitted.complete_success key index).1 key index count := by
  have hmine : admitted.active.lookup key = some ⟨count, index, true⟩ := by rw [h.active, if_pos rfl]
  rcases complete_success_cases admitted ⟨key, index⟩ with ⟨hnone, -⟩ | ⟨progress, hexpects, heq⟩
  · exact absurd ⟨hmine, rfl, rfl⟩ (hnone ⟨count, index, true⟩)
  · obtain rfl : progress = ⟨count, index, true⟩ := Option.some.inj (hexpects.active.symm.trans hmine)
    rw [heq]
    by_cases hlast : min (index + 1) (2 ^ 32 - 1) = count
    · have hafter : progress_after index count = none := if_pos hlast
      refine ⟨fun k => ?_, fun hne => absurd hafter hne⟩
      rw [if_pos (show (virtual_mic.advance ⟨count, index, true⟩).next_chunk_index = count from hlast), hafter]
      refine (virtual_mic.lookup_erase_if _ k key).trans ?_
      rw [h.active]
      split <;> rfl
    · have hafter : progress_after index count = some ⟨count, min (index + 1) (2 ^ 32 - 1), false⟩ := if_neg hlast
      rw [if_neg (show (virtual_mic.advance ⟨count, index, true⟩).next_chunk_index ≠ count from hlast)]
      refine ⟨fun k => ?_, fun _ => h.terminal⟩
      rw [hafter, virtual_mic.lookup_insert_if, h.active]
      split <;> rfl

theorem Settled.wrote {ledger ledger' : VirtualMicCueLedger} (h : Settled ledger)
    (hwrote : Wrote ledger ledger' key index count) : Settled ledger' := by
  intro k progress hk
  rw [hwrote.active k] at hk
  split at hk
  · unfold progress_after at hk
    split at hk
    · cases hk
    · rw [← Option.some.inj hk]
      exact ⟨by simp, rfl⟩
  · exact h k progress hk

/-! ## One frame of the virtual microphone -/

/-- What an accepted frame does: its audio is written, or it ends the cue because it has none, or
the ledger takes it for one that it has seen. -/
inductive Takes (key : VirtualMicKey) (index count : Nat) (audio : List S) (s s' : BridgeAudio S) : Prop
  | writes (ledger : VirtualMicCueLedger) (hadmits : Admits s.ledger ledger key index count)
      (haudio : audio ≠ []) (hs' : s' = { s with
        ledger := (ledger.complete_success key index).1
        driver := s.driver ++ [audio] })
  | empty (haudio : audio = []) (hdriver : s'.driver = s.driver)
  | duplicate (hdriver : s'.driver = s.driver)
      (hseen : key ∈ s.ledger.terminal ∨ ∃ progress, s.ledger.active.lookup key = some progress ∧
        index < progress.next_chunk_index)

/-- An acknowledgement without an error. -/
def Accepts (ack : AudioFrameAck) : Prop := ack.error_code = none

variable {header : AudioFrameHeader} {audio : List S} {outside : FrameOutside S}

theorem not_accepts {code message : String} : ¬ Accepts (rejected_audio_frame_ack header code message) := by
  intro h
  cases h

theorem playback_reason_none {empty : Bool} {enabled : Bool} :
    Bridge.translation_non_playback_reason true enabled empty = none ↔ empty = false := by
  cases empty <;> cases enabled <;> decide

/-- The ledger takes a frame for one that it has seen. -/
theorem begin_duplicate {ledger ledger' : VirtualMicCueLedger}
    (h : ledger.begin key index count = .ok (ledger', .Duplicate)) :
    key ∈ ledger.terminal ∨ ∃ progress, ledger.active.lookup key = some progress ∧
      index < progress.next_chunk_index := by
  unfold VirtualMicCueLedger.begin at h
  split at h
  · next hin => exact .inl hin
  · split at h
    · split at h <;> cases h
    · next progress hsome =>
      split at h
      · cases h
      · split at h
        · next hlt => exact .inr ⟨progress, hsome, hlt⟩
        · split at h <;> cases h

variable {ack : AudioFrameAck}

theorem takes_of_accepted (h : handle_virtual_mic_frame_with_writer s header audio outside = (s', ack))
    (hack : Accepts ack) :
    Takes (virtual_mic_ledger_key header) (header.chunk_index.getD 0) (header.chunk_count.getD 1) audio s s' := by
  unfold handle_virtual_mic_frame_with_writer at h
  dsimp only at h
  split at h
  · rw [← (Prod.mk.inj h).2] at hack
    exact absurd hack not_accepts
  · split at h
    · rw [← (Prod.mk.inj h).2] at hack
      exact absurd hack not_accepts
    · next hbegin =>
      rw [← (Prod.mk.inj h).1]
      exact .duplicate rfl (begin_duplicate hbegin)
    · next ledger _ hbegin =>
      split at h
      · next hreason =>
        rw [← (Prod.mk.inj h).1]
        refine .empty ?_ rfl
        by_contra hne
        rw [playback_reason_none.mpr (by simpa using hne)] at hreason
        cases hreason
      · next hnone =>
        have haudio : audio ≠ [] := by simpa using playback_reason_none.mp hnone
        split at h
        · rw [← (Prod.mk.inj h).2] at hack
          exact absurd hack not_accepts
        · exact .writes ledger (begin_admits hbegin) haudio (Prod.mk.inj h).1.symm

theorem settled_mic (h : Settled s.ledger) :
    Settled (handle_virtual_mic_frame_with_writer s header audio outside).1.ledger := by
  unfold handle_virtual_mic_frame_with_writer
  dsimp only
  split
  · exact h.terminal _
  · split
    · exact h.terminal _
    · exact h
    · next ledger _ hbegin =>
      have hadmits := begin_admits hbegin
      have hended : Settled (ledger.complete_terminal (virtual_mic_ledger_key header)).1 := by
        refine .ends (fun k hne progress hk => ?_) (hadmits.terminal ▸ hadmits.fresh)
        rw [hadmits.active, if_neg hne] at hk
        exact h k progress hk
      split
      · exact hended
      · split
        · exact hended
        · exact h.wrote (wrote_of_admitted hadmits)

/-! ## One frame -/

/-- The Bridge's authority, as a frame names it. -/
def authority_of (current : audio_writer.BridgeState) : TranslationPlaybackAuthority where
  session_id := current.session_id.getD ""
  bridge_instance_id := current.bridge_instance_id
  source_generation := current.source_generation
  source_generation_token := source_generation_token current.bridge_instance_id
    (current.session_id.getD "no-session") current.source_generation
  playback_owner_generation := current.playback_owner_generation
  physical_playback_device_id := current.resolved_physical_playback_device_id

variable {current : audio_writer.BridgeState} {payload : List UInt8}

theorem key_of_current (h : translation_frame_has_current_authority current header = true) :
    virtual_mic_ledger_key header = ⟨header.cue_id.getD "", authority_of current⟩ := by
  unfold translation_frame_has_current_authority at h
  simp only [Bool.and_eq_true, decide_eq_true_eq] at h
  obtain ⟨⟨⟨⟨⟨⟨⟨-, hsession⟩, hinstance⟩, hgeneration⟩, htoken⟩, howner⟩, -⟩, hdevice⟩ := h
  unfold virtual_mic_ledger_key authority_of
  rw [hsession, hinstance, hgeneration, htoken, howner, hdevice]
  rfl

theorem validate_error {session_id : Option String}
    (h : validate_translation_frame session_id header payload = .error ack) : ¬ Accepts ack := by
  unfold validate_translation_frame at h
  repeat' split at h
  all_goals first
    | (cases h; exact not_accepts)
    | cases h

/-- A frame that is validated has its place among those of its cue, and carries its samples. -/
theorem of_validated {session_id : Option String} {sent samples : List Int16}
    (h : validate_translation_frame session_id header (sent.flatMap translated_pcm_authority.to_le_bytes) =
      .ok samples) :
    samples = sent ∧ (header.translation_sink = some .VirtualMic → has_place header = true) := by
  unfold validate_translation_frame at h
  split at h
  · cases h
  · split at h
    · cases h
    · split at h
      · cases h
      · next hmic =>
        split at h
        · cases h
        · split at h
          · cases h
          · rw [decode_of_samples] at h
            refine ⟨(Except.ok.inj h).symm, fun hsink => ?_⟩
            have hplaced : lacks_cue header = false ∧ has_place header = true := by simpa [hsink] using hmic
            exact hplaced.2

/-- The Bridge accepts a frame that passes its checks and that its sink takes. -/
theorem client_accepted {sent : List Int16}
    (h : handle_audio_client s current header (sent.flatMap translated_pcm_authority.to_le_bytes) outside = (s', ack))
    (hack : Accepts ack) :
    translation_frame_has_current_authority current header = true ∧
      (header.translation_sink = some .VirtualMic → has_place header = true) ∧
      (if header.translation_sink = some .PhysicalPlayback then
        handle_physical_translation_frame s header
          (outside.mix_for_monitor header.sample_rate_hz header.channel_count sent) outside
      else handle_virtual_mic_frame_with_writer s header
        (outside.mix_for_monitor header.sample_rate_hz header.channel_count sent) outside) = (s', ack) := by
  unfold handle_audio_client at h
  dsimp only at h
  split at h
  · rw [← (Prod.mk.inj h).2] at hack
    exact absurd hack not_accepts
  · next hcurrent =>
    split at h
    · rw [← (Prod.mk.inj h).2] at hack
      exact absurd hack not_accepts
    · split at h
      · rw [← (Prod.mk.inj h).2] at hack
        exact absurd hack not_accepts
      · split at h
        · rw [← (Prod.mk.inj h).2] at hack
          exact absurd hack not_accepts
        · split at h
          · next hinvalid =>
            rw [← (Prod.mk.inj h).2] at hack
            exact absurd hack (validate_error hinvalid)
          · next samples hvalid =>
            obtain ⟨rfl, hplace⟩ := of_validated hvalid
            refine ⟨by simpa using hcurrent, hplace, ?_⟩
            rw [← h]
            simp

/-! ## A frame that is written -/

theorem accepts_of_acknowledged {prepared : PreparedFrame} {snapshot : BridgeRuntimeSnapshot} {n : Nat}
    (h : acknowledged prepared snapshot ack = .ok n) : Accepts ack := by
  unfold acknowledged at h
  split at h
  · cases h
  · split at h
    · cases h
    · unfold accepted_translation_frames_for_header at h
      split at h
      · unfold accepted_translation_frames at h
        split at h
        · cases h
        · next hnone => exact hnone
      · cases h

/-- The audio that the Bridge makes of a frame. -/
def audio_of (outside : FrameOutside S) (write : FrameWrite) : List S :=
  outside.mix_for_monitor write.sample_rate_hz write.channel_count write.samples

variable {write : FrameWrite} {n : Nat}

/-- An accepted frame came through, with the cue, the place and the format that it was written with. -/
theorem accepted_write (h : write_bridge_audio_frame s current write outside = (s', .ok n)) :
    ∃ (header : AudioFrameHeader) (ack : AudioFrameAck), Accepts ack ∧ header.cue_id = some write.cue_id ∧
      header.chunk_index = write.chunk_index ∧ header.chunk_count = write.chunk_count ∧
      header.translation_sink = some write.translation_sink ∧
      translation_frame_has_current_authority current header = true ∧
      (write.translation_sink = .VirtualMic → has_place header = true) ∧
      (if write.translation_sink = .PhysicalPlayback then
        handle_physical_translation_frame s header (audio_of outside write) outside
      else handle_virtual_mic_frame_with_writer s header (audio_of outside write) outside) = (s', ack) := by
  unfold write_bridge_audio_frame at h
  split at h
  · cases (Prod.mk.inj h).2
  · next prepared hprepared =>
    split at h
    · cases (Prod.mk.inj h).2
    · obtain ⟨-, -, -, _, -, hheader⟩ := prepare_frame_ok hprepared
      rcases hclient : handle_audio_client s current prepared.header
        (write.samples.flatMap translated_pcm_authority.to_le_bytes) outside with ⟨s'', ack⟩
      rw [hclient] at h
      dsimp only at h
      split at h
      · cases (Prod.mk.inj h).2
      · obtain ⟨hs, hn⟩ := Prod.mk.inj h
        have hack := accepts_of_acknowledged hn
        obtain ⟨hcurrent, hplace, hhandled⟩ := client_accepted hclient hack
        rw [← hs]
        rw [hheader] at hcurrent hplace hhandled
        refine ⟨_, ack, hack, rfl, rfl, rfl, rfl, hcurrent, fun hsink => hplace (congrArg some hsink), ?_⟩
        rw [← hhandled]
        simp only [translation_frame_header, Option.some.injEq]
        rfl

/-- An accepted frame of the virtual microphone is taken at its place, which is below the count. -/
theorem accepted_mic (hsink : write.translation_sink = .VirtualMic) (hindex : write.chunk_index = some index)
    (hcount : write.chunk_count = some count)
    (h : write_bridge_audio_frame s current write outside = (s', .ok n)) :
    index < count ∧ Takes ⟨write.cue_id, authority_of current⟩ index count (audio_of outside write) s s' := by
  obtain ⟨_, _, hack, hcue, hi, hc, -, hcurrent, hplace, hhandled⟩ := accepted_write h
  rw [if_neg (by rw [hsink]; decide)] at hhandled
  have htakes := takes_of_accepted hhandled hack
  rw [key_of_current hcurrent, hcue, hi, hc, hindex, hcount] at htakes
  refine ⟨?_, htakes⟩
  have hplaced := hplace hsink
  unfold has_place at hplaced
  rw [hi, hc, hindex, hcount] at hplaced
  simp only [Bool.and_eq_true, decide_eq_true_eq] at hplaced
  exact hplaced.2

/-- An accepted frame of physical playback is queued whole, unless playback is off or there is no audio. -/
theorem accepted_physical (hsink : write.translation_sink = .PhysicalPlayback)
    (h : write_bridge_audio_frame s current write outside = (s', .ok n)) :
    s'.accepted = s.accepted ++ [audio_of outside write] ↔
      outside.translation_playback_enabled = true ∧ audio_of outside write ≠ [] := by
  obtain ⟨_, _, hack, -, -, -, -, -, -, hhandled⟩ := accepted_write h
  rw [if_pos hsink] at hhandled
  unfold handle_physical_translation_frame at hhandled
  split at hhandled
  · rw [← (Prod.mk.inj hhandled).2] at hack
    exact absurd hack not_accepts
  · split at hhandled
    · next hreason =>
      rw [← (Prod.mk.inj hhandled).1]
      refine ⟨fun hlog => ?_, fun ⟨henabled, haudio⟩ => ?_⟩
      · have hlength := congrArg List.length hlog
        simp at hlength
      · rw [henabled, playback_reason_none.mpr (by simpa using haudio)] at hreason
        cases hreason
    · next hnone =>
      split at hhandled
      · rw [← (Prod.mk.inj hhandled).1]
        refine ⟨fun _ => ?_, fun _ => rfl⟩
        rcases henabled : outside.translation_playback_enabled with _ | _
        · rw [henabled] at hnone
          cases hnone
        · rw [henabled] at hnone
          exact ⟨rfl, by simpa using playback_reason_none.mp hnone⟩
      · rw [← (Prod.mk.inj hhandled).2] at hack
        exact absurd hack not_accepts

/-! ## The frames of a cue -/

/-- Frames that are taken one after the other. -/
def TakesAll (key : VirtualMicKey) (count : Nat) : Nat → List (List S) → BridgeAudio S → BridgeAudio S → Prop
  | _, [], s, s' => s' = s
  | index, audio :: audios, s, s' =>
    ∃ t, Takes key (index % U32) count audio s t ∧ TakesAll key count (index + 1) audios t s'

variable {audios : List (List S)}

theorem Takes.driver (h : Takes key index count audio s s') :
    s'.driver = s.driver ++ [audio] ∨ s'.driver = s.driver := by
  cases h with
  | writes _ _ haudio hs' => exact .inl (by rw [hs'])
  | empty haudio hdriver => exact .inr hdriver
  | duplicate hdriver _ => exact .inr hdriver

/-- Of the frames that are taken some are written, in their order. -/
theorem TakesAll.driver (h : TakesAll key count index audios s s') :
    ∃ heard, heard.Sublist audios ∧ s'.driver = s.driver ++ heard := by
  induction audios generalizing index s with
  | nil => exact ⟨[], List.Sublist.refl _, by rw [h, List.append_nil]⟩
  | cons audio audios ih =>
    obtain ⟨_, htakes, hrest⟩ := h
    obtain ⟨heard, hsub, hdriver⟩ := ih hrest
    rcases htakes.driver with hwritten | hsilent
    · exact ⟨audio :: heard, hsub.cons_cons audio, by rw [hdriver, hwritten, List.append_assoc]; rfl⟩
    · exact ⟨heard, hsub.cons audio, by rw [hdriver, hsilent]⟩

/-- If all frames are written, the first one is admitted, and the others are written after it. -/
theorem TakesAll.first (h : TakesAll key count index (audio :: audios) s s')
    (hdriver : s'.driver = s.driver ++ (audio :: audios)) :
    ∃ t ledger, Admits s.ledger ledger key (index % U32) count ∧ audio ≠ [] ∧
      TakesAll key count (index + 1) audios t s' ∧ s'.driver = t.driver ++ audios := by
  obtain ⟨t, htakes, hrest⟩ := h
  obtain ⟨_, hsub, hlog⟩ := hrest.driver
  have hsilent : t.driver ≠ s.driver := by
    intro hsame
    rw [hlog, hsame] at hdriver
    have hlength := congrArg List.length (List.append_cancel_left hdriver)
    have hle := hsub.length_le
    rw [List.length_cons] at hlength
    omega
  cases htakes with
  | writes ledger hadmits haudio ht =>
    refine ⟨t, ledger, hadmits, haudio, hrest, ?_⟩
    rw [hdriver, ht, List.append_assoc]
    rfl
  | empty _ hsame => exact absurd hsame hsilent
  | duplicate hsame _ => exact absurd hsame hsilent

theorem TakesAll.all_have_audio (h : TakesAll key count index audios s s')
    (hdriver : s'.driver = s.driver ++ audios) : ∀ audio ∈ audios, audio ≠ [] := by
  induction audios generalizing index s with
  | nil => intro audio hin; cases hin
  | cons audio audios ih =>
    obtain ⟨_, _, -, haudio, hrest, hlog⟩ := h.first hdriver
    intro other hin
    rcases List.mem_cons.mp hin with rfl | hin
    · exact haudio
    · exact ih hrest hlog other hin

/-- The ledger expects the chunk. -/
structure Ready (key : VirtualMicKey) (count index : Nat) (s : BridgeAudio S) : Prop where
  fresh : key ∉ s.ledger.terminal
  next : s.ledger.active.lookup key = if index = 0 then none else some ⟨count, index, false⟩

/-- A cue whose first chunk the ledger expects is written whole. -/
theorem TakesAll.whole (h : TakesAll key count index audios s s') (hfew : count < U32)
    (hcount : index + audios.length = count) (hready : Ready key count index s)
    (haudios : ∀ audio ∈ audios, audio ≠ []) : s'.driver = s.driver ++ audios := by
  induction audios generalizing index s with
  | nil => rw [h, List.append_nil]
  | cons audio audios ih =>
    obtain ⟨t, htakes, hrest⟩ := h
    rw [List.length_cons] at hcount
    rw [Nat.mod_eq_of_lt (by omega)] at htakes
    cases htakes with
    | writes _ hadmits haudio ht =>
      have hwrote := wrote_of_admitted hadmits
      rcases Nat.eq_zero_or_pos audios.length with hnone | _
      · rw [List.eq_nil_of_length_eq_zero hnone] at hrest ⊢
        rw [show s' = t from hrest, ht]
      · have hafter : progress_after index count = some ⟨count, index + 1, false⟩ := by
          unfold progress_after
          unfold U32 at hfew
          rw [Nat.min_eq_left (by omega), if_neg (by omega)]
        have hnext : Ready key count (index + 1) t := by
          rw [ht]
          refine ⟨?_, ?_⟩
          · rw [hwrote.terminal (by rw [hafter]; exact Option.some_ne_none _)]
            exact hready.fresh
          · rw [hwrote.active, if_pos rfl, hafter, if_neg (Nat.succ_ne_zero index)]
        rw [ih hrest (by omega) hnext fun other hin => haudios other (List.mem_cons_of_mem audio hin), ht,
          List.append_assoc]
        rfl
    | empty haudio _ => exact absurd haudio (haudios audio List.mem_cons_self)
    | duplicate _ hseen =>
      rcases hseen with hin | ⟨_, hsome, hlt⟩
      · exact absurd hin hready.fresh
      · rw [hready.next] at hsome
        split at hsome
        · cases hsome
        · rw [← Option.some.inj hsome] at hlt
          exact absurd hlt (Nat.lt_irrefl _)

/-! ## A call -/

variable {writes : List FrameWrite} {expected_session_id : Option String} {frames : Nat → FrameOutside S}
  {cue_id : String}

/-- What the Bridge makes of the frames of a call. -/
def audios_of (frames : Nat → FrameOutside S) (writes : List FrameWrite) : List (List S) :=
  writes.zipIdx.map fun write => audio_of (frames write.2) write.1

theorem write_frames_ok {write : FrameWrite}
    (h : write_frames current expected_session_id frames index (write :: writes) s = (s', .ok n)) :
    ∃ t accepted_frames more_frames,
      write_bridge_audio_frame s current write (frames index) = (t, .ok accepted_frames) ∧
      write_frames current expected_session_id frames (index + 1) writes t = (s', .ok more_frames) := by
  unfold write_frames at h
  split at h
  · cases (Prod.mk.inj h).2
  · split at h
    · cases (Prod.mk.inj h).2
    · next t accepted_frames hwrite =>
      split at h
      · cases (Prod.mk.inj h).2
      · next s'' more_frames hmore =>
        rw [← (Prod.mk.inj h).1]
        exact ⟨t, accepted_frames, more_frames, hwrite, hmore⟩

/-- The frames of a cue for the virtual microphone that are all accepted are all taken, each at its place. -/
theorem takes_all (hmine : ∀ (k : Nat) write, writes[k]? = some write → write.cue_id = cue_id ∧
      write.translation_sink = .VirtualMic ∧ write.chunk_index = some ((index + k) % U32) ∧
      write.chunk_count = some count)
    (h : write_frames current expected_session_id frames index writes s = (s', .ok n)) :
    TakesAll ⟨cue_id, authority_of current⟩ count index
        ((writes.zipIdx index).map fun write => audio_of (frames write.2) write.1) s s' ∧
      ∀ k < writes.length, (index + k) % U32 < count := by
  induction writes generalizing index s n with
  | nil =>
    refine ⟨(Prod.mk.inj h).1.symm, fun k hk => ?_⟩
    cases hk
  | cons write writes ih =>
    obtain ⟨t, _, _, hwrite, hmore⟩ := write_frames_ok h
    obtain ⟨hcue, hsink, hi, hc⟩ := hmine 0 write rfl
    obtain ⟨hplace, htakes⟩ := accepted_mic hsink hi hc hwrite
    rw [hcue] at htakes
    obtain ⟨hrest, hplaces⟩ := ih (fun k other hother => by
      have hk := hmine (k + 1) other hother
      rwa [show index + (k + 1) = index + 1 + k by omega] at hk) hmore
    refine ⟨⟨t, htakes, hrest⟩, fun k hk => ?_⟩
    rcases k with _ | k
    · exact hplace
    · rw [show index + (k + 1) = index + 1 + k by omega]
      exact hplaces k (Nat.lt_of_succ_lt_succ hk)

/-! ## Runs -/

theorem settled_client (h : Settled s.ledger) :
    Settled (handle_audio_client s current header payload outside).1.ledger := by
  unfold handle_audio_client
  dsimp only
  split
  · exact h
  · split
    · exact h
    · split
      · exact h
      · split
        · exact h
        · split
          · exact h
          · split
            · unfold handle_physical_translation_frame
              repeat' split
              all_goals exact h
            · exact settled_mic h

theorem settled_write {write : FrameWrite} (h : Settled s.ledger) :
    Settled (write_bridge_audio_frame s current write outside).1.ledger := by
  unfold write_bridge_audio_frame
  split
  · exact h
  · next prepared _ =>
    split
    · exact h
    · dsimp only
      split <;> exact settled_client h

theorem settled_frames (h : Settled s.ledger) :
    Settled (write_frames current expected_session_id frames index writes s).1.ledger := by
  induction writes generalizing index s with
  | nil => exact h
  | cons write writes ih =>
    unfold write_frames
    split
    · exact h
    · have hwrite := @settled_write _ _ (frames index) current write h
      split
      · next heq => rwa [heq] at hwrite
      · next t accepted_frames heq =>
        rw [heq] at hwrite
        have hrest := @ih t (index + 1) hwrite
        split
        · next hmore => rwa [hmore] at hrest
        · next hmore => rwa [hmore] at hrest

theorem settled_step (task : SpeechTask × TaskOutside S) (h : Settled s.ledger) :
    Settled (step current s task).ledger := by
  have htask : Settled (write_task s current task.1 task.2).1.ledger := by
    unfold write_task
    split
    · exact h
    · exact settled_frames h
  unfold step play
  dsimp only
  split
  · exact h
  · exact h
  · have hwritten : Settled (if task.1.output_route.write_to_virtual_mic ||
        task.1.output_route.write_to_bridge_playback then write_task s current task.1 task.2
        else (s, .ok 0)).1.ledger := by
      split
      · exact htask
      · exact h
    split <;> exact hwritten

theorem settled_run (history : List (SpeechTask × TaskOutside S)) :
    Settled (run (step current) start history).ledger :=
  run_keeps _ (fun s : BridgeAudio S => Settled s.ledger) (fun _ task h => settled_step task h) (fun _ _ h => by cases h)
    history

/-! ## Tasks -/

/-- Every sample of the task went to the driver, or into the queue, once. -/
def Whole (task : SpeechTask) (outside : TaskOutside S) (s s' : BridgeAudio S) : Prop :=
  ∃ writes, task.call.frames task.cue_audio = .ok writes ∧
    writes.flatMap (·.samples) = task.cue_audio.samples ∧
    if task.output_route.write_to_bridge_playback then
      s'.accepted = s.accepted ++ audios_of outside.frames writes
    else s'.driver = s.driver ++ audios_of outside.frames writes

/-- The Bridge makes audio of every frame. -/
def HasAudio (task : SpeechTask) (outside : TaskOutside S) : Prop :=
  ∀ writes, task.call.frames task.cue_audio = .ok writes → ∀ audio ∈ audios_of outside.frames writes, audio ≠ []

/-- The task has no samples, or its frames have audio and, for physical playback, it is on, or, for the
virtual microphone, its cue is not in the Bridge's ledger. -/
def Heard (current : audio_writer.BridgeState) (s : BridgeAudio S) (task : SpeechTask) (outside : TaskOutside S) :
    Prop :=
  task.cue_audio.samples = [] ∨
    (HasAudio task outside ∧
      if task.output_route.write_to_bridge_playback then
        (outside.frames 0).translation_playback_enabled = true
      else
        (⟨task.cue_id, authority_of current⟩ : VirtualMicKey) ∉ s.ledger.terminal ∧
          s.ledger.active.lookup ⟨task.cue_id, authority_of current⟩ = none)

variable {task : SpeechTask} {task_outside : TaskOutside S} {result : SpeechPlaybackResult}

/-- A task that is routed to the Bridge and played has written all of its frames. -/
theorem play_ok (hroute : task.output_route.write_to_virtual_mic = true ∨
      task.output_route.write_to_bridge_playback = true)
    (h : play s current task task_outside = (s', .ok result)) :
    ∃ writes n, task.call.frames task.cue_audio = .ok writes ∧
      write_frames current task_outside.expected_session_id task_outside.frames 0 writes s = (s', .ok n) := by
  unfold play at h
  dsimp only at h
  rw [if_pos (show (task.output_route.write_to_virtual_mic || task.output_route.write_to_bridge_playback) = true by
    simpa using hroute)] at h
  split at h
  · cases (Prod.mk.inj h).2
  · cases (Prod.mk.inj h).2
  · rcases htask : write_task s current task task_outside with ⟨_, _⟩
    rw [htask] at h
    dsimp only at h
    split at h
    · cases (Prod.mk.inj h).2
    · next n =>
      rw [← (Prod.mk.inj h).1]
      unfold write_task at htask
      split at htask
      · cases (Prod.mk.inj htask).2
      · next writes hwrites => exact ⟨writes, n, hwrites, htask⟩

theorem no_frames_of_silence {call : WriteCall} {cue : CueAudio} (hcall : call = .virtual_mic ∨ call = .playback_cue)
    (hsamples : cue.samples = []) (h : call.frames cue = .ok writes) : writes = [] := by
  rcases hcall with rfl | rfl
  · have hcut := cut_virtual_mic h
    refine List.eq_nil_of_length_eq_zero ?_
    rw [(hcut.mic rfl).1, hsamples, chunks, List.length_map, List.length_range, List.length_nil]
    rw [Nat.div_eq_zero_iff]
    omega
  · obtain ⟨_, hpieces, h⟩ := bind_ok h
    obtain ⟨_, -, hpieces⟩ := bind_ok hpieces
    rw [← Except.ok.inj h, ← Except.ok.inj hpieces, hsamples]
    rfl

/-- A cue with samples that is played physically is one frame. -/
theorem one_frame {cue : CueAudio} (hsamples : cue.samples ≠ [])
    (h : WriteCall.frames cue .playback_cue = .ok writes) :
    ∃ write, writes = [write] ∧ write.translation_sink = .PhysicalPlayback := by
  obtain ⟨_, hpieces, h⟩ := bind_ok h
  obtain ⟨_, -, hpieces⟩ := bind_ok hpieces
  rw [← Except.ok.inj h, ← Except.ok.inj hpieces, if_neg (by simpa using hsamples)]
  exact ⟨_, rfl, rfl⟩

/-- The frames of a cue for the virtual microphone are taken at their places, and 32 bits count them. -/
theorem takes_cue {cue : CueAudio} (hwrites : virtual_mic_frames cue = .ok writes)
    (h : write_frames current expected_session_id frames 0 writes s = (s', .ok n)) :
    TakesAll ⟨cue.cue_id, authority_of current⟩ writes.length 0 (audios_of frames writes) s s' ∧
      writes.length < U32 := by
  have hcut := cut_virtual_mic hwrites
  have hmic := (hcut.mic rfl).2
  obtain ⟨htakes, hplaces⟩ := @takes_all _ _ _ 0 (writes.length % U32) current n writes expected_session_id frames
    cue.cue_id (fun k write hk => by
      obtain ⟨hsink, hi, hc⟩ := hmic k write hk
      rw [Nat.zero_add]
      exact ⟨(hcut.mine write (List.mem_of_getElem? hk)).2.1, hsink, hi, hc⟩) h
  have hfew : writes.length < U32 := by
    by_contra hmany
    -- The frame whose place is the wrapped count has no place below it.
    have hlt := Nat.mod_lt writes.length (show 0 < U32 by decide)
    have hplace := hplaces (writes.length % U32) (by omega)
    rw [Nat.zero_add, Nat.mod_mod] at hplace
    exact absurd hplace (Nat.lt_irrefl _)
  rw [Nat.mod_eq_of_lt hfew] at htakes
  exact ⟨htakes, hfew⟩

/-- A task that was played through the Bridge was played whole just when it is heard. -/
theorem a_task_is_whole_iff (current : audio_writer.BridgeState) (history : List (SpeechTask × TaskOutside S))
    (hroute : task.output_route.write_to_virtual_mic = true ∨ task.output_route.write_to_bridge_playback = true)
    (hplay : play (run (step current) start history) current task task_outside = (s', .ok result)) :
    Whole task task_outside (run (step current) start history) s' ↔
      Heard current (run (step current) start history) task task_outside := by
  have hsettled := @settled_run _ current history
  generalize run (step current) start history = s at hsettled hplay ⊢
  obtain ⟨writes, _, hwrites, hframes⟩ := play_ok hroute hplay
  have hcut := cut_of_frames hwrites
  have hcall : task.call = .virtual_mic ∨ task.call = .playback_cue := by
    unfold SpeechTask.call
    split
    · exact .inr rfl
    · exact .inl rfl
  have hwhole : Whole task task_outside s s' ↔
      if task.output_route.write_to_bridge_playback then
        s'.accepted = s.accepted ++ audios_of task_outside.frames writes
      else s'.driver = s.driver ++ audios_of task_outside.frames writes := by
    constructor
    · rintro ⟨other, hother, -, h⟩
      obtain rfl : other = writes := Except.ok.inj (hother.symm.trans hwrites)
      exact h
    · intro h
      exact ⟨writes, hwrites, hcut.whole, h⟩
  have haudio : HasAudio task task_outside ↔ ∀ audio ∈ audios_of task_outside.frames writes, audio ≠ [] := by
    constructor
    · intro h
      exact h writes hwrites
    · intro h other hother
      obtain rfl : other = writes := Except.ok.inj (hother.symm.trans hwrites)
      exact h
  rw [hwhole]
  unfold Heard
  rw [haudio]
  by_cases hsilent : task.cue_audio.samples = []
  · obtain rfl := no_frames_of_silence hcall hsilent hwrites
    refine ⟨fun _ => .inl hsilent, fun _ => ?_⟩
    obtain rfl : s' = s := (Prod.mk.inj hframes).1.symm
    simp [audios_of]
  · rw [or_iff_right hsilent]
    rcases hbridge : task.output_route.write_to_bridge_playback with _ | _
    · have hmic : task.call = .virtual_mic := by simp [SpeechTask.call, hbridge]
      rw [hmic] at hwrites
      obtain ⟨htakes, hfew⟩ := takes_cue hwrites hframes
      constructor
      · intro hdriver
        refine ⟨htakes.all_have_audio hdriver, ?_⟩
        rcases haudios : audios_of task_outside.frames writes with _ | ⟨audio, _⟩
        · have hnone : writes = [] := by simpa [audios_of] using haudios
          exact absurd (by rw [← hcut.whole, hnone]; rfl) hsilent
        · rw [haudios] at htakes hdriver
          obtain ⟨t, _, hadmits, -, -, -⟩ := htakes.first hdriver
          refine ⟨hadmits.fresh, ?_⟩
          rcases hadmits.next with ⟨hnone, -⟩ | hsome
          · exact hnone
          · exact absurd (hsettled _ _ hsome).1 (Nat.lt_irrefl 0)
      · rintro ⟨hall, hfresh, hnone⟩
        refine htakes.whole hfew ?_ ⟨hfresh, by exact hnone⟩ hall
        simp [audios_of]
    · have hphysical : task.call = .playback_cue := by simp [SpeechTask.call, hbridge]
      rw [hphysical] at hwrites
      obtain ⟨_, rfl, hsink⟩ := one_frame hsilent hwrites
      obtain ⟨t, _, _, hwrite, hmore⟩ := write_frames_ok hframes
      obtain rfl : t = s' := (Prod.mk.inj hmore).1
      rw [and_comm]
      refine (accepted_physical hsink hwrite).trans (and_congr_right fun _ => ?_)
      simp [audios_of]

/-! ## Two clauses of a cue -/

/-- A clause of two samples for the virtual microphone. -/
def clause (cue_id : String) : SpeechTask where
  cue_id := cue_id
  request_id := "r"
  route_direction := "outbound"
  mix := ⟨[1, 2], [], 48000, 1⟩
  created_at_ms := 0
  local_playback_enabled := false
  virtual_mic_output_enabled := true
  bridge_playback_enabled := false

/-- Nothing fails, and the Bridge plays the samples as they are. -/
def undisturbed : FrameOutside Int16 where
  session_id := some "s"
  snapshot := ready_snapshot
  current := ready_snapshot
  stamp := ⟨"u", 0⟩
  pipe_error := none
  ack_error := none
  playback_frames_written := 0
  virtual_mic_output_requested := true
  translation_playback_enabled := true
  translated_audio_enabled := true
  physical_playback_ready := true
  process_loopback_error := none
  mix_for_monitor _ _ samples := samples
  translation_queue := .new 8
  device_id := "d"
  translation_generation := 1
  translation_arrival_sequence := 1
  now_ms := 0
  driver_error := none

def all_undisturbed : TaskOutside Int16 := ⟨none, .ok 0, some "s", fun _ => undisturbed⟩

/-- The Bridge when the first clause of a cue has been played. -/
def one_clause_played : BridgeAudio Int16 := run (step ready_bridge) start [(clause "c", all_undisturbed)]

/-- A task that is played, and what holds of the Bridge that it leaves. -/
def plays (p : BridgeAudio Int16 → Bool) (outcome : BridgeAudio Int16 × Except String SpeechPlaybackResult) : Bool :=
  outcome.2.toBool && p outcome.1

theorem played {p : BridgeAudio Int16 → Bool} {outcome : BridgeAudio Int16 × Except String SpeechPlaybackResult}
    (h : plays p outcome = true) : ∃ s' result, outcome = (s', .ok result) ∧ p s' = true := by
  obtain ⟨s', written⟩ := outcome
  unfold plays at h
  rw [Bool.and_eq_true] at h
  cases written with
  | error error => exact absurd h.1 (by simp [Except.toBool])
  | ok result => exact ⟨s', result, rfl, h.2⟩

/-- A clause of another cue is played whole after the first. -/
theorem a_clause_of_another_cue_is_whole :
    ∃ s' result, play one_clause_played ready_bridge (clause "d") all_undisturbed = (s', .ok result) ∧
      (Whole (clause "d") all_undisturbed one_clause_played s' ↔
        Heard ready_bridge one_clause_played (clause "d") all_undisturbed) := by
  have hplays : plays (fun _ => true) (play one_clause_played ready_bridge (clause "d") all_undisturbed) = true := by
    decide +kernel
  obtain ⟨s', result, hplay, -⟩ := played hplays
  exact ⟨s', result, hplay,
    a_task_is_whole_iff ready_bridge [(clause "c", all_undisturbed)] (.inl (by decide)) hplay⟩

/-- The second clause of the cue is played, and nothing of it is written. -/
theorem the_second_clause_is_not_written :
    ¬ ∀ (current : audio_writer.BridgeState) (history : List (SpeechTask × TaskOutside Int16)) (task : SpeechTask)
        (outside : TaskOutside Int16) (s' : BridgeAudio Int16) (result : SpeechPlaybackResult),
        task.output_route.write_to_virtual_mic = true ∨ task.output_route.write_to_bridge_playback = true →
        play (run (step current) start history) current task outside = (s', .ok result) →
        Whole task outside (run (step current) start history) s' := by
  intro hall
  have hplays : plays (fun s' => s'.driver.length = one_clause_played.driver.length)
      (play one_clause_played ready_bridge (clause "c") all_undisturbed) = true := by
    decide +kernel
  obtain ⟨s', result, hplay, hdriver⟩ := played hplays
  obtain ⟨writes, -, hsamples, hwritten⟩ :=
    hall ready_bridge [(clause "c", all_undisturbed)] (clause "c") all_undisturbed s' result (.inl (by decide)) hplay
  have hlength := congrArg List.length hwritten
  rw [List.length_append, show s'.driver.length = _ from of_decide_eq_true hdriver] at hlength
  have hnone : writes = [] := by simpa [audios_of, one_clause_played] using hlength
  rw [hnone] at hsamples
  exact absurd hsamples (by decide)

end omni_translate.speech_playback

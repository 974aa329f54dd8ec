-- When playback is at rest for the Desktop, and when for the Bridge: the Desktop keeps one entry for a cue,
-- and strikes it off with the first end that it hears of, or with the first write that fails.
import OmniTranslate.TranslatedAudio

namespace omni_translate.translated_audio

open runs
open bridge_playback_ack (TranslationPlaybackAuthority TranslationPlaybackStatusKind)
open playback (BridgeService Bridge TranslationFrame TranslationStatus Outside Holds begins Balances Orderly)
open playback_quiescence (Shared QuiescenceOp TranslationPlaybackQuiescenceState Counted
  bridge_playback_cue_matches_owner observe_bridge_playback_status_for_owner)

variable {S : Type}

/-! ## The condition -/

/-- The Bridge holds audio of the cue. -/
def holds_cue (b : Bridge S) (id : String) : Bool :=
  some id ∈ playback.queue_cues b.translation_queue ∨ id ∈ b.state.physical_translation_stream_ledger.active

/-- The first frame of a cue is on the way. -/
def is_coming (w : Write S) : Bool := w.stage = .sent && begins w.frame

/-- The cues whose first frame is on the way. -/
def on_the_way (writes : List (Write S)) : List String :=
  (writes.filter is_coming).map (·.cue_id)

def ends_cue (id : String) (told : TranslationPlaybackAuthority × TranslationStatus) : Bool :=
  told.2.cue_id.getD "-" = id && told.2.status.is_terminal

namespace Route

variable (s : Route S)

/-- The Desktop is still to hear that the cue has ended. -/
def still_to_hear (id : String) : Bool :=
  (s.service.emitted.drop s.delivered).any (ends_cue id) ||
    s.handling.any fun handled => ends_cue id (handled.1, handled.2.1)

/-- Nothing is left of a former cue of this id. -/
def is_free (id : String) : Bool :=
  !holds_cue s.service.bridge id && id ∉ on_the_way s.writes && !s.still_to_hear id

/-- No other audio of the cue is on the way or in the Bridge. -/
def may_close (w : Write S) : Bool :=
  !holds_cue s.service.bridge w.cue_id && (w.cue_id ∉ on_the_way s.writes || is_coming w)

/-- A cue has an id that is not blank, and that no former cue uses any longer; a frame fails, or is misdirected, when
no other audio of its cue is about; no stream is aborted that is open, and no frame is taken that was given up. -/
def in_order : AudioOp S → Bool
  | .send_frame i => (s.writes[i]?).all fun w =>
      !(w.stage = .begun && begins w.frame) || (text.trim w.cue_id.toList ≠ [] && s.is_free w.cue_id)
  | .lose_frame i => (s.writes[i]?).all fun w => w.stage ≠ .sent || s.may_close w
  | .refuse_frame i misdirected => (s.writes[i]?).all fun w => !misdirected || s.may_close w
  | .handle_frame i _ => (s.writes[i]?).all fun w => w.stage ≠ .abandoned &&
      (w.stage ≠ .sent || w.frame.stream_state ≠ some .Abort || !holds_cue s.service.bridge w.cue_id)
  | .lose_ack i => (s.writes[i]?).all fun w => w.stage = .begun || w.stage = .abandoned || s.may_close w
  | .read_ack i => (s.writes[i]?).all fun w => w.stage ≠ .answered false || s.may_close w
  | _ => true

end Route

/-! ## The entries of the Desktop -/

section

variable {state : TranslationPlaybackQuiescenceState} {id : String} {authority : TranslationPlaybackAuthority}

theorem matches_set_cues {cues : AList fun _ : String => playback_quiescence.BridgePlaybackCue} :
    bridge_playback_cue_matches_owner (state.set_cues cues) id authority =
      (cues.lookup id).any fun expected => expected.authority = some authority := rfl

/-- The entry of a cue belongs to the owner after more of its audio is written. -/
theorem extend_cue_owner (cue : Option playback_quiescence.BridgePlaybackCue)
    (authority : TranslationPlaybackAuthority) (audio_frames sample_rate_hz : Nat) :
    (playback_quiescence.extend_cue cue authority audio_frames sample_rate_hz).authority = some authority := by
  unfold playback_quiescence.extend_cue
  dsimp only
  split
  · split <;> assumption
  · rfl

/-- More audio of a cue leaves every entry with its owner. -/
theorem expect_keeps (h : bridge_playback_cue_matches_owner state id authority = true) (cue_id : String)
    (audio_frames sample_rate_hz : Nat) :
    bridge_playback_cue_matches_owner (playback_quiescence.expect_bridge_playback_cue_for_owner state cue_id authority
      audio_frames sample_rate_hz) id authority = true := by
  unfold playback_quiescence.expect_bridge_playback_cue_for_owner playback_quiescence.unless_restarting
  split
  · exact h
  split
  · exact h
  · rw [matches_set_cues]
    by_cases hid : id = cue_id
    · rw [hid, AList.lookup_insert]
      simp [extend_cue_owner]
    · rw [AList.lookup_insert_ne hid]
      exact h

/-- The cue is expected, unless it is blank or a restart goes on. -/
theorem expect_matches (hblank : text.trim id.toList ≠ []) (hopen : state.snapshot.restart_barrier = false)
    (audio_frames sample_rate_hz : Nat) :
    bridge_playback_cue_matches_owner (playback_quiescence.expect_bridge_playback_cue_for_owner state id authority
      audio_frames sample_rate_hz) id authority = true := by
  unfold playback_quiescence.expect_bridge_playback_cue_for_owner playback_quiescence.unless_restarting
  rw [if_neg hblank, hopen, if_neg Bool.false_ne_true, matches_set_cues, AList.lookup_insert]
  simp [extend_cue_owner]

theorem observe_keeps (h : bridge_playback_cue_matches_owner state id authority = true) {cue_id status : String}
    (hother : cue_id ≠ id ∨ playback_quiescence.is_terminal status = false) (owner : TranslationPlaybackAuthority) :
    bridge_playback_cue_matches_owner (observe_bridge_playback_status_for_owner state cue_id status owner).1 id
      authority = true := by
  unfold observe_bridge_playback_status_for_owner
  split
  · exact h
  split
  · next hterminal =>
    have hne : id ≠ cue_id := by
      rintro rfl
      rcases hother with hne | hgoes
      · exact hne rfl
      · rw [hgoes] at hterminal
        cases hterminal
    rw [matches_set_cues, AList.lookup_erase_ne hne]
    exact h
  · exact h

theorem unowned_observe_keeps (h : bridge_playback_cue_matches_owner state id authority = true)
    (cue_id status : String) :
    bridge_playback_cue_matches_owner (playback_quiescence.observe_bridge_playback_status state cue_id status) id
      authority = true := by
  have hmine : (state.active_bridge_cues.lookup id).any (fun expected => expected.authority = some authority) = true := h
  unfold playback_quiescence.observe_bridge_playback_status
  split
  · split
    · exact h
    · next hnew =>
      have hne : id ≠ cue_id := by
        rintro rfl
        rw [AList.lookup_eq_none.mpr hnew] at hmine
        cases hmine
      rw [matches_set_cues, AList.lookup_insert_ne hne]
      exact h
  split
  · split
    · next hunowned =>
      have hne : id ≠ cue_id := by
        rintro rfl
        obtain ⟨_, hcue, hnone⟩ := (Option.any_eq_true _ _).mp hunowned
        rw [Option.mem_def.mp hcue] at hmine
        simp [Option.isNone_iff_eq_none.mp hnone] at hmine
      rw [matches_set_cues, AList.lookup_erase_ne hne]
      exact h
    · exact h
  · exact h

/-- The operations that count guards and commands leave the cues alone. -/
theorem act_cues {s s' : Shared} {op : QuiescenceOp} (hop : elsewhere op = true)
    (hobserve : ∀ cue_id status, op ≠ .observe_bridge_playback_status cue_id status) (hact : s.act op = some s') :
    s'.state.active_bridge_cues = s.state.active_bridge_cues := by
  cases op with
  | expect_bridge_playback_cue_for_owner _ _ _ _ => cases hop
  | observe_bridge_playback_status_for_owner _ _ _ => cases hop
  | observe_bridge_playback_status cue_id status => exact absurd rfl (hobserve cue_id status)
  | set_pending_native_audio _ =>
    rw [← Option.some.inj hact]
    dsimp only [playback_quiescence.set_pending_native_audio, playback_quiescence.unless_restarting]
    split
    · split <;> rfl
    · rfl
  | set_queue_state _ _ _ _ =>
    rw [← Option.some.inj hact]
    rfl
  | begin_bridge_ack => grind [Shared.act, Shared.begin_bridge_ack, Shared.clone_handle]
  | wait_for_restart_barrier => grind [Shared.act, Shared.wait_for_restart_barrier, Shared.clone_handle]
  | try_begin_restart_barrier => grind [Shared.act, Shared.try_begin_restart_barrier, Shared.clone_handle]
  | drop_ack_guard => grind [Shared.act, Shared.drop_ack_guard]
  | drop_submission_guard => grind [Shared.act, Shared.drop_submission_guard]
  | drop_restart_guard => grind [Shared.act, Shared.drop_restart_guard]
  | clone_handle => grind [Shared.act, Shared.clone_handle]
  | drop_handle =>
    rw [← Option.some.inj hact]

/-- The other calls leave the entries of the owner alone. -/
theorem elsewhere_keeps {s s' : Shared} {op : QuiescenceOp} (hop : elsewhere op = true) (hact : s.act op = some s')
    (h : bridge_playback_cue_matches_owner s.state id authority = true) :
    bridge_playback_cue_matches_owner s'.state id authority = true := by
  by_cases hobserve : ∃ cue_id status, op = .observe_bridge_playback_status cue_id status
  · obtain ⟨cue_id, status, rfl⟩ := hobserve
    rw [← Option.some.inj hact]
    exact unowned_observe_keeps h cue_id status
  · rw [bridge_playback_cue_matches_owner, act_cues hop (fun cue_id status heq => hobserve ⟨cue_id, status, heq⟩) hact]
    exact h

/-- A guard that is dropped leaves the entries alone. -/
theorem drop_guard_keeps (s : Shared) :
    bridge_playback_cue_matches_owner s.drop_ack_guard.state id authority =
      bridge_playback_cue_matches_owner s.state id authority := by
  have hact : s.act .drop_ack_guard = some s.drop_ack_guard := rfl
  rw [bridge_playback_cue_matches_owner, act_cues rfl (fun _ _ => QuiescenceOp.noConfusion) hact]
  rfl

end

/-! ## What is on the way -/

section

variable {writes : List (Write S)} {w : Write S} {i : Nat}

theorem on_the_way_split {before after : List (Write S)} :
    on_the_way (before ++ w :: after) =
      on_the_way before ++ (if is_coming w then [w.cue_id] else []) ++ on_the_way after := by
  unfold on_the_way
  split <;> simp_all

theorem on_the_way_append (before after : List (Write S)) :
    on_the_way (before ++ after) = on_the_way before ++ on_the_way after := by
  simp [on_the_way]

section

variable (h : writes[i]? = some w)

include h

/-- A write that was not on its way leaves the others alone. -/
theorem on_the_way_erase (hnot : is_coming w = false) :
    on_the_way (writes.eraseIdx i) = on_the_way writes := by
  obtain ⟨_, _, rfl, herase⟩ := places.take_out h
  rw [herase, on_the_way_append, on_the_way_split, hnot]
  simp

theorem on_the_way_set {w' : Write S} (hnot : is_coming w = false) (hnot' : is_coming w' = false) :
    on_the_way (writes.set i w') = on_the_way writes := by
  obtain ⟨_, _, rfl, hset⟩ := places.put_in h w'
  rw [hset, on_the_way_split, on_the_way_split, hnot, hnot']
  rfl

theorem on_the_way_less {writes' : List (Write S)} (hcoming : is_coming w = true)
    (hwrites : writes' = writes.eraseIdx i ∨ ∃ w', is_coming w' = false ∧ writes' = writes.set i w')
    (honce : (on_the_way writes).Nodup) :
    (on_the_way writes').Nodup ∧ ∀ id, id ∈ on_the_way writes' ↔ id ∈ on_the_way writes ∧ id ≠ w.cue_id := by
  have hless : ∃ before after, on_the_way writes = before ++ w.cue_id :: after ∧ on_the_way writes' = before ++ after := by
    rcases hwrites with rfl | ⟨w', hnot, rfl⟩
    · obtain ⟨before, after, rfl, herase⟩ := places.take_out h
      refine ⟨on_the_way before, on_the_way after, ?_, ?_⟩
      · rw [on_the_way_split, if_pos hcoming, List.append_assoc]
        rfl
      · rw [herase, on_the_way_append]
    · obtain ⟨before, after, rfl, hset⟩ := places.put_in h w'
      refine ⟨on_the_way before, on_the_way after, ?_, ?_⟩
      · rw [on_the_way_split, if_pos hcoming, List.append_assoc]
        rfl
      · rw [hset, on_the_way_split, hnot]
        simp
  obtain ⟨before, after, hold, hnew⟩ := hless
  rw [hold] at honce ⊢
  rw [hnew]
  obtain ⟨hnot, honce⟩ := List.nodup_cons.mp (List.nodup_middle.mp honce)
  refine ⟨honce, fun id => ?_⟩
  rw [List.mem_append, List.mem_append, List.mem_cons]
  refine ⟨fun hin => ⟨hin.imp_right .inr, fun heq => hnot (heq ▸ List.mem_append.mpr hin)⟩, ?_⟩
  rintro ⟨hin | rfl | hin, hne⟩
  · exact .inl hin
  · exact absurd rfl hne
  · exact .inr hin

theorem on_the_way_more {w' : Write S} (hnot : is_coming w = false) (hcoming : is_coming w' = true)
    (hnew : w'.cue_id ∉ on_the_way writes) (honce : (on_the_way writes).Nodup) :
    (on_the_way (writes.set i w')).Nodup ∧
      ∀ id, id ∈ on_the_way (writes.set i w') ↔ id = w'.cue_id ∨ id ∈ on_the_way writes := by
  obtain ⟨_, _, rfl, hset⟩ := places.put_in h w'
  rw [on_the_way_split, hnot] at honce hnew ⊢
  rw [hset, on_the_way_split, if_pos hcoming, List.append_assoc]
  simp only [Bool.false_eq_true, if_false, List.append_nil, List.mem_append, not_or] at honce hnew ⊢
  refine ⟨List.nodup_middle.mpr (List.nodup_cons.mpr ⟨by simp [hnew], honce⟩), fun id => ?_⟩
  simp only [List.mem_singleton]
  tauto

end

end

/-! ## The statuses of a step -/

section

variable {s s' s'' : BridgeService S}

/-- The statuses that a step of the service adds are among these. -/
structure Adds (s s' : BridgeService S) (statuses : List TranslationStatus) : Prop where
  bridge : s'.bridge = s.bridge
  emitted : ∃ more, s'.emitted = s.emitted ++ more ∧ ∀ told ∈ more, told.2 ∈ statuses ∧ told.2.cue_id.isSome = true

theorem Adds.nothing (heq : s'.bridge = s.bridge) (hemitted : s'.emitted = s.emitted)
    (statuses : List TranslationStatus) : Adds s s' statuses :=
  ⟨heq, [], by rw [hemitted, List.append_nil], fun _ hin => by cases hin⟩

theorem Adds.trans {statuses : List TranslationStatus} (h : Adds s s' statuses) (h' : Adds s' s'' statuses) :
    Adds s s'' statuses := by
  obtain ⟨more, hmore, hsaid⟩ := h.emitted
  obtain ⟨more', hmore', hsaid'⟩ := h'.emitted
  refine ⟨h'.bridge.trans h.bridge, more ++ more', by rw [hmore', hmore, List.append_assoc], fun told hin => ?_⟩
  exact (List.mem_append.mp hin).elim (hsaid told) (hsaid' told)

theorem emit_adds (s : BridgeService S) {status : TranslationStatus} {statuses : List TranslationStatus}
    (h : status ∈ statuses) : Adds s (s.emit_translation_status status) statuses := by
  unfold BridgeService.emit_translation_status
  split
  · exact .nothing rfl rfl _
  next cue_id hcue =>
  split
  · exact .nothing rfl rfl _
  · refine ⟨rfl, _, rfl, fun _ hin => ?_⟩
    rw [List.mem_singleton.mp hin]
    exact ⟨h, by rw [hcue]; rfl⟩

theorem report_adds (s : BridgeService S) (bridge : Bridge S) :
    Adds { s with bridge } (s.report bridge) (bridge.state.statuses.drop s.bridge.state.statuses.length) := by
  unfold BridgeService.report
  generalize bridge.state.statuses.drop s.bridge.state.statuses.length = statuses
  have hfold : ∀ (some : List TranslationStatus) (t : BridgeService S), some ⊆ statuses →
      Adds t (some.foldl BridgeService.emit_translation_status t) statuses := by
    intro some
    induction some with
    | nil => exact fun t _ => .nothing rfl rfl _
    | cons _ _ ih =>
      intro t hsub
      rw [List.cons_subset] at hsub
      exact (emit_adds t hsub.1).trans (ih _ hsub.2)
  exact hfold statuses _ (List.Subset.refl _)

/-- The frame is refused, or the Bridge takes it and tells what comes of it. -/
theorem handle_frame_adds (s : BridgeService S) (authority : TranslationPlaybackAuthority)
    (frame : TranslationFrame S) (now_ms : Nat) :
    s.handle_physical_frame authority frame now_ms = s ∨
      let bridge := s.bridge.handle_physical_translation_frame frame now_ms
      Adds { s with bridge } (s.handle_physical_frame authority frame now_ms)
        (bridge.state.statuses.drop s.bridge.state.statuses.length) := by
  unfold BridgeService.handle_physical_frame
  split
  · exact .inl rfl
  split
  · exact .inl rfl
  · right
    dsimp only
    generalize hbound : s.bind_translation_cue_authority frame.cue_id authority = bound
    have hbinds : bound.bridge = s.bridge ∧ bound.emitted = s.emitted := by
      rw [← hbound]
      unfold BridgeService.bind_translation_cue_authority
      split
      · exact ⟨rfl, rfl⟩
      split <;> exact ⟨rfl, rfl⟩
    generalize haccepted : (if BridgeService.takes bound.bridge
        (bound.bridge.handle_physical_translation_frame frame now_ms) frame then
      bound.accept frame.cue_id else bound) = taken
    have hsame : taken.bridge = s.bridge ∧ taken.emitted = s.emitted := by
      rw [← haccepted]
      split
      · unfold BridgeService.accept
        split
        · exact hbinds
        split <;> exact hbinds
      · exact hbinds
    rw [hbinds.1]
    have hadds := report_adds taken (s.bridge.handle_physical_translation_frame frame now_ms)
    rw [hsame.1] at hadds
    obtain ⟨hbridge, more, hmore, hsaid⟩ := hadds
    exact ⟨hbridge, more, by rw [hmore]; exact congrArg (· ++ more) hsame.2, hsaid⟩

end

/-! ## The invariant -/

namespace Route

/-- The Desktop has the cue on its books, and is to hear of no end of it. -/
structure Minds (s : Route S) (id : String) : Prop where
  expected : bridge_playback_cue_matches_owner s.shared.state id s.authority = true
  goes_on : s.still_to_hear id = false

/-- The Desktop minds the cues that the Bridge holds, and those whose first frame is on the way; the latter the
Bridge does not hold yet. -/
structure Kept (s : Route S) : Prop where
  counted : Counted s.shared
  orderly : Orderly s.service.bridge
  held : ∀ cue_id, Holds s.service.bridge cue_id → ∃ id, cue_id = some id ∧ s.Minds id
  once : (on_the_way s.writes).Nodup
  coming : ∀ id ∈ on_the_way s.writes, s.Minds id ∧ ¬ Holds s.service.bridge (some id)

variable {s : Route S}

theorem kept_start (device_id : String) (authority : TranslationPlaybackAuthority) :
    Kept (start device_id authority : Route S) where
  counted := ⟨rfl, rfl, rfl, rfl, (by decide : 0 + 0 + 0 + 1 ≤ playback_quiescence.ISIZE_MAX + 1),
    fun hbarrier => by cases hbarrier⟩
  orderly := playback.orderly_new device_id
  held := by
    rintro _ (hin | ⟨_, -, hin⟩)
    · cases hin
    · cases hin
  once := List.nodup_nil
  coming := fun _ hin => by cases hin

theorem Kept.silent (h : Kept s) (hrest : s.is_quiescent = true) : s.is_silent = true := by
  have hnone := (h.counted.at_rest_iff.mp hrest).cues
  refine h.orderly.silent fun cue_id hholds => ?_
  obtain ⟨id, -, hminds⟩ := h.held cue_id hholds
  obtain ⟨_, hcue, -⟩ := (Option.any_eq_true _ _).mp hminds.expected
  exact maps.entries_eq_nil.mp hnone id (maps.mem_of_lookup hcue)

variable {writes : List (Write S)}

/-- A step of the Desktop that strikes off no cue that is held or on the way. -/
theorem Kept.desktop (h : Kept s) {shared : Shared} (hcounted : Counted shared) (honce : (on_the_way writes).Nodup)
    (hway : ∀ id ∈ on_the_way writes, id ∈ on_the_way s.writes)
    (hkeeps : ∀ id, Holds s.service.bridge (some id) ∨ id ∈ on_the_way writes →
      bridge_playback_cue_matches_owner s.shared.state id s.authority = true →
      bridge_playback_cue_matches_owner shared.state id s.authority = true) : Kept { s with shared, writes } where
  counted := hcounted
  orderly := h.orderly
  held cue_id hholds := by
    obtain ⟨id, rfl, hminds⟩ := h.held cue_id hholds
    exact ⟨id, rfl, hkeeps id (.inl hholds) hminds.expected, hminds.goes_on⟩
  once := honce
  coming id hin := by
    obtain ⟨hminds, hnot⟩ := h.coming id (hway id hin)
    exact ⟨⟨hkeeps id (.inr hin) hminds.expected, hminds.goes_on⟩, hnot⟩

variable {service : BridgeService S}

/-- A step of the Bridge that tells the end of no cue that is held or on the way after it. -/
theorem Kept.bridge (h : Kept s) {more : List (TranslationPlaybackAuthority × TranslationStatus)}
    (horderly : Orderly service.bridge) (hemitted : service.emitted = s.service.emitted ++ more)
    (honce : (on_the_way writes).Nodup)
    (hway : ∀ id ∈ on_the_way writes, id ∈ on_the_way s.writes ∧ ¬ Holds service.bridge (some id))
    (hheld : ∀ cue_id, Holds service.bridge cue_id →
      Holds s.service.bridge cue_id ∨ ∃ id ∈ on_the_way s.writes, cue_id = some id)
    (htold : ∀ id, Holds service.bridge (some id) ∨ id ∈ on_the_way writes → more.any (ends_cue id) = false) :
    Kept { s with service, writes } := by
  have hminds : ∀ id, s.Minds id → Holds service.bridge (some id) ∨ id ∈ on_the_way writes →
      ({ s with service, writes } : Route S).Minds id := by
    intro id hminds hnow
    refine ⟨hminds.expected, ?_⟩
    have hbefore := hminds.goes_on
    rw [still_to_hear, Bool.or_eq_false_iff] at hbefore ⊢
    refine ⟨?_, hbefore.2⟩
    rw [hemitted, List.drop_append, List.any_append, hbefore.1, Bool.false_or]
    refine List.any_eq_false.mpr fun told hin => ?_
    exact List.any_eq_false.mp (htold id hnow) told (List.mem_of_mem_drop hin)
  refine ⟨h.counted, horderly, fun cue_id hholds => ?_, honce, fun id hin => ?_⟩
  · rcases hheld cue_id hholds with hbefore | ⟨id, hin, rfl⟩
    · obtain ⟨id, rfl, hmine⟩ := h.held cue_id hbefore
      exact ⟨id, rfl, hminds id hmine (.inl hholds)⟩
    · exact ⟨id, rfl, hminds id (h.coming id hin).1 (.inl hholds)⟩
  · exact ⟨hminds id (h.coming id (hway id hin).1).1 (.inr hin), (hway id hin).2⟩

theorem holds_cue_iff (b : Bridge S) (id : String) : holds_cue b id = true ↔ Holds b (some id) := by
  simp [holds_cue, Holds, playback.opened]

/-! ### The writes -/

section

variable {w : Write S} {i : Nat}

theorem Kept.closes (h : Kept s) {writes : List (Write S)} (hclose : ¬ Holds s.service.bridge (some w.cue_id))
    (honce : (on_the_way writes).Nodup)
    (hway : ∀ id ∈ on_the_way writes, id ∈ on_the_way s.writes ∧ id ≠ w.cue_id) :
    Kept { s with shared := (s.close_failed_translation_cue w.cue_id).drop_ack_guard, writes } := by
  refine h.desktop (h.counted.observe_for_owner w.cue_id "route-failed" s.authority).drop_guard.1 honce
    (fun id hin => (hway id hin).1) fun id hnow hmatches => ?_
  rw [drop_guard_keeps]
  refine observe_keeps hmatches (.inl fun heq => ?_) s.authority
  rcases hnow with hholds | hin
  · exact hclose (heq ▸ hholds)
  · exact (hway id hin).2 heq.symm

/-- No other audio of the cue is about when its write may be closed. -/
theorem alone_of_may_close (honce : (on_the_way s.writes).Nodup) (hi : s.writes[i]? = some w)
    (hclose : s.may_close w = true) {writes : List (Write S)}
    (hwrites : writes = s.writes.eraseIdx i ∨ ∃ w', is_coming w' = false ∧ writes = s.writes.set i w') :
    ¬ Holds s.service.bridge (some w.cue_id) ∧ (on_the_way writes).Nodup ∧
      ∀ id ∈ on_the_way writes, id ∈ on_the_way s.writes ∧ id ≠ w.cue_id := by
  unfold may_close at hclose
  rw [Bool.and_eq_true, Bool.not_eq_true', Bool.or_eq_true, decide_eq_true_eq] at hclose
  obtain ⟨hfree, hway⟩ := hclose
  have hnot : ¬ Holds s.service.bridge (some w.cue_id) := by
    rw [← holds_cue_iff, hfree]
    exact Bool.false_ne_true
  cases hcoming : is_coming w with
  | true =>
    obtain ⟨honce, hless⟩ := on_the_way_less hi hcoming hwrites honce
    exact ⟨hnot, honce, fun id hin => (hless id).mp hin⟩
  | false =>
    have hsame : on_the_way writes = on_the_way s.writes := by
      rcases hwrites with rfl | ⟨w', hw', rfl⟩
      · exact on_the_way_erase hi hcoming
      · exact on_the_way_set hi hcoming hw'
    have hothers : w.cue_id ∉ on_the_way s.writes := hway.resolve_right (by rw [hcoming]; exact Bool.false_ne_true)
    rw [hsame]
    exact ⟨hnot, honce, fun id hin => ⟨hin, fun heq => hothers (heq ▸ hin)⟩⟩

/-- The write is closed, and its frame is no longer on the way. -/
theorem Kept.closes_write (h : Kept s) (hi : s.writes[i]? = some w) (hclose : s.may_close w = true)
    {writes : List (Write S)}
    (hwrites : writes = s.writes.eraseIdx i ∨ ∃ w', is_coming w' = false ∧ writes = s.writes.set i w') :
    Kept { s with shared := (s.close_failed_translation_cue w.cue_id).drop_ack_guard, writes } := by
  obtain ⟨hnot, honce, hless⟩ := alone_of_may_close h.once hi hclose hwrites
  exact h.closes hnot honce hless

theorem Kept.ends_write (h : Kept s) (hi : s.writes[i]? = some w) (hcoming : is_coming w = false) :
    Kept { s with shared := s.shared.drop_ack_guard, writes := s.writes.eraseIdx i } := by
  have hsame := on_the_way_erase hi hcoming
  refine h.desktop h.counted.drop_guard.1 (hsame ▸ h.once) (fun id hin => hsame ▸ hin) fun id _ hmatches => ?_
  rw [drop_guard_keeps]
  exact hmatches

theorem Kept.begin_write (h : Kept s) {cue_id : String} {frame : TranslationFrame S} {audio_frames sample_rate_hz : Nat}
    {s' : Route S} (hact : s.begin_write cue_id frame audio_frames sample_rate_hz = some s') : Kept s' := by
  unfold Route.begin_write at hact
  split at hact
  · exact Option.some.inj hact ▸ h
  · obtain ⟨shared, hshared, rfl⟩ := Option.map_eq_some_iff.mp hact
    have hact : s.shared.act .begin_bridge_ack = some shared := hshared
    have hsame : ∀ w : Write S, is_coming w = false → on_the_way (s.writes ++ [w]) = on_the_way s.writes := by
      intro w hcoming
      simp [on_the_way, hcoming]
    have hsame := hsame ⟨cue_id, frame, audio_frames, sample_rate_hz, .begun⟩ rfl
    exact h.desktop (h.counted.act hact) (hsame ▸ h.once) (fun id hin => hsame ▸ hin) fun id _ hmatches =>
      elsewhere_keeps rfl hact hmatches

theorem Kept.send_frame (h : Kept s) (hi : s.writes[i]? = some w)
    (hok : w.stage = .begun → begins w.frame = true → text.trim w.cue_id.toList ≠ [] ∧ s.is_free w.cue_id = true) :
    Kept (s.send_frame i w) := by
  unfold Route.send_frame
  split
  · exact h
  split
  · exact h
  · next hbegun hopen =>
    have hnot : is_coming w = false := by simp [is_coming, Decidable.not_not.mp hbegun]
    have hcounted := h.counted.expect w.cue_id s.authority w.audio_frames w.sample_rate_hz
    have hkeeps := fun id (hmatches : bridge_playback_cue_matches_owner s.shared.state id s.authority = true) =>
      expect_keeps hmatches w.cue_id w.audio_frames w.sample_rate_hz
    cases hcoming : is_coming { w with stage := .sent } with
    | false =>
      have hsame := on_the_way_set hi hnot hcoming
      exact h.desktop hcounted (hsame ▸ h.once) (fun id hin => hsame ▸ hin) fun id _ => hkeeps id
    | true =>
      obtain ⟨hblank, hfree⟩ := hok (Decidable.not_not.mp hbegun) (by simpa [is_coming] using hcoming)
      simp only [is_free, Bool.and_eq_true, Bool.not_eq_true', decide_eq_true_eq] at hfree
      obtain ⟨⟨hheld, hway⟩, hheard⟩ := hfree
      have hbarrier : s.shared.state.snapshot.restart_barrier = false := by
        simpa [hblank] using hopen
      obtain ⟨honce, hmore⟩ := on_the_way_more hi hnot hcoming hway h.once
      refine ⟨hcounted, h.orderly, fun cue_id hholds => ?_, honce, fun id hin => ?_⟩
      · obtain ⟨id, rfl, hminds⟩ := h.held cue_id hholds
        exact ⟨id, rfl, hkeeps id hminds.expected, hminds.goes_on⟩
      · rcases (hmore id).mp hin with rfl | hold
        · refine ⟨⟨expect_matches hblank hbarrier _ _, hheard⟩, fun hholds => ?_⟩
          rw [(holds_cue_iff _ _).mpr hholds] at hheld
          cases hheld
        · obtain ⟨hminds, hnot⟩ := h.coming id hold
          exact ⟨⟨hkeeps id hminds.expected, hminds.goes_on⟩, hnot⟩

end

/-! ### The Bridge -/

/-- What the service says of a step of the Bridge is among the statuses of the step. -/
theorem adds_no_end {b' : Bridge S} {ended new : List (Option String)}
    (hbalances : Balances s.service.bridge b' ended new) (hadds : Adds { s.service with bridge := b' } service
      (b'.state.statuses.drop s.service.bridge.state.statuses.length)) :
    service.bridge = b' ∧ ∃ more, service.emitted = s.service.emitted ++ more ∧
      ∀ id, some id ∉ ended → more.any (ends_cue id) = false := by
  obtain ⟨hbridge, more, hmore, hsaid⟩ := hadds
  refine ⟨hbridge, more, hmore, fun id hnot => List.any_eq_false.mpr fun told hin hends => hnot ?_⟩
  obtain ⟨hstatus, hcue⟩ := hsaid told hin
  obtain ⟨_, hcue⟩ := Option.isSome_iff_exists.mp hcue
  unfold ends_cue at hends
  rw [Bool.and_eq_true, decide_eq_true_eq, hcue] at hends
  rw [← hends.1, Option.getD_some, ← hcue]
  exact hbalances.tells.terminal told.2 hstatus hends.2

theorem Kept.quiet_step (h : Kept s) {b' : Bridge S} {ended : List (Option String)}
    (hbalances : Balances s.service.bridge b' ended []) (hadds : Adds { s.service with bridge := b' } service
      (b'.state.statuses.drop s.service.bridge.state.statuses.length))
    (hsame : on_the_way writes = on_the_way s.writes) : Kept { s with service, writes } := by
  obtain ⟨hbridge, _, hmore, htold⟩ := adds_no_end hbalances hadds
  have hheld : ∀ cue_id, Holds service.bridge cue_id → Holds s.service.bridge cue_id := by
    intro cue_id hholds
    rw [hbridge] at hholds
    exact (hbalances.held cue_id hholds).resolve_right (by simp)
  refine h.bridge (hbridge ▸ hbalances.orderly) hmore (hsame ▸ h.once) (fun id hin => ?_) (fun cue_id hholds =>
    .inl (hheld cue_id hholds)) fun id hnow => htold id fun hended => ?_
  · rw [hsame] at hin
    exact ⟨hin, fun hholds => (h.coming id hin).2 (hheld _ hholds)⟩
  · rcases hnow with hholds | hin
    · exact hbalances.gone _ hended (hbridge ▸ hholds)
    · rw [hsame] at hin
      exact (h.coming id hin).2 ((hbalances.were _ hended).resolve_right (by simp))

/-- The Bridge takes on the cue of a frame that was on the way. -/
theorem Kept.takes_frame (h : Kept s) {b' : Bridge S} {ended : List (Option String)} {id : String}
    (hbalances : Balances s.service.bridge b' ended [some id]) (hadds : Adds { s.service with bridge := b' } service
      (b'.state.statuses.drop s.service.bridge.state.statuses.length)) (hcoming : id ∈ on_the_way s.writes)
    (honce : (on_the_way writes).Nodup)
    (hless : ∀ other, other ∈ on_the_way writes ↔ other ∈ on_the_way s.writes ∧ other ≠ id) :
    Kept { s with service, writes } := by
  obtain ⟨hbridge, _, hmore, htold⟩ := adds_no_end hbalances hadds
  have hheld : ∀ cue_id, Holds service.bridge cue_id → Holds s.service.bridge cue_id ∨ cue_id = some id := by
    intro cue_id hholds
    rw [hbridge] at hholds
    exact (hbalances.held cue_id hholds).imp_right List.mem_singleton.mp
  refine h.bridge (hbridge ▸ hbalances.orderly) hmore honce (fun other hin => ?_) (fun cue_id hholds => ?_)
    fun other hnow => htold other fun hended => ?_
  · obtain ⟨hway, hne⟩ := (hless other).mp hin
    exact ⟨hway, fun hholds => (hheld _ hholds).elim (h.coming other hway).2 fun heq => hne (Option.some.inj heq)⟩
  · exact (hheld cue_id hholds).imp_right fun heq => ⟨id, hcoming, heq⟩
  · rcases hnow with hholds | hin
    · exact hbalances.gone _ hended (hbridge ▸ hholds)
    · obtain ⟨hway, hne⟩ := (hless other).mp hin
      rcases hbalances.were _ hended with hholds | heq
      · exact (h.coming other hway).2 hholds
      · exact hne (Option.some.inj (List.mem_singleton.mp heq))

theorem Kept.work (h : Kept s) (e : Outside) : Kept (s.bridge_step (.work e)) := by
  obtain ⟨_, hbalances⟩ := h.orderly.work e
  exact h.quiet_step hbalances (report_adds s.service _) rfl

theorem Kept.source (h : Kept s) {op : playback.Op S} {command : playback.PlaybackCommand S}
    (hop : playback.step s.service.bridge op = (s.service.bridge.try_send command).getD s.service.bridge)
    (hcommand : playback.stream_command command = none) : Kept (s.bridge_step op) := by
  obtain ⟨_, heq, hsame⟩ := playback.sent_if_room s.service.bridge command hcommand
  have hbalances : Balances s.service.bridge (playback.step s.service.bridge op) [] [] := by
    rw [hop, heq]
    exact h.orderly.same rfl rfl rfl (congrArg (s.service.bridge.worker.pending_physical_streams ++ ·) hsame)
  exact h.quiet_step hbalances (report_adds s.service _) rfl

section

variable {w : Write S} {i : Nat}

/-- The frame of a write is no longer on the way, and nothing else happens. -/
theorem Kept.passes (h : Kept s) (hi : s.writes[i]? = some w) {writes : List (Write S)}
    (hwrites : writes = s.writes.eraseIdx i ∨ ∃ w', is_coming w' = false ∧ writes = s.writes.set i w') :
    Kept { s with writes } := by
  have hless : (on_the_way writes).Nodup ∧ ∀ id ∈ on_the_way writes, id ∈ on_the_way s.writes := by
    cases hcoming : is_coming w with
    | true =>
      obtain ⟨honce, hless⟩ := on_the_way_less hi hcoming hwrites h.once
      exact ⟨honce, fun id hin => ((hless id).mp hin).1⟩
    | false =>
      have hsame : on_the_way writes = on_the_way s.writes := by
        rcases hwrites with rfl | ⟨w', hw', rfl⟩
        · exact on_the_way_erase hi hcoming
        · exact on_the_way_set hi hcoming hw'
      rw [hsame]
      exact ⟨h.once, fun _ hin => hin⟩
  exact h.desktop h.counted hless.1 hless.2 fun _ _ hmatches => hmatches

theorem Kept.refuse_frame (h : Kept s) (hi : s.writes[i]? = some w) (misdirected : Bool)
    (hclose : misdirected = true → s.may_close w = true) : Kept (s.refuse_frame i w misdirected) := by
  unfold Route.refuse_frame
  split
  · exact h
  · have hanswer : s.answer i w false = s.writes.eraseIdx i ∨
        ∃ w', is_coming w' = false ∧ s.answer i w false = s.writes.set i w' := by
      unfold answer
      split
      · exact .inl rfl
      · exact .inr ⟨_, rfl, rfl⟩
    cases misdirected with
    | false => exact h.passes hi hanswer
    | true =>
      obtain ⟨hnot, honce, hless⟩ := alone_of_may_close h.once hi (hclose rfl) hanswer
      obtain ⟨hbridge, more, hmore, hsaid⟩ := emit_adds s.service
        (List.mem_singleton_self (⟨some w.cue_id, .RouteFailed, "invalid-translation-sink-direction"⟩ : TranslationStatus))
      have hother : ∀ id, id ≠ w.cue_id → more.any (ends_cue id) = false := by
        refine fun id hne => List.any_eq_false.mpr fun told hin hends => hne ?_
        unfold ends_cue at hends
        rw [List.mem_singleton.mp (hsaid told hin).1, Bool.and_eq_true, decide_eq_true_eq] at hends
        exact hends.1.symm
      refine h.bridge (hbridge ▸ h.orderly) hmore honce (fun id hin => ?_) (fun cue_id hholds => ?_) fun id hnow => ?_
      · refine ⟨(hless id hin).1, fun hholds => (h.coming id (hless id hin).1).2 ?_⟩
        rw [if_pos rfl, hbridge] at hholds
        exact hholds
      · rw [if_pos rfl, hbridge] at hholds
        exact .inl hholds
      · rw [if_pos rfl, hbridge] at hnow
        exact hother id (hnow.elim (fun hholds heq => hnot (heq ▸ hholds)) fun hin => (hless id hin).2)

theorem Kept.handle_frame (h : Kept s) (hi : s.writes[i]? = some w) (now_ms : Nat) (hgiven : w.stage ≠ .abandoned)
    (habort : w.stage = .sent → w.frame.stream_state = some .Abort → ¬ Holds s.service.bridge (some w.cue_id)) :
    Kept (s.handle_frame i w now_ms) := by
  unfold Route.handle_frame
  split
  · exact h
  · next hstage =>
    have hsent : w.stage = .sent := by
      by_contra hnot
      exact hstage ⟨hnot, hgiven⟩
    have hanswer : s.answer i w (accepts s.service s.authority w.sent_frame now_ms) =
        s.writes.set i { w with stage := .answered (accepts s.service s.authority w.sent_frame now_ms) } :=
      if_neg hgiven
    rw [hanswer]
    have hnot : ∀ accepted, is_coming { w with stage := .answered accepted } = false := fun _ => rfl
    have hcoming : is_coming w = begins w.frame := by simp [is_coming, hsent]
    rcases handle_frame_adds s.service s.authority w.sent_frame now_ms with hsame | hadds
    · rw [hsame]
      exact h.passes hi (.inr ⟨_, hnot _, rfl⟩)
    · cases hbegins : begins w.frame with
      | true =>
        rw [hbegins] at hcoming
        have hin : w.cue_id ∈ on_the_way s.writes :=
          List.mem_map_of_mem (List.mem_filter.mpr ⟨List.mem_of_getElem? hi, hcoming⟩)
        obtain ⟨ended, hbalances⟩ := h.orderly.frame w.sent_frame now_ms (fun _ => (h.coming _ hin).2)
          (fun hend => habort hsent hend)
        have hnew : begins w.sent_frame = true := hbegins
        rw [if_pos hnew] at hbalances
        obtain ⟨honce, hless⟩ := on_the_way_less hi hcoming (.inr ⟨_, hnot _, rfl⟩) h.once
        exact h.takes_frame hbalances hadds hin honce hless
      | false =>
        rw [hbegins] at hcoming
        have hnew : begins w.sent_frame = false := hbegins
        obtain ⟨ended, hbalances⟩ := h.orderly.frame w.sent_frame now_ms
          (fun hbegin => by rw [hnew] at hbegin; cases hbegin) (fun hend => habort hsent hend)
        rw [hnew, if_neg Bool.false_ne_true] at hbalances
        exact h.quiet_step hbalances hadds (on_the_way_set hi hcoming (hnot _))

end

/-! ### The statuses -/

theorem Kept.receive_status (h : Kept s) {s' : Route S} (hact : s.receive_status = some s') : Kept s' := by
  unfold Route.receive_status at hact
  split at hact
  · next authority status hidle hnext =>
    split at hact
    · exact Option.some.inj hact ▸ h
    · obtain ⟨shared, hshared, rfl⟩ := Option.map_eq_some_iff.mp hact
      have hact : s.shared.act .begin_bridge_ack = some shared := hshared
      have hdrop : s.service.emitted.drop s.delivered =
          (authority, status) :: s.service.emitted.drop (s.delivered + 1) := by
        obtain ⟨hlt, hget⟩ := List.getElem?_eq_some_iff.mp hnext
        rw [List.drop_eq_getElem_cons hlt, hget]
      have hminds : ∀ id (matched : Bool), s.Minds id → ({ s with
          shared
          delivered := s.delivered + 1
          handling := some (authority, status, matched) } : Route S).Minds id := by
        intro id matched hminds
        refine ⟨elsewhere_keeps rfl hact hminds.expected, ?_⟩
        have hbefore := hminds.goes_on
        rw [still_to_hear, hdrop, List.any_cons, Bool.or_eq_false_iff, Bool.or_eq_false_iff] at hbefore
        rw [still_to_hear, Bool.or_eq_false_iff]
        exact ⟨hbefore.1.2, hbefore.1.1⟩
      refine ⟨h.counted.act hact, h.orderly, fun cue_id hholds => ?_, h.once, fun id hin => ?_⟩
      · obtain ⟨id, rfl, hmine⟩ := h.held cue_id hholds
        exact ⟨id, rfl, hminds id _ hmine⟩
      · exact ⟨hminds id _ (h.coming id hin).1, (h.coming id hin).2⟩
  · exact Option.some.inj hact ▸ h

theorem is_terminal_as_str (status : TranslationPlaybackStatusKind) :
    playback_quiescence.is_terminal (as_str status) = status.is_terminal := by
  cases status <;> decide

theorem Kept.apply_status (h : Kept s) (recorded : Bool) : Kept (s.apply_status recorded) := by
  unfold Route.apply_status
  split
  · exact h
  · next authority status matched hhandling =>
    dsimp only
    have hminds : ∀ (state : TranslationPlaybackQuiescenceState) id, s.Minds id →
        (state = s.shared.state ∨ state = (observe_bridge_playback_status_for_owner s.shared.state
          (status.cue_id.getD "-") (as_str status.status) authority).1) →
        ({ s with shared := { s.shared with state }.drop_ack_guard, handling := none } : Route S).Minds id := by
      intro state id hminds hstate
      have hbefore := hminds.goes_on
      rw [still_to_hear, hhandling, Bool.or_eq_false_iff] at hbefore
      refine ⟨?_, ?_⟩
      · rw [drop_guard_keeps]
        rcases hstate with rfl | rfl
        · exact hminds.expected
        · refine observe_keeps hminds.expected ?_ authority
          have hends : ends_cue id (authority, status) = false := hbefore.2
          unfold ends_cue at hends
          rw [Bool.and_eq_false_iff, decide_eq_false_iff_not] at hends
          exact hends.imp_right (is_terminal_as_str status.status).trans
      · rw [still_to_hear, Bool.or_eq_false_iff]
        exact ⟨hbefore.1, rfl⟩
    split
    · have hcounted := (h.counted.observe_for_owner (status.cue_id.getD "-") (as_str status.status) authority).drop_guard.1
      refine ⟨hcounted, h.orderly, fun cue_id hholds => ?_, h.once, fun id hin => ?_⟩
      · obtain ⟨id, rfl, hmine⟩ := h.held cue_id hholds
        exact ⟨id, rfl, hminds _ id hmine (.inr rfl)⟩
      · exact ⟨hminds _ id (h.coming id hin).1 (.inr rfl), (h.coming id hin).2⟩
    · refine ⟨h.counted.drop_guard.1, h.orderly, fun cue_id hholds => ?_, h.once, fun id hin => ?_⟩
      · obtain ⟨id, rfl, hmine⟩ := h.held cue_id hholds
        exact ⟨id, rfl, hminds _ id hmine (.inl rfl)⟩
      · exact ⟨hminds _ id (h.coming id hin).1 (.inl rfl), (h.coming id hin).2⟩

/-! ### Every run -/

theorem Kept.at_write (h : Kept s) {i : Nat} {acts : Write S → Route S}
    (hacts : ∀ w, s.writes[i]? = some w → Kept (acts w)) : Kept (s.at_write i acts) := by
  unfold Route.at_write
  split
  · exact h
  · next w hi => exact hacts w hi

theorem Kept.act (h : Kept s) {op : AudioOp S} (hok : s.in_order op = true) {s' : Route S} (hact : s.act op = some s') :
    Kept s' := by
  have hall : ∀ {i : Nat} {p : Write S → Bool}, (s.writes[i]?).all p = true → ∀ w, s.writes[i]? = some w → p w = true := by
    intro i p hp w hi
    rw [hi] at hp
    exact hp
  cases op with
  | begin_write _ _ _ _ => exact h.begin_write hact
  | fail_checks i =>
    rw [← Option.some.inj hact]
    refine h.at_write fun w hi => ?_
    unfold Route.fail_checks
    split
    · exact h
    · next hbegun => exact h.ends_write hi (by simp [is_coming, Decidable.not_not.mp hbegun])
  | send_frame i =>
    rw [← Option.some.inj hact]
    refine h.at_write fun w hi => ?_
    have hw := hall hok w hi
    refine h.send_frame hi fun hbegun hbegins => ?_
    simpa [hbegun, hbegins] using hw
  | lose_frame i =>
    rw [← Option.some.inj hact]
    refine h.at_write fun w hi => ?_
    have hw := hall hok w hi
    unfold Route.lose_frame
    split
    · exact h
    · next hsent => exact h.closes_write hi (by simpa [Decidable.not_not.mp hsent] using hw) (.inl rfl)
  | refuse_frame i misdirected =>
    rw [← Option.some.inj hact]
    refine h.at_write fun w hi => h.refuse_frame hi misdirected fun hmis => ?_
    have hw := hall hok w hi
    simpa [hmis] using hw
  | handle_frame i now_ms =>
    rw [← Option.some.inj hact]
    refine h.at_write fun w hi => ?_
    have hw := hall hok w hi
    rw [Bool.and_eq_true, decide_eq_true_eq] at hw
    refine h.handle_frame hi now_ms hw.1 fun hsent habort hholds => ?_
    have hfree := hw.2
    rw [(holds_cue_iff _ _).mpr hholds] at hfree
    simp [hsent, habort] at hfree
  | lose_ack i =>
    rw [← Option.some.inj hact]
    refine h.at_write fun w hi => ?_
    have hw := hall hok w hi
    unfold Route.lose_ack
    split
    · next hsent => exact h.closes_write hi (by simpa [hsent] using hw) (.inr ⟨_, rfl, rfl⟩)
    · next hanswered => exact h.closes_write hi (by simpa [hanswered] using hw) (.inl rfl)
    · exact h
  | read_ack i =>
    rw [← Option.some.inj hact]
    refine h.at_write fun w hi => ?_
    have hw := hall hok w hi
    unfold Route.read_ack
    split
    · next hanswered => exact h.ends_write hi (by simp [is_coming, hanswered])
    · next hanswered => exact h.closes_write hi (by simpa [hanswered] using hw) (.inl rfl)
    · exact h
  | work e =>
    rw [← Option.some.inj hact]
    exact h.work e
  | source_frame =>
    rw [← Option.some.inj hact]
    exact h.source rfl rfl
  | flush_source =>
    rw [← Option.some.inj hact]
    exact h.source rfl rfl
  | receive_status => exact h.receive_status hact
  | apply_status recorded =>
    rw [← Option.some.inj hact]
    exact h.apply_status recorded
  | elsewhere op =>
    obtain ⟨_, hshared, rfl⟩ := Option.map_eq_some_iff.mp hact
    exact h.desktop (h.counted.act hshared) h.once (fun _ hin => hin) fun _ _ hmatches =>
      elsewhere_keeps op.2 hshared hmatches

end Route

/-- Every step of the run is in order. -/
def every_step_in_order (s : Option (Route S)) (ops : List (AudioOp S)) : Prop :=
  Along step (fun s op => s.all (·.in_order op) = true) s ops

theorem run_kept {device_id : String} {authority : TranslationPlaybackAuthority} {ops : List (AudioOp S)}
    (hok : every_step_in_order (some (Route.start device_id authority)) ops) :
    ∀ s ∈ run step (some (Route.start device_id authority)) ops, s.Kept := by
  refine Along.keeps (fun s => ∀ reached ∈ s, reached.Kept) ?_ ?_ hok
  · intro before op hbefore hop reached hreached
    obtain ⟨last, hlast, hact⟩ := Option.bind_eq_some_iff.mp hreached
    rw [hlast] at hop
    exact (hbefore last hlast).act hop hact
  · intro reached hreached
    rw [← Option.some.inj hreached]
    exact Route.kept_start device_id authority

/-- In a run whose steps are all in order, the Bridge neither has audio waiting nor plays any whenever the Desktop
takes playback to be at rest. -/
theorem rest_is_silence (device_id : String) (authority : TranslationPlaybackAuthority) (ops : List (AudioOp S))
    (hok : every_step_in_order (some (Route.start device_id authority)) ops) (s : Route S)
    (hrun : run step (some (Route.start device_id authority)) ops = some s) (hrest : s.is_quiescent = true) :
    s.is_silent = true :=
  (run_kept hok s hrun).silent hrest

def a_route : TranslationPlaybackAuthority := ⟨"s", "b", 1, "t", 1, "d"⟩

def a_cue : TranslationFrame Nat := ⟨none, [0, 0], some 0, none, none, true, true, true⟩

def write_cue (cue_id : String) : List (AudioOp Nat) :=
  [.begin_write cue_id a_cue 1 48000, .send_frame 0, .handle_frame 0 0, .read_ack 0]

/-- The worker plays the first cue to its end. -/
def play_a_cue : List (AudioOp Nat) := List.replicate 13 (.work ⟨true, none, 0, 0⟩)

def hear (n : Nat) : List (AudioOp Nat) :=
  (List.replicate n [AudioOp.receive_status, .apply_status true]).flatten

def two_cues (first second : String) : List (AudioOp Nat) :=
  write_cue first ++ write_cue second ++ play_a_cue

/-- One of two cues is over. -/
def one_over (first second : String) : List (AudioOp Nat) := two_cues first second ++ hear 4

/-- Both of two cues are over. -/
def both_over (first second : String) : List (AudioOp Nat) := two_cues first second ++ play_a_cue ++ hear 6

/-- The end of the first cue is taken for that of the second, which has the same id and waits. -/
theorem the_second_cue_still_waits :
    ¬ ∀ (device_id : String) (authority : TranslationPlaybackAuthority) (ops : List (AudioOp Nat)) (s : Route Nat),
        run step (some (Route.start device_id authority)) ops = some s → s.is_quiescent = true →
        s.is_silent = true := by
  intro hall
  have hrun : (run step (some (Route.start "d" a_route)) (one_over "c" "c")).any
      (fun s => s.is_quiescent && !s.is_silent) = true := by
    decide +kernel
  obtain ⟨s, hs, hreached⟩ := (Option.any_eq_true _ _).mp hrun
  rw [Bool.and_eq_true, Bool.not_eq_true'] at hreached
  have hsilent := hall "d" a_route _ s hs hreached.1
  rw [hreached.2] at hsilent
  cases hsilent

/-- Two cues of their own ids are played to their ends. -/
theorem both_cues_are_over :
    ∃ s, run step (some (Route.start "d" a_route)) (both_over "a" "b") = some s ∧ s.is_quiescent = true ∧
      s.is_silent = true := by
  have hrun : (run step (some (Route.start "d" a_route)) (both_over "a" "b")).any (·.is_quiescent) = true := by
    decide +kernel
  have hok : every_step_in_order (some (Route.start "d" a_route)) (both_over "a" "b") := by
    unfold every_step_in_order
    decide +kernel
  obtain ⟨s, hs, hrest⟩ := (Option.any_eq_true _ _).mp hrun
  exact ⟨s, hs, hrest, rest_is_silence "d" a_route _ hok s hs hrest⟩

end omni_translate.translated_audio

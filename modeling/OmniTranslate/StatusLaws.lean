-- What the delivery of statuses keeps: a terminal status whose authority matched
-- at its first delivery is held by a handler or applied, never both and never
-- twice. The Bridge drops it after it is applied only under conditions, since the
-- acknowledgement is written before the status is applied.
import Mathlib
import OmniTranslate.BridgeStatus
import OmniTranslate.Places

namespace omni_translate.bridge_playback_ack

open places runs

/-! ## Receipts and ids -/

namespace BridgeTranslationStatusReceipts

theorem expire_subset (order : List String) (ids : Finset String) :
    (expire order ids).2 ⊆ ids := by
  induction order generalizing ids with
  | nil => exact Finset.Subset.refl _
  | cons _ order ih =>
    unfold expire
    split
    · exact (ih _).trans (Finset.erase_subset _ _)
    · exact Finset.Subset.refl _

theorem insert_ids (receipts : BridgeTranslationStatusReceipts) (status_id : String) :
    (receipts.insert status_id).1.ids ⊆ Insert.insert status_id receipts.ids := by
  unfold insert
  split
  · exact Finset.subset_insert _ _
  · exact expire_subset _ _

/-- An id is accepted once, while it has its receipt. -/
theorem insert_accepts {receipts : BridgeTranslationStatusReceipts} {status_id : String}
    (hid : text.trim status_id.toList ≠ []) :
    (receipts.insert status_id).2 = true ↔ status_id ∉ receipts.ids := by
  unfold insert
  split
  · rename_i h
    rcases h with h | h
    · exact absurd h hid
    · simp [h]
  · rename_i h
    simp [not_or.mp h]

theorem insert_refused {receipts : BridgeTranslationStatusReceipts} {status_id : String}
    (h : (receipts.insert status_id).2 = false) : (receipts.insert status_id).1 = receipts := by
  unfold insert at h ⊢
  split
  · rfl
  · rename_i hnew
    rw [if_neg hnew] at h
    cases h

end BridgeTranslationStatusReceipts

namespace TranslationStatusOutbox

theorem status_id_injective (producer_id : String) : Function.Injective (status_id producer_id) := by
  intro a b h
  have hnum : toString a = toString b := by
    exact (String.append_right_inj _).mp h
  exact Nat.repr_injective hnum

theorem status_id_not_blank (producer_id : String) (sequence : Nat) :
    text.trim (status_id producer_id sequence).toList ≠ [] := by
  have hmem : 'b' ∈ (status_id producer_id sequence).toList := by
    unfold status_id
    rw [String.toList_append, String.toList_append, String.toList_append]
    refine List.mem_append_left _ (List.mem_append_left _ (List.mem_append_left _ ?_))
    decide
  intro h
  have hspace := text.trim_eq_nil.mp h 'b' hmem
  revert hspace
  decide

end TranslationStatusOutbox

/-! ## The conditions -/

/-- The status that a handler works on. -/
def Handler.event : Handler → Option TranslationPlaybackStatusEvent
  | .idle => none
  | .received event _ => some event
  | .acknowledged event _ => some event

/-- The status that a handler has accepted and not applied yet. -/
def Handler.held : Handler → Option TranslationPlaybackStatusEvent
  | .received event .Apply => some event
  | .acknowledged event .Apply => some event
  | _ => none

/-- The handler of the pipe holds the status with an id. -/
def SourcePipe.holds (status_id : String) (p : SourcePipe) : Bool :=
  p.handler.held.any (·.status_id = status_id)

/-- The conditions under which no status is dropped before it is applied. The acknowledgement of an
accepted terminal status is written; the cue of such a status still matches when it is applied, and
the strict watch ledger records it; the Bridge reads the acknowledgement of a terminal status when
no handler holds the status any more; and a status that comes again still has its receipt. -/
def stays_accounted (s : System) : Op → Prop
  | .receive_status i => ∀ p event, s.pipes[i]? = some p → p.status = some event →
      event.status_id ∈ s.accepted.map (·.status_id) → event.status_id ∈ s.receipts.ids
  | .write_ack i written => ∀ p event, s.pipes[i]? = some p → p.handler.held = some event →
      event.playback_status.is_terminal = true → written = true ∧ p.is_open = true
  | .apply_status i recorded => ∀ p event, s.pipes[i]? = some p → p.handler.held = some event →
      event.playback_status.is_terminal = true →
        bridge_playback_cue_matches_owner s.active_bridge_cues event.cue_id event.authority = true ∧
          (event.playback_status = .Completed → recorded = true)
  | .read_ack i => ∀ p ack outbox event, s.pipes[i]? = some p → p.ack = some ack →
      s.outbox.acknowledge ack = some (outbox, event) →
        event.playback_status.is_terminal = true → ∀ q ∈ s.pipes, q.holds event.status_id = false
  | _ => True

/-! ## The invariant -/

/-- How often a status has been applied. -/
def applications (applied : List (TranslationPlaybackStatusEvent × Bool)) (status_id : String) : Nat :=
  applied.countP (·.1.status_id = status_id)

/-- How many handlers hold a status, and how often it has been applied. -/
def shares (pipes : List SourcePipe) (applied : List (TranslationPlaybackStatusEvent × Bool))
    (status_id : String) : Nat :=
  pipes.countP (SourcePipe.holds status_id) + applications applied status_id

/-- The statuses in a pipe were emitted, and those past the pipe were delivered. -/
structure PipeSound (emitted : List TranslationPlaybackStatusEvent)
    (delivered : List (String × Bool)) (p : SourcePipe) : Prop where
  status : ∀ event, p.status = some event → event ∈ emitted
  handler : ∀ event, p.handler.event = some event →
    event ∈ emitted ∧ event.status_id ∈ delivered.map Prod.fst
  ack : ∀ ack, p.ack = some ack → ack.status_id ∈ delivered.map Prod.fst

structure Accounted (s : System) : Prop where
  distinct : (s.emitted.map (·.status_id)).Nodup
  sequence : ∀ event ∈ s.emitted, ∃ n ≤ s.outbox.next_sequence,
    event.status_id = TranslationStatusOutbox.status_id s.outbox.producer_id n
  pending : ∀ event ∈ s.outbox.pending, event ∈ s.emitted
  pipes : ∀ p ∈ s.pipes, PipeSound s.emitted s.delivered p
  accepted : ∀ event ∈ s.accepted, event ∈ s.emitted
  applied : ∀ a ∈ s.applied, a.1 ∈ s.emitted
  dropped : ∀ event ∈ s.dropped,
    event ∈ s.emitted ∧ event.status_id ∈ s.delivered.map Prod.fst
  receipts : ∀ status_id ∈ s.receipts.ids, status_id ∈ s.accepted.map (·.status_id)
  matched : ∀ status_id, (status_id, true) ∈ s.delivered →
    status_id ∈ s.accepted.map (·.status_id)
  once : (s.accepted.map (·.status_id)).Nodup
  shared : ∀ status_id, shares s.pipes s.applied status_id ≤
    (s.accepted.map (·.status_id)).count status_id
  kept : ∀ event ∈ s.accepted, event.playback_status.is_terminal = true →
    1 ≤ shares s.pipes s.applied event.status_id
  settled : ∀ event ∈ s.dropped, event.playback_status.is_terminal = true →
    (event.status_id, true) ∈ s.delivered → 1 ≤ applications s.applied event.status_id
  cleared : ∀ event, (event, false) ∈ s.applied → event.playback_status.is_terminal = true →
    s.active_bridge_cues event.cue_id = none

theorem accounted_new (producer_id : String) : Accounted (System.new producer_id) := by
  constructor <;> simp [System.new, shares, applications]

variable {s : System}

theorem Accounted.same (h : Accounted s) {a b : TranslationPlaybackStatusEvent}
    (ha : a ∈ s.emitted) (hb : b ∈ s.emitted) (hid : a.status_id = b.status_id) : a = b :=
  List.inj_on_of_nodup_map h.distinct ha hb hid

/-! ## The steps -/

variable {p : SourcePipe} {event : TranslationPlaybackStatusEvent} {status_id : String}

theorem holds_eq (h : p.handler.held = some event) : p.holds status_id = decide (event.status_id = status_id) := by
  simp [SourcePipe.holds, h]

theorem not_holds (h : p.handler.held = none) : p.holds status_id = false := by
  simp [SourcePipe.holds, h]

theorem held_of_holds (h : p.holds status_id = true) :
    ∃ event, p.handler.held = some event ∧ event.status_id = status_id := by
  cases hheld : p.handler.held with
  | none =>
    rw [not_holds hheld] at h
    cases h
  | some event =>
    rw [holds_eq hheld] at h
    exact ⟨event, rfl, of_decide_eq_true h⟩

/-- A held status is the one that the handler works on. -/
theorem Handler.event_of_held {handler : Handler} (h : handler.held = some event) :
    handler.event = some event := by
  unfold Handler.held at h
  split at h
  · exact h
  · exact h
  · cases h

variable {i : Nat}

section

variable (h : Accounted s)

include h

/-- A pipe changes and holds on to the terminal status it held. -/
theorem Accounted.set_pipe {p p' : SourcePipe} (hp : s.pipes[i]? = some p)
    (hsound : PipeSound s.emitted s.delivered p')
    (hless : ∀ status_id, p'.holds status_id = true → p.holds status_id = true)
    (hkeep : ∀ event, p.handler.held = some event → event.playback_status.is_terminal = true →
      p'.holds event.status_id = true) : Accounted { s with pipes := s.pipes.set i p' } := by
  have hshared : ∀ status_id, shares (s.pipes.set i p') s.applied status_id ≤
      shares s.pipes s.applied status_id := by
    intro status_id
    have hput := countP_put_in hp (SourcePipe.holds status_id) p'
    unfold shares
    by_cases hp' : p'.holds status_id = true
    · rw [hp', hless status_id hp'] at hput
      omega
    · simp only [hp', Bool.false_eq_true, if_false] at hput
      omega
  have hkept : ∀ event ∈ s.accepted, event.playback_status.is_terminal = true →
      1 ≤ shares (s.pipes.set i p') s.applied event.status_id := by
    intro event hevent hterm
    have hle := h.kept event hevent hterm
    have hput := countP_put_in hp (SourcePipe.holds event.status_id) p'
    unfold shares at hle ⊢
    by_cases hph : p.holds event.status_id = true
    · -- the status that the pipe holds is the accepted one
      obtain ⟨held, hheld, hid⟩ := held_of_holds hph
      have hemitted := ((h.pipes p (List.mem_of_getElem? hp)).handler held
        (Handler.event_of_held hheld)).1
      have heq : held = event := h.same hemitted (h.accepted event hevent) hid
      subst heq
      rw [hph, hkeep held hheld hterm] at hput
      omega
    · simp only [hph, Bool.false_eq_true, if_false] at hput
      omega
  exact { h with
    pipes := forall_put_in h.pipes hsound i
    shared := fun status_id => (hshared status_id).trans (h.shared status_id)
    kept := hkept }

/-- A pipe changes at its ends and its handler stays. -/
theorem Accounted.set_ends (hp : s.pipes[i]? = some p) (p' : SourcePipe)
    (hhandler : p'.handler = p.handler)
    (hstatus : ∀ event, p'.status = some event → event ∈ s.emitted)
    (hack : ∀ ack, p'.ack = some ack → ack.status_id ∈ s.delivered.map Prod.fst) :
    Accounted { s with pipes := s.pipes.set i p' } := by
  have hholds : ∀ status_id, p'.holds status_id = p.holds status_id := by
    intro status_id
    unfold SourcePipe.holds
    rw [hhandler]
  apply h.set_pipe hp
  · refine ⟨hstatus, ?_, hack⟩
    rw [hhandler]
    exact (h.pipes p (List.mem_of_getElem? hp)).handler
  · intro status_id hh
    rw [← hholds]
    exact hh
  · intro event hheld _
    rw [hholds, holds_eq hheld]
    simp

theorem Accounted.abandon (hp : s.pipes[i]? = some p) :
    Accounted { s with pipes := s.pipes.set i p.abandoned } := by
  apply h.set_ends hp p.abandoned rfl
  · simp [SourcePipe.abandoned]
  · simp [SourcePipe.abandoned]

/-- A handler stops with a status that it need not apply. -/
theorem Accounted.let_go (hp : s.pipes[i]? = some p) (p' : SourcePipe) (hidle : p'.handler = .idle)
    (hstatus : p'.status = none ∨ p'.status = p.status) (hack : p'.ack = p.ack)
    (hheld : ∀ event, p.handler.held = some event → event.playback_status.is_terminal = false) :
    Accounted { s with pipes := s.pipes.set i p' } := by
  have hold := h.pipes p (List.mem_of_getElem? hp)
  apply h.set_pipe hp
  · refine ⟨?_, ?_, ?_⟩
    · intro event hevent
      rcases hstatus with hnone | hsame
      · rw [hnone] at hevent
        cases hevent
      · exact hold.status event (hsame ▸ hevent)
    · rw [hidle]
      simp [Handler.event]
    · rw [hack]
      exact hold.ack
  · intro status_id hh
    rw [not_holds (by rw [hidle]; rfl)] at hh
    cases hh
  · intro event hevent hterm
    rw [hheld event hevent] at hterm
    cases hterm

theorem Accounted.emit_with_authority (authority : TranslationPlaybackAuthority) (cue_id : String)
    (status : TranslationPlaybackStatusKind) :
    Accounted (s.emit_translation_status_with_authority authority cue_id status) := by
  unfold System.emit_translation_status_with_authority TranslationStatusOutbox.next_status_id
  by_cases hroom : s.outbox.next_sequence + 1 < 2 ^ 64
  · simp only [hroom, if_true]
    refine ⟨?_, ?_, ?_, ?_, ?_, ?_, ?_, h.receipts, h.matched, h.once, h.shared, h.kept,
      h.settled, h.cleared⟩
    · rw [List.map_append, List.map_singleton, List.nodup_append]
      refine ⟨h.distinct, List.nodup_singleton _, ?_⟩
      intro a ha b hb hab
      obtain ⟨event, hevent, rfl⟩ := List.mem_map.mp ha
      obtain ⟨n, hn, hid⟩ := h.sequence event hevent
      rw [List.mem_singleton.mp hb, hid] at hab
      have := TranslationStatusOutbox.status_id_injective _ hab
      omega
    · intro event hevent
      rcases List.mem_append.mp hevent with hevent | hevent
      · obtain ⟨n, hn, hid⟩ := h.sequence event hevent
        exact ⟨n, Nat.le_succ_of_le hn, hid⟩
      · rw [List.mem_singleton.mp hevent]
        exact ⟨_, Nat.le_refl _, rfl⟩
    · intro event hevent
      rcases List.mem_append.mp hevent with hevent | hevent
      · exact List.mem_append_left _ (h.pending event hevent)
      · exact List.mem_append_right _ hevent
    · intro p hp
      have hold := h.pipes p hp
      exact ⟨fun event he => List.mem_append_left _ (hold.status event he),
        fun event he => ⟨List.mem_append_left _ (hold.handler event he).1,
          (hold.handler event he).2⟩, hold.ack⟩
    · exact fun event he => List.mem_append_left _ (h.accepted event he)
    · exact fun a ha => List.mem_append_left _ (h.applied a ha)
    · exact fun event he => ⟨List.mem_append_left _ (h.dropped event he).1, (h.dropped event he).2⟩
  · simp only [hroom, if_false]
    exact h

theorem Accounted.emit (cue_id : String) (status : TranslationPlaybackStatusKind) :
    Accounted (s.emit_translation_status cue_id status) := by
  unfold System.emit_translation_status
  split
  · exact h
  · apply Accounted.emit_with_authority
    split
    · exact { h with }
    · exact h

end

/-- What the disposition of a status tells about its receipts. -/
theorem disposition_cases {receipts receipts' : BridgeTranslationStatusReceipts} {authority_matches : Bool}
    {disposition : BridgeTranslationStatusDisposition} (hid : text.trim status_id.toList ≠ [])
    (h : bridge_translation_status_disposition_for_authority receipts status_id authority_matches =
      (receipts', disposition)) :
    (disposition = .Apply ∧ authority_matches = true ∧ status_id ∉ receipts.ids ∧
        receipts'.ids ⊆ Insert.insert status_id receipts.ids) ∨
      (disposition ≠ .Apply ∧ receipts' = receipts ∧
        (authority_matches = true → status_id ∈ receipts.ids)) := by
  unfold bridge_translation_status_disposition_for_authority at h
  split at h
  · rename_i hmiss
    cases h
    right
    refine ⟨by decide, rfl, ?_⟩
    intro hm
    exact absurd hm hmiss
  · rename_i hmatch
    simp only at h
    cases haccept : (receipts.insert status_id).2 with
    | true =>
      rw [haccept] at h
      cases h
      left
      exact ⟨rfl, by simpa using hmatch,
        (BridgeTranslationStatusReceipts.insert_accepts hid).mp haccept,
        BridgeTranslationStatusReceipts.insert_ids _ _⟩
    | false =>
      rw [haccept] at h
      cases h
      right
      refine ⟨by decide, BridgeTranslationStatusReceipts.insert_refused haccept, fun _ => ?_⟩
      by_contra hnot
      rw [(BridgeTranslationStatusReceipts.insert_accepts hid).mpr hnot] at haccept
      cases haccept

theorem mem_note_delivery (delivered : List (String × Bool)) (status_id : String)
    (authority_matches : Bool) :
    status_id ∈ (note_delivery delivered status_id authority_matches).map Prod.fst := by
  unfold note_delivery
  split
  · assumption
  · simp

variable {delivered : List (String × Bool)}

theorem note_delivery_mono {id : String} (h : id ∈ delivered.map Prod.fst) (status_id : String)
    (authority_matches : Bool) : id ∈ (note_delivery delivered status_id authority_matches).map Prod.fst := by
  unfold note_delivery
  split
  · exact h
  · rw [List.map_append]
    exact List.mem_append_left _ h

/-- A match that is noted is an old one, or the first delivery of its id. -/
theorem matched_note_delivery {id status_id : String} {authority_matches : Bool}
    (h : (id, true) ∈ note_delivery delivered status_id authority_matches) :
    (id, true) ∈ delivered ∨
      id = status_id ∧ authority_matches = true ∧ status_id ∉ delivered.map Prod.fst := by
  unfold note_delivery at h
  split at h
  · exact Or.inl h
  · rename_i hnew
    rcases List.mem_append.mp h with h | h
    · exact Or.inl h
    · obtain ⟨hid, hmatch⟩ := Prod.mk.inj (List.mem_singleton.mp h)
      exact Or.inr ⟨hid, hmatch.symm, hnew⟩

theorem PipeSound.note {emitted : List TranslationPlaybackStatusEvent} (h : PipeSound emitted delivered p)
    (status_id : String) (authority_matches : Bool) :
    PipeSound emitted (note_delivery delivered status_id authority_matches) p where
  status := h.status
  handler := fun event he => ⟨(h.handler event he).1, note_delivery_mono (h.handler event he).2 _ _⟩
  ack := fun ack ha => note_delivery_mono (h.ack ack ha) _ _

section

variable (h : Accounted s)

include h

theorem Accounted.dropped_note (status_id : String) (authority_matches : Bool) :
    ∀ event ∈ s.dropped, event ∈ s.emitted ∧
      event.status_id ∈ (note_delivery s.delivered status_id authority_matches).map Prod.fst :=
  fun event he => ⟨(h.dropped event he).1, note_delivery_mono (h.dropped event he).2 _ _⟩

/-- A dropped status is not delivered for the first time. -/
theorem Accounted.settled_note (status_id : String) (authority_matches : Bool) :
    ∀ event ∈ s.dropped, event.playback_status.is_terminal = true →
      (event.status_id, true) ∈ note_delivery s.delivered status_id authority_matches →
        1 ≤ applications s.applied event.status_id := by
  intro event hevent hterm hmem
  rcases matched_note_delivery hmem with hmem | ⟨hid, _, hnew⟩
  · exact h.settled event hevent hterm hmem
  · exact absurd (hid ▸ (h.dropped event hevent).2) hnew

theorem Accounted.note (status_id : String) (authority_matches : Bool)
    (hfirst : authority_matches = true → status_id ∈ s.accepted.map (·.status_id)) :
    Accounted { s with delivered := note_delivery s.delivered status_id authority_matches } := by
  refine { h with
    pipes := fun q hq => (h.pipes q hq).note _ _
    dropped := h.dropped_note _ _
    matched := ?_
    settled := h.settled_note _ _ }
  intro id hmem
  rcases matched_note_delivery hmem with hmem | ⟨rfl, hmatch, _⟩
  · exact h.matched id hmem
  · exact hfirst hmatch

theorem Accounted.accept {p p' : SourcePipe} {authority_matches : Bool}
    {receipts : BridgeTranslationStatusReceipts} (hp : s.pipes[i]? = some p)
    (hidle : p.handler = .idle) (hheld : p'.handler.held = some event)
    (hsound : PipeSound s.emitted (note_delivery s.delivered event.status_id authority_matches) p')
    (hemitted : event ∈ s.emitted) (hfresh : event.status_id ∉ s.accepted.map (·.status_id))
    (hsub : receipts.ids ⊆ Insert.insert event.status_id s.receipts.ids) :
    Accounted { s with
      receipts
      pipes := s.pipes.set i p'
      delivered := note_delivery s.delivered event.status_id authority_matches
      accepted := s.accepted ++ [event] } := by
  have hcount : ∀ status_id, shares (s.pipes.set i p') s.applied status_id =
      shares s.pipes s.applied status_id + if event.status_id = status_id then 1 else 0 := by
    intro status_id
    have hput := countP_put_in hp (SourcePipe.holds status_id) p'
    rw [not_holds (by rw [hidle]; rfl), holds_eq hheld] at hput
    unfold shares
    simp only [Bool.false_eq_true, if_false, decide_eq_true_eq] at hput ⊢
    omega
  refine { h with
    pipes := forall_put_in (fun q hq => (h.pipes q hq).note _ _) hsound i
    accepted := ?_
    dropped := h.dropped_note _ _
    receipts := ?_
    matched := ?_
    once := ?_
    shared := ?_
    kept := ?_
    settled := h.settled_note _ _ }
  · intro e he
    rcases List.mem_append.mp he with he | he
    · exact h.accepted e he
    · rw [List.mem_singleton.mp he]
      exact hemitted
  · intro status_id hmem
    rw [List.map_append]
    rcases Finset.mem_insert.mp (hsub hmem) with rfl | hmem
    · exact List.mem_append_right _ (by simp)
    · exact List.mem_append_left _ (h.receipts status_id hmem)
  · intro status_id hmem
    rw [List.map_append]
    rcases matched_note_delivery hmem with hmem | ⟨rfl, _, _⟩
    · exact List.mem_append_left _ (h.matched status_id hmem)
    · exact List.mem_append_right _ (by simp)
  · rw [List.map_append, List.map_singleton, List.nodup_append]
    refine ⟨h.once, List.nodup_singleton _, ?_⟩
    rintro _ ha _ hb rfl
    rw [List.mem_singleton.mp hb] at ha
    exact hfresh ha
  · intro status_id
    have hle := h.shared status_id
    rw [hcount]
    simp only [List.map_append, List.map_singleton, List.count_append, List.count_singleton,
      beq_iff_eq]
    omega
  · intro e he hterm
    rw [hcount]
    rcases List.mem_append.mp he with he | he
    · have := h.kept e he hterm
      omega
    · rw [List.mem_singleton.mp he]
      simp

theorem Accounted.receive (hp : s.pipes[i]? = some p) (hidle : p.handler = .idle)
    (hstatus : p.status = some event)
    (hok : event.status_id ∈ s.accepted.map (·.status_id) → event.status_id ∈ s.receipts.ids) :
    Accounted (s.receive_status i p event) := by
  have hold := h.pipes p (List.mem_of_getElem? hp)
  have hemitted := hold.status event hstatus
  have hblank : text.trim event.status_id.toList ≠ [] := by
    obtain ⟨_, _, hid⟩ := h.sequence event hemitted
    rw [hid]
    exact TranslationStatusOutbox.status_id_not_blank _ _
  have hsound : ∀ disposition, PipeSound s.emitted
      (note_delivery s.delivered event.status_id (s.authority_matches event))
      { p with status := none, handler := .received event disposition } := by
    intro disposition
    refine ⟨by simp, ?_, (hold.note _ _).ack⟩
    rintro e ⟨⟩
    exact ⟨hemitted, mem_note_delivery _ _ _⟩
  unfold System.receive_status
  rcases hd : bridge_translation_status_disposition_for_authority s.receipts event.status_id
    (s.authority_matches event) with ⟨receipts, disposition⟩
  simp only [hd]
  rcases disposition_cases hblank hd with ⟨rfl, _, hnew, hsub⟩ | ⟨hne, rfl, hin⟩
  · exact h.accept hp hidle rfl (hsound _) hemitted (fun hmem => hnew (hok hmem)) hsub
  · have hnote := h.note event.status_id (s.authority_matches event) fun hm => h.receipts _ (hin hm)
    have hheld : (Handler.received event disposition).held = none := by
      cases disposition with
      | Apply => exact absurd rfl hne
      | DuplicateReplay => rfl
      | SessionMismatch => rfl
    rw [if_neg hne]
    apply hnote.set_pipe hp (hsound _)
    · intro status_id hh
      rw [not_holds hheld] at hh
      cases hh
    · intro e he
      rw [hidle] at he
      cases he

/-- The acknowledgement is written, or the handler gives up a status that it need not apply. -/
theorem Accounted.write_ack {disposition : BridgeTranslationStatusDisposition} {written : Bool}
    (hp : s.pipes[i]? = some p) (hhandler : p.handler = .received event disposition)
    (hok : ∀ event, p.handler.held = some event → event.playback_status.is_terminal = true →
      written = true ∧ p.is_open = true) :
    Accounted (s.write_ack i p event disposition written) := by
  have hold := h.pipes p (List.mem_of_getElem? hp)
  have hevent := hold.handler event (by rw [hhandler]; rfl)
  unfold System.write_ack
  split
  · have hheld : (Handler.acknowledged event disposition).held = p.handler.held := by
      rw [hhandler]
      cases disposition <;> rfl
    have hholds : ∀ status_id, SourcePipe.holds status_id { p with
        ack := some ⟨event.status_id, event.authority⟩
        handler := .acknowledged event disposition } = p.holds status_id := by
      intro status_id
      unfold SourcePipe.holds
      rw [hheld]
    apply h.set_pipe hp
    · refine ⟨hold.status, ?_, ?_⟩
      · rintro e ⟨⟩
        exact hevent
      · rintro _ ⟨⟩
        exact hevent.2
    · intro status_id hh
      rw [← hholds]
      exact hh
    · intro e he _
      rw [hholds, holds_eq he]
      simp
  · rename_i hfail
    apply h.let_go hp p.left rfl (Or.inl rfl) rfl
    intro e he
    by_contra hterm
    exact hfail (hok e he (by simpa using hterm))

theorem Accounted.apply {active_bridge_cues : ActiveBridgeCues} (hp : s.pipes[i]? = some p)
    (hheld : p.handler.held = some event)
    (hcues : active_bridge_cues = if event.playback_status.is_terminal then
      Function.update s.active_bridge_cues event.cue_id none else s.active_bridge_cues) :
    Accounted { s with
      active_bridge_cues
      pipes := s.pipes.set i { p with handler := .idle }
      applied := s.applied ++ [(event, false)] } := by
  have hold := h.pipes p (List.mem_of_getElem? hp)
  have hemitted := (hold.handler event (Handler.event_of_held hheld)).1
  have hsound : PipeSound s.emitted s.delivered { p with handler := .idle } :=
    ⟨hold.status, by simp [Handler.event], hold.ack⟩
  have happly : ∀ status_id, applications (s.applied ++ [(event, false)]) status_id =
      applications s.applied status_id + if event.status_id = status_id then 1 else 0 := by
    simp [applications, List.countP_append, List.countP_cons]
  -- the share goes over from the handler to the applied statuses
  have hcount : ∀ status_id, shares (s.pipes.set i { p with handler := .idle })
      (s.applied ++ [(event, false)]) status_id = shares s.pipes s.applied status_id := by
    intro status_id
    have hput := countP_put_in hp (SourcePipe.holds status_id) { p with handler := .idle }
    rw [show SourcePipe.holds status_id { p with handler := .idle } = false from not_holds rfl,
      holds_eq hheld] at hput
    unfold shares
    rw [happly]
    simp only [Bool.false_eq_true, if_false, decide_eq_true_eq] at hput ⊢
    omega
  refine { h with
    pipes := forall_put_in h.pipes hsound i
    applied := ?_
    shared := fun status_id => (hcount status_id).trans_le (h.shared status_id)
    kept := fun e he hterm => (h.kept e he hterm).trans_eq (hcount e.status_id).symm
    settled := ?_
    cleared := ?_ }
  · intro a ha
    rcases List.mem_append.mp ha with ha | ha
    · exact h.applied a ha
    · rw [List.mem_singleton.mp ha]
      exact hemitted
  · intro e he hterm hmem
    have := h.settled e he hterm hmem
    rw [happly]
    omega
  · intro e he hterm
    simp only [hcues]
    rcases List.mem_append.mp he with he | he
    · have hnone := h.cleared e he hterm
      split
      · by_cases hcue : e.cue_id = event.cue_id
        · rw [hcue, Function.update_self]
        · rw [Function.update_of_ne hcue]
          exact hnone
      · exact hnone
    · obtain ⟨rfl, _⟩ := Prod.mk.inj (List.mem_singleton.mp he)
      rw [if_pos hterm, Function.update_self]

end

/-- What the last part of the handler does to the cues. -/
theorem apply_acknowledged_cases (active_bridge_cues : ActiveBridgeCues)
    (disposition : BridgeTranslationStatusDisposition) (event : TranslationPlaybackStatusEvent)
    (recorded : Bool) :
    match apply_acknowledged_status_to_terminal_state_for_owner active_bridge_cues disposition event
      recorded with
    | none => disposition = .Apply ∧
        ¬ (bridge_playback_cue_matches_owner active_bridge_cues event.cue_id event.authority = true ∧
          (event.playback_status = .Completed → recorded = true))
    | some cues => cues = if disposition = .Apply ∧ event.playback_status.is_terminal then
        Function.update active_bridge_cues event.cue_id none else active_bridge_cues := by
  unfold apply_acknowledged_status_to_terminal_state_for_owner
    observe_bridge_playback_status_for_owner
  by_cases happly : disposition = .Apply
  · by_cases hmatch : bridge_playback_cue_matches_owner active_bridge_cues event.cue_id
        event.authority = true
    · by_cases hrecord : event.playback_status = .Completed ∧ ¬ recorded = true
      · simp [happly, hmatch, hrecord]
      · by_cases hterm : event.playback_status.is_terminal = true
        · simp only [happly, hmatch, hrecord, hterm, ne_eq, not_true_eq_false, if_false, if_true,
            and_self]
        · simp only [happly, hmatch, hrecord, hterm, ne_eq, not_true_eq_false, if_false,
            Bool.false_eq_true, and_false]
    · simp [happly, hmatch]
  · simp [happly]

theorem Accounted.apply_status (h : Accounted s) {disposition : BridgeTranslationStatusDisposition}
    {recorded : Bool} (hp : s.pipes[i]? = some p)
    (hhandler : p.handler = .acknowledged event disposition)
    (hok : ∀ event, p.handler.held = some event → event.playback_status.is_terminal = true →
      bridge_playback_cue_matches_owner s.active_bridge_cues event.cue_id event.authority = true ∧
        (event.playback_status = .Completed → recorded = true)) :
    Accounted (s.apply_status i p event disposition recorded) := by
  have hcases := apply_acknowledged_cases s.active_bridge_cues disposition event recorded
  unfold System.apply_status
  split
  · rename_i hnone
    simp only [hnone] at hcases
    obtain ⟨rfl, hrefused⟩ := hcases
    -- a refusal is of a status that is not terminal
    apply h.let_go hp p.left rfl (Or.inl rfl) rfl
    intro e he
    rw [hhandler] at he
    cases he
    by_contra hterm
    exact hrefused (hok event (by rw [hhandler]; rfl) (by simpa using hterm))
  · rename_i _ hsome
    simp only [hsome] at hcases
    by_cases happly : disposition = .Apply
    · subst happly
      simp only [true_and] at hcases
      exact h.apply hp (by rw [hhandler]; rfl) hcases
    · simp only [happly, false_and, if_false] at hcases ⊢
      subst hcases
      apply h.let_go hp { p with handler := .idle } rfl (Or.inr rfl) rfl
      intro e he
      rw [hhandler] at he
      cases disposition with
      | Apply => exact absurd rfl happly
      | DuplicateReplay => cases he
      | SessionMismatch => cases he

/-- The Bridge reads an acknowledgement and drops the front of its outbox. -/
theorem Accounted.read_ack (h : Accounted s) {ack : TranslationPlaybackStatusAck}
    (hp : s.pipes[i]? = some p) (hack : p.ack = some ack)
    (hok : ∀ outbox event, s.outbox.acknowledge ack = some (outbox, event) →
      event.playback_status.is_terminal = true → ∀ q ∈ s.pipes, q.holds event.status_id = false) :
    Accounted (s.read_ack i p ack) := by
  have hold := h.pipes p (List.mem_of_getElem? hp)
  unfold TranslationStatusOutbox.acknowledge at hok
  unfold System.read_ack TranslationStatusOutbox.acknowledge
  cases hpending : s.outbox.pending with
  | nil => exact h.abandon hp
  | cons event pending =>
    by_cases hmiss : event.status_id ≠ ack.status_id ∨ event.authority ≠ ack.authority
    · simp only [hmiss, if_true]
      exact h.abandon hp
    · simp only [hmiss, if_false]
      have hid : event.status_id = ack.status_id := by
        by_contra hne
        exact hmiss (Or.inl hne)
      have hemitted : event ∈ s.emitted := h.pending event (by rw [hpending]; simp)
      have hdelivered : event.status_id ∈ s.delivered.map Prod.fst := by
        rw [hid]
        exact hold.ack ack hack
      have hends := h.set_ends hp { p with ack := none, waiting := false } rfl hold.status
        (by simp)
      refine { hends with pending := ?_, dropped := ?_, settled := ?_ }
      · intro e he
        exact h.pending e (by rw [hpending]; exact List.mem_cons_of_mem _ he)
      · intro e he
        rcases List.mem_append.mp he with he | he
        · exact h.dropped e he
        · rw [List.mem_singleton.mp he]
          exact ⟨hemitted, hdelivered⟩
      · intro e he hterm hmem
        rcases List.mem_append.mp he with he | he
        · exact h.settled e he hterm hmem
        · -- no handler holds the status, so its share is an application
          have heq := List.mem_singleton.mp he
          subst heq
          obtain ⟨e', he', hid'⟩ := List.mem_map.mp (h.matched _ hmem)
          have hsame : e' = e := h.same (h.accepted e' he') hemitted hid'
          subst hsame
          have hshare := h.kept e' he' hterm
          have hnone : s.pipes.countP (SourcePipe.holds e'.status_id) = 0 := by
            rw [List.countP_eq_zero]
            intro q hq
            rw [hok _ e' (by simp only [hpending, hmiss, if_false]; rfl) hterm q hq]
            simp
          unfold shares at hshare
          simp only
          omega

/-- A cue that is expected again takes its applied statuses out of what the cues must show. -/
theorem Accounted.expect_cue (h : Accounted s) (cue_id : String)
    (authority : TranslationPlaybackAuthority) : Accounted (s.expect_cue cue_id authority) := by
  have hcount : ∀ status_id, applications (s.applied.map fun a => (a.1, a.2 || a.1.cue_id = cue_id))
      status_id = applications s.applied status_id := by
    intro status_id
    unfold applications
    rw [List.countP_map]
    rfl
  refine { h with applied := ?_, shared := ?_, kept := ?_, settled := ?_, cleared := ?_ }
  · intro a ha
    obtain ⟨a', ha', rfl⟩ := List.mem_map.mp ha
    exact h.applied a' ha'
  · intro status_id
    have := h.shared status_id
    unfold shares at this ⊢
    simp only [System.expect_cue, hcount]
    exact this
  · intro e he hterm
    have := h.kept e he hterm
    unfold shares at this ⊢
    simp only [System.expect_cue, hcount]
    exact this
  · intro e he hterm hmem
    simp only [System.expect_cue, hcount]
    exact h.settled e he hterm hmem
  · intro e he hterm
    obtain ⟨⟨e', _⟩, ha, heq⟩ := List.mem_map.mp he
    simp only [Prod.mk.injEq, Bool.or_eq_false_iff, decide_eq_false_iff_not] at heq
    obtain ⟨rfl, rfl, hne⟩ := heq
    simp only [System.expect_cue, expect_bridge_playback_cue_for_owner]
    split
    · exact h.cleared e' ha hterm
    · rw [Function.update_of_ne hne]
      exact h.cleared e' ha hterm

theorem Accounted.close_failed_cue (h : Accounted s) (cue_id : String)
    (authority : TranslationPlaybackAuthority) :
    Accounted (s.close_failed_cue cue_id authority) := by
  unfold System.close_failed_cue observe_bridge_playback_status_for_owner
  by_cases hmatch : bridge_playback_cue_matches_owner s.active_bridge_cues cue_id authority = true
  · simp only [hmatch, not_true_eq_false, if_false, TranslationPlaybackStatusKind.is_terminal,
      if_true]
    refine { h with cleared := ?_ }
    intro e he hterm
    by_cases hcue : e.cue_id = cue_id
    · simp only [hcue, Function.update_self]
    · simp only [Function.update_of_ne hcue]
      exact h.cleared e he hterm
  · simp only [hmatch, Bool.false_eq_true, not_false_eq_true, if_true]
    exact h

/-- A step under the conditions keeps the accounts. -/
theorem Accounted.step (h : Accounted s) {op : Op} (hok : stays_accounted s op) :
    Accounted (s.step op) := by
  cases op with
  | bind_translation_cue_authority cue_id authority => exact { h with }
  | emit_translation_status cue_id status => exact h.emit cue_id status
  | connect =>
    have hcount : ∀ status_id, shares (s.pipes ++ [⟨true, none, .idle, none, false⟩]) s.applied
        status_id = shares s.pipes s.applied status_id := by
      simp [shares, List.countP_append, SourcePipe.holds, Handler.held]
    refine { h with
      pipes := ?_
      shared := fun status_id => (hcount status_id).trans_le (h.shared status_id)
      kept := fun e he hterm => (h.kept e he hterm).trans_eq (hcount e.status_id).symm }
    intro p hp
    rcases List.mem_append.mp hp with hp | hp
    · exact h.pipes p hp
    · rw [List.mem_singleton.mp hp]
      exact ⟨by simp, by simp [Handler.event], by simp⟩
  | write_status i =>
    simp only [System.step]
    split
    · rename_i p event hp hfront
      have hevent : event ∈ s.emitted := h.pending event (List.mem_of_mem_head? hfront)
      split
      · apply h.set_ends hp { p with status := some event, waiting := true } rfl
        · rintro e ⟨⟩
          exact hevent
        · exact (h.pipes p (List.mem_of_getElem? hp)).ack
      · exact h
    · exact h
  | receive_status i =>
    simp only [System.step]
    split
    · rename_i p hp
      split
      · rename_i event hidle hstatus
        exact h.receive hp hidle hstatus (hok p event hp hstatus)
      · exact h
    · exact h
  | write_ack i _ =>
    simp only [System.step]
    split
    · rename_i p hp
      split
      · rename_i event disposition hhandler
        exact h.write_ack hp hhandler fun e he hterm => hok p e hp he hterm
      · exact h
    · exact h
  | apply_status i _ =>
    simp only [System.step]
    split
    · rename_i p hp
      split
      · rename_i event disposition hhandler
        exact h.apply_status hp hhandler fun e he hterm => hok p e hp he hterm
      · exact h
    · exact h
  | read_ack i =>
    simp only [System.step]
    split
    · rename_i p hp
      split
      · rename_i ack hack
        split
        · exact h.read_ack hp hack fun outbox event => hok p ack outbox event hp hack
        · exact h
      · exact h
    · exact h
  | fail_read i =>
    simp only [System.step]
    split
    · rename_i p hp
      exact h.abandon hp
    · exact h
  | disconnect i =>
    simp only [System.step]
    split
    · rename_i p hp
      exact h.set_ends hp { p with is_open := false, status := none } rfl (by simp)
        (h.pipes p (List.mem_of_getElem? hp)).ack
    · exact h
  | set_owner _ => exact { h with }
  | expect_cue cue_id authority => exact h.expect_cue cue_id authority
  | close_failed_cue cue_id authority => exact h.close_failed_cue cue_id authority

/-! ## Every run -/

/-- The status has been applied once, and unless its cue has been expected again since, the cue is
not counted any more. -/
def applied_once (s : System) (event : TranslationPlaybackStatusEvent) : Prop :=
  applications s.applied event.status_id = 1 ∧ ∃ again, (event, again) ∈ s.applied ∧
    (again = false → s.active_bridge_cues event.cue_id = none)

/-- In every run that meets the conditions, each terminal status that the Bridge has dropped, and
whose authority matched at its first delivery, has been applied once; and no status is applied
twice. -/
theorem a_dropped_status_is_applied_once (producer_id : String) (ops : List Op)
    (hok : Along System.step stays_accounted (System.new producer_id) ops) :
    let s := run System.step (System.new producer_id) ops
    (∀ event ∈ s.dropped, event.playback_status.is_terminal = true →
      (event.status_id, true) ∈ s.delivered → applied_once s event) ∧
      ∀ status_id, applications s.applied status_id ≤ 1 := by
  have h : Accounted (run System.step (System.new producer_id) ops) :=
    Along.keeps Accounted (fun _ _ h hop => h.step hop) (accounted_new producer_id) hok
  have hle : ∀ status_id, applications (run System.step (System.new producer_id) ops).applied
      status_id ≤ 1 := by
    intro status_id
    have hshared := h.shared status_id
    have honce := List.nodup_iff_count_le_one.mp h.once status_id
    unfold shares at hshared
    omega
  refine ⟨?_, hle⟩
  intro event hevent hterm hmem
  have hone := h.settled event hevent hterm hmem
  have hle := hle event.status_id
  refine ⟨by omega, ?_⟩
  obtain ⟨⟨event', again⟩, ha, hid⟩ := List.countP_pos_iff.mp hone
  have heq : event' = event :=
    h.same (h.applied _ ha) (h.dropped event hevent).1 (of_decide_eq_true hid)
  subst heq
  refine ⟨again, ha, ?_⟩
  rintro rfl
  exact h.cleared event' ha hterm

/-- The authority of the runs below. -/
def an_authority : TranslationPlaybackAuthority := ⟨"session", "instance", 1, "token", 1, "device"⟩

/-- A cue that is completed, with its status on the way over a first source pipe. -/
def a_completed_cue : List Op :=
  [.set_owner (some an_authority), .bind_translation_cue_authority "cue-1" an_authority,
    .expect_cue "cue-1" an_authority, .emit_translation_status "cue-1" .Completed, .connect,
    .write_status 0, .receive_status 0]

/-- The write of the acknowledgement fails, and the status comes again over a second pipe. -/
def a_failed_acknowledgement : List Op :=
  a_completed_cue ++ [.write_ack 0 false, .fail_read 0, .connect, .write_status 1,
    .receive_status 1, .write_ack 1 true, .apply_status 1 true, .read_ack 1]

theorem a_failed_acknowledgement_loses_the_status :
    let s := run System.step (System.new "producer") a_failed_acknowledgement
    ∃ event ∈ s.dropped, event.playback_status.is_terminal = true ∧
      (event.status_id, true) ∈ s.delivered ∧ ¬ applied_once s event ∧
      s.active_bridge_cues event.cue_id = some an_authority := by
  refine ⟨⟨"bridge-translation-status-producer-1", an_authority, "cue-1", .Completed⟩, ?_, rfl, ?_,
    ?_, ?_⟩
  · decide +kernel
  · decide +kernel
  · intro h
    have hone := h.1
    revert hone
    decide +kernel
  · decide +kernel

theorem an_acknowledged_status_is_applied_once :
    let s := run System.step (System.new "producer")
      (a_completed_cue ++ [.write_ack 0 true, .apply_status 0 true, .read_ack 0])
    s.dropped ≠ [] ∧ ∀ event ∈ s.dropped, event.playback_status.is_terminal = true →
      (event.status_id, true) ∈ s.delivered → applied_once s event := by
  refine ⟨by decide +kernel, (a_dropped_status_is_applied_once "producer" _ ?_).1⟩
  refine ⟨trivial, trivial, trivial, trivial, trivial, trivial, ?_, ?_, ?_, ?_, trivial⟩
  · rintro p event _ _ ⟨⟩
  · rintro p event ⟨⟩ _ _
    exact ⟨rfl, rfl⟩
  · rintro p event ⟨⟩ ⟨⟩ _
    exact ⟨by decide +kernel, fun _ => rfl⟩
  · intro _ _ _ event _ _ _ _ q hq
    rw [List.mem_singleton.mp hq]
    rfl

end omni_translate.bridge_playback_ack

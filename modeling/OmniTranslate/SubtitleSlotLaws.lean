-- The order of the caption lines: the finished sentences of a cue stand on
-- slots of their own, in the order in which the splitter emitted them, as long
-- as no sentence goes to a reserved slot that a finished one stands on or has
-- gone past.
import OmniTranslate.SubtitleSlots

namespace omni_translate.subtitle_slots

open text runs
open sentence (SentenceSplitter SentenceResult F64 HypothesisFinality from_millis)
open translation_scheduler (TranslationJob translation_rank)

variable {F : Type}

/-! ## What the operations leave alone -/

variable {result : SentenceResult}

namespace CueTranslationLedger

/-- The sentences that the slots show. -/
def sources (ledger : CueTranslationLedger F) : List Text := ledger.display_slots.map (·.source)

/-- A slot that some later sentence may find reserved. -/
def Reserves (ledger : CueTranslationLedger F) (index : Nat) : Prop :=
  (∃ pending_id, ledger.pending_display_by_id.lookup pending_id = some index) ∨
    ledger.pending_display_index = some index

/-- The slots show the same sentences, and no more of them are reserved. -/
structure Relaxes (before after : CueTranslationLedger F) : Prop where
  sources : after.sources = before.sources
  reserves : ∀ index, after.Reserves index → before.Reserves index

theorem Relaxes.refl (ledger : CueTranslationLedger F) : Relaxes ledger ledger :=
  ⟨rfl, fun _ h => h⟩

theorem Relaxes.trans {a b c : CueTranslationLedger F} (hab : Relaxes a b) (hbc : Relaxes b c) :
    Relaxes a c := by
  refine ⟨?_, fun index h => ?_⟩
  · rw [hbc.sources, hab.sources]
  · exact hab.reserves index (hbc.reserves index h)

theorem Relaxes.of_eq {before after : CueTranslationLedger F} (hsources : after.sources = before.sources)
    (hid : after.pending_display_by_id = before.pending_display_by_id)
    (hindex : after.pending_display_index = before.pending_display_index) : Relaxes before after := by
  refine ⟨hsources, fun _ h => ?_⟩
  unfold Reserves at h ⊢
  rwa [hid, hindex] at h

variable (ledger : CueTranslationLedger F) (u : Unicode)

theorem apply_translation_to_slot_relaxes {index : Nat} {translated : Text} {state : TranslationWriteState}
    {next : CueTranslationLedger F} (h : ledger.apply_translation_to_slot index translated state = some next) :
    Relaxes ledger next := by
  simp only [apply_translation_to_slot, Option.bind_eq_bind, Option.bind_eq_some_iff] at h
  obtain ⟨slot, hslot, h⟩ := h
  split at h
  · obtain rfl := Option.some.inj h
    refine .of_eq ?_ rfl rfl
    -- the slot keeps its source, so the list of sources is set to what it holds
    have hsource : (ledger.display_slots.map (·.source))[index]? = some slot.source := by
      simp [hslot]
    simp only [sources, List.map_set]
    obtain ⟨_, hget⟩ := List.getElem?_eq_some_iff.mp hsource
    rw [← hget, List.set_getElem_self]
  · simp at h

variable (index : Nat)

theorem mark_final_translation_written_relaxes (translated : Text) :
    Relaxes ledger (ledger.mark_final_translation_written u index translated) := by
  unfold mark_final_translation_written
  split
  · exact .of_eq rfl rfl rfl
  · exact .refl ledger

theorem write_relaxes (translated : Text) (state : TranslationWriteState) :
    Relaxes ledger (ledger.write u index translated state) := by
  unfold write
  split
  · exact .refl ledger
  split
  · exact .refl ledger
  split
  · exact .refl ledger
  next next hnext =>
    have happly := ledger.apply_translation_to_slot_relaxes hnext
    split
    · exact happly.trans (next.mark_final_translation_written_relaxes u index translated)
    · exact happly

theorem cache_final_translation_relaxes (sentence translated : Text) :
    Relaxes ledger (ledger.cache_final_translation sentence translated) := by
  unfold cache_final_translation
  split
  · exact .refl ledger
  · exact .of_eq rfl rfl rfl

variable (pending_id : Option String)

/-- A replacement gives the slot of its preview back. -/
theorem settle_relaxes : Relaxes ledger (ledger.settle pending_id) := by
  cases pending_id with
  | none => exact .refl ledger
  | some id =>
    refine ⟨rfl, fun _ h => ?_⟩
    rcases h with ⟨other, h⟩ | h
    · by_cases hid : other = id
      · subst hid
        simp [settle] at h
      · simp only [settle, AList.lookup_erase_ne hid] at h
        exact .inl ⟨other, h⟩
    · exact .inr h

theorem clear_pending_relaxes : Relaxes ledger { ledger with pending_display_index := none } := by
  refine ⟨rfl, fun _ h => ?_⟩
  rcases h with h | h
  · exact .inl h
  · simp at h

/-- An outcome writes translations and gives reservations back; it moves no sentence. -/
theorem handle_translation_outcome_relaxes (job : TranslationJob) (translated : Text) (arrival : Arrival) :
    Relaxes ledger (ledger.handle_translation_outcome u job translated arrival) := by
  simp only [handle_translation_outcome]
  split
  · exact .refl ledger
  split
  · exact .refl ledger
  next text _ =>
    split
    · exact .refl ledger
    split
    · have hsettle := ledger.settle_relaxes job.result.pending_id
      have hwrite := hsettle.trans (write_relaxes _ u job.display_index text
        ⟨translation_rank job.result, job.sequence⟩)
      have hcache := hwrite.trans (cache_final_translation_relaxes _ job.result.sentence text)
      exact hcache.trans (clear_pending_relaxes _)
    split
    · split
      · split
        · exact .refl ledger
        next id _ _ =>
          have hkept : Relaxes ledger { ledger with
              forced_pending := ledger.forced_pending.insert id (job.cue_id, text) } := .of_eq rfl rfl rfl
          exact hkept.trans (write_relaxes _ u _ _ _)
      · exact .refl ledger
    · have hkept : Relaxes ledger { ledger with
          forced_pending := ledger.retain_other_cues job.cue_id
          pending_display_index := none } :=
        (clear_pending_relaxes ledger).trans (.of_eq rfl rfl rfl)
      have hwrite := hkept.trans (write_relaxes _ u job.display_index text
        ⟨translation_rank job.result, job.sequence⟩)
      exact hwrite.trans (cache_final_translation_relaxes _ job.result.sentence text)

/-! ## Where a sentence goes -/

theorem reserves_of_reserved {index : Nat} (h : ledger.reserved result = some index) :
    ledger.Reserves index := by
  rcases Option.or_eq_some_iff.mp h with h | ⟨-, h⟩
  · split at h
    · obtain ⟨id, -, hid⟩ := Option.bind_eq_some_iff.mp h
      exact .inl ⟨id, hid⟩
    · simp at h
  · split at h
    · exact .inr h
    · simp at h

theorem show_source_sources (sentence : Text) :
    (ledger.show_source index sentence).sources = ledger.sources.set index sentence := by
  apply List.ext_getElem?
  simp only [show_source, sources, List.getElem?_map, List.getElem?_modify, List.getElem?_set,
    List.length_map]
  grind

theorem reserve_reserves (other : Nat) (h : (ledger.reserve index pending_id).Reserves other) :
    ledger.Reserves other ∨ other = index := by
  cases pending_id with
  | none => exact .inl h
  | some id =>
    rcases h with ⟨key, h⟩ | h
    · by_cases hkey : key = id
      · subst hkey
        simp only [reserve, AList.lookup_insert, Option.some.injEq] at h
        exact .inr h.symm
      · simp only [reserve, AList.lookup_insert_ne hkey] at h
        exact .inl (.inl ⟨key, h⟩)
    · exact .inl (.inr h)

@[simp] theorem reserve_sources : (ledger.reserve index pending_id).sources = ledger.sources := by
  cases pending_id <;> rfl

/-- The ledger with a slot for the sentence at the end. -/
def with_slot (sentence : Text) : CueTranslationLedger F :=
  { ledger with display_slots := ledger.display_slots ++ [⟨sentence, [], true, none⟩] }

theorem with_slot_sources (sentence : Text) : (ledger.with_slot sentence).sources = ledger.sources ++ [sentence] := by
  simp [with_slot, sources]

/-- A sentence goes to the slot that is reserved for it, or to a new one at the end. -/
theorem ensure_display_slot_cases (result : SentenceResult) :
    (∃ index pending_id, ledger.reserved result = some index ∧
        ledger.ensure_display_slot result =
          ((ledger.show_source index result.sentence).reserve index pending_id, index)) ∨
      ledger.ensure_display_slot result = (ledger.with_slot result.sentence, ledger.sources.length) ∨
      ledger.ensure_display_slot result =
        ({ ledger.with_slot result.sentence with
          pending_display_index := some ledger.sources.length }.reserve ledger.sources.length
            result.pending_id, ledger.sources.length) := by
  have hlength : ledger.sources.length = ledger.display_slots.length := List.length_map _
  unfold ensure_display_slot reserved
  generalize (if result.is_replacement then result.pending_id.bind ledger.pending_display_by_id.lookup
    else none) = by_id
  generalize (if result.is_forced then ledger.pending_display_index else none) = held
  cases by_id with
  | some index => exact .inl ⟨index, none, rfl, rfl⟩
  | none =>
    cases held with
    | some index => exact .inl ⟨index, result.pending_id, rfl, rfl⟩
    | none =>
      simp only [hlength]
      split
      · exact .inr (.inr rfl)
      · exact .inr (.inl rfl)

theorem ensure_display_slot_sources (result : SentenceResult) :
    (ledger.reserved result = some (ledger.ensure_display_slot result).2 ∧
        (ledger.ensure_display_slot result).1.sources =
          ledger.sources.set (ledger.ensure_display_slot result).2 result.sentence) ∨
      ((ledger.ensure_display_slot result).2 = ledger.sources.length ∧
        (ledger.ensure_display_slot result).1.sources = ledger.sources ++ [result.sentence]) := by
  rcases ledger.ensure_display_slot_cases result with ⟨_, _, hindex, h⟩ | h | h
  · refine .inl ?_
    rw [h, reserve_sources, show_source_sources]
    exact ⟨hindex, rfl⟩
  · refine .inr ?_
    rw [h]
    exact ⟨rfl, with_slot_sources ledger _⟩
  · refine .inr ?_
    rw [h, reserve_sources]
    exact ⟨rfl, with_slot_sources ledger _⟩

/-- Only the slot of the sentence may become reserved. -/
theorem ensure_display_slot_reserves (result : SentenceResult) (index : Nat)
    (h : (ledger.ensure_display_slot result).1.Reserves index) :
    ledger.Reserves index ∨ index = (ledger.ensure_display_slot result).2 := by
  rcases ledger.ensure_display_slot_cases result with ⟨found, id, -, heq⟩ | heq | heq
  · rw [heq] at h ⊢
    exact (ledger.show_source found result.sentence).reserve_reserves found id index h
  · rw [heq] at h
    exact .inl h
  · rw [heq] at h ⊢
    rcases reserve_reserves _ _ _ _ h with (h | h) | h
    · exact .inl (.inl h)
    · exact .inr (Option.some.inj h).symm
    · exact .inr h

end CueTranslationLedger

/-! ## The invariant -/

namespace Board

/-- The sentences are in order, and every reserved slot is there. -/
structure Sound (board : Board F) : Prop where
  in_order : board.InOrder
  reserves : ∀ index, board.ledger.Reserves index → index < board.ledger.sources.length

variable {board : Board F}

theorem sources_of_shown (h : board.InOrder) {entry : Text × Nat} (he : entry ∈ board.placed) :
    board.ledger.sources[entry.2]? = some entry.1 := by
  rw [CueTranslationLedger.sources, List.getElem?_map]
  exact h.shown entry he

theorem in_order_of_sources (hascending : (board.placed.map Prod.snd).Pairwise (· < ·))
    (h : ∀ entry ∈ board.placed, board.ledger.sources[entry.2]? = some entry.1) :
    board.InOrder := by
  refine ⟨hascending, fun entry he => ?_⟩
  rw [← List.getElem?_map]
  exact h entry he

/-- A finished sentence stands on a slot that is there. -/
theorem index_lt_of_placed (h : board.InOrder) {entry : Text × Nat} (he : entry ∈ board.placed) :
    entry.2 < board.ledger.sources.length :=
  (List.getElem?_eq_some_iff.mp (sources_of_shown h he)).1

theorem Sound.relaxes {ledger : CueTranslationLedger F} (h : board.Sound)
    (hrelaxes : board.ledger.Relaxes ledger) : Sound { board with ledger } := by
  refine ⟨in_order_of_sources h.in_order.ascending fun _ he => ?_, fun index hindex => ?_⟩
  · rw [hrelaxes.sources]
    exact sources_of_shown h.in_order he
  · rw [hrelaxes.sources]
    exact h.reserves index (hrelaxes.reserves index hindex)

/-- The finished sentences stay in order when one comes after all of them. -/
theorem ascending_snoc {placed : List (Text × Nat)} {sentence : Text} {index : Nat}
    (h : (placed.map Prod.snd).Pairwise (· < ·)) (hlast : ∀ entry ∈ placed, entry.2 < index) :
    ((placed ++ [(sentence, index)]).map Prod.snd).Pairwise (· < ·) := by
  rw [List.map_append, List.pairwise_append]
  refine ⟨h, List.pairwise_singleton _ _, ?_⟩
  intro i hi j hj
  obtain ⟨entry, he, rfl⟩ := List.mem_map.mp hi
  obtain rfl := List.mem_singleton.mp hj
  exact hlast entry he

/-- The order after a sentence is placed, from what its slot shows and what the others still show. -/
theorem place_in_order_of (h : board.InOrder) (hold : ∀ entry ∈ board.placed,
      (board.ledger.ensure_display_slot result).1.sources[entry.2]? = board.ledger.sources[entry.2]?)
    (hnew : (board.ledger.ensure_display_slot result).1.sources[(board.ledger.ensure_display_slot result).2]? =
      some result.sentence) (hlast : result.is_forced = false → ∀ entry ∈ board.placed,
      entry.2 < (board.ledger.ensure_display_slot result).2) : (board.place result).InOrder := by
  have hkept : ∀ entry ∈ board.placed,
      (board.ledger.ensure_display_slot result).1.sources[entry.2]? = some entry.1 := by
    intro entry he
    rw [hold entry he]
    exact sources_of_shown h he
  unfold place
  cases hforced : result.is_forced with
  | true => exact in_order_of_sources h.ascending hkept
  | false =>
    refine in_order_of_sources (ascending_snoc h.ascending (hlast hforced)) fun entry he => ?_
    rcases List.mem_append.mp he with he | he
    · exact hkept entry he
    · obtain rfl := List.mem_singleton.mp he
      exact hnew

theorem place_in_order (h : board.Sound) (hfits : board.Fits result) :
    (board.place result).InOrder := by
  rcases board.ledger.ensure_display_slot_sources result with ⟨hreserved, hsources⟩ | ⟨hend, hsources⟩
  · -- the slot is reserved, and no finished sentence stands on it
    have hlt := h.reserves _ (board.ledger.reserves_of_reserved hreserved)
    refine place_in_order_of h.in_order (fun entry he => ?_) ?_ fun hforced entry he => ?_
    · rw [hsources, List.getElem?_set_ne (hfits _ hreserved entry he).1.symm]
    · rw [hsources, List.getElem?_set_self hlt]
    · exact (hfits _ hreserved entry he).2 hforced
  · -- the slot is new, after all the others
    refine place_in_order_of h.in_order (fun entry he => ?_) ?_ fun _ entry he => ?_
    · rw [hsources, List.getElem?_append_left (index_lt_of_placed h.in_order he)]
    · rw [hsources, hend, List.getElem?_concat_length]
    · rw [hend]
      exact index_lt_of_placed h.in_order he

theorem place_sound (h : board.Sound) (hfits : board.Fits result) : (board.place result).Sound := by
  refine ⟨place_in_order h hfits, fun index hindex => ?_⟩
  have hslots := board.ledger.ensure_display_slot_sources result
  have hreserves := board.ledger.ensure_display_slot_reserves result index hindex
  have hlt : board.ledger.Reserves index → index < board.ledger.sources.length := h.reserves index
  change index < (board.ledger.ensure_display_slot result).1.sources.length
  rcases hslots with ⟨hreserved, hsources⟩ | ⟨_, hsources⟩
  · rw [hsources, List.length_set]
    rcases hreserves with hold | rfl
    · exact hlt hold
    · exact h.reserves _ (board.ledger.reserves_of_reserved hreserved)
  · rw [hsources, List.length_append, List.length_singleton]
    rcases hreserves with hold | rfl
    · have := hlt hold
      omega
    · omega

/-! ## Runs -/

theorem enter_sound (h : board.Sound) (splitter : SentenceSplitter F) (revision_reset : Bool)
    (cue_revision : Option Nat) : (board.enter splitter revision_reset cue_revision).Sound := by
  unfold enter
  split
  · refine ⟨⟨List.Pairwise.nil, by simp⟩, fun _ hindex => ?_⟩
    simp [CueTranslationLedger.Reserves, CueTranslationLedger.sync_ledger_revision,
      CueTranslationLedger.reset_for_revision_state] at hindex
  · exact h.relaxes (.of_eq rfl rfl rfl)

variable [F64 F]

theorem new_sound (revision : Nat) : (new revision : Board F).Sound := by
  refine ⟨⟨List.Pairwise.nil, by simp [new]⟩, fun _ hindex => ?_⟩
  simp [CueTranslationLedger.Reserves, new, CueTranslationLedger.new_for_revision] at hindex

variable (g : Segmentation) (u : Unicode)

theorem step_sound (board : Board F) (op : Op) (h : board.Sound) (hfits : board.Fitting g op) :
    (board.step g u op).Sound := by
  cases op with
  | feed _ _ _ _ cue_revision =>
    simp only [step]
    split
    · exact h
    next splitter fed hfed =>
      refine Along.keeps Sound (fun _ _ => place_sound) (enter_sound h splitter _ cue_revision) ?_
      exact hfits (splitter, fed) hfed
  | outcome job translated arrival =>
    exact h.relaxes (board.ledger.handle_translation_outcome_relaxes u job translated arrival)
  | write display_index translated state =>
    exact h.relaxes (board.ledger.write_relaxes u display_index translated state)

instance (board : Board F) (result : SentenceResult) : Decidable (board.Fits result) :=
  inferInstanceAs (Decidable (∀ index ∈ board.ledger.reserved result, ∀ entry ∈ board.placed,
    entry.2 ≠ index ∧ (result.is_forced = false → entry.2 < index)))

instance (board : Board F) : (op : Op) → Decidable (board.Fitting g op)
  | .feed full_text finality now unix_ms cue_revision =>
    inferInstanceAs (Decidable (∀ fed ∈ board.ledger.splitter.feed_internal g full_text (.Hypothesis finality)
      now unix_ms, Along place Fits (board.enter fed.1 fed.2.revision_reset cue_revision) fed.2.sentences))
  | .outcome _ _ _ => isTrue trivial
  | .write _ _ _ => isTrue trivial

/-- The characters of the samples are ASCII ones. -/
def ascii : Unicode := ⟨Char.isAlphanum, fun c => [c.toLower]⟩

/-- A text that waits until it is shown before its time. -/
def waiting : List Op :=
  [.feed "we go home now".toList .Partial (from_millis 0) 0 none,
    .feed "we go home now".toList .Partial (from_millis 2000) 2000 none]

end Board

end omni_translate.subtitle_slots

-- The writes to one display slot in any order of arrival (`TranslationResultWriter::write`):
-- when the slot ends with the text of the write with the greatest rank and sequence.
import OmniTranslate.Registers
import OmniTranslate.SubtitleSlots

namespace omni_translate.subtitle_slots

open text runs registers
open translation_scheduler (TranslationRank)

/-! ## The order of writes -/

def TranslationWriteState.key (state : TranslationWriteState) : ℕ ×ₗ ℕ :=
  toLex (state.rank.value, state.sequence)

theorem rank_of_value {a b : TranslationRank} (h : a.value = b.value) : a = b := by
  cases a <;> cases b <;> first | rfl | cases h

theorem TranslationWriteState.key_injective : Function.Injective TranslationWriteState.key := by
  rintro ⟨rank, sequence⟩ ⟨rank', sequence'⟩ h
  obtain ⟨hrank, hsequence⟩ := Prod.mk.inj (toLex.injective h)
  obtain rfl := rank_of_value hrank
  exact congrArg _ hsequence

/-- First the rank, then the sequence. -/
instance : LinearOrder TranslationWriteState :=
  LinearOrder.lift' TranslationWriteState.key TranslationWriteState.key_injective

theorem write_state_le_iff {a b : TranslationWriteState} :
    a ≤ b ↔ a.rank.value < b.rank.value ∨ a.rank = b.rank ∧ a.sequence ≤ b.sequence := by
  have hlex : a ≤ b ↔ a.key ≤ b.key := Iff.rfl
  rw [hlex]
  unfold TranslationWriteState.key
  rw [Prod.Lex.toLex_le_toLex]
  exact or_congr Iff.rfl (and_congr ⟨rank_of_value, congrArg TranslationRank.value⟩ Iff.rfl)

theorem should_accept_translation_iff {current : Option TranslationWriteState}
    {incoming : TranslationWriteState} :
    should_accept_translation current incoming = true ↔ ∀ c ∈ current, c ≤ incoming := by
  cases current with
  | none => simp [should_accept_translation]
  | some c =>
    simp only [should_accept_translation, Bool.or_eq_true, decide_eq_true_eq, Bool.and_eq_true,
      Option.mem_some_iff, forall_eq', write_state_le_iff]
    exact or_congr Iff.rfl (and_congr ⟨Eq.symm, Eq.symm⟩ Iff.rfl)

/-- What is checked for a repetition stays so where the rank is higher. -/
theorem should_dedupe_of_le {a b : TranslationWriteState} (h : a ≤ b)
    (ha : should_dedupe_written_translation a.rank = true) :
    should_dedupe_written_translation b.rank = true := by
  rcases write_state_le_iff.mp h with hlt | ⟨hsame, -⟩
  · cases hb : b.rank <;> cases hrank : a.rank <;>
      simp_all [should_dedupe_written_translation, TranslationRank.value]
  · rwa [← hsame]

/-! ## The register of a slot -/

variable {F : Type} (u : Unicode)

namespace CueTranslationLedger

/-- A slot, with the keys of the texts that it was written with. -/
def register (ledger : CueTranslationLedger F) (index : Nat) :
    Register TranslationWriteState Text Text where
  current := ledger.display_slots[index]?.bind fun slot =>
    slot.write_state.map fun state => ⟨state, slot.translated⟩
  seen := (ledger.written_final_translation_keys.filter (·.1 = index)).image (·.2)

def slot_checked (state : TranslationWriteState) : Bool :=
  should_dedupe_written_translation state.rank

/-- A write to a slot. -/
def write_at (ledger : CueTranslationLedger F)
    (arrival : Nat × Write TranslationWriteState Text) : CueTranslationLedger F :=
  ledger.write u arrival.1 arrival.2.value arrival.2.stamp

variable {u} {ledger : CueTranslationLedger F} {index : Nat}

theorem mem_register_seen {key : Text} :
    key ∈ (ledger.register index).seen ↔ (index, key) ∈ ledger.written_final_translation_keys := by
  simp [register]

theorem register_repeats_iff {write : Write TranslationWriteState Text} :
    (ledger.register index).Repeats slot_checked (substantive_translation_dedupe_key u) write ↔
      should_dedupe_written_translation write.stamp.rank = true ∧
        ledger.has_written_final_translation u index write.value = true := by
  unfold Register.Repeats Write.key has_written_final_translation slot_checked
  simp only [Option.any_eq_true, decide_eq_true_eq, mem_register_seen]
  split <;> simp_all

theorem register_takes_iff {slot : DisplaySlot} (hslot : ledger.display_slots[index]? = some slot)
    {write : Write TranslationWriteState Text} :
    (ledger.register index).Takes write ↔
      should_accept_translation slot.write_state write.stamp = true := by
  rw [should_accept_translation_iff]
  unfold Register.Takes register
  simp [hslot]

variable (u ledger) in
theorem write_at_cases (arrival : Nat × Write TranslationWriteState Text) :
    (ledger.write_at u arrival = ledger ∧ (ledger.display_slots.length ≤ arrival.1 ∨
        (ledger.register arrival.1).Repeats slot_checked (substantive_translation_dedupe_key u)
          arrival.2 ∨ ¬ (ledger.register arrival.1).Takes arrival.2)) ∨
      ∃ slot, ledger.display_slots[arrival.1]? = some slot ∧
        ¬ (ledger.register arrival.1).Repeats slot_checked (substantive_translation_dedupe_key u)
          arrival.2 ∧ (ledger.register arrival.1).Takes arrival.2 ∧
        (ledger.write_at u arrival).display_slots = ledger.display_slots.set arrival.1 { slot with
          translated := arrival.2.value
          pending := arrival.2.stamp.rank = .Partial ∨ arrival.2.stamp.rank = .Forced
          write_state := some arrival.2.stamp } ∧
        ∀ place, place ∈ (ledger.write_at u arrival).written_final_translation_keys ↔
          (∃ key ∈ arrival.2.key slot_checked (substantive_translation_dedupe_key u),
            place = (arrival.1, key)) ∨ place ∈ ledger.written_final_translation_keys := by
  unfold write_at write
  split
  · exact Or.inl ⟨rfl, Or.inl ‹_›⟩
  rename_i hindex
  split
  · rename_i hrepeats
    exact Or.inl ⟨rfl, Or.inr (Or.inl (register_repeats_iff.mpr hrepeats))⟩
  rename_i hnew
  obtain ⟨slot, hslot⟩ : ∃ slot, ledger.display_slots[arrival.1]? = some slot :=
    ⟨_, List.getElem?_eq_getElem (by omega)⟩
  unfold apply_translation_to_slot
  rw [hslot]
  simp only [Option.bind_eq_bind, Option.bind_some]
  by_cases haccept : should_accept_translation slot.write_state arrival.2.stamp = true
  · rw [if_pos haccept]
    refine Or.inr ⟨slot, rfl, fun h => hnew (register_repeats_iff.mp h),
      (register_takes_iff hslot).mpr haccept, ?_, ?_⟩
    · dsimp only
      split
      · unfold mark_final_translation_written
        split <;> rfl
      · rfl
    · intro place
      dsimp only
      unfold Write.key slot_checked mark_final_translation_written
      split
      · cases substantive_translation_dedupe_key u arrival.2.value with
        | none => simp
        | some key => simp
      · simp
  · rw [if_neg haccept]
    exact Or.inl ⟨rfl, Or.inr (Or.inr fun h => haccept ((register_takes_iff hslot).mp h))⟩

/-- A write to a slot of the ledger is a write to its register, and leaves the others alone. -/
theorem write_at_register (arrival : Nat × Write TranslationWriteState Text)
    (hindex : index < ledger.display_slots.length) :
    (ledger.write_at u arrival).display_slots.length = ledger.display_slots.length ∧
      (ledger.write_at u arrival).register index =
        if arrival.1 = index then
          (ledger.register index).write slot_checked (substantive_translation_dedupe_key u) arrival.2
        else ledger.register index := by
  rcases write_at_cases u ledger arrival with
    ⟨hsame, hwhy⟩ | ⟨slot, hslot, hnew, htakes, hslots, hkeys⟩
  · rw [hsame]
    refine ⟨rfl, ?_⟩
    split
    · rename_i heq
      rw [heq] at hwhy
      unfold Register.write
      rcases hwhy with hout | hrepeats | hnot
      · omega
      · rw [if_pos hrepeats]
      · split <;> rfl
    · rfl
  · refine ⟨by rw [hslots, List.length_set], ?_⟩
    split
    · rename_i heq
      subst heq
      unfold Register.write
      rw [if_neg hnew, if_pos htakes]
      have hcurrent : ((ledger.write_at u arrival).register arrival.1).current = some arrival.2 := by
        unfold register
        rw [hslots, List.getElem?_set_self (by omega)]
        rfl
      have hseen : ((ledger.write_at u arrival).register arrival.1).seen =
          ((ledger.register arrival.1).show_write slot_checked
            (substantive_translation_dedupe_key u) arrival.2).seen := by
        ext key
        rw [Register.mem_seen_show_write, mem_register_seen, mem_register_seen, hkeys]
        simp
      calc (ledger.write_at u arrival).register arrival.1
          = ⟨some arrival.2, ((ledger.write_at u arrival).register arrival.1).seen⟩ := by
            rw [← hcurrent]
        _ = (ledger.register arrival.1).show_write slot_checked
              (substantive_translation_dedupe_key u) arrival.2 := by
            rw [hseen]
            rfl
    · rename_i hne
      unfold register
      rw [hslots, List.getElem?_set_ne hne]
      congr 1
      ext key
      simp [hkeys, Ne.symm hne]

/-! ## Runs -/

/-- The writes to one of the slots, as they arrive. -/
def written_to (index : Nat) (arrivals : List (Nat × Write TranslationWriteState Text)) :
    List (Write TranslationWriteState Text) :=
  (arrivals.filter (·.1 = index)).map (·.2)

theorem run_register (arrivals : List (Nat × Write TranslationWriteState Text))
    (hindex : index < ledger.display_slots.length) :
    (run (write_at u) ledger arrivals).register index =
      run (Register.write slot_checked (substantive_translation_dedupe_key u))
        (ledger.register index) (written_to index arrivals) := by
  induction arrivals generalizing ledger with
  | nil => rfl
  | cons arrival arrivals ih =>
    obtain ⟨hlength, hregister⟩ := write_at_register (u := u) arrival hindex
    rw [run_cons, ih (by rw [hlength]; exact hindex), hregister]
    unfold written_to
    by_cases heq : arrival.1 = index
    · rw [if_pos heq, List.filter_cons_of_pos (by simpa using heq), List.map_cons, run_cons]
    · rw [if_neg heq, List.filter_cons_of_neg (by simpa using heq)]

/-- A slot that no translation was written to. -/
def Fresh (ledger : CueTranslationLedger F) (index : Nat) : Prop :=
  (∃ slot, ledger.display_slots[index]? = some slot ∧ slot.write_state = none) ∧
    ∀ key, (index, key) ∉ ledger.written_final_translation_keys

theorem Fresh.register (h : ledger.Fresh index) : ledger.register index = Register.empty := by
  obtain ⟨⟨slot, hslot, hstate⟩, hkeys⟩ := h
  have hseen : (ledger.register index).seen = ∅ :=
    Finset.eq_empty_iff_forall_notMem.mpr fun key hkey => hkeys key (mem_register_seen.mp hkey)
  unfold Register.empty
  rw [← hseen]
  unfold CueTranslationLedger.register
  simp [hslot, hstate]

variable (u) in
/-- The text that is shown last, whatever comes first: each write from one that the greatest repeats
on has the text of the greatest. -/
def Settled (writes : List (Write TranslationWriteState Text))
    (greatest : Write TranslationWriteState Text) : Prop :=
  ∀ v ∈ writes, v.stamp < greatest.stamp →
    should_dedupe_written_translation v.stamp.rank = true →
    substantive_translation_dedupe_key u v.value ≠ none →
    substantive_translation_dedupe_key u v.value =
      substantive_translation_dedupe_key u greatest.value →
    ∀ x ∈ writes, v.stamp ≤ x.stamp → x.stamp < greatest.stamp → x.value = greatest.value

theorem settled_iff {writes : List (Write TranslationWriteState Text)}
    {greatest : Write TranslationWriteState Text} :
    Settled u writes greatest ↔
      Register.Settles slot_checked (substantive_translation_dedupe_key u) writes greatest := by
  unfold Settled Register.Settles Write.key slot_checked
  constructor
  · intro h v hv hlt hsome hkey
    split at hsome
    · rename_i hchecked
      rw [if_pos hchecked, if_pos (should_dedupe_of_le hlt.le hchecked)] at hkey
      exact h v hv hlt hchecked hsome hkey
    · exact absurd rfl hsome
  · intro h v hv hlt hchecked hsome hkey
    refine h v hv hlt ?_ ?_
    · rwa [if_pos hchecked]
    · rw [if_pos hchecked, if_pos (should_dedupe_of_le hlt.le hchecked)]
      exact hkey

/-- The writes to a fresh slot, in whatever order they arrive and among whatever writes to other
slots, leave it with the text of the greatest one, exactly when they are settled. -/
theorem the_slot_shows_the_greatest_write_iff {index : Nat} (hfresh : ledger.Fresh index)
    {writes : List (Write TranslationWriteState Text)}
    (hdistinct : (writes.map Write.stamp).Nodup) {greatest : Write TranslationWriteState Text}
    (hmem : greatest ∈ writes) (hgreatest : ∀ w ∈ writes, w.stamp ≤ greatest.stamp) :
    (∀ arrivals, (written_to index arrivals).Perm writes →
        ∃ slot, (run (write_at u) ledger arrivals).display_slots[index]? = some slot ∧
          slot.translated = greatest.value) ↔
      Settled u writes greatest := by
  have hchecked : ∀ a b : TranslationWriteState, a ≤ b → slot_checked a = true →
      slot_checked b = true := fun _ _ => should_dedupe_of_le
  rw [settled_iff, ← Register.ends_with_the_greatest_iff hchecked hdistinct hmem hgreatest]
  have hempty := hfresh.register
  obtain ⟨⟨first, hfirst, -⟩, -⟩ := hfresh
  have hindex : index < ledger.display_slots.length := (List.getElem?_eq_some_iff.mp hfirst).1
  have hshown : ∀ arrivals, (written_to index arrivals).Perm writes →
      ((∃ slot, (run (write_at u) ledger arrivals).display_slots[index]? = some slot ∧
          slot.translated = greatest.value) ↔
        ∃ c ∈ (run (Register.write slot_checked (substantive_translation_dedupe_key u))
          Register.empty (written_to index arrivals)).current, c.value = greatest.value) := by
    intro arrivals hperm
    have hne : written_to index arrivals ≠ [] := List.ne_nil_of_mem (hperm.mem_iff.mpr hmem)
    obtain ⟨c, hc⟩ := Register.shown_of_ne_nil slot_checked (substantive_translation_dedupe_key u) hne
    have hregister := run_register (u := u) arrivals hindex
    rw [hempty] at hregister
    rw [hc]
    have hcurrent := congrArg Register.current hregister
    rw [hc] at hcurrent
    obtain ⟨slot, hslot, hstate⟩ := Option.bind_eq_some_iff.mp hcurrent
    obtain ⟨state, -, rfl⟩ := Option.map_eq_some_iff.mp hstate
    rw [hslot]
    simp
  constructor
  · intro hall order hperm
    have hwritten : written_to index (order.map fun write => (index, write)) = order := by
      simp [written_to, List.filter_map, Function.comp_def]
    have h := (hshown _ (by rw [hwritten]; exact hperm)).mp (hall _ (by rw [hwritten]; exact hperm))
    rwa [hwritten] at h
  · exact fun hall arrivals hperm => (hshown arrivals hperm).mpr (hall _ hperm)

/-- A ledger with one slot, for a sentence that is not translated yet. -/
def one_slot : CueTranslationLedger ℚ :=
  ((new_for_revision 1).ensure_display_slot ⟨"we go".toList, [], false, false, none⟩).1

theorem one_slot_fresh : one_slot.Fresh 0 :=
  ⟨⟨⟨"we go".toList, [], true, none⟩, rfl, rfl⟩, fun _ => Finset.notMem_empty _⟩

def final_write (sequence : Nat) (translated : String) : Write TranslationWriteState Text :=
  ⟨⟨.Final, sequence⟩, translated.toList⟩

def ascii_letters : Unicode := ⟨Char.isAlphanum, fun c => [c.toLower]⟩

theorem two_texts_settle :
    (∀ arrivals, (written_to 0 arrivals).Perm [final_write 1 "on y va", final_write 2 "nous partons"] →
        ∃ slot, (run (write_at ascii_letters) one_slot arrivals).display_slots[0]? = some slot ∧
          slot.translated = "nous partons".toList) ↔
      Settled ascii_letters [final_write 1 "on y va", final_write 2 "nous partons"]
        (final_write 2 "nous partons") := by
  have hdistinct : ([final_write 1 "on y va", final_write 2 "nous partons"].map
      Write.stamp).Nodup := by decide
  have hgreatest : ∀ w ∈ [final_write 1 "on y va", final_write 2 "nous partons"],
      w.stamp ≤ (final_write 2 "nous partons").stamp := by
    simp [final_write, write_state_le_iff]
  exact the_slot_shows_the_greatest_write_iff one_slot_fresh hdistinct (by simp) hgreatest

/-- A text that was shown and replaced is not shown again, though its write is the greatest. -/
theorem a_text_that_comes_back_is_passed_over :
    one_slot.Fresh 0 ∧
      ([final_write 1 "nous partons", final_write 2 "nous rentrons", final_write 3 "nous partons"].map
        Write.stamp).Nodup ∧
      (∀ w ∈ [final_write 1 "nous partons", final_write 2 "nous rentrons",
        final_write 3 "nous partons"], w.stamp ≤ (final_write 3 "nous partons").stamp) ∧
      ((run (write_at ascii_letters) one_slot [(0, final_write 1 "nous partons"),
        (0, final_write 2 "nous rentrons"), (0, final_write 3 "nous partons")]).display_slots[0]?.map
          (·.translated)) = some "nous rentrons".toList :=
  ⟨one_slot_fresh, by decide, by simp [final_write, write_state_le_iff], by decide +kernel⟩

end CueTranslationLedger

end omni_translate.subtitle_slots

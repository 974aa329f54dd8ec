-- Maps with distinct keys, as association lists: how many entries an insertion or a removal leaves,
-- and a map whose values are all changed in place.
import Mathlib.Data.List.AList
import Mathlib.Data.List.Sort

namespace maps

variable {α β γ : Type} [DecidableEq α] {m : AList fun _ : α => β} {k : α}

theorem length_insert_new (h : k ∉ m) (v : β) :
    (m.insert k v).entries.length = m.entries.length + 1 := by
  rw [AList.entries_insert_of_notMem h, List.length_cons]

theorem length_erase (h : k ∈ m) : (m.erase k).entries.length + 1 = m.entries.length := by
  have hkeys := congrArg List.length (AList.keys_erase k m)
  rw [List.length_erase_of_mem (AList.mem_keys.mp h)] at hkeys
  have hpos := List.length_pos_of_mem (AList.mem_keys.mp h)
  simp only [AList.keys, List.keys, List.length_map] at hkeys hpos
  omega

theorem length_insert_old (h : k ∈ m) (v : β) :
    (m.insert k v).entries.length = m.entries.length := by
  exact length_erase h

theorem mem_of_lookup {v : β} (h : m.lookup k = some v) : k ∈ m := by
  rw [← AList.lookup_isSome, h]
  rfl

theorem entries_insert_ne_nil (m : AList fun _ : α => β) (k : α) (v : β) : (m.insert k v).entries ≠ [] := by
  simp

omit [DecidableEq α] in
/-- A map is empty when it has no key. -/
theorem entries_eq_nil : m.entries = [] ↔ ∀ k, k ∉ m := by
  constructor
  · intro hnil k hin
    rw [AList.mem_keys, AList.keys, hnil] at hin
    cases hin
  · intro hnone
    rcases hentries : m.entries with _ | ⟨e, rest⟩
    · rfl
    · refine absurd ?_ (hnone e.1)
      rw [AList.mem_keys, AList.keys, hentries]
      exact List.mem_cons_self

@[simp] theorem lookup_singleton (k : α) (v : β) :
    (AList.singleton (β := fun _ => β) k v).lookup k = some v := by
  rw [← AList.insert_empty, AList.lookup_insert]

@[simp] theorem erase_singleton (k : α) (v : β) :
    (AList.singleton (β := fun _ => β) k v).erase k = ∅ := by
  apply AList.ext
  change [(⟨k, v⟩ : Sigma fun _ : α => β)].kerase k = []
  simp

/-! ## Changing every value -/

/-- Each value is changed, under the same key. -/
def map_values (f : β → γ) (m : AList fun _ : α => β) : AList fun _ : α => γ where
  entries := m.entries.map fun e => ⟨e.1, f e.2⟩
  nodupKeys := by
    have hkeys : (m.entries.map fun e => (⟨e.1, f e.2⟩ : Sigma fun _ : α => γ)).keys = m.keys := by
      simp [List.keys, AList.keys]
    rw [List.NodupKeys, hkeys]
    exact m.keys_nodup

@[simp] theorem lookup_map_values (f : β → γ) (k : α) :
    (map_values f m).lookup k = (m.lookup k).map f := by
  exact List.dlookup_map₂ (l := m.entries) (f := fun _ => f) k

omit [DecidableEq α] in
@[simp] theorem map_values_singleton (f : β → γ) (k : α) (v : β) :
    map_values f (AList.singleton k v) = AList.singleton k (f v) := rfl

omit [DecidableEq α] in
theorem map_values_same {f : β → β} (h : ∀ e ∈ m.entries, f e.2 = e.2) : map_values f m = m := by
  apply AList.ext
  unfold map_values
  conv_rhs => rw [← List.map_id m.entries]
  refine List.map_congr_left fun e he => ?_
  rw [h e he]
  rfl

/-! ## Keeping some keys -/

/-- The entries whose keys pass. -/
def retain (p : α → Bool) (m : AList fun _ : α => β) : AList fun _ : α => β where
  entries := m.entries.filter fun e => p e.1
  nodupKeys := m.nodupKeys.sublist List.filter_sublist

theorem lookup_retain (p : α → Bool) (m : AList fun _ : α => β) (k : α) :
    (retain p m).lookup k = if p k then m.lookup k else none := by
  have hmem : ∀ v, v ∈ (retain p m).lookup k ↔ p k = true ∧ v ∈ m.lookup k := by
    intro v
    rw [AList.mem_lookup_iff, AList.mem_lookup_iff]
    simp [retain, List.mem_filter, and_comm]
  by_cases hp : p k = true
  · refine Option.ext fun v => ?_
    simpa [hp] using hmem v
  · rw [if_neg hp]
    refine Option.eq_none_iff_forall_not_mem.mpr fun v hv => ?_
    exact hp ((hmem v).mp hv).1

/-- The entries whose values pass. -/
def retain_values (p : β → Bool) (m : AList fun _ : α => β) : AList fun _ : α => β where
  entries := m.entries.filter fun e => p e.2
  nodupKeys := m.nodupKeys.sublist List.filter_sublist

theorem lookup_retain_values (p : β → Bool) (m : AList fun _ : α => β) (k : α) :
    (retain_values p m).lookup k = (m.lookup k).filter p := by
  refine Option.ext fun v => ?_
  rw [← Option.mem_def, AList.mem_lookup_iff, Option.filter_eq_some_iff, ← Option.mem_def, AList.mem_lookup_iff]
  simp [retain_values, List.mem_filter]

/-! ## The order of the keys -/

/-- The entries in the order of their keys. -/
def in_order [LE α] [DecidableLE α] (m : AList fun _ : α => β) : List (Sigma fun _ : α => β) :=
  m.entries.insertionSort fun e f => e.1 ≤ f.1

/-- A map whose keys lie below a bound, in order. -/
theorem in_order_eq_range {m : AList fun _ : Nat => β} {n : Nat} (h : ∀ k ∈ m, k < n) :
    in_order m = (List.range n).filterMap fun k => (m.lookup k).map fun v => ⟨k, v⟩ := by
  have hfound : ∀ (k : Nat) (e : Sigma fun _ : Nat => β),
      (m.lookup k).map (fun v => (⟨k, v⟩ : Sigma fun _ : Nat => β)) = some e → e.1 = k ∧ e ∈ m.entries := by
    intro k e he
    obtain ⟨v, hv, rfl⟩ := Option.map_eq_some_iff.mp he
    exact ⟨rfl, AList.mem_lookup_iff.mp hv⟩
  have hsorted : ((List.range n).filterMap fun k => (m.lookup k).map fun v =>
      (⟨k, v⟩ : Sigma fun _ : Nat => β)).Pairwise fun e f => e.1 < f.1 := by
    rw [List.pairwise_filterMap]
    refine List.pairwise_lt_range.imp fun hlt e he f hf => ?_
    rw [(hfound _ e he).1, (hfound _ f hf).1]
    exact hlt
  have hunique : ∀ e ∈ m.entries, ∀ f ∈ m.entries, e.1 = f.1 → e = f := by
    intro e he f hf hkey
    obtain ⟨k, v⟩ := e
    obtain ⟨l, w⟩ := f
    obtain rfl : k = l := hkey
    have hv : m.lookup k = some v := AList.mem_lookup_iff.mpr he
    have hw : m.lookup k = some w := AList.mem_lookup_iff.mpr hf
    rw [hv] at hw
    rw [Option.some.inj hw]
  have hperm : (in_order m).Perm ((List.range n).filterMap fun k => (m.lookup k).map fun v =>
      (⟨k, v⟩ : Sigma fun _ : Nat => β)) := by
    refine (List.perm_insertionSort _ _).trans ?_
    refine (List.perm_ext_iff_of_nodup m.nodupKeys.nodup (hsorted.imp fun hlt heq => ?_)).mpr fun e => ?_
    · rw [heq] at hlt
      exact lt_irrefl _ hlt
    · rw [List.mem_filterMap]
      constructor
      · intro he
        have hkey : m.lookup e.1 = some e.2 := AList.mem_lookup_iff.mpr he
        exact ⟨e.1, List.mem_range.mpr (h _ (mem_of_lookup hkey)), by rw [hkey]; rfl⟩
      · rintro ⟨k, -, he⟩
        exact (hfound k e he).2
  have hordered : (in_order m).Pairwise fun e f => e.1 ≤ f.1 := List.pairwise_insertionSort _ _
  refine List.Perm.eq_of_pairwise ?_ hordered (hsorted.imp le_of_lt) hperm
  intro e f he hf hle hge
  exact hunique e ((List.mem_insertionSort _).mp he) f ((List.mem_insertionSort _).mp (hperm.mem_iff.mpr hf))
    (le_antisymm hle hge)

end maps

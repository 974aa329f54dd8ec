-- A bounded memory of what came last. A window of fixed capacity takes a new element at its
-- end and lets the oldest go when it is full; `seen` is everything that came by. An element
-- is forgotten only after as many others have come by as the window holds.
import Mathlib.Data.Finset.Card

namespace recent

variable {α : Type} [DecidableEq α]

/-- What has come by from the first time on that `a` did. -/
def since (a : α) (seen : List α) : List α := seen.dropWhile (· ≠ a)

/-- How many others have come by since the first time that `a` did. -/
def others (a : α) (seen : List α) : Nat := ((since a seen).toFinset.erase a).card

def push (capacity : Nat) (window : List α) (a : α) : List α :=
  (if window.length = capacity then window.tail else window) ++ [a]

theorem since_append_of_mem {a : α} {seen : List α} (h : a ∈ seen) (more : List α) :
    since a (seen ++ more) = since a seen ++ more := by
  induction seen with
  | nil => cases h
  | cons b seen ih =>
    by_cases hb : b = a
    · simp [since, hb]
    · have hmem : a ∈ seen := (List.mem_cons.mp h).resolve_left (Ne.symm hb)
      simpa [since, hb] using ih hmem

theorem since_of_not_mem {a : α} {seen : List α} (h : a ∉ seen) : since a seen = [] := by
  induction seen with
  | nil => rfl
  | cons b seen ih =>
    have hb : b ≠ a := fun hb => h (hb ▸ List.mem_cons_self)
    simpa [since, hb] using ih fun hmem => h (List.mem_cons_of_mem b hmem)

theorem since_subset (a : α) (seen more : List α) : since a seen ⊆ since a (seen ++ more) := by
  by_cases h : a ∈ seen
  · rw [since_append_of_mem h]
    exact List.subset_append_left _ _
  · rw [since_of_not_mem h]
    exact List.nil_subset _

theorem others_mono (a : α) (seen more : List α) : others a seen ≤ others a (seen ++ more) := by
  apply Finset.card_le_card
  apply Finset.erase_subset_erase
  intro b hb
  rw [List.mem_toFinset] at hb ⊢
  exact since_subset a seen more hb

omit [DecidableEq α] in
theorem mem_push {capacity : Nat} {window : List α} {a b : α} (h : b ∈ push capacity window a) :
    b ∈ window ∨ b = a := by
  unfold push at h
  rcases List.mem_append.mp h with hold | hnew
  · split at hold
    · exact Or.inl (List.mem_of_mem_tail hold)
    · exact Or.inl hold
  · exact Or.inr (List.mem_singleton.mp hnew)

omit [DecidableEq α] in
theorem mem_push_self (capacity : Nat) (window : List α) (a : α) : a ∈ push capacity window a :=
  List.mem_append_right _ (List.mem_singleton_self a)

/-- A window over what has come by: no element twice, and each one came by again or for the first
time after the ones before it. -/
structure Window (capacity : Nat) (window seen : List α) : Prop where
  nodup : window.Nodup
  length_le : window.length ≤ capacity
  ordered : window.Pairwise fun a b => b ∈ since a seen
  seen : ∀ a ∈ window, a ∈ seen

namespace Window

variable {capacity : Nat} {window seen : List α}

theorem nil (capacity : Nat) (seen : List α) : Window capacity [] seen where
  nodup := List.nodup_nil
  length_le := Nat.zero_le _
  ordered := List.Pairwise.nil
  seen := fun _ h => by cases h

section

variable (h : Window capacity window seen)

include h

theorem see (more : List α) : Window capacity window (seen ++ more) where
  nodup := h.nodup
  length_le := h.length_le
  ordered := h.ordered.imp fun hb => since_subset _ seen more hb
  seen := fun a ha => List.mem_append_left _ (h.seen a ha)

theorem tail : Window capacity window.tail seen where
  nodup := h.nodup.sublist (List.tail_sublist _)
  length_le := by
    have hlength := h.length_le
    rw [List.length_tail]
    omega
  ordered := h.ordered.sublist (List.tail_sublist _)
  seen := fun a ha => h.seen a (List.mem_of_mem_tail ha)

theorem snoc {a : α} (hnew : a ∉ window) (hroom : window.length < capacity) :
    Window capacity (window ++ [a]) (seen ++ [a]) where
  nodup := by
    rw [List.nodup_append]
    refine ⟨h.nodup, List.nodup_singleton a, ?_⟩
    intro b hb c hc hbc
    rw [List.mem_singleton] at hc
    subst hbc hc
    exact hnew hb
  length_le := by
    rw [List.length_append, List.length_singleton]
    omega
  ordered := by
    rw [List.pairwise_append]
    refine ⟨(h.see [a]).ordered, List.pairwise_singleton _ _, ?_⟩
    intro b hb c hc
    rw [since_append_of_mem (h.seen b hb)]
    exact List.mem_append_right _ hc
  seen := by
    intro b hb
    rcases List.mem_append.mp hb with hold | hlast
    · exact List.mem_append_left _ (h.seen b hold)
    · exact List.mem_append_right _ hlast

theorem push (hcapacity : 0 < capacity) {a : α} (hnew : a ∉ window) :
    Window capacity (push capacity window a) (seen ++ [a]) := by
  have hlength := h.length_le
  unfold recent.push
  split
  · refine h.tail.snoc (fun ha => hnew (List.mem_of_mem_tail ha)) ?_
    rw [List.length_tail]
    omega
  · exact h.snoc hnew (by omega)

/-- The window forgets an element only when as many others have come by as it holds. -/
theorem push_keeps {a b : α} (hnew : a ∉ window) (hb : b ∈ window) :
    b ∈ recent.push capacity window a ∨ capacity ≤ others b (seen ++ [a]) := by
  unfold recent.push
  split
  · rename_i hfull
    cases window with
    | nil => cases hb
    | cons first rest =>
      rcases List.mem_cons.mp hb with rfl | hrest
      · obtain ⟨hfirst, hnodup⟩ := List.nodup_cons.mp h.nodup
        have hrest := (List.pairwise_cons.mp h.ordered).1
        have hsince : since b (seen ++ [a]) = since b seen ++ [a] :=
          since_append_of_mem (h.seen b List.mem_cons_self) [a]
        have hsubset : (insert a rest.toFinset) ⊆ (since b (seen ++ [a])).toFinset.erase b := by
          intro c hc
          rw [Finset.mem_erase, List.mem_toFinset, hsince, List.mem_append, List.mem_singleton]
          rcases Finset.mem_insert.mp hc with rfl | hc
          · exact ⟨fun hcb => hnew (hcb ▸ List.mem_cons_self), Or.inr rfl⟩
          · rw [List.mem_toFinset] at hc
            exact ⟨fun hcb => hfirst (hcb ▸ hc), Or.inl (hrest c hc)⟩
        have hcard : (insert a rest.toFinset).card = rest.length + 1 := by
          rw [Finset.card_insert_of_notMem, List.toFinset_card_of_nodup hnodup]
          rw [List.mem_toFinset]
          exact fun ha => hnew (List.mem_cons_of_mem _ ha)
        have hlength : rest.length + 1 = capacity := hfull
        have hle := Finset.card_le_card hsubset
        unfold others
        omega
      · exact Or.inl (List.mem_append_left _ hrest)
  · exact Or.inl (List.mem_append_left _ hb)

end

end Window

end recent

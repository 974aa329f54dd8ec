-- Tables of rows: what the rows under one key add up to, and how inserts,
-- updates and deletes change that.
import Mathlib.Algebra.BigOperators.Group.List.Lemmas

namespace tables

variable {ρ κ M : Type} [DecidableEq κ] [AddCommMonoid M] {key : ρ → κ} {w : ρ → M} {rows : List ρ} {k : κ}

/-- What the rows under a key add up to. -/
def total (key : ρ → κ) (w : ρ → M) (rows : List ρ) (k : κ) : M := ((rows.filter fun r => key r = k).map w).sum

@[simp] theorem total_nil : total key w [] k = 0 := rfl

theorem total_cons (r : ρ) : total key w (r :: rows) k = (if key r = k then w r else 0) + total key w rows k := by
  unfold total
  by_cases hkey : key r = k <;> simp [hkey]

theorem total_append (more : List ρ) : total key w (rows ++ more) k = total key w rows k + total key w more k := by
  simp [total]

theorem total_count : total key (fun _ => 1) rows k = rows.countP fun r => key r = k := by
  simp [total, List.countP_eq_length_filter]

/-- An update that changes neither keys nor weights. -/
theorem total_map {f : ρ → ρ} (hkey : ∀ r ∈ rows, key (f r) = key r) (hw : ∀ r ∈ rows, w (f r) = w r) :
    total key w (rows.map f) k = total key w rows k := by
  induction rows with
  | nil => rfl
  | cons r rows ih =>
    simp only [List.mem_cons, forall_eq_or_imp] at hkey hw
    rw [List.map_cons, total_cons, total_cons, hkey.1, hw.1, ih hkey.2 hw.2]

/-- A delete that spares the rows under the key. -/
theorem total_filter {keep : ρ → Bool} (hkeep : ∀ r ∈ rows, key r = k → keep r = true) :
    total key w (rows.filter keep) k = total key w rows k := by
  unfold total
  rw [List.filter_filter]
  congr 2
  refine List.filter_congr fun r hr => ?_
  by_cases hkey : key r = k
  · simp [hkey, hkeep r hr hkey]
  · simp [hkey]

theorem sum_of_one {keys : List κ} (hnodup : keys.Nodup) (hk : k ∈ keys) (x : M) :
    (keys.map fun k' => if k = k' then x else 0).sum = x := by
  induction keys with
  | nil => simp at hk
  | cons k' keys ih =>
    obtain ⟨hnew, hnodup⟩ := List.nodup_cons.mp hnodup
    rw [List.map_cons, List.sum_cons]
    by_cases hsame : k = k'
    · have hrest : (keys.map fun k' => if k = k' then x else 0).sum = 0 :=
        List.sum_eq_zero fun y hy => by
          obtain ⟨other, hother, rfl⟩ := List.mem_map.mp hy
          refine if_neg fun h => hnew ?_
          rwa [← hsame, h]
      rw [if_pos hsame, hrest, add_zero]
    · rw [if_neg hsame, zero_add]
      exact ih hnodup ((List.mem_cons.mp hk).resolve_left hsame)

/-- Where each row has one of the keys, the keys share the rows out. -/
theorem sum_totals {keys : List κ} (hnodup : keys.Nodup) (hall : ∀ r ∈ rows, key r ∈ keys) :
    (keys.map fun k => total key w rows k).sum = (rows.map w).sum := by
  induction rows with
  | nil => simp
  | cons r rows ih =>
    simp only [List.mem_cons, forall_eq_or_imp] at hall
    simp only [total_cons, List.sum_map_add, List.map_cons, List.sum_cons, ih hall.2, sum_of_one hnodup hall.1]

/-- A delete that takes a row that is counted. -/
theorem countP_filter_lt {p keep : ρ → Bool} {r : ρ} (hr : r ∈ rows) (hp : p r = true) (hgone : keep r = false) :
    (rows.filter keep).countP p < rows.countP p := by
  obtain ⟨before, after, rfl⟩ := List.append_of_mem hr
  have hbefore : (before.filter keep).countP p ≤ before.countP p := List.filter_sublist.countP_le
  have hafter : (after.filter keep).countP p ≤ after.countP p := List.filter_sublist.countP_le
  simp only [List.filter_append, List.filter_cons, hgone, List.countP_append, List.countP_cons, hp]
  simp
  omega

end tables

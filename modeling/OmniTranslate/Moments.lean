-- The moments of a run: the states that it passes through, and what holds
-- from one of them to another while the run goes on.
import OmniTranslate.Runs

namespace moments

open runs

variable {σ α : Type} {step : σ → α → σ} {s : σ} {ops more : List α} {op : α} {i j k : Nat}

/-- The state after the first `k` operations. -/
def moment (step : σ → α → σ) (s : σ) (ops : List α) (k : Nat) : σ := run step s (ops.take k)

theorem moment_append (h : k ≤ ops.length) : moment step s (ops ++ more) k = moment step s ops k := by
  unfold moment
  rw [List.take_append_of_le_length h]

@[simp] theorem moment_length : moment step s ops ops.length = run step s ops := by
  unfold moment
  rw [List.take_length]

theorem moment_next (h : ops[k]? = some op) :
    moment step s ops (k + 1) = step (moment step s ops k) op := by
  unfold moment
  rw [List.take_add_one, h, Option.toList_some, run_snoc]

/-- What was done at a moment was done there however the run goes on. -/
theorem done_append (h : ops[k]? = some op) : (ops ++ more)[k]? = some op := by
  rw [List.getElem?_append_left (List.getElem?_eq_some_iff.mp h).1, h]

theorem lt_of_done (h : ops[k]? = some op) : k < ops.length := (List.getElem?_eq_some_iff.mp h).1

/-! ## From one moment to another -/

/-- It holds at each moment from `i` to `j`. -/
def Through (step : σ → α → σ) (s : σ) (P : σ → Prop) (ops : List α) (i j : Nat) : Prop :=
  ∀ k, i ≤ k → k ≤ j → P (moment step s ops k)

variable {P : σ → Prop}

theorem Through.append (h : Through step s P ops i j) (hj : j ≤ ops.length) :
    Through step s P (ops ++ more) i j := by
  intro k hik hkj
  rw [moment_append (Nat.le_trans hkj hj)]
  exact h k hik hkj

/-- One operation more. -/
theorem Through.snoc (h : Through step s P ops i ops.length) (hnew : P (step (run step s ops) op)) :
    Through step s P (ops ++ [op]) i (ops.length + 1) := by
  intro k hik hkj
  rcases Nat.lt_or_eq_of_le hkj with hlt | rfl
  · rw [moment_append (by omega)]
    exact h k hik (by omega)
  · rw [moment_next (List.getElem?_concat_length ..), moment_append (Nat.le_refl _), moment_length]
    exact hnew

/-- At one moment. -/
theorem Through.here (h : P (moment step s ops i)) : Through step s P ops i i := by
  intro k hik hki
  rw [Nat.le_antisymm hki hik]
  exact h

theorem Through.join (h : Through step s P ops i j) (h' : Through step s P ops (j + 1) k) :
    Through step s P ops i k := by
  intro n hin hnk
  rcases Nat.lt_or_ge j n with hlt | hle
  · exact h' n hlt hnk
  · exact h n hin hle

end moments

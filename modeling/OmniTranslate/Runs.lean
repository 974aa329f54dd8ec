-- Runs of a state machine. A run folds a list of operations through a step
-- function; everything that the machine cannot decide itself (a clock, the
-- outcome of a write, the choice of a thread) is part of the operation.
import Mathlib.Data.List.Basic
import Mathlib.Data.List.Induction

namespace runs

variable {σ α : Type} (step : σ → α → σ)

/-- The state after a list of operations. -/
def run (s : σ) (ops : List α) : σ := ops.foldl step s

@[simp] theorem run_nil (s : σ) : run step s [] = s := rfl

@[simp] theorem run_cons (s : σ) (a : α) (ops : List α) :
    run step s (a :: ops) = run step (step s a) ops := rfl

theorem run_append (s : σ) (xs ys : List α) :
    run step s (xs ++ ys) = run step (run step s xs) ys := by
  simp [run, List.foldl_append]

theorem run_snoc (s : σ) (xs : List α) (a : α) :
    run step s (xs ++ [a]) = step (run step s xs) a := by
  simp [run, List.foldl_append]

variable {s : σ}

/-- What every step keeps, every run keeps. -/
theorem run_keeps (Inv : σ → Prop) (hstep : ∀ s a, Inv s → Inv (step s a)) (h : Inv s)
    (ops : List α) : Inv (run step s ops) := by
  induction ops generalizing s with
  | nil => exact h
  | cons a ops ih => exact ih (hstep s a h)

/-! ## Runs whose steps all meet a condition -/

/-- Each operation of the run meets `ok` in the state in which it is taken. -/
def Along (ok : σ → α → Prop) : σ → List α → Prop
  | _, [] => True
  | s, a :: ops => ok s a ∧ Along ok (step s a) ops

variable {step}

variable {ok : σ → α → Prop}

theorem Along.append {xs ys : List α} :
    Along step ok s (xs ++ ys) ↔ Along step ok s xs ∧ Along step ok (run step s xs) ys := by
  induction xs generalizing s with
  | nil => simp [Along]
  | cons a xs ih => simp [Along, ih, and_assoc]

variable {ops : List α}

/-- What every step that meets the condition keeps, every run of such steps keeps. -/
theorem Along.keeps (Inv : σ → Prop) (hstep : ∀ s a, Inv s → ok s a → Inv (step s a)) (h : Inv s)
    (hok : Along step ok s ops) : Inv (run step s ops) := by
  induction ops generalizing s with
  | nil => exact h
  | cons a ops ih => exact ih (hstep s a h hok.1) hok.2

/-- The condition holds at a step in the middle of a run that meets it. -/
theorem Along.at {xs ys : List α} {a : α} (h : Along step ok s (xs ++ a :: ys)) :
    ok (run step s xs) a :=
  (Along.append.mp h).2.1

theorem Along.of_forall (ok : σ → α → Prop) (h : ∀ s a, ok s a) (s : σ) (ops : List α) :
    Along step ok s ops := by
  induction ops generalizing s with
  | nil => trivial
  | cons a ops ih => exact ⟨h s a, ih _⟩

/-- A condition on the operations alone. -/
theorem Along.of_mem {P : α → Prop} (hP : ∀ a ∈ ops, P a) (s : σ) :
    Along step (fun _ a => P a) s ops := by
  induction ops generalizing s with
  | nil => trivial
  | cons a ops ih =>
    exact ⟨hP a List.mem_cons_self, ih (fun b hb => hP b (List.mem_cons_of_mem a hb)) _⟩

theorem Along.and_forall {P : α → Prop} (h : Along step ok s ops) (hP : ∀ a ∈ ops, P a) :
    Along step (fun s a => P a ∧ ok s a) s ops := by
  induction ops generalizing s with
  | nil => trivial
  | cons a ops ih =>
    refine ⟨⟨hP a List.mem_cons_self, h.1⟩, ih h.2 fun b hb => ?_⟩
    exact hP b (List.mem_cons_of_mem a hb)

theorem Along.and {ok ok' : σ → α → Prop} (h : Along step ok s ops) (h' : Along step ok' s ops) :
    Along step (fun s a => ok s a ∧ ok' s a) s ops := by
  induction ops generalizing s with
  | nil => trivial
  | cons a ops ih => exact ⟨⟨h.1, h'.1⟩, ih h.2 h'.2⟩

/-- In runs that meet a side condition, two conditions are met by the same runs when they
agree wherever an invariant holds that they keep. -/
theorem Along.congr {side ok ok' : σ → α → Prop} (Inv : σ → Prop) (h : Inv s)
    (hside : Along step side s ops) (heq : ∀ s a, Inv s → side s a → (ok s a ↔ ok' s a))
    (hstep : ∀ s a, Inv s → side s a → ok s a → Inv (step s a)) :
    Along step ok s ops ↔ Along step ok' s ops := by
  induction ops generalizing s with
  | nil => rfl
  | cons a ops ih =>
    unfold Along
    rw [← heq s a h hside.1]
    refine and_congr_right fun hok => ?_
    exact ih (hstep s a h hside.1 hok) hside.2

instance decidableAlong (ok : σ → α → Prop) [∀ s a, Decidable (ok s a)] :
    (s : σ) → (ops : List α) → Decidable (Along step ok s ops)
  | _, [] => isTrue trivial
  | s, a :: ops => @instDecidableAnd _ _ _ (decidableAlong ok (step s a) ops)

/-! ## Histories -/

/-- Where an entry stands in a history that has one entry more: it is the new one, or the new one
comes after it. -/
theorem split_snoc {log before after : List α} {x e : α} (h : log ++ [x] = before ++ e :: after) :
    (after = [] ∧ log = before ∧ x = e) ∨
      ∃ rest, after = rest ++ [x] ∧ log = before ++ e :: rest := by
  rcases List.eq_nil_or_concat after with rfl | ⟨rest, y, rfl⟩
  · obtain ⟨hlog, hlast⟩ := List.append_inj' h rfl
    exact .inl ⟨rfl, hlog, List.head_eq_of_cons_eq hlast⟩
  · rw [List.concat_eq_append] at h ⊢
    rw [← List.cons_append, ← List.append_assoc] at h
    obtain ⟨hlog, hlast⟩ := List.append_inj' h rfl
    exact .inr ⟨rest, by rw [hlast], hlog⟩

/-- Each entry of a history is justified by the entries before it. -/
def Each (P : List α → α → Prop) (log : List α) : Prop :=
  ∀ before e after, log = before ++ e :: after → P before e

theorem Each.nil (P : List α → α → Prop) : Each P [] := by
  intro before e after h
  simp at h

theorem Each.snoc {P : List α → α → Prop} {log : List α} {x : α} :
    Each P (log ++ [x]) ↔ Each P log ∧ P log x := by
  constructor
  · intro h
    refine ⟨fun before e after he => ?_, h log x [] rfl⟩
    exact h before e (after ++ [x]) (by simp [he])
  · rintro ⟨hold, hnew⟩ before e after he
    rcases split_snoc he with ⟨-, rfl, rfl⟩ | ⟨rest, -, hlog⟩
    · exact hnew
    · exact hold before e rest hlog

theorem Each.last {P : List α → α → Prop} {log : List α} {e : α} (h : Each P log)
    (he : log.getLast? = some e) : P log.dropLast e := by
  refine h log.dropLast e [] ?_
  rw [List.getLast?_eq_some_iff] at he
  obtain ⟨before, rfl⟩ := he
  simp

end runs

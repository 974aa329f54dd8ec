-- Checks that pass or give the text of an error, and calls that keep what
-- they wrote when they fail. A call reads and writes a
-- state and ends in one of two ways, with an answer or with an error; `Ends`
-- says what holds in each of them, and the rules compute it from the parts of
-- the call.
import Mathlib.Logic.Basic

namespace calls

variable {σ α β : Type}

/-! ## Checks -/

/-- Passes when the condition holds. -/
def require (condition : Prop) [Decidable condition] (error : String) : Except String Unit :=
  if condition then .ok () else .error error

/-- The value, or an error where there is none. -/
def expect (value : Option α) (error : String) : Except String α :=
  match value with
  | some value => .ok value
  | none => .error error

variable {ε : Type}

theorem bind_ok {x : Except ε α} {f : α → Except ε β} {b : β} (h : x >>= f = .ok b) :
    ∃ a, x = .ok a ∧ f a = .ok b := by
  cases x with
  | error e => cases h
  | ok a => exact ⟨a, rfl, h⟩

theorem bind_eq_ok {x : Except ε α} {f : α → Except ε β} {b : β} : x >>= f = .ok b ↔ ∃ a, x = .ok a ∧ f a = .ok b :=
  ⟨bind_ok, fun ⟨_, hx, hf⟩ => by rw [hx]; exact hf⟩

theorem ok_bind (a : α) (f : α → Except ε β) : ((Except.ok a : Except ε α) >>= f) = f a := rfl

theorem require_pos {c : Prop} [Decidable c] (h : c) (error : String) : require c error = .ok () :=
  if_pos h

variable {error : String}

theorem require_ok {c : Prop} [Decidable c] {u : Unit} (h : require c error = .ok u) : c := by
  unfold require at h
  split at h
  · assumption
  · cases h

theorem require_eq_ok {c : Prop} [Decidable c] {u : Unit} : require c error = .ok u ↔ c :=
  ⟨require_ok, fun h => require_pos h error⟩

theorem expect_ok {value : Option α} {a : α} (h : expect value error = .ok a) : value = some a := by
  unfold expect at h
  split at h
  · rw [Except.ok.inj h]
  · cases h

theorem expect_eq_ok {value : Option α} {a : α} : expect value error = .ok a ↔ value = some a :=
  ⟨expect_ok, fun h => by rw [h]; rfl⟩

theorem pure_ok {a a' : α} {b b' : β} (h : (pure (a, b) : Except ε (α × β)) = .ok (a', b')) : a = a' ∧ b = b' :=
  Prod.mk.inj (Except.ok.inj h)

/-! ## Calls -/

/-- A call on a state. -/
abbrev Call (σ α : Type) := EStateM String σ α

/-- Fails unless the condition holds. -/
def ensure (condition : Prop) [Decidable condition] (error : String) : Call σ Unit :=
  if condition then pure () else throw error

/-- The value, or a failure where there is none. -/
def demand (value : Option α) (error : String) : Call σ α :=
  match value with
  | some value => pure value
  | none => throw error

/-- What holds when the call answers, and what holds when it fails. -/
def Ends (x : Call σ α) (ok : α → σ → Prop) (error : σ → Prop) (s : σ) : Prop :=
  match x s with
  | .ok a s' => ok a s'
  | .error _ s' => error s'

variable {ok ok' : α → σ → Prop} {error error' : σ → Prop} {s : σ}

instance (x : Call σ α) [∀ a s', Decidable (ok a s')] [∀ s', Decidable (error s')] :
    Decidable (Ends x ok error s) :=
  match h : x s with
  | .ok a s' => decidable_of_iff (ok a s') (by unfold Ends; rw [h])
  | .error _ s' => decidable_of_iff (error s') (by unfold Ends; rw [h])

@[simp] theorem Ends.pure (a : α) : Ends (pure a) ok error s ↔ ok a s := Iff.rfl

@[simp] theorem Ends.throw (message : String) :
    Ends (throw message : Call σ α) ok error s ↔ error s := Iff.rfl

@[simp] theorem Ends.get {ok : σ → σ → Prop} : Ends get ok error s ↔ ok s s := Iff.rfl

@[simp] theorem Ends.set {ok : PUnit → σ → Prop} (s' : σ) : Ends (set s') ok error s ↔ ok ⟨⟩ s' := Iff.rfl

@[simp] theorem Ends.modify {ok : PUnit → σ → Prop} (f : σ → σ) :
    Ends (modify f) ok error s ↔ ok ⟨⟩ (f s) := Iff.rfl

/-- The second call starts where the first one ended. -/
@[simp] theorem Ends.bind (x : Call σ β) (f : β → Call σ α) :
    Ends (x >>= f) ok error s ↔ Ends x (fun b s' => Ends (f b) ok error s') error s := by
  unfold Ends
  simp only [Bind.bind, EStateM.bind]
  cases x s <;> rfl

@[simp] theorem Ends.map (f : β → α) (x : Call σ β) :
    Ends (f <$> x) ok error s ↔ Ends x (fun b s' => ok (f b) s') error s := by
  unfold Ends
  simp only [Functor.map, EStateM.map]
  cases x s <;> rfl

@[simp] theorem Ends.ite (c : Prop) [Decidable c] (x y : Call σ α) :
    Ends (if c then x else y) ok error s ↔ (c → Ends x ok error s) ∧ (¬ c → Ends y ok error s) := by
  by_cases hc : c <;> simp [hc]

@[simp] theorem Ends.ensure {ok : Unit → σ → Prop} (condition : Prop) [Decidable condition]
    (message : String) :
    Ends (ensure condition message) ok error s ↔ (condition → ok () s) ∧ (¬ condition → error s) := by
  unfold calls.ensure
  simp

@[simp] theorem Ends.demand (value : Option α) (message : String) :
    Ends (demand value message) ok error s ↔
      (∀ a, value = some a → ok a s) ∧ (value = none → error s) := by
  cases value <;> simp [calls.demand]

theorem Ends.imp {x : Call σ α} (h : Ends x ok error s) (hok : ∀ a s', ok a s' → ok' a s')
    (herror : ∀ s', error s' → error' s') : Ends x ok' error' s := by
  unfold Ends at h ⊢
  cases hx : x s with
  | ok a s' =>
    rw [hx] at h
    exact hok a s' h
  | error e s' =>
    rw [hx] at h
    exact herror s' h

/-- What every call of a list keeps, the whole list keeps. -/
theorem Ends.forM {l : List β} {f : β → Call σ PUnit} (Inv : σ → Prop)
    (hstep : ∀ b ∈ l, ∀ s, Inv s → Ends (f b) (fun _ => Inv) error s) (hs : Inv s) :
    Ends (l.forM f) (fun _ => Inv) error s := by
  induction l generalizing s with
  | nil => exact hs
  | cons b l ih =>
    simp only [List.forM_eq_forM, List.forM_cons, Ends.bind]
    refine (hstep b List.mem_cons_self s hs).imp (fun _ s' hs' => ?_) fun _ h => h
    exact ih (fun c hc => hstep c (List.mem_cons_of_mem b hc)) hs'

end calls

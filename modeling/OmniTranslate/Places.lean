-- Lists whose elements are reached by their place: what holds of the list after
-- the element at a place is taken out or another is put in.
import Mathlib.Data.Finset.Basic
import Mathlib.Data.Finset.Image

namespace places

variable {α β : Type} {l l₁ l₂ : List α} {i : Nat} {a b : α} {P : α → Prop}

/-- An element at a place, with the list around it. -/
theorem take_out (h : l[i]? = some a) :
    ∃ l₁ l₂, l = l₁ ++ a :: l₂ ∧ l.eraseIdx i = l₁ ++ l₂ := by
  obtain ⟨hi, ha⟩ := List.getElem?_eq_some_iff.mp h
  refine ⟨l.take i, l.drop (i + 1), ?_, List.eraseIdx_eq_take_drop_succ l i⟩
  rw [← ha, List.getElem_cons_drop hi, List.take_append_drop]

/-- The list after another element is put in a place. -/
theorem put_in (h : l[i]? = some a) (b : α) :
    ∃ l₁ l₂, l = l₁ ++ a :: l₂ ∧ l.set i b = l₁ ++ b :: l₂ := by
  obtain ⟨hi, ha⟩ := List.getElem?_eq_some_iff.mp h
  refine ⟨l.take i, l.drop (i + 1), ?_, ?_⟩
  · rw [← ha, List.getElem_cons_drop hi, List.take_append_drop]
  · rw [List.set_eq_take_append_cons_drop, if_pos hi]

theorem modify_put_in (h : l[i]? = some a) (g : α → α) : l.modify i g = l.set i (g a) := by
  rw [List.modify_eq_set_getElem?, h]
  rfl

theorem forall_put_in (hall : ∀ x ∈ l, P x) (hb : P b) (i : Nat) :
    ∀ x ∈ l.set i b, P x := by
  intro x hx
  rcases List.mem_or_eq_of_mem_set hx with hx | rfl
  · exact hall x hx
  · exact hb

theorem exists_put_in (h : l[i]? = some a) (hex : ∃ x ∈ l, P x) (hab : P a → P b) :
    ∃ x ∈ l.set i b, P x := by
  obtain ⟨l₁, l₂, rfl, hset⟩ := put_in h b
  rw [hset]
  obtain ⟨x, hx, hp⟩ := hex
  rcases List.mem_append.mp hx with hx | hx
  · exact ⟨x, by simp [hx], hp⟩
  · rcases List.mem_cons.mp hx with rfl | hx
    · exact ⟨b, by simp, hab hp⟩
    · exact ⟨x, by simp [hx], hp⟩

theorem exists_take_out (h : l[i]? = some a) (hex : ∃ x ∈ l, P x) :
    P a ∨ ∃ x ∈ l.eraseIdx i, P x := by
  obtain ⟨l₁, l₂, rfl, herase⟩ := take_out h
  rw [herase]
  obtain ⟨x, hx, hp⟩ := hex
  rcases List.mem_append.mp hx with hx | hx
  · exact Or.inr ⟨x, by simp [hx], hp⟩
  · rcases List.mem_cons.mp hx with rfl | hx
    · exact Or.inl hp
    · exact Or.inr ⟨x, by simp [hx], hp⟩

/-- Another element in a place changes a count by the two elements. -/
theorem countP_put_in (h : l[i]? = some a) (p : α → Bool) (b : α) :
    (l.set i b).countP p + (if p a then 1 else 0) = l.countP p + (if p b then 1 else 0) := by
  obtain ⟨l₁, l₂, rfl, hset⟩ := put_in h b
  rw [hset]
  simp only [List.countP_append, List.countP_cons]
  omega

/-! ## Related to the others -/

section

variable {R : α → α → Prop} (hsymm : ∀ {a b : α}, R a b → R b a) (h : l[i]? = some a)
  (hl : l.Pairwise R)

include hsymm h hl

/-- An element that is put in a place is related to the others exactly when all are related. -/
theorem pairwise_put_in (b : α) : (l.set i b).Pairwise R ↔ ∀ c ∈ l.eraseIdx i, R b c := by
  obtain ⟨hi, -⟩ := List.getElem?_eq_some_iff.mp h
  have hrest : (l.take i ++ l.drop (i + 1)).Pairwise R := by
    rw [← List.eraseIdx_eq_take_drop_succ]
    exact hl.sublist (List.eraseIdx_sublist l i)
  rw [List.set_eq_take_append_cons_drop, if_pos hi, List.eraseIdx_eq_take_drop_succ,
    List.pairwise_middle hsymm, List.pairwise_cons]
  exact and_iff_left hrest

theorem related_to_rest : ∀ c ∈ l.eraseIdx i, R a c := by
  obtain ⟨hi, ha⟩ := List.getElem?_eq_some_iff.mp h
  have hsame : l.set i a = l := by
    rw [← ha]
    exact List.set_getElem_self hi
  rw [← pairwise_put_in hsymm h hl a, hsame]
  exact hl

end

/-! ## Keys that no two elements share -/

/-- Where two elements have a key, it is not the same. -/
def Apart (key : α → Option β) (l : List α) : Prop := l.Pairwise fun a b => ∀ k, key a = some k → key b ≠ some k

namespace Apart

variable {key : α → Option β} {k : β}

theorem eq_of_mem (hl : Apart key l) (ha : a ∈ l) (hb : b ∈ l) (hka : key a = some k) (hkb : key b = some k) :
    a = b := by
  induction l with
  | nil => simp at ha
  | cons c l ih =>
    obtain ⟨hc, hl⟩ := List.pairwise_cons.mp hl
    rcases List.mem_cons.mp ha with rfl | hal <;> rcases List.mem_cons.mp hb with rfl | hbl
    · rfl
    · exact absurd hkb (hc b hbl k hka)
    · exact absurd hka (hc a hal k hkb)
    · exact ih hl hal hbl

theorem index_eq {j : Nat} (hl : Apart key l) (hi : l[i]? = some a) (hj : l[j]? = some b) (hka : key a = some k)
    (hkb : key b = some k) : i = j := by
  have hbefore : ∀ {m n : Nat} {c d : α}, m < n → l[m]? = some c → l[n]? = some d → key c = some k →
      key d = some k → False := by
    intro m n c d hlt hm hn hc hd
    obtain ⟨hml, rfl⟩ := List.getElem?_eq_some_iff.mp hm
    obtain ⟨hnl, rfl⟩ := List.getElem?_eq_some_iff.mp hn
    exact List.pairwise_iff_getElem.mp hl m n hml hnl hlt k hc hd
  rcases Nat.lt_trichotomy i j with hlt | heq | hlt
  · exact (hbefore hlt hi hj hka hkb).elim
  · exact heq
  · exact (hbefore hlt hj hi hkb hka).elim

/-- The key stays, or is one that the others do not have. -/
theorem put_in (hl : Apart key l) (h : l[i]? = some a)
    (hkey : ∀ k, key b = some k → key a = some k ∨ ∀ c ∈ l, key c ≠ some k) : Apart key (l.set i b) := by
  have hsymm : ∀ {a b : α}, (∀ k, key a = some k → key b ≠ some k) → ∀ k, key b = some k → key a ≠ some k :=
    fun h k hb ha => h k ha hb
  refine (pairwise_put_in hsymm h hl b).mpr fun c hc k hb => ?_
  rcases hkey k hb with ha | hnew
  · exact related_to_rest hsymm h hl c hc k ha
  · exact hnew c (List.mem_of_mem_eraseIdx hc)

theorem snoc (hl : Apart key l) (hb : key b = none) : Apart key (l ++ [b]) := by
  refine List.pairwise_append.mpr ⟨hl, List.pairwise_singleton _ _, fun a _ c hc k _ => ?_⟩
  rw [List.mem_singleton.mp hc, hb]
  simp

end Apart

/-! ## At the end -/

/-- An element of a list with one more at its end is that one, or has it among those after it. -/
theorem at_the_end (h : l ++ [a] = l₁ ++ b :: l₂) :
    (l₁ = l ∧ b = a ∧ l₂ = []) ∨ ∃ rest, l₂ = rest ++ [a] ∧ l = l₁ ++ b :: rest := by
  rcases List.eq_nil_or_concat l₂ with rfl | ⟨rest, last, rfl⟩
  · obtain ⟨hl, hlast⟩ := List.append_inj' h rfl
    exact Or.inl ⟨hl.symm, (List.singleton_inj.mp hlast).symm, rfl⟩
  · have hsplit : l ++ [a] = (l₁ ++ b :: rest) ++ [last] := by simpa using h
    obtain ⟨hl, hlast⟩ := List.append_inj' hsplit rfl
    exact Or.inr ⟨rest, by rw [List.singleton_inj.mp hlast, List.concat_eq_append], hl⟩

/-! ## Distinct keys -/

variable {f : α → β}

/-- No other element has the key of an element. -/
theorem key_not_mem_rest (h : ((l₁ ++ a :: l₂).map f).Nodup) : f a ∉ (l₁ ++ l₂).map f := by
  rw [List.map_append, List.map_cons, List.nodup_middle, List.nodup_cons] at h
  simpa using h.1

/-- An element taken out of a list takes its key out of the keys. -/
theorem toFinset_erase_key [DecidableEq β] (h : ((l₁ ++ a :: l₂).map f).Nodup) :
    ((l₁ ++ a :: l₂).map f).toFinset.erase (f a) = ((l₁ ++ l₂).map f).toFinset := by
  have hcons : ((l₁ ++ a :: l₂).map f).toFinset = insert (f a) ((l₁ ++ l₂).map f).toFinset := by
    ext b
    simp only [List.map_append, List.map_cons, List.mem_toFinset, List.mem_append, List.mem_cons,
      Finset.mem_insert]
    tauto
  rw [hcons]
  exact Finset.erase_insert (by simpa using key_not_mem_rest h)

end places

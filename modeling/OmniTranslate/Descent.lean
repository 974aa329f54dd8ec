-- Lists whose entries live on. An operation on a list may change entries in place, take some
-- out and put new ones in; each entry afterwards is a new one or goes on from an entry before,
-- and those that go on keep their order.
import Mathlib.Data.List.Basic

namespace descent

variable {α : Type}

/-- The second list comes from the first: entries go on under `goes`, are `lost`, or are `born`. -/
inductive Descends (goes : α → α → Prop) (born lost : α → Prop) : List α → List α → Prop
  | nil : Descends goes born lost [] []
  | kept {a b : α} {l m : List α} : goes a b → Descends goes born lost l m →
      Descends goes born lost (a :: l) (b :: m)
  | taken {a : α} {l m : List α} : lost a → Descends goes born lost l m →
      Descends goes born lost (a :: l) m
  | new {b : α} {l m : List α} : born b → Descends goes born lost l m →
      Descends goes born lost l (b :: m)

namespace Descends

variable {goes : α → α → Prop} {born lost : α → Prop}

theorem refl (hrefl : ∀ a, goes a a) (l : List α) : Descends goes born lost l l := by
  induction l with
  | nil => exact nil
  | cons a l ih => exact kept (hrefl a) ih

theorem mono {goes' : α → α → Prop} {born' lost' : α → Prop}
    (hgoes : ∀ a b, goes a b → goes' a b) (hborn : ∀ a, born a → born' a)
    (hlost : ∀ a, lost a → lost' a) {l m : List α} (h : Descends goes born lost l m) :
    Descends goes' born' lost' l m := by
  induction h with
  | nil => exact nil
  | kept hab _ ih => exact kept (hgoes _ _ hab) ih
  | taken ha _ ih => exact taken (hlost _ ha) ih
  | new hb _ ih => exact new (hborn _ hb) ih

/-- Where any entry may be lost, some more may be. -/
theorem sublist (hlost : ∀ a, lost a) {l m n : List α} (h : Descends goes born lost l m)
    (hn : n.Sublist m) : Descends goes born lost l n := by
  induction h generalizing n with
  | nil =>
    rw [List.sublist_nil.mp hn]
    exact nil
  | kept hab _ ih =>
    cases hn with
    | cons _ hn => exact taken (hlost _) (ih hn)
    | cons_cons _ hn => exact kept hab (ih hn)
  | taken ha _ ih => exact taken ha (ih hn)
  | new hb _ ih =>
    cases hn with
    | cons _ hn => exact ih hn
    | cons_cons _ hn => exact new hb (ih hn)

/-- Two stretches of descent are one, when what is born in the first goes on in the second. -/
theorem trans (hgoes : ∀ a b c, goes a b → goes b c → goes a c)
    (hborn : ∀ b c, born b → goes b c → born c) (hlost : ∀ a b, goes a b → lost b → lost a)
    {l m n : List α} (h : Descends goes born lost l m) (h' : Descends goes born lost m n) :
    Descends goes born lost l n := by
  induction h generalizing n with
  | nil => exact h'
  | taken ha _ ih => exact taken ha (ih h')
  | @kept a b l m hab _ ih =>
    -- the entries born in front of `b` come first
    generalize hm : b :: m = bm at h'
    induction h' with
    | nil => cases hm
    | kept hbc h' _ =>
      cases hm
      exact kept (hgoes _ _ _ hab hbc) (ih h')
    | taken hb h' _ =>
      cases hm
      exact taken (hlost _ _ hab hb) (ih h')
    | new hc _ ih' => exact new hc (ih' hm)
  | @new b l m hb _ ih =>
    generalize hm : b :: m = bm at h'
    induction h' with
    | nil => cases hm
    | kept hbc h' _ =>
      cases hm
      exact new (hborn _ _ hb hbc) (ih h')
    | taken _ h' _ =>
      cases hm
      exact ih h'
    | new hc _ ih' => exact new hc (ih' hm)

/-- Each entry of the second list is new or goes on from one of the first. -/
theorem of_mem {l m : List α} (h : Descends goes born lost l m) {b : α} (hb : b ∈ m) :
    born b ∨ ∃ a ∈ l, goes a b := by
  induction h with
  | nil => cases hb
  | kept hab _ ih =>
    rcases List.mem_cons.mp hb with rfl | hb
    · exact Or.inr ⟨_, List.mem_cons_self, hab⟩
    · rcases ih hb with hnew | ⟨a, ha, hab⟩
      · exact Or.inl hnew
      · exact Or.inr ⟨a, List.mem_cons_of_mem _ ha, hab⟩
  | taken _ _ ih =>
    rcases ih hb with hnew | ⟨a, ha, hab⟩
    · exact Or.inl hnew
    · exact Or.inr ⟨a, List.mem_cons_of_mem _ ha, hab⟩
  | new hnew _ ih =>
    rcases List.mem_cons.mp hb with rfl | hb
    · exact Or.inl hnew
    · exact ih hb

end Descends

end descent

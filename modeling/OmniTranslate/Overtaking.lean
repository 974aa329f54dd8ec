-- Work that is done two pieces at a time. The pieces are begun in order; with two
-- in hand the older or the younger one is finished, as a choice function has it,
-- before the next is begun. At the end the last one in hand is finished, or it is
-- abandoned.
import Mathlib.Data.List.Basic
import Mathlib.Data.List.Pairwise

namespace overtaking

variable {α : Type} (younger_first : α → α → Bool)

/-- The piece that is in hand at the end. -/
def last_in_hand (w : α) (rest : List α) : α :=
  rest.foldl (fun older younger => if younger_first older younger then older else younger) w

/-- The pieces that are finished, in order; `w` is in hand at the start. -/
def finished (abandoned : Bool) : α → List α → List α
  | w, [] => if abandoned then [] else [w]
  | w, x :: rest =>
    if younger_first w x then x :: finished abandoned w rest else w :: finished abandoned x rest

/-- The same of all the pieces, with nothing in hand at the start. -/
def all_finished (abandoned : Bool) : List α → List α
  | [] => []
  | w :: rest => finished younger_first abandoned w rest

/-- Whenever the younger of two pieces is finished first, they are not both of the kind `p` and finished in the end. -/
def in_turn (abandoned : Bool) (p : α → Bool) : α → List α → Prop
  | _, [] => True
  | w, x :: rest =>
    if younger_first w x then
      ¬ (p x = true ∧ p w = true ∧ (abandoned = true → last_in_hand younger_first w rest ≠ w)) ∧
        in_turn abandoned p w rest
    else in_turn abandoned p x rest

def all_in_turn (abandoned : Bool) (p : α → Bool) : List α → Prop
  | [] => True
  | w :: rest => in_turn younger_first abandoned p w rest

variable {younger_first} {abandoned : Bool}

theorem last_in_hand_mem (w : α) (rest : List α) : last_in_hand younger_first w rest ∈ w :: rest := by
  induction rest generalizing w with
  | nil => exact List.mem_singleton_self w
  | cons x rest ih =>
    rw [last_in_hand, List.foldl_cons]
    split
    · rcases List.mem_cons.mp (ih w) with hw | hrest
      · exact List.mem_cons.mpr (.inl hw)
      · exact List.mem_cons_of_mem _ (List.mem_cons_of_mem _ hrest)
    · exact List.mem_cons_of_mem _ (ih x)

theorem last_in_hand_cons (w x : α) (rest : List α) :
    last_in_hand younger_first w (x :: rest) =
      if younger_first w x then last_in_hand younger_first w rest else last_in_hand younger_first x rest := by
  rw [last_in_hand, List.foldl_cons]
  split <;> rfl

variable {rest : List α}

/-- Everything is finished but what is abandoned. -/
theorem mem_finished {w : α} (hnodup : (w :: rest).Nodup) (y : α) :
    y ∈ finished younger_first abandoned w rest ↔
      y ∈ w :: rest ∧ (abandoned = true → last_in_hand younger_first w rest ≠ y) := by
  induction rest generalizing w with
  | nil =>
    cases abandoned with
    | false => simp [finished]
    | true =>
      refine ⟨nofun, fun h => absurd ?_ (h.2 rfl)⟩
      exact (List.mem_singleton.mp h.1).symm
  | cons x rest ih =>
    have hx : (x :: rest).Nodup := (List.nodup_cons.mp hnodup).2
    have hw : (w :: rest).Nodup := hnodup.sublist ((List.sublist_cons_self x rest).cons_cons w)
    have hne : w ≠ x := fun h => (List.nodup_cons.mp hnodup).1 (h ▸ List.mem_cons_self)
    rw [finished, last_in_hand_cons]
    split
    · have hlast : last_in_hand younger_first w rest ≠ x := by
        intro h
        rcases List.mem_cons.mp (h ▸ last_in_hand_mem w rest) with hxw | hxrest
        · exact hne hxw.symm
        · exact (List.nodup_cons.mp hx).1 hxrest
      simp only [List.mem_cons, ih hw]
      constructor
      · rintro (rfl | ⟨hy | hy, hkept⟩)
        · exact ⟨.inr (.inl rfl), fun _ => hlast⟩
        · exact ⟨.inl hy, hkept⟩
        · exact ⟨.inr (.inr hy), hkept⟩
      · rintro ⟨hy | hy | hy, hkept⟩
        · exact .inr ⟨.inl hy, hkept⟩
        · exact .inl hy
        · exact .inr ⟨.inr hy, hkept⟩
    · have hlast : last_in_hand younger_first x rest ≠ w := by
        intro h
        exact (List.nodup_cons.mp hnodup).1 (h ▸ last_in_hand_mem x rest)
      rw [List.mem_cons, ih hx, @List.mem_cons _ w]
      constructor
      · rintro (rfl | ⟨hy, hkept⟩)
        · exact ⟨.inl rfl, fun _ => hlast⟩
        · exact ⟨.inr hy, hkept⟩
      · rintro ⟨hy | hy, hkept⟩
        · exact .inl hy
        · exact .inr ⟨hy, hkept⟩

theorem finished_subset {w : α} (hnodup : (w :: rest).Nodup) {y : α}
    (h : y ∈ finished younger_first abandoned w rest) : y ∈ w :: rest :=
  ((mem_finished hnodup y).mp h).1

theorem finished_nodup {w : α} (hnodup : (w :: rest).Nodup) : (finished younger_first abandoned w rest).Nodup := by
  induction rest generalizing w with
  | nil => cases abandoned <;> simp [finished]
  | cons x rest ih =>
    have hx : (x :: rest).Nodup := (List.nodup_cons.mp hnodup).2
    have hw : (w :: rest).Nodup := hnodup.sublist ((List.sublist_cons_self x rest).cons_cons w)
    rw [finished]
    split
    · refine List.nodup_cons.mpr ⟨fun h => ?_, ih hw⟩
      rcases List.mem_cons.mp (finished_subset hw h) with rfl | hrest
      · exact (List.nodup_cons.mp hnodup).1 List.mem_cons_self
      · exact (List.nodup_cons.mp hx).1 hrest
    · exact List.nodup_cons.mpr ⟨fun h => (List.nodup_cons.mp hnodup).1 (finished_subset hx h), ih hx⟩

/-- What is abandoned of all pieces. -/
def all_abandoned (younger_first : α → α → Bool) (abandoned : Bool) : List α → Option α
  | [] => none
  | w :: rest => if abandoned then some (last_in_hand younger_first w rest) else none

theorem mem_all_finished {l : List α} (hnodup : l.Nodup) (y : α) :
    y ∈ all_finished younger_first abandoned l ↔ y ∈ l ∧ all_abandoned younger_first abandoned l ≠ some y := by
  cases l with
  | nil => simp [all_finished]
  | cons w rest =>
    refine (mem_finished hnodup y).trans (and_congr_right fun _ => ?_)
    cases abandoned <;> simp [all_abandoned]

theorem all_finished_nodup {l : List α} (hnodup : l.Nodup) : (all_finished younger_first abandoned l).Nodup := by
  cases l with
  | nil => exact List.nodup_nil
  | cons w rest => exact finished_nodup hnodup

/-- The finished pieces of a kind are in order exactly if no piece of the kind overtakes another one. -/
theorem finished_in_order_iff {r : α → α → Prop} (hasymm : ∀ a b, r a b → ¬ r b a) (p : α → Bool) {w : α}
    (hsorted : (w :: rest).Pairwise r) :
    ((finished younger_first abandoned w rest).filter p).Pairwise r ↔
      in_turn younger_first abandoned p w rest := by
  have hne {a b : α} (h : r a b) : a ≠ b := by
    rintro rfl
    exact hasymm a a h h
  induction rest generalizing w with
  | nil => cases abandoned <;> cases hp : p w <;> simp [finished, in_turn, hp]
  | cons x rest ih =>
    have hx : (x :: rest).Pairwise r := (List.pairwise_cons.mp hsorted).2
    have hw : (w :: rest).Pairwise r := hsorted.sublist ((List.sublist_cons_self x rest).cons_cons w)
    have hwx : r w x := (List.pairwise_cons.mp hsorted).1 x List.mem_cons_self
    have hnodup {l : List α} (h : l.Pairwise r) : l.Nodup := h.imp hne
    rw [finished, in_turn]
    split
    · rw [List.filter_cons]
      split
      · next hpx =>
        refine List.pairwise_cons.trans (and_congr ⟨fun hafter hboth => ?_, fun hnot y hy => ?_⟩ (ih hw))
        · refine hasymm w x hwx (hafter w (List.mem_filter.mpr ⟨?_, hboth.2.1⟩))
          exact (mem_finished (hnodup hw) w).mpr ⟨List.mem_cons_self, hboth.2.2⟩
        · obtain ⟨hmem, hpy⟩ := List.mem_filter.mp hy
          obtain ⟨hin, hkept⟩ := (mem_finished (hnodup hw) y).mp hmem
          rcases List.mem_cons.mp hin with rfl | hrest
          · exact absurd ⟨hpx, hpy, hkept⟩ hnot
          · exact (List.pairwise_cons.mp hx).1 y hrest
      · next hpx =>
        exact (ih hw).trans ⟨fun h => ⟨fun hboth => hpx hboth.1, h⟩, fun h => h.2⟩
    · rw [List.filter_cons]
      split
      · refine List.pairwise_cons.trans ((and_iff_right fun y hy => ?_).trans (ih hx))
        exact (List.pairwise_cons.mp hsorted).1 y (finished_subset (hnodup hx) (List.mem_filter.mp hy).1)
      · exact ih hx

theorem all_finished_in_order_iff {r : α → α → Prop} (hasymm : ∀ a b, r a b → ¬ r b a) {p : α → Bool} {l : List α}
    (hsorted : l.Pairwise r) :
    ((all_finished younger_first abandoned l).filter p).Pairwise r ↔ all_in_turn younger_first abandoned p l := by
  cases l with
  | nil => exact iff_of_true .nil trivial
  | cons w rest => exact finished_in_order_iff hasymm p hsorted

end overtaking

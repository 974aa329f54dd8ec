-- Rings: a memory of fixed size that is written behind what it holds and read from the
-- front, with the places taken modulo its size. Copies check their bounds.
import Mathlib.Data.List.Rotate

namespace rings

variable {α : Type}

/-! ## Copies -/

/-- The items from a place on, or none past the end of the memory. -/
def read_at (memory : List α) (offset count : Nat) : Option (List α) :=
  if offset + count ≤ memory.length then some ((memory.drop offset).take count) else none

/-- The memory with the items from a place on, or none past its end. -/
def write_at (memory : List α) (offset : Nat) (items : List α) : Option (List α) :=
  if offset + items.length ≤ memory.length then
    some (memory.take offset ++ items ++ memory.drop (offset + items.length))
  else none

variable {memory : List α}

theorem read_at_eq_some {offset count : Nat} (h : offset + count ≤ memory.length) :
    read_at memory offset count = some ((memory.drop offset).take count) :=
  if_pos h

variable {offset : Nat} {items : List α}

theorem write_at_eq_some (h : offset + items.length ≤ memory.length) :
    write_at memory offset items =
      some (memory.take offset ++ items ++ memory.drop (offset + items.length)) :=
  if_pos h

theorem write_at_length {memory memory' : List α}
    (h : write_at memory offset items = some memory') : memory'.length = memory.length := by
  unfold write_at at h
  split at h
  · cases h
    simp only [List.length_append, List.length_take, List.length_drop]
    omega
  · cases h

/-- A place that is written holds the item, and the others hold what they held. -/
theorem getElem?_write_at {memory memory' : List α}
    (h : write_at memory offset items = some memory') (j : Nat) :
    memory'[j]? = if offset ≤ j ∧ j < offset + items.length then items[j - offset]?
      else memory[j]? := by
  unfold write_at at h
  split at h
  · cases h
    rw [List.append_assoc]
    by_cases hbefore : j < offset
    · rw [List.getElem?_append_left (by rw [List.length_take]; omega),
        List.getElem?_take_of_lt hbefore, if_neg (by omega)]
    · rw [List.getElem?_append_right (by rw [List.length_take]; omega), List.length_take,
        Nat.min_eq_left (by omega)]
      by_cases hin : j < offset + items.length
      · rw [if_pos ⟨by omega, hin⟩, List.getElem?_append_left (by omega)]
      · rw [if_neg (by omega), List.getElem?_append_right (by omega), List.getElem?_drop]
        congr 1
        omega
  · cases h

/-- What is written in two copies, one behind the other, is written at once. -/
theorem write_at_append {memory first both : List α} {xs ys : List α}
    (hxs : write_at memory offset xs = some first)
    (hys : write_at first (offset + xs.length) ys = some both) :
    write_at memory offset (xs ++ ys) = some both := by
  have hfits : offset + (xs ++ ys).length ≤ memory.length := by
    rw [List.length_append, ← Nat.add_assoc, ← write_at_length hxs]
    unfold write_at at hys
    split at hys
    · assumption
    · cases hys
  have hwritten := write_at_eq_some hfits
  rw [hwritten]
  congr 1
  apply List.ext_getElem?
  intro j
  rw [getElem?_write_at hwritten, getElem?_write_at hys, getElem?_write_at hxs, List.length_append]
  by_cases hbefore : j < offset
  · rw [if_neg (by omega), if_neg (by omega), if_neg (by omega)]
  · by_cases hfirst : j < offset + xs.length
    · rw [if_pos (by omega), if_neg (by omega), if_pos (by omega),
        List.getElem?_append_left (by omega)]
    · by_cases hsecond : j < offset + xs.length + ys.length
      · rw [if_pos (by omega), if_pos (by omega), List.getElem?_append_right (by omega)]
        congr 1
        omega
      · rw [if_neg (by omega), if_neg (by omega), if_neg (by omega)]

/-! ## Rings -/

structure Ring (α : Type) where
  memory : List α
  read_offset : Nat
  write_offset : Nat
  buffered : Nat

/-- The places are within the memory, and writing goes on behind what the ring holds. -/
structure Ring.Sound (ring : Ring α) (capacity : Nat) : Prop where
  memory : ring.memory.length = capacity
  read : ring.read_offset < capacity
  buffered : ring.buffered ≤ capacity
  write : ring.write_offset = (ring.read_offset + ring.buffered) % capacity

variable (ring : Ring α)

/-- What the ring holds, the oldest item first. -/
def Ring.contents : List α := (ring.memory.rotate ring.read_offset).take ring.buffered

/-- The ring without its oldest items. -/
def Ring.forget (capacity n : Nat) : Ring α :=
  { ring with read_offset := (ring.read_offset + n) % capacity, buffered := ring.buffered - n }

/-- The ring with new items behind the old ones, in a memory that has them. -/
def Ring.put (capacity : Nat) (memory : List α) (n : Nat) : Ring α :=
  { ring with
    memory
    write_offset := (ring.write_offset + n) % capacity
    buffered := ring.buffered + n }

/-- The ring that holds nothing. -/
def Ring.emptied : Ring α :=
  { ring with read_offset := 0, write_offset := 0, buffered := 0 }

namespace Ring

variable {ring : Ring α} {capacity : Nat}

section

variable (h : ring.Sound capacity)

include h

theorem Sound.length_contents : ring.contents.length = ring.buffered := by
  have := h.buffered
  simp [contents, h.memory, this]

theorem Sound.forget {n : Nat} (hn : n ≤ ring.buffered) :
    (ring.forget capacity n).Sound capacity where
  memory := h.memory
  read := Nat.mod_lt _ (Nat.zero_lt_of_lt h.read)
  buffered := le_trans (Nat.sub_le _ _) h.buffered
  write := by
    simp only [Ring.forget, h.write, Nat.mod_add_mod]
    congr 1
    omega

theorem Sound.contents_forget {n : Nat} (hn : n ≤ ring.buffered) :
    (ring.forget capacity n).contents = ring.contents.drop n := by
  have hlength : (ring.memory.rotate ring.read_offset).length = capacity := by simp [h.memory]
  have hbuffered := h.buffered
  unfold contents Ring.forget
  dsimp only
  rw [← h.memory, List.rotate_mod, ← List.rotate_rotate,
    List.rotate_eq_drop_append_take (by omega), List.take_append_of_le_length, List.drop_take]
  rw [List.length_drop]
  omega

/-- The oldest items are at the place of reading, up to the end of the memory. -/
theorem Sound.read_at_front {n : Nat} (hn : n ≤ ring.buffered)
    (hend : ring.read_offset + n ≤ capacity) :
    read_at ring.memory ring.read_offset n = some (ring.contents.take n) := by
  rw [read_at_eq_some (by rw [h.memory]; exact hend)]
  unfold contents
  rw [List.rotate_eq_drop_append_take (by rw [h.memory]; exact h.read.le), List.take_take,
    Nat.min_eq_left hn, List.take_append_of_le_length]
  rw [List.length_drop, h.memory]
  omega

theorem Sound.put (hroom : ring.buffered + items.length ≤ capacity)
    (hwrite : write_at ring.memory ring.write_offset items = some memory) :
    (ring.put capacity memory items.length).Sound capacity where
  memory := (write_at_length hwrite).trans h.memory
  read := h.read
  buffered := hroom
  write := by
    simp only [Ring.put, h.write, Nat.mod_add_mod, Nat.add_assoc]

theorem Sound.contents_put (hroom : ring.buffered + items.length ≤ capacity)
    (hwrite : write_at ring.memory ring.write_offset items = some memory)
    (hend : ring.write_offset + items.length ≤ capacity) :
    (ring.put capacity memory items.length).contents = ring.contents ++ items := by
  have hread := h.read
  have hmemory := h.memory
  have hplace : ∀ i ≤ capacity, (i + ring.read_offset) % capacity =
      if i + ring.read_offset < capacity then i + ring.read_offset
      else i + ring.read_offset - capacity := by
    intro i hi
    split
    · exact Nat.mod_eq_of_lt ‹_›
    · rw [Nat.mod_eq_sub_mod (by omega), Nat.mod_eq_of_lt (by omega)]
  have hbehind := h.write
  rw [Nat.add_comm, hplace _ h.buffered] at hbehind
  have hlength := write_at_length hwrite
  apply List.ext_getElem?
  intro i
  unfold contents Ring.put
  dsimp only
  by_cases hin : i < ring.buffered + items.length
  · have hi := hplace i (by omega)
    rw [List.getElem?_take_of_lt hin, List.getElem?_rotate (by omega), hlength, hmemory,
      getElem?_write_at hwrite, hi]
    by_cases hold : i < ring.buffered
    · -- The place of an old item is not written.
      rw [if_neg (by split at hbehind <;> split <;> omega), List.getElem?_append_left
        (by rw [List.length_take, List.length_rotate]; omega), List.getElem?_take_of_lt hold,
        List.getElem?_rotate (by omega), hmemory, hi]
    · rw [if_pos (by split at hbehind <;> split <;> omega), List.getElem?_append_right
        (by rw [List.length_take, List.length_rotate]; omega), List.length_take,
        List.length_rotate, Nat.min_eq_left (by omega)]
      congr 1
      split at hbehind <;> split <;> omega
  · rw [List.getElem?_take_eq_none (by omega), List.getElem?_append_right
      (by rw [List.length_take, List.length_rotate]; omega), List.length_take, List.length_rotate,
      Nat.min_eq_left (by omega), List.getElem?_eq_none (by omega)]

end

theorem emptied_sound (hmemory : ring.memory.length = capacity) (hcapacity : 0 < capacity) :
    ring.emptied.Sound capacity where
  memory := hmemory
  read := hcapacity
  buffered := Nat.zero_le _
  write := by simp [emptied]

@[simp] theorem contents_emptied : ring.emptied.contents = [] := by simp [contents, emptied]

end Ring

end rings

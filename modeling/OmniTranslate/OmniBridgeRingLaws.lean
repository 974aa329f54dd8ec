-- The virtual audio driver in every interleaving: its copies stay within their bounds, its
-- counters account for every byte, and the microphone plays what the owner of its session
-- wrote under the generation of the session.
import OmniTranslate.OmniBridgeRing

namespace omni_translate.omni_bridge_ring

open rings

/-! ## Words -/

theorem ulong_add_eq {a b : Nat} (h : a + b < 2 ^ 32) : ulong_add a b = a + b := Nat.mod_eq_of_lt h

theorem ulong_sub_eq {a b : Nat} (hle : b ≤ a) (ha : a < 2 ^ 32) : ulong_sub a b = a - b := by
  unfold ulong_sub
  omega

theorem skipped_bytes_eq (limit : Nat) {byte_count : Nat} (hcount : byte_count < 2 ^ 32) :
    skipped_bytes limit byte_count = byte_count - limit := by
  unfold skipped_bytes
  split
  · exact ulong_sub_eq (by omega) hcount
  · omega

/-! ## The loops -/

section

variable {capacity : Nat}

section

variable (hcapacity : 2 * capacity ≤ 2 ^ 32)

include hcapacity

/-- A read takes the oldest bytes, in as many runs as it needs. -/
theorem read_loop_eq (fuel : Nat) :
    ∀ (ring : rings.Ring UInt8) (buffer : List UInt8) (copied remaining : Nat), ring.Sound capacity →
      remaining ≤ fuel → remaining ≤ ring.buffered → copied + remaining ≤ buffer.length →
      copied + remaining < 2 ^ 32 →
      ∃ ring' buffer', read_loop capacity fuel ring buffer copied remaining =
          some (ring', buffer', copied + remaining) ∧ ring'.Sound capacity ∧
        ring'.contents = ring.contents.drop remaining ∧
        write_at buffer copied (ring.contents.take remaining) = some buffer' := by
  induction fuel with
  | zero =>
    intro ring buffer copied remaining h hfuel _ hfits _
    obtain rfl : remaining = 0 := by omega
    refine ⟨ring, buffer, rfl, h, rfl, ?_⟩
    rw [List.take_zero, write_at_eq_some (by simpa using hfits)]
    simp
  | succ fuel ih =>
    intro ring buffer copied remaining h hfuel hbuffered hfits hcopied
    unfold read_loop
    split
    · rename_i hnone
      subst hnone
      refine ⟨ring, buffer, rfl, h, rfl, ?_⟩
      rw [List.take_zero, write_at_eq_some (by simpa using hfits)]
      simp
    · have hread := h.read
      have hlimit := h.buffered
      dsimp only
      rw [ulong_sub_eq hread.le (by omega)]
      obtain ⟨run, hrun⟩ : ∃ run, run = min remaining (capacity - ring.read_offset) := ⟨_, rfl⟩
      have hle : run ≤ ring.buffered := by omega
      have hlength : (ring.contents.take run).length = run := by
        rw [List.length_take, h.length_contents]
        omega
      obtain ⟨first, hfirst⟩ : ∃ first, write_at buffer copied (ring.contents.take run) = some first :=
        ⟨_, write_at_eq_some (by omega)⟩
      have hbuffer := write_at_length hfirst
      rw [← hrun, h.read_at_front hle (by omega)]
      simp only [Option.bind_eq_bind, Option.bind_some, hfirst]
      rw [ulong_add_eq (by omega), ulong_add_eq (by omega), ulong_sub_eq hle (by omega),
        ulong_sub_eq (by omega) (by omega)]
      obtain ⟨ring', buffer', hloop, hsound, hcontents, hrest⟩ := ih _ first (copied + run)
        (remaining - run) (h.forget hle) (by omega) (by simp only [Ring.forget]; omega) (by omega)
        (by omega)
      refine ⟨ring', buffer', ?_, hsound, ?_, ?_⟩
      · rw [show copied + remaining = copied + run + (remaining - run) by omega, ← hloop]
        rfl
      · rw [hcontents, h.contents_forget hle, List.drop_drop]
        congr 1
        omega
      · rw [h.contents_forget hle] at hrest
        have htwo : ring.contents.take remaining =
            ring.contents.take run ++ (ring.contents.drop run).take (remaining - run) := by
          rw [← List.take_add]
          congr 1
          omega
        rw [htwo]
        exact write_at_append hfirst (by rwa [hlength])

/-- A write puts its bytes behind what the ring holds, in as many runs as it needs. -/
theorem write_loop_eq (source : List UInt8) (fuel : Nat) :
    ∀ (ring : rings.Ring UInt8) (cursor remaining : Nat), ring.Sound capacity → remaining ≤ fuel →
      ring.buffered + remaining ≤ capacity → cursor + remaining ≤ source.length →
      ∃ ring', write_loop capacity fuel ring source cursor remaining = some ring' ∧
        ring'.Sound capacity ∧
        ring'.contents = ring.contents ++ (source.drop cursor).take remaining := by
  induction fuel with
  | zero =>
    intro ring cursor remaining h hfuel _ _
    obtain rfl : remaining = 0 := by omega
    exact ⟨ring, rfl, h, by simp⟩
  | succ fuel ih =>
    intro ring cursor remaining h hfuel hroom hsource
    unfold write_loop
    split
    · rename_i hnone
      subst hnone
      exact ⟨ring, rfl, h, by simp⟩
    · have hwrite : ring.write_offset < capacity := by
        rw [h.write]
        exact Nat.mod_lt _ (Nat.zero_lt_of_lt h.read)
      dsimp only
      rw [ulong_sub_eq hwrite.le (by omega)]
      obtain ⟨run, hrun⟩ : ∃ run, run = min remaining (capacity - ring.write_offset) := ⟨_, rfl⟩
      have hlength : ((source.drop cursor).take run).length = run := by
        rw [List.length_take, List.length_drop]
        omega
      obtain ⟨memory, hmemory⟩ : ∃ memory, write_at ring.memory ring.write_offset
          ((source.drop cursor).take run) = some memory :=
        ⟨_, write_at_eq_some (by rw [hlength, h.memory]; omega)⟩
      rw [← hrun, read_at_eq_some (by omega)]
      simp only [Option.bind_eq_bind, Option.bind_some, hmemory]
      rw [ulong_add_eq (by omega), ulong_add_eq (by omega), ulong_sub_eq (by omega) (by omega)]
      have hput := h.put (by omega) hmemory
      have hcontents := h.contents_put (by omega) hmemory (by omega)
      rw [hlength] at hput hcontents
      obtain ⟨ring', hloop, hsound, hrest⟩ := ih _ (cursor + run) (remaining - run) hput (by omega)
        (by simp only [Ring.put]; omega) (by omega)
      refine ⟨ring', hloop, hsound, ?_⟩
      rw [hrest, hcontents, List.append_assoc, ← List.drop_drop, ← List.take_add]
      congr 2
      omega

variable {ring : rings.Ring UInt8}

/-- A read gives the oldest bytes that fit, and leaves the others. -/
theorem read_ring_eq (h : ring.Sound capacity) {buffer : List UInt8} {byte_count : Nat}
    (hfits : byte_count ≤ buffer.length) :
    ∃ ring' buffer', read_ring capacity ring buffer byte_count =
        some (ring', buffer', min byte_count ring.buffered) ∧ ring'.Sound capacity ∧
      ring'.contents = ring.contents.drop (min byte_count ring.buffered) ∧
      buffer' = ring.contents.take (min byte_count ring.buffered) ++
        buffer.drop (min byte_count ring.buffered) := by
  have hlimit := h.buffered
  obtain ⟨ring', buffer', hloop, hsound, hcontents, hwrite⟩ := read_loop_eq hcapacity
    (min byte_count ring.buffered) ring buffer 0 (min byte_count ring.buffered) h le_rfl
    (Nat.min_le_right _ _) (by omega) (by omega)
  have hlength : (ring.contents.take (min byte_count ring.buffered)).length =
      min byte_count ring.buffered := by
    rw [List.length_take, h.length_contents]
    omega
  refine ⟨ring', buffer', by rwa [Nat.zero_add] at hloop, hsound, hcontents, ?_⟩
  rw [write_at_eq_some (by omega), hlength] at hwrite
  simpa using (Option.some.inj hwrite).symm

/-- Where the oldest bytes are dropped, room is made for the write. -/
theorem make_room_eq {limit : Nat} (hlimit : limit ≤ capacity) (h : ring.Sound capacity)
    (hbuffered : ring.buffered ≤ limit) {remaining : Nat} (hremaining : remaining ≤ limit) :
    (make_room capacity limit ring remaining).2 ≤ ring.buffered ∧
      (make_room capacity limit ring remaining).1.Sound capacity ∧
      (make_room capacity limit ring remaining).1.contents =
        ring.contents.drop (make_room capacity limit ring remaining).2 ∧
      (make_room capacity limit ring remaining).2 = remaining - (limit - ring.buffered) ∧
      (make_room capacity limit ring remaining).1.buffered = ring.buffered - (make_room capacity limit ring remaining).2 := by
  have hread := h.read
  unfold make_room
  rw [ulong_sub_eq hbuffered (by omega)]
  split
  · have hle : remaining - (limit - ring.buffered) ≤ ring.buffered := by omega
    dsimp only
    rw [ulong_sub_eq (by omega) (by omega), ulong_sub_eq hle (by omega), ulong_add_eq (by omega)]
    exact ⟨hle, h.forget hle, h.contents_forget hle, rfl, rfl⟩
  · exact ⟨Nat.zero_le _, h, rfl, by omega, rfl⟩

/-- A write keeps the newest bytes, up to the limit of the ring; what it drops is the oldest. -/
theorem write_ring_eq {limit : Nat} (hlimit : limit ≤ capacity) (h : ring.Sound capacity)
    (hbuffered : ring.buffered ≤ limit) {source : List UInt8} {cursor byte_count : Nat}
    (hcount : byte_count < 2 ^ 32) (hsource : cursor + byte_count ≤ source.length) :
    ∃ ring' dropped, write_ring capacity limit ring source cursor byte_count =
        some (ring', dropped) ∧ ring'.Sound capacity ∧ ring'.buffered ≤ limit ∧
      (ring'.buffered + dropped = ring.buffered + byte_count ∧ dropped = ring.buffered + byte_count - limit) ∧
      ring'.contents = (ring.contents ++ (source.drop cursor).take byte_count).drop dropped := by
  have hskipped := skipped_bytes_eq limit hcount
  have hremaining : ulong_sub byte_count (byte_count - limit) = min byte_count limit := by
    rw [ulong_sub_eq (by omega) hcount]
    omega
  obtain ⟨hdrop, hroom, hkept, hdropped, hleft⟩ := make_room_eq hcapacity hlimit h hbuffered
    (Nat.min_le_right byte_count limit)
  obtain ⟨ring', hloop, hsound, hcontents⟩ := write_loop_eq hcapacity source (min byte_count limit) _
    (cursor + (byte_count - limit)) (min byte_count limit) hroom le_rfl (by omega) (by omega)
  have hlength := congrArg List.length hcontents
  rw [hsound.length_contents, List.length_append, hroom.length_contents, List.length_take,
    List.length_drop] at hlength
  refine ⟨ring', byte_count - limit + (make_room capacity limit ring (min byte_count limit)).2, ?_,
    hsound, by omega, by omega, ?_⟩
  · unfold write_ring
    dsimp only
    rw [hskipped, hremaining, hloop]
    rfl
  · rw [hcontents, hkept]
    by_cases hskip : byte_count ≤ limit
    · rw [Nat.sub_eq_zero_of_le hskip, Nat.min_eq_left hskip, Nat.add_zero, Nat.zero_add]
      rw [Nat.min_eq_left hskip] at hdrop
      exact (List.drop_append_of_le_length (by rw [h.length_contents]; exact hdrop)).symm
    · -- A write larger than the limit drops all that the ring holds.
      have hall : (make_room capacity limit ring (min byte_count limit)).2 =
          ring.contents.length := by
        rw [h.length_contents]
        omega
      rw [hall, List.drop_length, List.nil_append, Nat.add_comm (byte_count - limit),
        List.drop_length_add_append, List.drop_take, List.drop_drop]
      congr 1
      omega

end

end

end omni_translate.omni_bridge_ring

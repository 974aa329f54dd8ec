-- Registers that keep the write with the greatest stamp, and pass over a write whose key
-- was written before: when they end with the greatest write in every order of arrival.
import Mathlib.Data.Finset.Insert
import OmniTranslate.Runs

namespace registers

open runs

variable {σ α κ : Type} [LinearOrder σ] [DecidableEq κ]

structure Write (σ α : Type) where
  stamp : σ
  value : α

/-- The write that is shown, and the keys of those that were. -/
structure Register (σ α κ : Type) where
  current : Option (Write σ α)
  seen : Finset κ

-- The stamps whose writes are checked for a repetition, and the key of a value.
variable (checked : σ → Bool) (value_key : α → Option κ)

/-- The key under which a write is checked. -/
def Write.key (w : Write σ α) : Option κ := if checked w.stamp then value_key w.value else none

namespace Register

def empty : Register σ α κ := ⟨none, ∅⟩

/-- A write with the same key was shown before. -/
def Repeats (r : Register σ α κ) (w : Write σ α) : Prop := ∃ k ∈ w.key checked value_key, k ∈ r.seen

instance (r : Register σ α κ) (w : Write σ α) : Decidable (r.Repeats checked value_key w) :=
  decidable_of_iff ((w.key checked value_key).any (· ∈ r.seen) = true)
    (by simp [Repeats, Option.any_eq_true])

/-- Nothing newer is shown. -/
def Takes (r : Register σ α κ) (w : Write σ α) : Prop := ∀ c ∈ r.current, c.stamp ≤ w.stamp

instance (r : Register σ α κ) (w : Write σ α) : Decidable (r.Takes w) := by
  unfold Takes
  infer_instance

def show_write (r : Register σ α κ) (w : Write σ α) : Register σ α κ :=
  ⟨some w, ((w.key checked value_key).map (insert · r.seen)).getD r.seen⟩

def write (r : Register σ α κ) (w : Write σ α) : Register σ α κ :=
  if r.Repeats checked value_key w then r
  else if r.Takes w then r.show_write checked value_key w
  else r

variable {checked value_key}

theorem write_cases (r : Register σ α κ) (w : Write σ α) :
    (r.write checked value_key w = r ∧
        (r.Repeats checked value_key w ∨ ∃ c ∈ r.current, w.stamp < c.stamp)) ∨
      (¬ r.Repeats checked value_key w ∧ (∀ c ∈ r.current, c.stamp ≤ w.stamp) ∧
        r.write checked value_key w = r.show_write checked value_key w) := by
  unfold write
  split
  · exact Or.inl ⟨rfl, Or.inl ‹_›⟩
  · split
    · exact Or.inr ⟨‹_›, ‹_›, rfl⟩
    · rename_i hold
      unfold Takes at hold
      push Not at hold
      exact Or.inl ⟨rfl, Or.inr hold⟩

variable {r : Register σ α κ}

omit [LinearOrder σ] in
theorem mem_seen_show_write {w : Write σ α} {k : κ} :
    k ∈ (r.show_write checked value_key w).seen ↔
      w.key checked value_key = some k ∨ k ∈ r.seen := by
  unfold show_write
  cases w.key checked value_key with
  | none => simp
  | some j => simp [eq_comm]

/-! ## What the greatest write meets -/

variable (checked value_key) in
/-- What the register shows has arrived, and so has a write for each key, which is no newer. -/
structure Holds (arrived : List (Write σ α)) (r : Register σ α κ) : Prop where
  current : ∀ c ∈ r.current, c ∈ arrived
  seen : ∀ k ∈ r.seen, ∃ w ∈ arrived, w.key checked value_key = some k ∧
    ∃ c ∈ r.current, w.stamp ≤ c.stamp

theorem Holds.write {arrived : List (Write σ α)} (h : Holds checked value_key arrived r) (w : Write σ α) :
    Holds checked value_key (arrived ++ [w]) (r.write checked value_key w) := by
  rcases write_cases r w with ⟨hsame, -⟩ | ⟨-, hnewest, hshown⟩
  · rw [hsame]
    refine ⟨fun c hc => List.mem_append_left _ (h.current c hc), fun k hk => ?_⟩
    obtain ⟨v, hv, hrest⟩ := h.seen k hk
    exact ⟨v, List.mem_append_left _ hv, hrest⟩
  · rw [hshown]
    refine ⟨?_, fun k hk => ?_⟩
    · rintro c ⟨⟩
      simp
    · rcases mem_seen_show_write.mp hk with hkey | hseen
      · exact ⟨w, by simp, hkey, w, rfl, le_rfl⟩
      · obtain ⟨v, hv, hkey, c, hc, hle⟩ := h.seen k hseen
        exact ⟨v, List.mem_append_left _ hv, hkey, w, rfl, hle.trans (hnewest c hc)⟩

variable (checked value_key) in
theorem run_holds (order : List (Write σ α)) :
    Holds checked value_key order (run (write checked value_key) empty order) := by
  induction order using List.reverseRecOn with
  | nil => exact ⟨nofun, fun k hk => absurd hk (Finset.notMem_empty k)⟩
  | append_singleton order w ih =>
    rw [run_snoc]
    exact ih.write w

variable (checked value_key) in
/-- After the first write something is shown. -/
theorem shown_of_ne_nil {order : List (Write σ α)} (h : order ≠ []) :
    ∃ c, (run (write checked value_key) empty order).current = some c := by
  cases order using List.reverseRecOn with
  | nil => exact absurd rfl h
  | append_singleton order w =>
    rw [run_snoc]
    rcases write_cases (run (write checked value_key) empty order) w with
      ⟨hsame, ⟨k, -, hseen⟩ | ⟨c, hc, -⟩⟩ | ⟨-, -, hshown⟩
    · obtain ⟨-, -, -, c, hc, -⟩ := (run_holds checked value_key order).seen k hseen
      exact ⟨c, by rw [hsame]; exact hc⟩
    · exact ⟨c, by rw [hsame]; exact hc⟩
    · exact ⟨w, by rw [hshown]; rfl⟩

variable (checked value_key) in
/-- The greatest write is shown, unless it repeats one that is no newer than what is shown. -/
theorem shown_or_repeated {m : Write σ α} (order : List (Write σ α)) (hnodup : order.Nodup)
    (hmax : ∀ w ∈ order, w ≠ m → w.stamp < m.stamp) (hm : m ∈ order) :
    (run (write checked value_key) empty order).current = some m ∨
      ∃ v ∈ order, v ≠ m ∧ v.key checked value_key = m.key checked value_key ∧
        m.key checked value_key ≠ none ∧
        ∃ c ∈ (run (write checked value_key) empty order).current, v.stamp ≤ c.stamp := by
  induction order using List.reverseRecOn with
  | nil => cases hm
  | append_singleton order w ih =>
    rw [List.nodup_append] at hnodup
    rw [run_snoc]
    have hholds := run_holds checked value_key order
    by_cases hw : w = m
    · subst hw
      have hnew : w ∉ order := fun h => hnodup.2.2 w h w (by simp) rfl
      rcases write_cases (run (write checked value_key) empty order) w with
        ⟨hsame, ⟨k, hk, hseen⟩ | ⟨c, hc, hlt⟩⟩ | ⟨-, -, hshown⟩
      · obtain ⟨v, hv, hkey, c, hc, hle⟩ := hholds.seen k hseen
        rw [hsame]
        refine Or.inr ⟨v, List.mem_append_left _ hv, fun heq => hnew (heq ▸ hv), hkey.trans hk.symm,
          by rw [hk]; simp, c, hc, hle⟩
      · have hc := hholds.current c hc
        exact absurd hlt (hmax c (List.mem_append_left _ hc) (fun heq => hnew (heq ▸ hc))).not_gt
      · rw [hshown]
        exact Or.inl rfl
    · have hm : m ∈ order := by simpa [Ne.symm hw] using hm
      have hlt := hmax w (by simp) hw
      rcases ih hnodup.1 (fun v hv => hmax v (List.mem_append_left _ hv)) hm with
        hcurrent | ⟨v, hv, hne, hkey, hsome, c, hc, hle⟩
      · rcases write_cases (run (write checked value_key) empty order) w with
          ⟨hsame, -⟩ | ⟨-, hnewest, -⟩
        · rw [hsame]
          exact Or.inl hcurrent
        · exact absurd hlt (hnewest m hcurrent).not_gt
      · refine Or.inr ⟨v, List.mem_append_left _ hv, hne, hkey, hsome, ?_⟩
        rcases write_cases (run (write checked value_key) empty order) w with
          ⟨hsame, -⟩ | ⟨-, hnewest, hshown⟩
        · rw [hsame]
          exact ⟨c, hc, hle⟩
        · rw [hshown]
          exact ⟨w, rfl, hle.trans (hnewest c hc)⟩

/-! ## A repetition that comes too early -/

variable (checked value_key) in
/-- After a write and a repetition of it: either the first is still shown, or one with another key. -/
def Stays (first : Write σ α) (k : κ) (arrived : List (Write σ α)) (r : Register σ α κ) : Prop :=
  (r = ⟨some first, {k}⟩ ∧
      ∀ w ∈ arrived, first.stamp < w.stamp → w.key checked value_key = some k) ∨
    (k ∈ r.seen ∧ ∃ c ∈ r.current, first.stamp < c.stamp ∧ c.key checked value_key ≠ some k)

theorem Stays.write {first : Write σ α} {k : κ} {arrived : List (Write σ α)}
    (h : Stays checked value_key first k arrived r) {w : Write σ α} (hne : w.stamp ≠ first.stamp) :
    Stays checked value_key first k (arrived ++ [w]) (r.write checked value_key w) := by
  rcases write_cases r w with ⟨hsame, hwhy⟩ | ⟨hother, hnewest, hshown⟩
  · rw [hsame]
    rcases h with ⟨rfl, hall⟩ | hlater
    · refine Or.inl ⟨rfl, fun v hv => ?_⟩
      rcases List.mem_append.mp hv with hv | hv
      · exact hall v hv
      · obtain rfl := List.mem_singleton.mp hv
        intro hlt
        rcases hwhy with ⟨j, hj, hseen⟩ | ⟨c, hc, hold⟩
        · rwa [Finset.mem_singleton.mp hseen] at hj
        · cases hc
          exact absurd hlt hold.not_gt
    · exact Or.inr hlater
  · rw [hshown]
    have hk : k ∈ r.seen := by
      rcases h with ⟨rfl, -⟩ | ⟨hk, -⟩
      · exact Finset.mem_singleton_self k
      · exact hk
    refine Or.inr ⟨mem_seen_show_write.mpr (Or.inr hk), w, rfl, ?_, fun hkey => hother ⟨k, hkey, hk⟩⟩
    rcases h with ⟨rfl, -⟩ | ⟨-, c, hc, hlt, -⟩
    · exact lt_of_le_of_ne (hnewest first rfl) hne.symm
    · exact hlt.trans_le (hnewest c hc)

theorem stays {first m : Write σ α} {k : κ} (hfirst : first.key checked value_key = some k)
    (hm : m.key checked value_key = some k) (rest : List (Write σ α))
    (hrest : ∀ w ∈ rest, w.stamp ≠ first.stamp) :
    Stays checked value_key first k (m :: rest)
      (run (write checked value_key) empty (first :: m :: rest)) := by
  induction rest using List.reverseRecOn with
  | nil =>
    have hshown : (empty : Register σ α κ).write checked value_key first = ⟨some first, {k}⟩ := by
      simp [write, Repeats, Takes, empty, show_write, hfirst]
    have hrepeated : (⟨some first, {k}⟩ : Register σ α κ).write checked value_key m =
        ⟨some first, {k}⟩ := by
      simp [write, Repeats, hm]
    refine Or.inl ⟨?_, fun w hw _ => ?_⟩
    · rw [run_cons, run_cons, run_nil, hshown, hrepeated]
    · rw [List.mem_singleton.mp hw, hm]
  | append_singleton rest w ih =>
    rw [← List.cons_append, ← List.cons_append, run_snoc]
    exact (ih fun v hv => hrest v (List.mem_append_left _ hv)).write (hrest w (by simp))

/-! ## Every order -/

variable (checked value_key) in
/-- Every write from one that the greatest repeats on has the value of the greatest. -/
def Settles (writes : List (Write σ α)) (m : Write σ α) : Prop :=
  ∀ v ∈ writes, v.stamp < m.stamp → v.key checked value_key ≠ none →
    v.key checked value_key = m.key checked value_key →
    ∀ x ∈ writes, v.stamp ≤ x.stamp → x.stamp < m.stamp → x.value = m.value

/-- An order in which the register does not end with the value of the greatest write. -/
theorem strays (hchecked : ∀ a b, a ≤ b → checked a = true → checked b = true)
    {writes : List (Write σ α)} (hdistinct : (writes.map Write.stamp).Nodup)
    {m first : Write σ α} (hm : m ∈ writes) (hfirst : first ∈ writes) (hlt : first.stamp < m.stamp)
    {k : κ} (hkey : first.key checked value_key = some k) (hsame : m.key checked value_key = some k)
    (hstray : first.value ≠ m.value ∨
      ∃ x ∈ writes, first.stamp < x.stamp ∧ x.key checked value_key ≠ some k) :
    ∃ order, order.Perm writes ∧
      ¬ ∃ c ∈ (run (write checked value_key) empty order).current, c.value = m.value := by
  obtain ⟨before, after, rfl⟩ := List.append_of_mem hfirst
  have hm' : m ∈ before ++ after := by
    rcases List.mem_append.mp hm with h | h
    · exact List.mem_append_left _ h
    · rcases List.mem_cons.mp h with rfl | h
      · exact absurd hlt (lt_irrefl _)
      · exact List.mem_append_right _ h
  obtain ⟨left, right, hsplit⟩ := List.append_of_mem hm'
  have hperm : (first :: m :: (left ++ right)).Perm (before ++ first :: after) := by
    refine List.Perm.trans ?_ List.perm_middle.symm
    rw [hsplit]
    exact List.Perm.cons _ List.perm_middle.symm
  have hnodup := ((hperm.map Write.stamp).nodup_iff).mpr hdistinct
  rw [List.map_cons, List.nodup_cons] at hnodup
  refine ⟨_, hperm, ?_⟩
  have hstays := stays hkey hsame (left ++ right) fun w hw heq =>
    hnodup.1 (heq ▸ List.mem_map_of_mem (List.mem_cons_of_mem m hw))
  rintro ⟨c, hc, hvalue⟩
  rcases hstays with ⟨hr, hall⟩ | ⟨-, c', hc', hnewer, hother⟩
  · rw [hr] at hc
    cases hc
    rcases hstray with hne | ⟨x, hx, hlater, hother⟩
    · exact hne hvalue
    · refine hother (hall x ?_ hlater)
      rcases List.mem_cons.mp (hperm.mem_iff.mpr hx) with rfl | hx
      · exact absurd hlater (lt_irrefl _)
      · exact hx
  · cases hc.symm.trans hc'
    refine hother ?_
    unfold Write.key at hkey hsame ⊢
    split at hkey
    · rename_i hyes
      rw [if_pos (hchecked _ _ hnewer.le hyes), hvalue]
      rwa [if_pos (hchecked _ _ hlt.le hyes)] at hsame
    · cases hkey

/-- In every order of arrival the register ends with the value of the greatest write, exactly when
the writes settle. -/
theorem ends_with_the_greatest_iff (hchecked : ∀ a b, a ≤ b → checked a = true → checked b = true)
    {writes : List (Write σ α)} (hdistinct : (writes.map Write.stamp).Nodup)
    {m : Write σ α} (hm : m ∈ writes) (hmax : ∀ w ∈ writes, w.stamp ≤ m.stamp) :
    (∀ order, order.Perm writes →
        ∃ c ∈ (run (write checked value_key) empty order).current, c.value = m.value) ↔
      Settles checked value_key writes m := by
  have hsame : ∀ v ∈ writes, ∀ w ∈ writes, v.stamp = w.stamp → v = w := fun v hv w hw heq =>
    List.inj_on_of_nodup_map hdistinct hv hw heq
  constructor
  · intro hall v hv hlt hsome hkey x hx hle hbelow
    by_contra hvalue
    obtain ⟨k, hk⟩ := Option.ne_none_iff_exists'.mp hsome
    have hmkey := hkey.symm.trans hk
    by_cases hxkey : x.key checked value_key = some k
    · obtain ⟨order, hperm, hnot⟩ := strays hchecked hdistinct hm hx hbelow hxkey hmkey
        (Or.inl hvalue)
      exact hnot (hall order hperm)
    · have hne : v.stamp ≠ x.stamp := fun heq => hxkey (hsame v hv x hx heq ▸ hk)
      obtain ⟨order, hperm, hnot⟩ := strays hchecked hdistinct hm hv hlt hk hmkey
        (Or.inr ⟨x, hx, lt_of_le_of_ne hle hne, hxkey⟩)
      exact hnot (hall order hperm)
  · intro hsettles order hperm
    have hnodup : order.Nodup := hperm.nodup_iff.mpr (List.Nodup.of_map _ hdistinct)
    have hbelow : ∀ w ∈ order, w ≠ m → w.stamp < m.stamp := fun w hw hne =>
      lt_of_le_of_ne (hmax w (hperm.mem_iff.mp hw)) fun heq =>
        hne (hsame w (hperm.mem_iff.mp hw) m hm heq)
    rcases shown_or_repeated checked value_key order hnodup hbelow
      (hperm.mem_iff.mpr hm) with hcurrent | ⟨v, hv, hne, hkey, hsome, c, hc, hle⟩
    · exact ⟨m, hcurrent, rfl⟩
    · have harrived := (run_holds checked value_key order).current c hc
      by_cases hcm : c = m
      · exact ⟨c, hc, by rw [hcm]⟩
      · exact ⟨c, hc, hsettles v (hperm.mem_iff.mp hv) (hbelow v hv hne) (hkey ▸ hsome) hkey c
          (hperm.mem_iff.mp harrived) hle (hbelow c harrived hcm)⟩

end Register

end registers

-- What the revisions of the credential authority say: a read whose revision
-- is still current began when no write was in progress, and none began since.
import OmniTranslate.CredentialAuthority
import OmniTranslate.Moments
import Mathlib.Data.List.Perm.Basic

namespace omni_translate.credential_verification

open maps runs moments

variable {Settings Cache : Type}
variable {s : Session Settings Cache} {ops : List (Op Settings Cache)} {op : Op Settings Cache}
variable {key revision : String}

/-! ## The table of revisions -/

section table

variable {state : Authority Settings Cache} {reference fresh : String}

@[simp] theorem revision_locked_proofs : (revision_locked state reference fresh).1.proofs = state.proofs := by
  unfold revision_locked
  split <;> rfl

/-- A missing revision is drawn, and no other changes. -/
theorem lookup_locked (k : String) :
    (revision_locked state reference fresh).1.revisions.lookup k =
      if k = reference then some ((state.revisions.lookup k).getD (fresh, 0))
      else state.revisions.lookup k := by
  unfold revision_locked
  by_cases hk : k = reference
  · subst hk
    rw [if_pos rfl]
    rcases hentry : state.revisions.lookup k with _ | _
    · exact AList.lookup_insert _
    · exact hentry
  · rw [if_neg hk]
    split
    · rfl
    · exact AList.lookup_insert_ne hk

/-- The revision is given out while no write of the reference is pending. -/
theorem locked_revision :
    (revision_locked state reference fresh).2 = some revision ↔
      (revision_locked state reference fresh).1.revisions.lookup reference = some (revision, 0) := by
  unfold revision_locked
  rcases hentry : state.revisions.lookup reference with _ | ⟨_, pending⟩
  · simp [eq_comm]
  · by_cases hp : pending = 0
    · simp [hp, hentry]
    · simp [hp, hentry]

end table

/-- The entry of a reference in the table. -/
def entry (key : String) (s : Session Settings Cache) : Option (String × Nat) :=
  s.authority.revisions.lookup key

/-- The identifier that an operation has at hand for a new revision. -/
def fresh_of : Op Settings Cache → List String
  | .write_begins _ fresh => [fresh]
  | .write_drops _ fresh => [fresh]
  | .read_begins _ _ fresh => [fresh]
  | .read_ends _ _ fresh => [fresh]
  | .attests _ _ _ fresh _ => [fresh]
  | _ => []

/-- The identifiers of a run are distinct. -/
def Fresh (ops : List (Op Settings Cache)) : Prop := (ops.flatMap fresh_of).Nodup

theorem locked_entry {state : Authority Settings Cache} {reference fresh : String} (k : String) :
    (revision_locked state reference fresh).1.revisions.lookup k = state.revisions.lookup k ∨
      state.revisions.lookup k = none ∧
        (revision_locked state reference fresh).1.revisions.lookup k = some (fresh, 0) := by
  rw [lookup_locked]
  by_cases hk : k = reference
  · rw [if_pos hk]
    rcases state.revisions.lookup k with _ | _
    · exact .inr ⟨rfl, rfl⟩
    · exact .inl rfl
  · exact .inl (if_neg hk)

/-- What a read leaves in the table: it only locks it. -/
theorem entry_read_ends (thread : Nat) (has_secret : Bool) (fresh : String) (k : String) :
    entry k (read_ends s thread has_secret fresh) = entry k s ∨
      entry k s = none ∧ entry k (read_ends s thread has_secret fresh) = some (fresh, 0) := by
  unfold read_ends
  split
  · exact .inl rfl
  · exact locked_entry k

variable [Inhabited Cache] {is_known_model : ProviderDraftInput Settings Cache → Bool}

@[simp] theorem attest_revisions {state : Authority Settings Cache} {reads : List Reads}
    {provider : ProviderDraftInput Settings Cache} {result : ProviderProbeProfileRuntime}
    {fresh receipt : String} :
    (attest is_known_model state reads provider result fresh receipt).1.revisions =
      (revision_locked state (reference_key provider.auth_ref.reference) fresh).1.revisions := by
  unfold attest
  split <;> rfl

variable (is_known_model) in
/-- An entry changes to a new revision, or not at all. -/
theorem entry_step (s : Session Settings Cache) (op : Op Settings Cache) (k : String) :
    entry k (step is_known_model s op) = entry k s ∨
      ∃ fresh ∈ fresh_of op, ∃ pending, entry k (step is_known_model s op) = some (fresh, pending) := by
  cases op with
  | write_begins reference fresh =>
    by_cases hk : k = reference_key reference
    · subst hk
      exact .inr ⟨fresh, List.mem_singleton_self _, _, AList.lookup_insert _⟩
    · exact .inl (AList.lookup_insert_ne hk)
  | write_drops _ fresh =>
    unfold step
    dsimp only
    split
    · exact .inl rfl
    · next reference _ =>
      unfold entry write_dropped
      split
      · by_cases hk : k = reference
        · subst hk
          exact .inr ⟨fresh, List.mem_singleton_self _, _, AList.lookup_insert _⟩
        · exact .inl (AList.lookup_insert_ne hk)
      · exact .inl rfl
  | read_begins thread reference fresh =>
    rcases @locked_entry _ _ s.authority (reference_key reference) fresh k with h | ⟨-, h⟩
    · exact .inl h
    · exact .inr ⟨fresh, List.mem_singleton_self _, 0, h⟩
  | read_ends thread has_secret fresh =>
    rcases @entry_read_ends _ _ s thread has_secret fresh k with h | ⟨-, h⟩
    · exact .inl h
    · exact .inr ⟨fresh, List.mem_singleton_self _, 0, h⟩
  | attests thread provider _ fresh _ =>
    unfold entry step
    dsimp only
    rw [attest_revisions]
    rcases @locked_entry _ _ s.authority
      (reference_key provider.auth_ref.reference) fresh k with h | ⟨-, h⟩
    · exact .inl h
    · exact .inr ⟨fresh, List.mem_singleton_self _, 0, h⟩
  | scope_begins thread => exact .inl rfl
  | scope_drops thread => exact .inl rfl

theorem entry_drawn {pending : Nat} (h : entry key (run (step is_known_model) start ops) = some (revision, pending)) :
    revision ∈ ops.flatMap fresh_of := by
  induction ops using List.reverseRecOn generalizing pending with
  | nil => exact absurd h (by simp [entry, start])
  | append_singleton ops op ih =>
    rw [List.flatMap_append, List.mem_append]
    rw [run_snoc] at h
    rcases entry_step is_known_model (run (step is_known_model) start ops) op key with
      hsame | ⟨fresh, hfresh, p, hnew⟩
    · exact .inl (ih (hsame ▸ h))
    · rw [hnew, Option.some.injEq, Prod.mk.injEq] at h
      exact .inr (by simpa [← h.1] using hfresh)

/-! ## Writes -/

/-- The count of an entry is the number of writes that are not dropped. -/
def Counted (s : Session Settings Cache) : Prop :=
  ∀ k, (entry k s).elim 0 Prod.snd = s.writes.count k

omit [Inhabited Cache] in
theorem Counted.of_entry {s' : Session Settings Cache} (h : Counted s) (hwrites : s'.writes = s.writes)
    (hentry : ∀ k, entry k s' = entry k s ∨
      ∃ fresh, entry k s = none ∧ entry k s' = some (fresh, 0)) : Counted s' := by
  intro k
  rw [hwrites, ← h k]
  rcases hentry k with hsame | ⟨fresh, hnone, hnew⟩
  · rw [hsame]
  · rw [hnone, hnew]
    rfl

omit [Inhabited Cache] in
theorem count_write_begun (h : Counted s) (reference fresh : String) (k : String) :
    ((write_begun s.authority reference fresh).revisions.lookup k).elim 0 Prod.snd =
      (s.writes ++ [reference]).count k := by
  rw [List.count_append, List.count_singleton, ← h k]
  by_cases hk : k = reference
  · subst hk
    rw [write_begun, AList.lookup_insert, beq_self_eq_true, if_pos rfl]
    unfold entry
    rcases s.authority.revisions.lookup k with _ | _ <;> rfl
  · rw [write_begun, AList.lookup_insert_ne hk, if_neg (by simpa using Ne.symm hk)]
    rfl

omit [Inhabited Cache] in
theorem count_write_dropped (h : Counted s) {write : Nat} {reference : String}
    (hwrite : s.writes[write]? = some reference) (fresh : String) (k : String) :
    ((write_dropped s.authority reference fresh).revisions.lookup k).elim 0 Prod.snd =
      (s.writes.eraseIdx write).count k := by
  obtain ⟨hlt, hget⟩ := List.getElem?_eq_some_iff.mp hwrite
  have hall := ((List.getElem_cons_eraseIdx_perm hlt).count_eq k).symm
  rw [hget, List.count_cons, ← h k] at hall
  by_cases hk : k = reference
  · subst hk
    rw [beq_self_eq_true, if_pos rfl] at hall
    unfold entry at hall
    unfold write_dropped
    rcases hentry : s.authority.revisions.lookup k with _ | ⟨_, _⟩
    · rw [hentry, Option.elim_none] at hall
      omega
    · rw [hentry, Option.elim_some] at hall
      simp only [AList.lookup_insert, Option.elim_some]
      omega
  · rw [if_neg (by simpa using Ne.symm hk), Nat.add_zero] at hall
    rw [← hall]
    unfold entry write_dropped
    split
    · rw [AList.lookup_insert_ne hk]
    · rfl

theorem Counted.step (h : Counted s) (op : Op Settings Cache) :
    Counted (step is_known_model s op) := by
  cases op with
  | write_begins reference fresh => exact count_write_begun h (reference_key reference) fresh
  | write_drops _ fresh =>
    unfold credential_verification.step
    dsimp only
    split
    · exact h
    · next hwrite => exact count_write_dropped h hwrite fresh
  | read_begins thread reference fresh =>
    refine h.of_entry rfl fun k => ?_
    exact (locked_entry k).imp_right fun hnew => ⟨fresh, hnew⟩
  | read_ends thread has_secret fresh =>
    refine h.of_entry ?_ fun k => ?_
    · change (read_ends s thread has_secret fresh).writes = s.writes
      unfold read_ends
      split <;> rfl
    · exact (entry_read_ends thread has_secret fresh k).imp_right fun hnew => ⟨fresh, hnew⟩
  | attests thread _ _ fresh _ =>
    refine h.of_entry rfl fun k => ?_
    unfold entry credential_verification.step
    rw [attest_revisions]
    exact (locked_entry k).imp_right fun hnew => ⟨fresh, hnew⟩
  | scope_begins thread => exact h
  | scope_drops thread => exact h

theorem counted (ops : List (Op Settings Cache)) : Counted (run (step is_known_model) start ops) :=
  run_keeps _ Counted (fun _ op h => h.step op) (fun _ => by simp [entry, start]) ops

omit [Inhabited Cache] in
/-- A reference with no pending write is not written. -/
theorem Counted.unwritten (h : Counted s) (hentry : entry key s = some (revision, 0)) : key ∉ s.writes := by
  rw [← List.count_eq_zero, ← h key, hentry]
  rfl

/-- A reference that is written after a step was written before it, or the step began its write. -/
theorem written_step (hin : key ∈ (step is_known_model s op).writes) :
    key ∈ s.writes ∨ ∃ reference fresh, op = .write_begins reference fresh ∧ reference_key reference = key := by
  cases op with
  | write_begins reference fresh =>
    rcases List.mem_append.mp hin with hold | hnew
    · exact .inl hold
    · exact .inr ⟨reference, fresh, rfl, (List.mem_singleton.mp hnew).symm⟩
  | write_drops _ fresh =>
    unfold step at hin
    dsimp only at hin
    split at hin
    · exact .inl hin
    · exact .inl (List.mem_of_mem_eraseIdx hin)
  | read_ends thread has_secret fresh =>
    change key ∈ (read_ends s thread has_secret fresh).writes at hin
    unfold read_ends at hin
    split at hin <;> exact .inl hin
  | _ => exact .inl hin

/-! ## A revision that is still current -/

/-- No write of the reference is in progress. -/
def Unwritten (key : String) (s : Session Settings Cache) : Prop := key ∉ s.writes

/-- While a revision stays in the table, its reference is not written. -/
theorem unwritten_since {j pending : Nat} (hfresh : Fresh ops) (hj : j ≤ ops.length)
    (hthen : entry key (moment (step is_known_model) start ops j) = some (revision, 0))
    (hnow : entry key (run (step is_known_model) start ops) = some (revision, pending)) :
    Through (step is_known_model) start (Unwritten key) ops j ops.length := by
  induction ops using List.reverseRecOn generalizing pending with
  | nil =>
    obtain rfl := Nat.le_zero.mp hj
    exact .here ((counted []).unwritten hthen)
  | append_singleton ops op ih =>
    rcases Nat.lt_or_eq_of_le hj with hlt | rfl
    · rw [List.length_append, List.length_singleton] at hlt ⊢
      have hle : j ≤ ops.length := by omega
      rw [moment_append hle] at hthen
      unfold Fresh at hfresh
      rw [List.flatMap_append, List.nodup_append] at hfresh
      obtain ⟨hold, -, hapart⟩ := hfresh
      have hdrawn : revision ∈ ops.flatMap fresh_of := by
        have htake := entry_drawn hthen
        rw [← List.take_append_drop j ops, List.flatMap_append]
        exact List.mem_append_left _ htake
      -- The step does not draw the revision again, so it has left the entry as it was.
      have hother : ∀ fresh ∈ fresh_of op, fresh ≠ revision := fun fresh hin heq =>
        hapart revision hdrawn fresh (by simpa using hin) heq.symm
      rw [run_snoc] at hnow
      have hsame : entry key (run (step is_known_model) start ops) = some (revision, pending) := by
        rcases entry_step is_known_model (run (step is_known_model) start ops) op key with
          hsame | ⟨fresh, hin, p, hnew⟩
        · rw [← hsame, hnow]
        · rw [hnow, Option.some.injEq, Prod.mk.injEq] at hnew
          exact absurd hnew.1.symm (hother fresh hin)
      have hbefore := ih hold hle hthen hsame
      refine hbefore.snoc fun hin => ?_
      rcases written_step hin with _ | ⟨reference, fresh, rfl, rfl⟩
      · exact hbefore ops.length hle le_rfl (by rwa [moment_length])
      · have hnew : entry (reference_key reference) (step is_known_model
            (run (step is_known_model) start ops) (.write_begins reference fresh)) = some (fresh, _) :=
          AList.lookup_insert _
        rw [hnow, Option.some.injEq, Prod.mk.injEq] at hnew
        exact hother fresh (List.mem_singleton_self _) hnew.1.symm
    · rw [moment_length] at hthen
      refine .here ?_
      rw [moment_length]
      exact (counted _).unwritten hthen

end omni_translate.credential_verification

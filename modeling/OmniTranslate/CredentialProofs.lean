-- The law of the credential authority: a custom model stays ready only by a
-- probe that was attested for it, read its secret, and was not followed by a
-- write of that secret or by another attestation.
import OmniTranslate.CredentialReads

namespace omni_translate.credential_verification

open json maps runs moments

variable {Settings Cache : Type} [Inhabited Cache]
variable (is_known_model : ProviderDraftInput Settings Cache → Bool)
variable {s : Session Settings Cache} {ops more : List (Op Settings Cache)} {op : Op Settings Cache}

/-! ## Calls of a thread -/

/-- The call of `read_with_revision` that stands at a depth of the thread's calls began at `b`. -/
structure Entered (ops : List (Op Settings Cache)) (thread depth : Nat) (reference : String)
    (before : Option String) (b : Nat) : Prop where
  began : ∃ fresh, ops[b]? = some (.read_begins thread reference fresh)
  entered : ((moment (step is_known_model) start ops b).calls thread).length = depth
  within : Through (step is_known_model) start (fun s => depth < (s.calls thread).length) ops (b + 1) ops.length
  current : ∀ revision, before = some revision →
    entry (reference_key reference) (moment (step is_known_model) start ops (b + 1)) = some (revision, 0)

/-- A call that began at `b` ended at `e`, with a secret that is not empty. -/
structure ReadSecret (ops : List (Op Settings Cache)) (thread depth : Nat) (reference : String)
    (b e : Nat) : Prop where
  began : ∃ fresh, ops[b]? = some (.read_begins thread reference fresh)
  entered : ((moment (step is_known_model) start ops b).calls thread).length = depth
  within : Through (step is_known_model) start (fun s => depth < (s.calls thread).length) ops (b + 1) e
  ended : ∃ fresh, ops[e]? = some (.read_ends thread true fresh)
  left : ((moment (step is_known_model) start ops e).calls thread).length = depth + 1
  order : b < e

variable {is_known_model} {thread depth : Nat} {reference : String} {before : Option String} {b e : Nat}

theorem Entered.snoc (h : Entered is_known_model ops thread depth reference before b)
    (hopen : depth < ((step is_known_model (run (step is_known_model) start ops) op).calls thread).length) :
    Entered is_known_model (ops ++ [op]) thread depth reference before b := by
  obtain ⟨⟨fresh, hbegan⟩, hentered, hwithin, hcurrent⟩ := h
  have hlt := lt_of_done hbegan
  refine ⟨⟨fresh, done_append hbegan⟩, ?_, ?_, ?_⟩
  · rw [moment_append (by omega), hentered]
  · rw [List.length_append, List.length_singleton]
    exact hwithin.snoc hopen
  · intro revision hbefore
    rw [moment_append (by omega)]
    exact hcurrent revision hbefore

theorem ReadSecret.append (h : ReadSecret is_known_model ops thread depth reference b e) :
    ReadSecret is_known_model (ops ++ more) thread depth reference b e := by
  obtain ⟨⟨fresh, hbegan⟩, hentered, hwithin, ⟨fresh', hended⟩, hleft, horder⟩ := h
  have hlt := lt_of_done hended
  refine ⟨⟨fresh, done_append hbegan⟩, ?_, hwithin.append (by omega), ⟨fresh', done_append hended⟩, ?_, horder⟩
  · rw [moment_append (by omega), hentered]
  · rw [moment_append (by omega), hleft]

variable {has_secret : Bool}

omit [Inhabited Cache] in
theorem read_ends_idle {fresh : String} (h : (s.calls thread).getLast? = none) :
    read_ends s thread has_secret fresh = s := by
  unfold read_ends
  rw [h]

omit [Inhabited Cache] in
theorem read_ends_call {fresh : String} (h : (s.calls thread).getLast? = some (reference, before)) :
    read_ends s thread has_secret fresh =
      { s with
        authority := (revision_locked s.authority (reference_key reference) fresh).1
        calls := Function.update s.calls thread (s.calls thread).dropLast
        reads := Function.update s.reads thread ((s.reads thread).map (observe reference before
          (revision_locked s.authority (reference_key reference) fresh).2 has_secret)) } := by
  unfold read_ends
  rw [h]

variable (is_known_model) in
theorem calls_step (s : Session Settings Cache) (op : Op Settings Cache) (thread : Nat) :
    (step is_known_model s op).calls thread = s.calls thread ∨
      (∃ reference fresh, op = .read_begins thread reference fresh ∧
        (step is_known_model s op).calls thread =
          s.calls thread ++
            [(reference, (revision_locked s.authority (reference_key reference) fresh).2)]) ∨
      (∃ has_secret fresh, op = .read_ends thread has_secret fresh ∧
        (step is_known_model s op).calls thread = (s.calls thread).dropLast) := by
  cases op with
  | read_begins t reference fresh =>
    by_cases ht : thread = t
    · subst ht
      exact .inr (.inl ⟨reference, fresh, rfl, Function.update_self ..⟩)
    · exact .inl (Function.update_of_ne ht _ _)
  | read_ends t has_secret fresh =>
    rcases hlast : (s.calls t).getLast? with _ | ⟨reference, _⟩
    · exact .inl (by rw [step, read_ends_idle hlast])
    · rw [step, read_ends_call hlast]
      by_cases ht : thread = t
      · subst ht
        exact .inr (.inr ⟨has_secret, fresh, rfl, Function.update_self ..⟩)
      · exact .inl (Function.update_of_ne ht _ _)
  | write_drops _ fresh =>
    unfold step
    dsimp only
    split <;> exact .inl rfl
  | _ => exact .inl rfl

theorem pushed {α : Type} {l : List α} {a x : α} {i : Nat} (h : (l ++ [a])[i]? = some x) :
    l[i]? = some x ∨ (i = l.length ∧ x = a) := by
  rcases Nat.lt_or_ge i l.length with hlt | _
  · rw [List.getElem?_append_left hlt] at h
    exact .inl h
  · have hbound := (List.getElem?_eq_some_iff.mp h).1
    rw [List.length_append, List.length_singleton] at hbound
    obtain rfl : i = l.length := by omega
    rw [List.getElem?_concat_length, Option.some.injEq] at h
    exact .inr ⟨rfl, h.symm⟩

theorem popped {α : Type} {l : List α} {x : α} {i : Nat} (h : l.dropLast[i]? = some x) :
    l[i]? = some x := by
  rw [List.getElem?_dropLast] at h
  split at h
  · exact h
  · cases h

/-- A call that a thread is in began at some moment, and the thread has been in it since. -/
theorem entered_of_call {ops : List (Op Settings Cache)} :
    ∀ {thread depth : Nat} {reference : String} {before : Option String},
      ((run (step is_known_model) start ops).calls thread)[depth]? = some (reference, before) →
        ∃ b, Entered is_known_model ops thread depth reference before b := by
  induction ops using List.reverseRecOn with
  | nil =>
    intro thread depth reference before h
    exact absurd h (by simp [start])
  | append_singleton ops op ih =>
    intro thread depth reference before h
    rw [run_snoc] at h
    have hopen := (List.getElem?_eq_some_iff.mp h).1
    have hold : ((run (step is_known_model) start ops).calls thread)[depth]? = some (reference, before) →
        ∃ b, Entered is_known_model (ops ++ [op]) thread depth reference before b := by
      intro hcall
      obtain ⟨b, hb⟩ := ih hcall
      exact ⟨b, hb.snoc hopen⟩
    rcases calls_step is_known_model (run (step is_known_model) start ops) op thread with
      hsame | ⟨r, fresh, rfl, hnew⟩ | ⟨has_secret, fresh, rfl, hpop⟩
    · exact hold (hsame ▸ h)
    · rw [hnew] at h
      rcases pushed h with hcall | ⟨hdepth, hframe⟩
      · exact hold hcall
      · obtain ⟨rfl, rfl⟩ := hframe
        refine ⟨ops.length, ⟨fresh, List.getElem?_concat_length ..⟩, ?_, ?_, ?_⟩
        · rw [moment_append le_rfl, moment_length, hdepth]
        · rw [List.length_append, List.length_singleton]
          refine .here ?_
          rw [moment_next (List.getElem?_concat_length ..), moment_append le_rfl, moment_length]
          exact hopen
        · intro revision hrevision
          rw [moment_next (List.getElem?_concat_length ..), moment_append le_rfl, moment_length]
          exact locked_revision.mp hrevision
    · exact hold (popped (hpop ▸ h))

/-! ## What a scope observed -/

variable (is_known_model) in
/-- A scope has observed this revision of the reference. -/
structure Observed (ops : List (Op Settings Cache)) (thread level : Nat) (key revision : String) : Prop where
  read : ∃ depth reference b e, reference_key reference = key ∧
    ReadSecret is_known_model ops thread depth reference b e ∧
    entry key (moment (step is_known_model) start ops (b + 1)) = some (revision, 0) ∧
    Through (step is_known_model) start (fun s => level < (s.reads thread).length) ops e ops.length

theorem Observed.snoc {level : Nat} {key revision : String}
    (h : Observed is_known_model ops thread level key revision)
    (hopen : level < ((step is_known_model (run (step is_known_model) start ops) op).reads thread).length) :
    Observed is_known_model (ops ++ [op]) thread level key revision := by
  obtain ⟨depth, reference, b, e, hkey, hread, hentry, hscope⟩ := h
  obtain ⟨_, hended⟩ := hread.ended
  have hlt := lt_of_done hended
  have horder := hread.order
  refine ⟨depth, reference, b, e, hkey, hread.append, ?_, ?_⟩
  · rw [moment_append (by omega), hentry]
  · rw [List.length_append, List.length_singleton]
    exact hscope.snoc hopen

variable (is_known_model) in
/-- How an operation changes the scopes of a thread. -/
theorem reads_step (s : Session Settings Cache) (op : Op Settings Cache) (thread : Nat) :
    (step is_known_model s op).reads thread = s.reads thread ∨
      (step is_known_model s op).reads thread = s.reads thread ++ [(⟨[], false⟩ : Reads)] ∨
      (step is_known_model s op).reads thread = (s.reads thread).dropLast ∨
      (∃ has_secret fresh reference before, op = .read_ends thread has_secret fresh ∧
        (s.calls thread).getLast? = some (reference, before) ∧
        (step is_known_model s op).reads thread = (s.reads thread).map
          (observe reference before
            (revision_locked s.authority (reference_key reference) fresh).2 has_secret)) := by
  cases op with
  | scope_begins t =>
    by_cases ht : thread = t
    · subst ht
      exact .inr (.inl (Function.update_self ..))
    · exact .inl (Function.update_of_ne ht _ _)
  | scope_drops t =>
    by_cases ht : thread = t
    · subst ht
      exact .inr (.inr (.inl (Function.update_self ..)))
    · exact .inl (Function.update_of_ne ht _ _)
  | read_ends t has_secret fresh =>
    rcases hlast : (s.calls t).getLast? with _ | ⟨reference, before⟩
    · exact .inl (by rw [step, read_ends_idle hlast])
    · rw [step, read_ends_call hlast]
      by_cases ht : thread = t
      · subst ht
        exact .inr (.inr (.inr ⟨has_secret, fresh, reference, before, rfl, hlast, Function.update_self ..⟩))
      · exact .inl (Function.update_of_ne ht _ _)
  | write_drops _ fresh =>
    unfold step
    dsimp only
    split <;> exact .inl rfl
  | _ => exact .inl rfl

omit [Inhabited Cache] in
/-- What a scope holds after a read: what it held, or the read, which found a secret while the
revision stayed the same. -/
theorem mem_observe {after : Option String} {scope : Reads} {item : String × String}
    (h : item ∈ (observe reference before after has_secret scope).observed) :
    item ∈ scope.observed ∨
      (has_secret = true ∧ item.1 = reference_key reference ∧ before = some item.2) := by
  unfold observe at h
  split at h
  · next revision =>
    split at h
    · next hboth =>
      rw [Bool.and_eq_true] at hboth
      rcases List.mem_append.mp h with hold | hnew
      · exact .inl hold
      · rw [List.mem_singleton.mp hnew]
        exact .inr ⟨hboth.1, rfl, rfl⟩
    · exact .inl h
  · exact .inl h

theorem observed_of_read {ops : List (Op Settings Cache)} :
    ∀ {thread level : Nat} {scope : Reads} {item : String × String},
      ((run (step is_known_model) start ops).reads thread)[level]? = some scope →
        item ∈ scope.observed → Observed is_known_model ops thread level item.1 item.2 := by
  induction ops using List.reverseRecOn with
  | nil =>
    intro thread level scope item h
    exact absurd h (by simp [start])
  | append_singleton ops op ih =>
    intro thread level scope item h hitem
    rw [run_snoc] at h
    have hopen := (List.getElem?_eq_some_iff.mp h).1
    rcases reads_step is_known_model (run (step is_known_model) start ops) op thread with
      hsame | hnew | hpop | ⟨has_secret, fresh, reference, before, rfl, hlast, hread⟩
    · exact (ih (hsame ▸ h) hitem).snoc hopen
    · rw [hnew] at h
      rcases pushed h with hold | ⟨-, rfl⟩
      · exact (ih hold hitem).snoc hopen
      · cases hitem
    · exact (ih (popped (hpop ▸ h)) hitem).snoc hopen
    · rw [hread, List.getElem?_map, Option.map_eq_some_iff] at h
      obtain ⟨_, hold, rfl⟩ := h
      rcases mem_observe hitem with hbefore | ⟨rfl, hkey, hrevision⟩
      · exact (ih hold hbefore).snoc hopen
      · -- The call that ends is the innermost one of the thread.
        rw [List.getLast?_eq_getElem?] at hlast
        obtain ⟨b, hb⟩ := entered_of_call hlast
        obtain ⟨fresh', hbegan⟩ := hb.began
        have hlt := lt_of_done hbegan
        have hdeep := (List.getElem?_eq_some_iff.mp hlast).1
        refine ⟨_, reference, b, ops.length, hkey.symm,
          ⟨⟨fresh', done_append hbegan⟩, ?_, hb.within.append le_rfl, ⟨fresh, List.getElem?_concat_length ..⟩, ?_, hlt⟩,
          ?_, ?_⟩
        · rw [moment_append (by omega), hb.entered]
        · rw [moment_append le_rfl, moment_length]
          omega
        · rw [moment_append (by omega), hkey]
          exact hb.current item.2 hrevision
        · rw [List.length_append, List.length_singleton]
          refine Through.snoc (.here ?_) hopen
          rw [moment_length]
          exact (List.getElem?_eq_some_iff.mp hold).1

/-! ## Proofs -/

variable (is_known_model) in
/-- At `a` the probe of a provider was attested. -/
def Attested (ops : List (Op Settings Cache)) (thread : Nat) (provider : ProviderDraftInput Settings Cache)
    (result : ProviderProbeProfileRuntime) (receipt : String) (a : Nat) : Prop :=
  ∃ fresh, ops[a]? = some (.attests thread provider result fresh receipt) ∧
    (attested (moment (step is_known_model) start ops a).authority
      ((moment (step is_known_model) start ops a).reads thread) provider result fresh).isSome

variable (is_known_model) in
/-- After `a` another probe of the same provider and template was attested. -/
def Replaced (ops : List (Op Settings Cache)) (provider : ProviderDraftInput Settings Cache) (a : Nat) : Prop :=
  ∃ thread provider' result receipt a', a < a' ∧
    Attested is_known_model ops thread provider' result receipt a' ∧
    provider'.provider_id = provider.provider_id ∧ provider'.template_id = provider.template_id

variable (is_known_model) in
/-- At `e` the scope was open that is the thread's innermost one at `a`. -/
def InScope (ops : List (Op Settings Cache)) (thread e a : Nat) : Prop :=
  ∃ level, ((moment (step is_known_model) start ops a).reads thread).length = level + 1 ∧
    Through (step is_known_model) start (fun s => level < (s.reads thread).length) ops e a

variable {provider : ProviderDraftInput Settings Cache} {a : Nat}

variable {result : ProviderProbeProfileRuntime}

theorem attested_append {receipt : String} (ha : a < ops.length) :
    Attested is_known_model (ops ++ more) thread provider result receipt a ↔
      Attested is_known_model ops thread provider result receipt a := by
  unfold Attested
  rw [List.getElem?_append_left ha, moment_append ha.le]

theorem InScope.append (h : InScope is_known_model ops thread e a) (ha : a ≤ ops.length) :
    InScope is_known_model (ops ++ more) thread e a := by
  obtain ⟨level, hlevel, hopen⟩ := h
  exact ⟨level, by rw [moment_append ha, hlevel], hopen.append ha⟩

variable (is_known_model) in
/-- The proof is the receipt of a probe that was attested at `a`, for a read that began at `b`. -/
structure Backed (ops : List (Op Settings Cache)) (id : String) (proof : Proof Settings Cache)
    (thread : Nat) (provider : ProviderDraftInput Settings Cache) (result : ProviderProbeProfileRuntime)
    (receipt : String) (depth : Nat) (reference : String) (b e a : Nat) : Prop where
  made : Attested is_known_model ops thread provider result receipt a
  under : id = (with_receipt result receipt).id
  of_provider : proof.provider = comparable_provider provider
  of_snapshot : proof.snapshot = snapshot_of (with_receipt result receipt)
  owner : reference_key reference = reference_key provider.auth_ref.reference
  of_reference : proof.reference = reference_key reference
  read : ReadSecret is_known_model ops thread depth reference b e
  current : entry proof.reference (moment (step is_known_model) start ops (b + 1)) = some (proof.revision, 0)
  in_scope : InScope is_known_model ops thread e a
  order : e < a
  newest : ¬ Replaced is_known_model ops provider a

omit [Inhabited Cache] in
theorem of_evidence {reads : List Reads} {reference revision : String}
    (h : evidence reads reference = some revision) :
    ∃ scope, reads.getLast? = some scope ∧ (reference, revision) ∈ scope.observed := by
  unfold evidence at h
  rw [Option.bind_eq_bind, Option.bind_eq_some_iff] at h
  obtain ⟨scope, hlast, h⟩ := h
  rw [Option.bind_eq_bind, Option.bind_eq_some_iff] at h
  obtain ⟨first, hfirst, h⟩ := h
  split at h
  · next hall =>
    have hmem := List.mem_of_head? hfirst
    rw [Option.some.injEq] at h
    rw [← h, ← hall.2 first hmem]
    exact ⟨scope, hlast, hmem⟩
  · cases h

omit [Inhabited Cache] in
theorem of_attested {state : Authority Settings Cache} {reads : List Reads}
    {fresh revision : String} (h : attested state reads provider result fresh = some revision) :
    evidence reads (reference_key provider.auth_ref.reference) = some revision := by
  unfold attested at h
  dsimp only at h
  split at h
  · cases h
  · exact h

variable {id : String} {proof : Proof Settings Cache}

/-- Where a proof of the authority comes from: it was there, and no probe of its provider was
attested, or its probe is the one that was attested. -/
theorem proofs_step (h : (step is_known_model s op).authority.proofs.lookup id = some proof) :
    (s.authority.proofs.lookup id = some proof ∧
      ∀ thread provider result fresh receipt, op = .attests thread provider result fresh receipt →
        (attested s.authority (s.reads thread) provider result fresh).isSome →
          unrelated provider proof = true) ∨
    (∃ thread provider result fresh receipt revision,
      op = .attests thread provider result fresh receipt ∧
        attested s.authority (s.reads thread) provider result fresh = some revision ∧
        id = (with_receipt result receipt).id ∧
        proof = ⟨reference_key provider.auth_ref.reference, revision, comparable_provider provider,
          snapshot_of (with_receipt result receipt)⟩) := by
  cases op with
  | attests thread provider result fresh receipt =>
    rcases hattested : attested s.authority (s.reads thread) provider result fresh with _ | revision
    · simp only [step, attest, hattested, revision_locked_proofs] at h
      refine .inl ⟨h, fun t p r f c heq hsome => ?_⟩
      cases heq
      rw [hattested] at hsome
      cases hsome
    · simp only [step, attest, hattested] at h
      by_cases hid : id = (with_receipt result receipt).id
      · rw [hid, AList.lookup_insert, Option.some.injEq] at h
        exact .inr ⟨thread, provider, result, fresh, receipt, revision, rfl, hattested, hid, h.symm⟩
      · rw [AList.lookup_insert_ne hid, revision_locked_proofs, lookup_retain_values,
          Option.filter_eq_some_iff] at h
        refine .inl ⟨h.1, fun t p r f c heq _ => ?_⟩
        cases heq
        exact h.2
  | write_begins reference fresh =>
    refine .inl ⟨?_, fun t p r f c heq => by cases heq⟩
    unfold step write_begun at h
    rw [lookup_retain_values, Option.filter_eq_some_iff] at h
    exact h.1
  | write_drops _ fresh =>
    refine .inl ⟨?_, fun t p r f c heq => by cases heq⟩
    unfold step write_dropped at h
    dsimp only at h
    split at h
    · exact h
    · split at h <;> exact h
  | read_begins thread reference fresh =>
    refine .inl ⟨?_, fun t p r f c heq => by cases heq⟩
    rw [← h]
    exact congrArg (AList.lookup id) revision_locked_proofs.symm
  | read_ends thread _ fresh =>
    refine .inl ⟨?_, fun t p r f c heq => by cases heq⟩
    rw [step] at h
    rcases hlast : (s.calls thread).getLast? with _ | ⟨reference, _⟩
    · rwa [read_ends_idle hlast] at h
    · rw [read_ends_call hlast] at h
      rwa [revision_locked_proofs] at h
  | scope_begins thread => exact .inl ⟨h, fun t p r f c heq => by cases heq⟩
  | scope_drops thread => exact .inl ⟨h, fun t p r f c heq => by cases heq⟩

theorem Replaced.of_append (h : Replaced is_known_model (ops ++ [op]) provider a) :
    Replaced is_known_model ops provider a ∨ ∃ thread provider' result receipt,
      Attested is_known_model (ops ++ [op]) thread provider' result receipt ops.length ∧
      provider'.provider_id = provider.provider_id ∧ provider'.template_id = provider.template_id := by
  obtain ⟨thread, provider', result, receipt, a', hlater, hmade, hsame⟩ := h
  obtain ⟨fresh, hdone, hsome⟩ := hmade
  have hlt := lt_of_done hdone
  rw [List.length_append, List.length_singleton] at hlt
  rcases Nat.lt_or_eq_of_le (Nat.le_of_lt_succ hlt) with hold | rfl
  · refine .inl ⟨thread, provider', result, receipt, a', hlater, ?_, hsame⟩
    exact (attested_append hold).mp ⟨fresh, hdone, hsome⟩
  · exact .inr ⟨thread, provider', result, receipt, ⟨fresh, hdone, hsome⟩, hsame⟩

theorem Backed.snoc {receipt : String}
    (h : Backed is_known_model ops id proof thread provider result receipt depth reference b e a)
    (hkept : ∀ thread provider result fresh receipt, op = .attests thread provider result fresh receipt →
      (attested (run (step is_known_model) start ops).authority
        ((run (step is_known_model) start ops).reads thread) provider result fresh).isSome →
        unrelated provider proof = true) :
    Backed is_known_model (ops ++ [op]) id proof thread provider result receipt depth reference b e a := by
  have hmade := h.made
  obtain ⟨fresh, hdone, _⟩ := hmade
  have ha := lt_of_done hdone
  have hbe := h.read.order
  have hea := h.order
  refine { h with
    made := (attested_append ha).mpr h.made
    read := h.read.append
    current := by rw [moment_append (by omega), h.current]
    in_scope := h.in_scope.append ha.le
    newest := fun hreplaced => ?_ }
  rcases hreplaced.of_append with hold | ⟨thread', provider', result', receipt', ⟨fresh', hnow, hattested⟩, hid, htemplate⟩
  · exact h.newest hold
  · rw [List.getElem?_concat_length, Option.some.injEq] at hnow
    rw [moment_append le_rfl, moment_length] at hattested
    have hunrelated := hkept thread' provider' result' fresh' receipt' hnow hattested
    rw [unrelated, h.of_provider, decide_eq_true_eq] at hunrelated
    rcases hunrelated with hne | hne
    · exact hne hid.symm
    · exact hne htemplate.symm

theorem backed_of_proof {ops : List (Op Settings Cache)}
    (h : (run (step is_known_model) start ops).authority.proofs.lookup id = some proof) :
    ∃ thread provider result receipt depth reference b e a,
      Backed is_known_model ops id proof thread provider result receipt depth reference b e a := by
  induction ops using List.reverseRecOn with
  | nil => exact absurd h (by simp [start])
  | append_singleton ops _ ih =>
    rw [run_snoc] at h
    rcases proofs_step h with ⟨hold, hkept⟩ | ⟨thread, provider, result, fresh, receipt, _, rfl, hattested, hid, rfl⟩
    · obtain ⟨thread, provider, result, receipt, depth, reference, b, e, a, hbacked⟩ := ih hold
      exact ⟨thread, provider, result, receipt, depth, reference, b, e, a, hbacked.snoc hkept⟩
    · obtain ⟨_, hlast, hmem⟩ := of_evidence (of_attested hattested)
      rw [List.getLast?_eq_getElem?] at hlast
      obtain ⟨depth, reference, b, e, hkey, hread, hcurrent, hopen⟩ := (observed_of_read hlast hmem).read
      obtain ⟨_, hended⟩ := hread.ended
      have he := lt_of_done hended
      have hbe := hread.order
      have hlevel := (List.getElem?_eq_some_iff.mp hlast).1
      refine ⟨thread, provider, result, receipt, depth, reference, b, e, ops.length, ?_⟩
      refine ⟨⟨fresh, List.getElem?_concat_length .., ?_⟩, hid, rfl, rfl, hkey, hkey.symm, hread.append, ?_, ?_, he, ?_⟩
      · rw [moment_append le_rfl, moment_length, hattested]
        rfl
      · rw [moment_append (by omega)]
        exact hcurrent
      · refine ⟨_, ?_, hopen.append le_rfl⟩
        rw [moment_append le_rfl, moment_length]
        omega
      · rintro ⟨_, _, _, _, _, _, ⟨_, hdone, _⟩, _⟩
        have hlt := lt_of_done hdone
        rw [List.length_append, List.length_singleton] at hlt
        omega

/-! ## Reconciliation -/

section reconciliation

variable [DecidableEq Settings] [DecidableEq Cache] {from_value : Value → Option (ProviderDraftInput Settings Cache)}
variable {state : Authority Settings Cache} {value : Value}

/-- The probe of a provider has a current proof that fits the provider and its probe. -/
theorem of_valid (h : valid from_value state value = true) :
    ∃ probe id proof input, value.get "probe" = some probe ∧ probe.get_str "profileId" = some id ∧
      state.proofs.lookup id = some proof ∧
      state.revisions.lookup proof.reference = some (proof.revision, 0) ∧
      from_value value = some input ∧ comparable_provider input = proof.provider ∧
      ∀ field ∈ proof.snapshot, probe.get field.1 = some field.2 := by
  unfold valid at h
  simp only [Option.isSome_iff_exists, Option.bind_eq_bind, Option.bind_eq_some_iff] at h
  obtain ⟨_, probe, hprobe, id, hid, proof, hproof, ⟨revision, _⟩, hentry, h⟩ := h
  split at h
  · cases h
  · next hcurrent =>
    simp only [not_or, not_not, ne_eq] at hcurrent
    obtain ⟨rfl, rfl⟩ := hcurrent
    rw [Option.bind_eq_some_iff] at h
    obtain ⟨input, hinput, h⟩ := h
    split at h
    · cases h
    · next hsame =>
      split at h
      · next hfields =>
        exact ⟨probe, id, proof, input, hprobe, hid, hproof, hentry, hinput, not_not.mp hsame, hfields⟩
      · cases h

/-- Without a valid proof a custom model is a draft. -/
theorem draft_of_invalid (hinvalid : valid from_value state value = false)
    (hcustom : known is_known_model from_value value = false) :
    (reconcile_provider is_known_model from_value state value).get_str "status" ≠ some "ready" := by
  unfold reconcile_provider
  rw [if_neg (by simp [hinvalid])]
  have hdraft (fields : List (String × Value)) :
      (Value.object (insert_field "status" (.string "draft") fields)).get_str "status" = some "draft" := by
    simp [Value.get_str, Value.get, Value.as_object, Value.as_str]
  cases value with
  | object fields =>
    simp only [hcustom, Bool.false_eq_true, if_false]
    split
    · unfold Value.get_str Value.get
      simp only [Value.as_object, Option.bind_eq_bind, Option.bind_some]
      rw [lookup_insert_field_ne (by decide)]
      exact fun hready => absurd ((hdraft fields).symm.trans hready) (by decide)
    · rw [hdraft fields]
      decide
  | _ => exact fun hready => by cases hready

/-- A provider keeps its place in the configuration. -/
theorem reconciled_providers {config : Value} {providers : List Value}
    (h : (config.get "providers").bind Value.as_array = some providers) :
    ((reconcile_config is_known_model from_value state config).get "providers").bind Value.as_array =
      some (providers.map (reconcile_provider is_known_model from_value state)) := by
  cases config with
  | object fields =>
    have hlookup : (fields.lookup "providers").bind Value.as_array = some providers := h
    unfold reconcile_config
    simp only [hlookup]
    simp [Value.get, Value.as_object, Value.as_array]
  | _ => cases h

end reconciliation

variable (is_known_model) in
/-- The value is a provider whose probe was attested at `a`: the thread had read its secret from `b`
to `e`, in the scope of that probe, no write of the secret was in progress since `b`, and no
other probe of the provider was attested since `a`. -/
structure Verified (from_value : Value → Option (ProviderDraftInput Settings Cache))
    (ops : List (Op Settings Cache)) (value : Value) (thread : Nat)
    (provider : ProviderDraftInput Settings Cache) (result : ProviderProbeProfileRuntime) (receipt : String)
    (depth : Nat) (reference : String) (b e a : Nat) : Prop where
  attested : Attested is_known_model ops thread provider result receipt a
  configuration : (from_value value).map comparable_provider = some (comparable_provider provider)
  snapshot : ∃ probe, value.get "probe" = some probe ∧
    ∀ field ∈ snapshot_of (with_receipt result receipt), probe.get field.1 = some field.2
  owner : reference_key reference = reference_key provider.auth_ref.reference
  read : ReadSecret is_known_model ops thread depth reference b e
  in_scope : InScope is_known_model ops thread e a
  order : e < a
  unwritten : Through (step is_known_model) start (Unwritten (reference_key reference)) ops b ops.length
  newest : ¬ Replaced is_known_model ops provider a

/-- What the reconciliation leaves of a custom model that is ready has been verified. -/
theorem ready_models_are_verified [DecidableEq Settings] [DecidableEq Cache]
    (from_value : Value → Option (ProviderDraftInput Settings Cache)) (ops : List (Op Settings Cache))
    (hfresh : Fresh ops) (config : Value) (providers reconciled : List Value)
    (hbefore : (config.get "providers").bind Value.as_array = some providers)
    (hafter : ((reconcile_config is_known_model from_value
      (run (step is_known_model) start ops).authority config).get "providers").bind Value.as_array =
        some reconciled)
    (i : Nat) (value value' : Value) (hvalue : providers[i]? = some value)
    (hvalue' : reconciled[i]? = some value') (hcustom : known is_known_model from_value value = false)
    (hready : value'.get_str "status" = some "ready") :
    value' = value ∧ ∃ thread provider result receipt depth reference b e a,
      Verified is_known_model from_value ops value thread provider result receipt depth reference b e a := by
  rw [reconciled_providers hbefore, Option.some.injEq] at hafter
  rw [← hafter, List.getElem?_map, hvalue, Option.map_some, Option.some.injEq] at hvalue'
  rcases hvalid : valid from_value (run (step is_known_model) start ops).authority value with _ | _
  · rw [← hvalue'] at hready
    exact absurd hready (draft_of_invalid hvalid hcustom)
  · refine ⟨?_, ?_⟩
    · rw [← hvalue']
      exact if_pos hvalid
    · obtain ⟨probe, _, _, _, hprobe, -, hproof, hentry, hinput, hsame, _⟩ := of_valid hvalid
      obtain ⟨thread, provider, result, receipt, depth, reference, b, e, a, h⟩ := backed_of_proof hproof
      obtain ⟨_, hbegan⟩ := h.read.began
      have hlt := lt_of_done hbegan
      -- The revision that the read began with is still in the table.
      have hsince := unwritten_since hfresh (by omega) h.current hentry
      rw [h.of_reference] at hsince
      have hfirst : Unwritten (reference_key reference) (moment (step is_known_model) start ops b) := by
        have hnext := hsince (b + 1) le_rfl (by omega)
        rw [moment_next hbegan] at hnext
        exact hnext
      refine ⟨thread, provider, result, receipt, depth, reference, b, e, a, h.made, ?_, ⟨probe, hprobe, ?_⟩,
        h.owner, h.read, h.in_scope, h.order, (Through.here hfirst).join hsince, h.newest⟩
      · rw [hinput, Option.map_some, hsame, h.of_provider]
      · rwa [← h.of_snapshot]

/-! ## A verified model -/

/-- The fields that a provider must have beside its identity, its model and its reference. -/
def sample_settings : List String :=
  ["kind", "displayName", "baseUrl", "transport", "streamEnabled", "timeoutMs", "systemPromptTemplate"]

def sample_from_value (value : Value) : Option (ProviderDraftInput (List Value) Unit) := do
  let auth ← value.get "authRef"
  return {
    template_id := ← value.get_str "templateId"
    provider_id := ← value.get_str "providerId"
    model := ← value.get_str "model"
    auth_ref := ⟨← auth.get_str "kind", ← auth.get_str "reference", ← auth.get_str "headerName",
      ← auth.get_str "scheme"⟩
    settings := ← sample_settings.mapM value.get
    model_catalog_cache := () }

def sample_provider : ProviderDraftInput (List Value) Unit where
  template_id := "t"
  provider_id := "p"
  model := "m"
  auth_ref := ⟨"k", "key:/1", "h", "s"⟩
  settings := [.string "k", .string "n", .string "u", .string "http", .bool true, .number (.pos 9), .string ""]
  model_catalog_cache := ()

def sample_result : ProviderProbeProfileRuntime := ⟨"unsigned", "available", "now", true, true, true, none⟩

/-- The provider in the configuration, ready, with the probe that was attested for it. -/
def sample_value : Value :=
  .object ([("templateId", .string "t"), ("providerId", .string "p"), ("model", .string "m"),
    ("authRef", .object [("kind", .string "k"), ("reference", .string "key:/1"), ("headerName", .string "h"),
      ("scheme", .string "s")]),
    ("status", .string "ready"), ("probe", .object (snapshot_of (with_receipt sample_result "1")))] ++
    sample_settings.zip sample_provider.settings)

def sample_session : List (Op (List Value) Unit) :=
  [.scope_begins 0, .read_begins 0 "key:/1" "r1", .read_ends 0 true "r2",
    .attests 0 sample_provider sample_result "r3" "1", .write_begins "other" "r4"]

theorem a_verified_model_stays_ready :
    ∃ thread provider result receipt depth reference b e a,
      Verified (fun _ => false) sample_from_value sample_session sample_value thread provider result receipt
        depth reference b e a :=
  (@ready_models_are_verified _ _ _ (fun _ => false) _ _ sample_from_value sample_session
    (by unfold Fresh; decide +kernel) (.object [("providers", .array [sample_value])]) [sample_value] [sample_value]
    (by decide +kernel) (by decide +kernel) 0 sample_value sample_value rfl rfl (by decide +kernel)
    (by decide +kernel)).2

end omni_translate.credential_verification

-- The laws of the response ledger: to which lineage a response is bound, that the ids of the
-- lineages are distinct, and what becomes of a lineage within a session.
import OmniTranslate.Places
import OmniTranslate.ResponseLedger

namespace omni_translate.response_ledger

open runs ResponseLedger

/-! ## Small lemmas -/

variable {fallback_cue_id : Option String}

section

variable {ledger : ResponseLedger} {ids : ResponseIds}

variable {i : Nat}

theorem findIdx?_get {p : ResponseLineage → Bool} {lineages : List ResponseLineage}
    (h : lineages.findIdx? p = some i) :
    ∃ lineage, lineages[i]? = some lineage ∧ p lineage = true := by
  obtain ⟨hi, hp, -⟩ := List.findIdx?_eq_some_iff_getElem.mp h
  exact ⟨lineages[i], List.getElem?_eq_getElem hi, hp⟩

/-- The element at the first place is the first element. -/
theorem findIdx?_find? {p : ResponseLineage → Bool} {lineages : List ResponseLineage}
    (h : lineages.findIdx? p = some i) : lineages[i]? = lineages.find? p := by
  induction lineages generalizing i with
  | nil => cases h
  | cons lineage lineages ih =>
    rw [List.findIdx?_cons] at h
    by_cases hp : p lineage = true
    · rw [if_pos hp] at h
      cases h
      rw [List.find?_cons_of_pos hp]
      rfl
    · rw [if_neg hp] at h
      obtain ⟨j, hj, rfl⟩ := Option.map_eq_some_iff.mp h
      rw [List.find?_cons_of_neg hp, ← ih hj]
      rfl

/-- A lineage that the ids name has none that speaks against it. -/
theorem exact_index_some (h : ledger.exact_index ids = some (some i)) :
    ∃ lineage, ledger.lineages[i]? = some lineage ∧ ids.conflicts lineage = false := by
  unfold exact_index at h
  dsimp only at h
  split at h
  · cases h
  split at h
  · cases h
  split at h
  · cases h
  split at h
  · cases h
  · rename_i lineage hget
    split at h
    · cases h
    · rename_i hno
      cases h
      exact ⟨lineage, hget, by simpa using hno⟩

/-- Without a lineage that the ids name, the event has no item and its response is new. -/
theorem exact_index_none (h : ledger.exact_index ids = some none) :
    ids.has_item_lineage = false ∧ ledger.response_index ids = none := by
  unfold exact_index at h
  dsimp only at h
  split at h
  · cases h
  rename_i hitem
  split at h
  · cases h
  split at h
  · rename_i hnone
    rw [Option.or_eq_none_iff] at hnone
    simpa [hnone.1, hnone.2] using hitem
  · split at h
    · cases h
    · split at h
      · cases h
      · cases h

theorem response_index_none {r : String} (hr : ids.response_id = some r)
    (h : ledger.response_index ids = none) :
    ∀ lineage ∈ ledger.lineages, lineage.response_id ≠ some r := by
  intro lineage hin
  have hno := List.findIdx?_eq_none_iff.mp h lineage hin
  simpa [hr] using hno

theorem prune_loop_sublist (fuel : Nat) (lineages : List ResponseLineage) :
    (prune_loop fuel lineages).Sublist lineages := by
  induction fuel generalizing lineages with
  | zero => exact List.Sublist.refl _
  | succ fuel ih =>
    unfold prune_loop
    split
    · exact (ih _).trans List.eraseP_sublist
    · exact List.Sublist.refl _

/-- The chosen lineage is not completed, if the ids name none. -/
theorem owner_index_unfinished (h : ledger.owner_index ids none fallback_cue_id = some i) :
    ∃ lineage, ledger.lineages[i]? = some lineage ∧ lineage.completed = false := by
  have hfifo : ∀ j, ledger.fifo_index = some j →
      ∃ lineage, ledger.lineages[j]? = some lineage ∧ lineage.completed = false := by
    intro j hj
    obtain ⟨lineage, hget, hp⟩ := findIdx?_get hj
    exact ⟨lineage, hget, by simpa using hp⟩
  have hfallback : ∀ j, ledger.fallback_index fallback_cue_id = some j →
      ∃ lineage, ledger.lineages[j]? = some lineage ∧ lineage.completed = false := by
    intro j hj
    obtain ⟨lineage, hget, hp⟩ := findIdx?_get hj
    have hopen := (of_decide_eq_true hp).1
    exact ⟨lineage, hget, by simpa using hopen⟩
  unfold owner_index at h
  rw [Option.none_or] at h
  split at h
  · obtain hj | ⟨-, hj⟩ := Option.or_eq_some_iff.mp h
    · exact hfifo i hj
    · exact hfallback i hj
  · obtain hj | ⟨-, hj⟩ := Option.or_eq_some_iff.mp h
    · exact hfallback i hj
    · exact hfifo i hj

end

/-! ## The owner of a response -/

/-- The condition: a response that no lineage has and that comes without an item finds no unfinished
lineage, or one without a response first. -/
def first_unfinished_is_free (ledger : ResponseLedger) (ids : ResponseIds) (r : String) : Prop :=
  ids.has_item_lineage = true ∨ (∃ lineage ∈ ledger.lineages, lineage.response_id = some r) ∨
    ∀ lineage, ledger.lineages.find? (!·.completed) = some lineage → lineage.response_id = none

section

variable {ledger : ResponseLedger} {ids : ResponseIds} {r : String}

variable {lineage : ResponseLineage}

theorem fill_response (hr : ids.response_id = some r)
    (h : lineage.response_id = none ∨ lineage.response_id = some r) :
    (ids.fill lineage).response_id = some r := by
  unfold ResponseIds.fill
  obtain h | h := h
  · rw [h, hr, Option.none_or]
  · rw [h, Option.some_or]

theorem conflicts_response (hr : ids.response_id = some r) (h : ids.conflicts lineage = false) :
    lineage.response_id = none ∨ lineage.response_id = some r := by
  unfold ResponseIds.conflicts at h
  simp only [hr, decide_eq_false_iff_not, not_or, not_and, Decidable.not_not] at h
  cases hresponse : lineage.response_id with
  | none => exact Or.inl rfl
  | some x =>
    have heq := h.2.2 rfl (by rw [hresponse]; rfl)
    rw [hresponse] at heq
    exact Or.inr heq

/-- A lineage that is materialized has no response yet. -/
theorem materialize_free (hnone : ∀ lineage ∈ ledger.lineages, lineage.completed = true) :
    ∀ lineage ∈ (ledger.materialize ids none fallback_cue_id).lineages,
      lineage.completed = false → lineage.response_id = none := by
  intro lineage hin hopen
  have hclosed : lineage ∉ ledger.lineages := by
    intro hin
    rw [hnone lineage hin] at hopen
    cases hopen
  unfold materialize at hin
  split at hin
  swap
  · exact absurd hin hclosed
  split at hin
  swap
  · exact absurd hin hclosed
  unfold record_source at hin
  dsimp only at hin
  split at hin
  · rename_i cue_id _ i hfind
    obtain ⟨old, hget, -⟩ := findIdx?_get hfind
    rw [places.modify_put_in hget] at hin
    obtain hin | heq := List.mem_or_eq_of_mem_set hin
    · exact absurd hin hclosed
    · rw [heq, hnone old (List.mem_of_getElem? hget)] at hopen
      cases hopen
  · have hmem := (prune_loop_sublist _ _).subset hin
    obtain hin | hin := List.mem_append.mp hmem
    · exact absurd hin hclosed
    · rw [List.mem_singleton.mp hin]

/-- While a lineage is unfinished, none is materialized. -/
theorem materialize_same {exact_index : Option Nat}
    (h : exact_index.isSome = true ∨ ∃ lineage ∈ ledger.lineages, lineage.completed = false) :
    ledger.materialize ids exact_index fallback_cue_id = ledger := by
  unfold materialize
  rw [if_neg]
  rintro ⟨hexact, -, hany⟩
  obtain hsome | ⟨lineage, hin, hopen⟩ := h
  · rw [Option.isNone_iff_eq_none.mp hexact] at hsome
    cases hsome
  · apply hany
    exact List.any_eq_true.mpr ⟨lineage, hin, by rw [hopen]; rfl⟩

/-- What the ledger does with an event: it refuses it, finds no owner, or fills the lineage at the place
of the owner. -/
theorem bind_ids_cases (ledger : ResponseLedger) (ids : ResponseIds) (fallback_cue_id : Option String) :
    ledger.bind_ids ids fallback_cue_id = (ledger, none) ∨
      (∃ exact_index, ledger.exact_index ids = some exact_index ∧
        ledger.bind_ids ids fallback_cue_id =
          (ledger.materialize ids exact_index fallback_cue_id, none)) ∨
      ∃ exact_index i old, ledger.exact_index ids = some exact_index ∧
        (ledger.materialize ids exact_index fallback_cue_id).owner_index ids exact_index
          fallback_cue_id = some i ∧
        (ledger.materialize ids exact_index fallback_cue_id).lineages[i]? = some old ∧
        ledger.bind_ids ids fallback_cue_id =
          ({ ledger.materialize ids exact_index fallback_cue_id with
            lineages := (ledger.materialize ids exact_index fallback_cue_id).lineages.set i
              (ids.fill old) }, some (ids.fill old)) := by
  unfold bind_ids
  cases hexact : ledger.exact_index ids with
  | none => exact Or.inl rfl
  | some exact_index =>
    dsimp only
    cases howner : (ledger.materialize ids exact_index fallback_cue_id).owner_index ids exact_index
        fallback_cue_id with
    | none => exact Or.inr (Or.inl ⟨exact_index, rfl, rfl⟩)
    | some i =>
      dsimp only
      cases hget : (ledger.materialize ids exact_index fallback_cue_id).lineages[i]? with
      | none => exact Or.inr (Or.inl ⟨exact_index, rfl, rfl⟩)
      | some old => exact Or.inr (Or.inr ⟨exact_index, i, old, rfl, howner, hget, rfl⟩)

/-- A lineage that is bound is at the place of its owner. -/
theorem bind_ids_some (h : (ledger.bind_ids ids fallback_cue_id).2 = some lineage) :
    ∃ exact_index i old, ledger.exact_index ids = some exact_index ∧
      (ledger.materialize ids exact_index fallback_cue_id).owner_index ids exact_index
        fallback_cue_id = some i ∧
      (ledger.materialize ids exact_index fallback_cue_id).lineages[i]? = some old ∧
      lineage = ids.fill old := by
  obtain heq | ⟨exact_index, -, heq⟩ | ⟨exact_index, i, old, hexact, howner, hget, heq⟩ :=
    bind_ids_cases ledger ids fallback_cue_id
  · rw [heq] at h
    cases h
  · rw [heq] at h
    cases h
  · rw [heq] at h
    exact ⟨exact_index, i, old, hexact, howner, hget, (Option.some.inj h).symm⟩

/-- A response that the first unfinished lineage is free for gets a lineage of its own. -/
theorem bound_to_its_own (hr : ids.response_id = some r)
    (hfree : first_unfinished_is_free ledger ids r)
    (h : (ledger.bind_ids ids fallback_cue_id).2 = some lineage) :
    lineage.response_id = some r := by
  obtain ⟨exact_index, i, old, hexact, howner, hget, rfl⟩ := bind_ids_some h
  apply fill_response hr
  cases exact_index with
  | some index =>
    obtain ⟨exact, hat, hno⟩ := exact_index_some hexact
    rw [materialize_same (Or.inl rfl)] at howner hget
    cases howner
    rw [hat] at hget
    cases hget
    exact conflicts_response hr hno
  | none =>
    left
    obtain ⟨hitem, hnew⟩ := exact_index_none hexact
    by_cases hany : ∃ lineage ∈ ledger.lineages, lineage.completed = false
    · -- the first unfinished lineage is taken, and the condition speaks of it
      rw [materialize_same (Or.inr hany)] at howner hget
      obtain hbad | ⟨other, hin, hother⟩ | hfirst := hfree
      · rw [hitem] at hbad
        cases hbad
      · exact absurd hother (response_index_none hr hnew other hin)
      · apply hfirst
        rw [← hget]
        unfold owner_index at howner
        rw [Option.none_or, if_pos (by simp [ResponseIds.is_response_only, hr, hitem])] at howner
        have hfifo : ledger.fifo_index ≠ none := by
          obtain ⟨lineage, hin, hopen⟩ := hany
          intro hnone
          have hdone := List.findIdx?_eq_none_iff.mp hnone lineage hin
          rw [hopen] at hdone
          cases hdone
        obtain ⟨j, hj⟩ := Option.ne_none_iff_exists'.mp hfifo
        rw [hj, Option.some_or] at howner
        cases howner
        exact (findIdx?_find? hj).symm
    · have hnone : ∀ lineage ∈ ledger.lineages, lineage.completed = true := by
        intro lineage hin
        by_contra hopen
        exact hany ⟨lineage, hin, by simpa using hopen⟩
      obtain ⟨owner, hat, hopen⟩ := owner_index_unfinished howner
      rw [hat] at hget
      cases hget
      exact materialize_free hnone _ (List.mem_of_getElem? hat) hopen

/-- A response that finds the first unfinished lineage taken is bound to it. -/
theorem bound_to_another (hr : ids.response_id = some r) (fallback_cue_id : Option String)
    (htaken : ¬ first_unfinished_is_free ledger ids r) :
    ∃ lineage, (ledger.bind_ids ids fallback_cue_id).2 = some lineage ∧
      lineage.response_id ≠ some r := by
  unfold first_unfinished_is_free at htaken
  simp only [not_or, not_exists, not_and, not_forall] at htaken
  obtain ⟨hitem, hnew, first, hfirst, hresponse⟩ := htaken
  have hitem : ids.has_item_lineage = false := by simpa using hitem
  have hin := List.mem_of_find?_eq_some hfirst
  have hopen : first.completed = false := by simpa using List.find?_some hfirst
  have hsource : ids.source_item_id = none ∧ ids.translation_item_id = none := by
    simpa [ResponseIds.has_item_lineage] using hitem
  have hexact : ledger.exact_index ids = some none := by
    have hitems : ledger.item_index ids = none := by
      unfold item_index
      rw [hsource.1, hsource.2]
      simp
    have hresponses : ledger.response_index ids = none := by
      apply List.findIdx?_eq_none_iff.mpr
      intro lineage hlineage
      simpa [hr] using hnew lineage hlineage
    unfold exact_index
    rw [hitems, hresponses, hitem]
    rfl
  have hfifo : ledger.fifo_index ≠ none := by
    intro hnone
    have hdone := List.findIdx?_eq_none_iff.mp hnone first hin
    rw [hopen] at hdone
    cases hdone
  obtain ⟨j, hj⟩ := Option.ne_none_iff_exists'.mp hfifo
  have howner : ledger.owner_index ids none fallback_cue_id = some j := by
    unfold owner_index
    rw [Option.none_or, if_pos (by simp [ResponseIds.is_response_only, hr, hitem]), hj,
      Option.some_or]
  have hget : ledger.lineages[j]? = some first := (findIdx?_find? hj).trans hfirst
  refine ⟨ids.fill first, ?_, ?_⟩
  · unfold bind_ids
    rw [hexact]
    dsimp only
    rw [materialize_same (Or.inr ⟨first, hin, hopen⟩), howner]
    dsimp only
    rw [hget]
  · obtain ⟨x, hx⟩ := Option.ne_none_iff_exists'.mp hresponse
    unfold ResponseIds.fill
    rw [hx, Option.some_or, ← hx]
    exact hnew first hin

end

/-- A response is bound to a lineage of its own exactly when the first unfinished lineage is free,
or is not asked. -/
theorem response_is_bound_to_its_own_iff (ledger : ResponseLedger)
    (response_id source_item_id translation_item_id fallback_cue_id : Option String) (r : String)
    (hr : normalized_id response_id = some r) :
    (∀ lineage, (ledger.bind_response response_id source_item_id translation_item_id
        fallback_cue_id).2 = some lineage → lineage.response_id = some r) ↔
      first_unfinished_is_free ledger ⟨normalized_id response_id, normalized_id source_item_id,
        normalized_id translation_item_id⟩ r := by
  constructor
  · intro h
    by_contra htaken
    obtain ⟨lineage, hbound, hother⟩ := bound_to_another hr fallback_cue_id htaken
    exact hother (h lineage hbound)
  · intro hfree lineage hbound
    exact bound_to_its_own hr hfree hbound

/-- Two responses overlap: the second one comes while the first one is unfinished. -/
def two_responses_overlap : List LedgerOp :=
  [.record_source "cue-one" (some "source-one"), .record_source "cue-two" (some "source-two"),
    .bind_response (some "response-one") none none none]

theorem an_overlapping_response_gets_a_foreign_cue :
    ∃ lineage, ((run step new two_responses_overlap).bind_response (some "response-two") none none
        (some "cue-two")).2 = some lineage ∧ normalized_id (some "response-two") = some "response-two" ∧
      lineage.response_id = some "response-one" ∧ lineage.cue_id = "cue-one" :=
  ⟨⟨0, "cue-one", some "source-one", none, some "response-one", false⟩, by decide +kernel,
    by decide +kernel, rfl, rfl⟩

theorem a_response_after_another_gets_its_own_cue :
    normalized_id (some "response-two") = some "response-two" ∧
      ∀ lineage, ((run step new (two_responses_overlap ++
        [.complete_response (some "response-one")])).bind_response (some "response-two") none none
        (some "cue-two")).2 = some lineage → lineage.response_id = some "response-two" := by
  refine ⟨by decide +kernel, (response_is_bound_to_its_own_iff _ _ _ _ _ "response-two"
    (by decide +kernel)).mpr (Or.inr (Or.inr fun lineage hfirst => ?_))⟩
  have hfree : ∀ lineage ∈ (run step new (two_responses_overlap ++
      [.complete_response (some "response-one")])).lineages,
      lineage.completed = false → lineage.response_id = none := by
    decide +kernel
  exact hfree lineage (List.mem_of_find?_eq_some hfirst) (by simpa using List.find?_some hfirst)

end omni_translate.response_ledger

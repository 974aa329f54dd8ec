-- The lineages of the response ledger: that an id has one owner, and what becomes of a lineage
-- within a session. An event that names two lineages at once can give both the same id.
import OmniTranslate.ResponseLaws
import Mathlib.Data.List.Pairwise

namespace omni_translate.response_ledger

open runs places ResponseLedger

/-! ## Distinct ids -/

/-- Two lineages have different cues, and no id of a kind that they share. -/
structure Distinct (lineage other : ResponseLineage) : Prop where
  cue : lineage.cue_id ≠ other.cue_id
  source : lineage.source_item_id.isSome → lineage.source_item_id ≠ other.source_item_id
  translation : lineage.translation_item_id.isSome →
    lineage.translation_item_id ≠ other.translation_item_id
  response : lineage.response_id.isSome → lineage.response_id ≠ other.response_id

variable (ledger : ResponseLedger)

/-- Each id has one owner. -/
def Unique : Prop := ledger.lineages.Pairwise Distinct

/-- The lineage that `record_source` finds first is the only one with the cue, and the only one with
the source if it takes that. -/
def one_lineage_is_named (cue_id : String) (source_item_id : Option String) : Prop :=
  ∀ i lineage, ledger.lineages.findIdx? (has_cue_or_source cue_id source_item_id) = some i →
    ledger.lineages[i]? = some lineage → ∀ other ∈ ledger.lineages.eraseIdx i,
      cue_id ≠ other.cue_id ∧ (lineage.source_item_id = none → source_item_id.isSome →
        source_item_id ≠ other.source_item_id)

/-- The lineage that the ids name does not take the translation item of another. -/
def translation_is_free (ids : ResponseIds) : Prop :=
  ∀ i lineage, ledger.exact_index ids = some (some i) → ledger.lineages[i]? = some lineage →
    lineage.translation_item_id = none → ids.translation_item_id.isSome →
      ∀ other ∈ ledger.lineages.eraseIdx i, ids.translation_item_id ≠ other.translation_item_id

/-- The condition on an operation: its ids do not belong to two lineages. -/
def names_one_owner : LedgerOp → Prop
  | .record_source cue_id source_item_id =>
    one_lineage_is_named ledger cue_id (normalized_id source_item_id)
  | .bind_response response_id source_item_id translation_item_id _ =>
    translation_is_free ledger ⟨normalized_id response_id, normalized_id source_item_id,
      normalized_id translation_item_id⟩
  | _ => True

variable {lineage other : ResponseLineage}

theorem Distinct.symm (h : Distinct lineage other) : Distinct other lineage where
  cue heq := h.cue heq.symm
  source hsome heq := h.source (heq ▸ hsome) heq.symm
  translation hsome heq := h.translation (heq ▸ hsome) heq.symm
  response hsome heq := h.response (heq ▸ hsome) heq.symm

variable {i : Nat}

section

variable {ledger : ResponseLedger}

theorem Unique.sublist (h : Unique ledger) {other : ResponseLedger}
    (hsub : other.lineages.Sublist ledger.lineages) : Unique other :=
  List.Pairwise.sublist hsub h

theorem Unique.prune (h : Unique ledger) : Unique ledger.prune_completed_lineages :=
  h.sublist (prune_loop_sublist _ _)

theorem unique_new : Unique new := List.Pairwise.nil

/-! ## Sources -/

/-- A lineage with another cue, and with a source if it had none. -/
theorem distinct_recorded_iff (h : Distinct lineage other) (cue_id : String)
    (source_item_id : Option String) :
    Distinct { lineage with
        cue_id := cue_id
        source_item_id := lineage.source_item_id.or source_item_id } other ↔
      cue_id ≠ other.cue_id ∧ (lineage.source_item_id = none → source_item_id.isSome →
        source_item_id ≠ other.source_item_id) := by
  constructor
  · intro hnew
    refine ⟨hnew.cue, fun hnone => ?_⟩
    have hsource := hnew.source
    rw [hnone, Option.none_or] at hsource
    exact hsource
  · rintro ⟨hcue, hsource⟩
    refine ⟨hcue, ?_, h.translation, h.response⟩
    cases hold : lineage.source_item_id with
    | none =>
      exact hsource hold
    | some _ =>
      rw [Option.some_or, ← hold]
      exact h.source

theorem unique_record_iff (h : Unique ledger) (cue_id : String) (source_item_id : Option String) :
    Unique (ledger.record_source cue_id source_item_id) ↔
      one_lineage_is_named ledger cue_id (normalized_id source_item_id) := by
  unfold record_source one_lineage_is_named
  dsimp only
  cases hfind : ledger.lineages.findIdx?
      (has_cue_or_source cue_id (normalized_id source_item_id)) with
  | some i =>
    obtain ⟨old, hget, -⟩ := findIdx?_get hfind
    have hiff := pairwise_put_in Distinct.symm hget h { old with
      cue_id := cue_id
      source_item_id := old.source_item_id.or (normalized_id source_item_id) }
    have hrest := related_to_rest Distinct.symm hget h
    dsimp only
    unfold Unique
    rw [modify_put_in hget, hiff]
    constructor
    · intro hnew j lineage hj hlineage other hother
      cases hj
      rw [hget] at hlineage
      cases hlineage
      exact (distinct_recorded_iff (hrest other hother) _ _).mp (hnew other hother)
    · intro hok other hother
      exact (distinct_recorded_iff (hrest other hother) _ _).mpr (hok i old rfl hget other hother)
  | none =>
    refine iff_of_true (Unique.prune ?_) (fun _ _ hj => by cases hj)
    -- a lineage that is appended has neither a cue nor a source of the others
    refine List.pairwise_append.mpr ⟨h, List.pairwise_singleton _ _, ?_⟩
    intro lineage hin last hlast
    rw [List.mem_singleton.mp hlast]
    have hno := List.findIdx?_eq_none_iff.mp hfind lineage hin
    simp only [has_cue_or_source, decide_eq_false_iff_not, not_or, not_and] at hno
    refine ⟨hno.1, fun hsome heq => ?_, fun hsome heq => ?_, fun hsome heq => ?_⟩
    · rw [heq] at hsome
      exact hno.2 hsome heq
    · rw [heq] at hsome
      cases hsome
    · rw [heq] at hsome
      cases hsome

/-! ## Responses -/

variable {ids : ResponseIds}

/-- A new response of a lineage that the ids name is a response of none. -/
theorem exact_index_new_response {old : ResponseLineage}
    (h : ledger.exact_index ids = some (some i)) (hget : ledger.lineages[i]? = some old)
    (hnone : old.response_id = none) {r : String} (hr : ids.response_id = some r) :
    ∀ lineage ∈ ledger.lineages, lineage.response_id ≠ some r := by
  cases hresponse : ledger.response_index ids with
  | none => exact response_index_none hr hresponse
  | some j =>
    -- the response has a lineage, so it is the one that the ids name
    have hji : j = i := by
      unfold exact_index at h
      dsimp only at h
      rw [hresponse] at h
      split at h
      · cases h
      split at h
      · cases h
      rename_i hagree
      split at h
      · cases h
      rename_i _ hindex
      split at h
      · cases h
      split at h
      · cases h
      cases h
      cases hitem : ledger.item_index ids with
      | none =>
        rw [hitem, Option.none_or] at hindex
        exact Option.some.inj hindex
      | some _ =>
        rw [hitem, Option.some_or] at hindex
        cases hindex
        rw [hitem] at hagree
        by_contra hne
        exact hagree ⟨rfl, rfl, fun heq => hne (Option.some.inj heq).symm⟩
    obtain ⟨lineage, hat, hp⟩ := findIdx?_get hresponse
    rw [hji, hget] at hat
    cases hat
    have heq := (of_decide_eq_true hp).2
    rw [hnone, hr] at heq
    cases heq

theorem conflicts_source {lineage : ResponseLineage} (h : ids.conflicts lineage = false) :
    (ids.fill lineage).source_item_id = lineage.source_item_id := by
  unfold ResponseIds.conflicts at h
  simp only [decide_eq_false_iff_not, not_or, not_and, Decidable.not_not] at h
  unfold ResponseIds.fill
  cases hids : ids.source_item_id with
  | none => exact Option.or_none
  | some _ =>
    have heq := h.1 (by rw [hids]; rfl)
    rw [heq, hids]
    rfl

theorem distinct_filled_iff (h : Distinct lineage other)
    (hsource : (ids.fill lineage).source_item_id = lineage.source_item_id)
    (hresponse : lineage.response_id = none → ∀ r, ids.response_id = some r →
      other.response_id ≠ some r) :
    Distinct (ids.fill lineage) other ↔
      (lineage.translation_item_id = none → ids.translation_item_id.isSome →
        ids.translation_item_id ≠ other.translation_item_id) := by
  constructor
  · intro hnew hnone
    have htranslation := hnew.translation
    unfold ResponseIds.fill at htranslation
    rw [hnone, Option.none_or] at htranslation
    exact htranslation
  · intro htranslation
    refine ⟨h.cue, ?_, ?_, ?_⟩
    · rw [hsource]
      exact h.source
    · unfold ResponseIds.fill
      cases hold : lineage.translation_item_id with
      | none =>
        exact htranslation hold
      | some x =>
        rw [Option.some_or, ← hold]
        exact h.translation
    · unfold ResponseIds.fill
      cases hold : lineage.response_id with
      | none =>
        intro hsome heq
        obtain ⟨r, hr⟩ := Option.isSome_iff_exists.mp hsome
        exact hresponse hold r hr (heq ▸ hr)
      | some x =>
        rw [Option.some_or, ← hold]
        exact h.response

/-- What is materialized has a response only if it had it before. -/
theorem materialize_responses {exact_index : Option Nat} {fallback_cue_id : Option String}
    {lineage : ResponseLineage}
    (hin : lineage ∈ (ledger.materialize ids exact_index fallback_cue_id).lineages) :
    lineage.response_id = none ∨
      ∃ other ∈ ledger.lineages, lineage.response_id = other.response_id := by
  unfold materialize at hin
  split at hin
  swap
  · exact Or.inr ⟨lineage, hin, rfl⟩
  split at hin
  swap
  · exact Or.inr ⟨lineage, hin, rfl⟩
  unfold record_source at hin
  dsimp only at hin
  split at hin
  · rename_i hfind
    obtain ⟨old, hget, -⟩ := findIdx?_get hfind
    rw [modify_put_in hget] at hin
    obtain hin | heq := List.mem_or_eq_of_mem_set hin
    · exact Or.inr ⟨lineage, hin, rfl⟩
    · exact Or.inr ⟨old, List.mem_of_getElem? hget, by rw [heq]⟩
  · obtain hin | hin := List.mem_append.mp ((prune_loop_sublist _ _).subset hin)
    · exact Or.inr ⟨lineage, hin, rfl⟩
    · rw [List.mem_singleton.mp hin]
      exact Or.inl rfl

theorem Unique.materialize (h : Unique ledger) (exact_index : Option Nat)
    (fallback_cue_id : Option String) :
    Unique (ledger.materialize ids exact_index fallback_cue_id) := by
  unfold ResponseLedger.materialize
  split
  swap
  · exact h
  split
  swap
  · exact h
  rename_i cue_id _
  rw [unique_record_iff h]
  intro i lineage hfind hget other hother
  -- without a source, the lineage that is found has the cue already
  obtain ⟨_, hat, hp⟩ := findIdx?_get hfind
  rw [hget] at hat
  cases hat
  have hcue : lineage.cue_id = cue_id := by
    obtain hcue | ⟨hsome, -⟩ := of_decide_eq_true hp
    · exact hcue
    · cases hsome
  refine ⟨?_, fun _ hsome => by cases hsome⟩
  rw [← hcue]
  exact (related_to_rest Distinct.symm hget h other hother).cue

theorem unique_bind_iff (h : Unique ledger) (fallback_cue_id : Option String) :
    Unique (ledger.bind_ids ids fallback_cue_id).1 ↔ translation_is_free ledger ids := by
  unfold bind_ids translation_is_free
  cases hexact : ledger.exact_index ids with
  | none => exact iff_of_true h fun _ _ hj => by cases hj
  | some exact_index =>
    dsimp only
    cases exact_index with
    | none =>
      obtain ⟨hitem, hnew⟩ := exact_index_none hexact
      have hsources : ids.source_item_id = none ∧ ids.translation_item_id = none := by
        simpa [ResponseIds.has_item_lineage] using hitem
      refine iff_of_true ?_ (fun _ _ hj => by cases hj)
      have hm : Unique (ledger.materialize ids none fallback_cue_id) :=
        h.materialize none fallback_cue_id
      split
      · exact hm
      split
      · exact hm
      rename_i i _ _ old hget
      refine (pairwise_put_in Distinct.symm hget hm _).mpr fun other hother => ?_
      have hsource : (ids.fill old).source_item_id = old.source_item_id := by
        unfold ResponseIds.fill
        rw [hsources.1, Option.or_none]
      refine (distinct_filled_iff (related_to_rest Distinct.symm hget hm other hother) hsource ?_).mpr ?_
      · intro _ r hr heq
        have hin := (List.eraseIdx_sublist _ i).subset hother
        obtain hnone | ⟨before, hbefore, hsame⟩ := materialize_responses hin
        · rw [hnone] at heq
          cases heq
        · exact response_index_none hr hnew before hbefore (hsame ▸ heq)
      · intro _ hsome
        rw [hsources.2] at hsome
        cases hsome
    | some i =>
      obtain ⟨old, hget, hno⟩ := exact_index_some hexact
      have hsource := conflicts_source hno
      have howner : ledger.owner_index ids (some i) fallback_cue_id = some i := Option.some_or
      rw [materialize_same (Or.inl rfl), howner]
      dsimp only
      rw [hget]
      have hiff : ∀ other ∈ ledger.lineages.eraseIdx i, Distinct (ids.fill old) other ↔
          (old.translation_item_id = none → ids.translation_item_id.isSome →
            ids.translation_item_id ≠ other.translation_item_id) := by
        intro other hother
        refine distinct_filled_iff (related_to_rest Distinct.symm hget h other hother) hsource ?_
        intro hnone r hr
        exact exact_index_new_response hexact hget hnone hr other
          ((List.eraseIdx_sublist _ i).subset hother)
      refine (pairwise_put_in Distinct.symm hget h _).trans ?_
      constructor
      · intro hnew j lineage hj hlineage hnone hsome other hother
        cases hj
        rw [hget] at hlineage
        cases hlineage
        exact (hiff other hother).mp (hnew other hother) hnone hsome
      · intro hok other hother
        refine (hiff other hother).mpr fun hnone hsome => ?_
        exact hok i old rfl hget hnone hsome other hother

/-! ## All operations -/

theorem Unique.complete (h : Unique ledger) (response_id : Option String) :
    Unique (ledger.complete_response response_id) := by
  unfold complete_response
  dsimp only
  split
  · rename_i hfind
    obtain ⟨_, hget, -⟩ := findIdx?_get hfind
    apply Unique.prune
    unfold Unique
    rw [modify_put_in hget, pairwise_put_in Distinct.symm hget h]
    intro other hother
    have hrest := related_to_rest Distinct.symm hget h other hother
    exact ⟨hrest.cue, hrest.source, hrest.translation, hrest.response⟩
  · exact h.prune

theorem unique_step_iff (h : Unique ledger) (op : LedgerOp) :
    Unique (step ledger op) ↔ names_one_owner ledger op := by
  cases op with
  | set_generation _ =>
    refine iff_of_true ?_ trivial
    unfold step set_generation
    dsimp only
    split
    · exact List.Pairwise.nil
    · exact h
  | record_source cue_id source_item_id => exact unique_record_iff h cue_id source_item_id
  | discard_unanswered_source source_item_id =>
    exact iff_of_true (h.sublist List.filter_sublist) trivial
  | bind_response response_id source_item_id _ fallback_cue_id =>
    exact unique_bind_iff h fallback_cue_id
  | complete_response response_id => exact iff_of_true (h.complete response_id) trivial
  | clear => exact iff_of_true List.Pairwise.nil trivial

end

/-- All states of a run have one owner for each id exactly when no operation of the run names two. -/
theorem ids_have_one_owner_iff (ops : List LedgerOp) :
    Along step (fun ledger op => Unique (step ledger op)) new ops ↔
      Along step names_one_owner new ops :=
  Along.congr Unique unique_new (Along.of_forall (fun _ _ => True) (fun _ _ => trivial) _ _)
    (fun _ op h _ => unique_step_iff h op) (fun _ _ _ _ hnext => hnext)

/-- Two responses come with one translation item. -/
def a_translation_item_comes_twice : List LedgerOp :=
  [.record_source "cue-one" (some "source-one"), .record_source "cue-two" (some "source-two"),
    .bind_response (some "response-one") (some "source-one") (some "translation") none,
    .bind_response (some "response-two") (some "source-two") (some "translation") none]

theorem a_translation_item_gets_two_owners :
    ¬ Unique (run step new a_translation_item_comes_twice) := by
  have hlineages : (run step new a_translation_item_comes_twice).lineages =
      [⟨0, "cue-one", some "source-one", some "translation", some "response-one", false⟩,
        ⟨0, "cue-two", some "source-two", some "translation", some "response-two", false⟩] := by
    decide +kernel
  intro h
  unfold Unique at h
  rw [hlineages, List.pairwise_pair] at h
  exact h.translation rfl rfl

/-! ## What becomes of a lineage -/

/-- The lineage later on: an id that it has stays, and it stays completed. -/
structure Follows (lineage later : ResponseLineage) : Prop where
  generation : later.session_generation = lineage.session_generation
  response : ∀ x, lineage.response_id = some x → later.response_id = some x
  source : ∀ x, lineage.source_item_id = some x → later.source_item_id = some x
  translation : ∀ x, lineage.translation_item_id = some x → later.translation_item_id = some x
  completed : lineage.completed = true → later.completed = true

/-- Every lineage is still in its place, and new ones may stand behind. -/
def Grows (before after : List ResponseLineage) : Prop :=
  ∀ (i : Nat) (lineage : ResponseLineage), before[i]? = some lineage →
    ∃ later, after[i]? = some later ∧ Follows lineage later

/-- Only completed lineages are removed, the oldest ones first, and as many as exceed the limit. -/
structure Pruned (all kept : List ResponseLineage) : Prop where
  sublist : kept.Sublist all
  unfinished : kept.filter (!·.completed) = all.filter (!·.completed)
  completed : kept.filter (·.completed) =
    (all.filter (·.completed)).drop (all.countP (·.completed) - MAX_COMPLETED_RESPONSE_LINEAGES)

/-- What an operation may do to the lineages of a session. -/
def lawful : LedgerOp → Prop
  | .clear => True
  | .set_generation session_generation => ledger.session_generation = session_generation →
      step ledger (.set_generation session_generation) = ledger
  | .discard_unanswered_source source_item_id =>
      (ledger.discard_unanswered_source source_item_id).1.lineages.Sublist ledger.lineages ∧
        ∀ lineage ∈ ledger.lineages,
          lineage ∈ (ledger.discard_unanswered_source source_item_id).1.lineages ∨
            (lineage.source_item_id = some source_item_id ∧ lineage.response_id = none ∧
              lineage.completed = false)
  | .bind_response response_id source_item_id translation_item_id fallback_cue_id =>
      (∃ all, Grows ledger.lineages all ∧ Pruned all (ledger.bind_response response_id
        source_item_id translation_item_id fallback_cue_id).1.lineages) ∧
      ((ledger.bind_response response_id source_item_id translation_item_id
          fallback_cue_id).2 = none →
        (ledger.bind_response response_id source_item_id translation_item_id
          fallback_cue_id).1 = ledger)
  | op => ∃ all, Grows ledger.lineages all ∧ Pruned all (step ledger op).lineages

/-- The completed lineages are within the limit. -/
def Bounded (lineages : List ResponseLineage) : Prop :=
  lineages.countP (·.completed) ≤ MAX_COMPLETED_RESPONSE_LINEAGES

theorem Follows.refl (lineage : ResponseLineage) : Follows lineage lineage :=
  ⟨rfl, fun _ h => h, fun _ h => h, fun _ h => h, id⟩

theorem Follows.trans {first second third : ResponseLineage} (h : Follows first second)
    (h' : Follows second third) : Follows first third where
  generation := h'.generation.trans h.generation
  response x hx := h'.response x (h.response x hx)
  source x hx := h'.source x (h.source x hx)
  translation x hx := h'.translation x (h.translation x hx)
  completed hx := h'.completed (h.completed hx)

theorem Grows.refl (lineages : List ResponseLineage) : Grows lineages lineages :=
  fun _ lineage hget => ⟨lineage, hget, .refl lineage⟩

theorem Grows.trans {first second third : List ResponseLineage} (h : Grows first second)
    (h' : Grows second third) : Grows first third := by
  intro i lineage hget
  obtain ⟨later, hlater, hfollows⟩ := h i lineage hget
  obtain ⟨last, hlast, hfollows'⟩ := h' i later hlater
  exact ⟨last, hlast, hfollows.trans hfollows'⟩

theorem Grows.append (lineages new : List ResponseLineage) : Grows lineages (lineages ++ new) := by
  intro i lineage hget
  have hlt : i < lineages.length := (List.getElem?_eq_some_iff.mp hget).1
  exact ⟨lineage, by rw [List.getElem?_append_left hlt, hget], .refl lineage⟩

variable {lineages : List ResponseLineage}

theorem Grows.put_in {old lineage : ResponseLineage} (hget : lineages[i]? = some old)
    (h : Follows old lineage) : Grows lineages (lineages.set i lineage) := by
  intro j other hother
  by_cases hji : j = i
  · subst hji
    rw [hget] at hother
    cases hother
    have hlt : j < lineages.length := (List.getElem?_eq_some_iff.mp hget).1
    exact ⟨lineage, List.getElem?_set_self hlt, h⟩
  · exact ⟨other, by rw [List.getElem?_set_ne (Ne.symm hji), hother], .refl other⟩

/-! ## Pruning -/

theorem filter_eraseP_completed (lineages : List ResponseLineage) :
    (lineages.eraseP (·.completed)).filter (·.completed) =
      (lineages.filter (·.completed)).drop 1 := by
  induction lineages with
  | nil => rfl
  | cons lineage lineages ih =>
    by_cases hc : lineage.completed = true
    · rw [List.eraseP_cons_of_pos hc, List.filter_cons_of_pos hc]
      rfl
    · rw [List.eraseP_cons_of_neg hc, List.filter_cons_of_neg hc, List.filter_cons_of_neg hc, ih]

theorem filter_eraseP_unfinished (lineages : List ResponseLineage) :
    (lineages.eraseP (·.completed)).filter (!·.completed) = lineages.filter (!·.completed) := by
  induction lineages with
  | nil => rfl
  | cons lineage lineages ih =>
    by_cases hc : lineage.completed = true
    · rw [List.eraseP_cons_of_pos hc, List.filter_cons_of_neg (by simp [hc])]
    · rw [List.eraseP_cons_of_neg hc, List.filter_cons_of_pos (by simpa using hc),
        List.filter_cons_of_pos (by simpa using hc), ih]

theorem countP_eraseP_completed (lineages : List ResponseLineage) :
    (lineages.eraseP (·.completed)).countP (·.completed) = lineages.countP (·.completed) - 1 := by
  rw [List.countP_eq_length_filter, filter_eraseP_completed, List.length_drop,
    List.countP_eq_length_filter]

/-- The loop runs to its end with the fuel that it has. -/
theorem prune_loop_pruned (fuel : Nat) (lineages : List ResponseLineage)
    (hfuel : lineages.countP (·.completed) ≤ fuel) : Pruned lineages (prune_loop fuel lineages) := by
  induction fuel generalizing lineages with
  | zero =>
    refine ⟨List.Sublist.refl _, rfl, ?_⟩
    rw [Nat.le_zero.mp hfuel]
    rfl
  | succ fuel ih =>
    unfold prune_loop
    split
    · have hrest := ih (lineages.eraseP (·.completed)) (by rw [countP_eraseP_completed]; omega)
      refine ⟨hrest.sublist.trans List.eraseP_sublist, ?_, ?_⟩
      · rw [hrest.unfinished, filter_eraseP_unfinished]
      · rw [hrest.completed, filter_eraseP_completed, countP_eraseP_completed, List.drop_drop]
        congr 1
        omega
    · rename_i hfew
      refine ⟨List.Sublist.refl _, rfl, ?_⟩
      rw [Nat.sub_eq_zero_of_le (Nat.le_of_not_lt hfew)]
      rfl

theorem prune_pruned : Pruned ledger.lineages ledger.prune_completed_lineages.lineages :=
  prune_loop_pruned _ _ List.countP_le_length

theorem Pruned.bounded {all kept : List ResponseLineage} (h : Pruned all kept) : Bounded kept := by
  unfold Bounded
  rw [List.countP_eq_length_filter, h.completed, List.length_drop, ← List.countP_eq_length_filter]
  omega

theorem Bounded.pruned (h : Bounded lineages) : Pruned lineages lineages := by
  refine ⟨List.Sublist.refl _, rfl, ?_⟩
  rw [Nat.sub_eq_zero_of_le h]
  rfl

theorem prune_same {ledger : ResponseLedger} (h : Bounded ledger.lineages) :
    ledger.prune_completed_lineages = ledger := by
  have hloop : ∀ fuel, prune_loop fuel ledger.lineages = ledger.lineages := by
    intro fuel
    cases fuel with
    | zero => rfl
    | succ fuel =>
      unfold prune_loop
      rw [if_neg (Nat.not_lt.mpr h)]
  unfold prune_completed_lineages
  rw [hloop]

/-- The limit holds when a lineage changes and is not completed by that. -/
theorem Bounded.put_in (h : Bounded lineages) {old lineage : ResponseLineage}
    (hget : lineages[i]? = some old) (hsame : lineage.completed = old.completed) :
    Bounded (lineages.set i lineage) := by
  have hcount := places.countP_put_in hget (·.completed) lineage
  rw [hsame] at hcount
  unfold Bounded at *
  omega

theorem Bounded.append (h : Bounded lineages) {lineage : ResponseLineage}
    (hopen : lineage.completed = false) : Bounded (lineages ++ [lineage]) := by
  unfold Bounded at *
  rw [List.countP_append, List.countP_cons_of_neg (by simp [hopen]), List.countP_nil]
  exact h

section

variable {ledger : ResponseLedger} {ids : ResponseIds}

/-! ## The law of each operation -/

section

variable (h : Bounded ledger.lineages)

include h

theorem record_grows (cue_id : String) (source_item_id : Option String) :
    Grows ledger.lineages (ledger.record_source cue_id source_item_id).lineages ∧
      Bounded (ledger.record_source cue_id source_item_id).lineages := by
  unfold record_source
  dsimp only
  split
  · rename_i _ hfind
    obtain ⟨_, hget, -⟩ := findIdx?_get hfind
    rw [modify_put_in hget]
    refine ⟨Grows.put_in hget ⟨rfl, fun _ hx => hx, fun _ hx => ?_, fun _ hx => hx, id⟩,
      h.put_in hget rfl⟩
    rw [hx, Option.some_or]
  · have hbounded : Bounded (ledger.lineages ++ [⟨ledger.session_generation, cue_id,
      normalized_id source_item_id, none, none, false⟩]) := h.append rfl
    rw [prune_same hbounded]
    exact ⟨Grows.append _ _, hbounded⟩

/-- Nothing is materialized, or one lineage is appended for the cue that is being spoken. -/
theorem materialize_cases (exact_index : Option Nat) (fallback_cue_id : Option String) :
    ledger.materialize ids exact_index fallback_cue_id = ledger ∨
      (exact_index = none ∧ ids.is_response_only = true ∧ ∃ lineage, lineage.completed = false ∧
        (ledger.materialize ids exact_index fallback_cue_id).lineages =
          ledger.lineages ++ [lineage]) := by
  unfold materialize
  split
  swap
  · exact Or.inl rfl
  rename_i hcond
  split
  swap
  · exact Or.inl rfl
  rename_i cue_id _
  unfold record_source
  dsimp only
  split
  · -- the lineage that is found has the cue already, and takes no source
    rename_i i hfind
    left
    obtain ⟨old, hget, hp⟩ := findIdx?_get hfind
    have hcue : old.cue_id = cue_id := by
      obtain hcue | ⟨hsome, -⟩ := of_decide_eq_true hp
      · exact hcue
      · cases hsome
    obtain ⟨hi, hold⟩ := List.getElem?_eq_some_iff.mp hget
    rw [modify_put_in hget, ← hcue]
    have hnone : normalized_id none = none := rfl
    rw [hnone, Option.or_none]
    have hset : ledger.lineages.set i old = ledger.lineages := by
      rw [← hold]
      exact List.set_getElem_self hi
    rw [hset]
  · right
    refine ⟨Option.isNone_iff_eq_none.mp hcond.1, hcond.2.1,
      ⟨ledger.session_generation, cue_id, normalized_id none, none, none, false⟩, rfl, ?_⟩
    rw [prune_same (h.append rfl)]

theorem bind_grows (fallback_cue_id : Option String) :
    Grows ledger.lineages (ledger.bind_ids ids fallback_cue_id).1.lineages ∧
      Bounded (ledger.bind_ids ids fallback_cue_id).1.lineages := by
  unfold bind_ids
  split
  · exact ⟨.refl _, h⟩
  rename_i exact_index _
  have hm : Grows ledger.lineages (ledger.materialize ids exact_index fallback_cue_id).lineages ∧
      Bounded (ledger.materialize ids exact_index fallback_cue_id).lineages := by
    obtain heq | ⟨-, -, _, hopen, heq⟩ := materialize_cases h exact_index fallback_cue_id
    · rw [heq]
      exact ⟨.refl _, h⟩
    · rw [heq]
      exact ⟨.append _ _, h.append hopen⟩
  dsimp only
  split
  · exact hm
  split
  · exact hm
  rename_i _ hget
  refine ⟨hm.1.trans (Grows.put_in hget ⟨rfl, ?_, ?_, ?_, id⟩), hm.2.put_in hget rfl⟩
  · intro x hx
    unfold ResponseIds.fill
    rw [hx, Option.some_or]
  · intro x hx
    unfold ResponseIds.fill
    rw [hx, Option.some_or]
  · intro x hx
    unfold ResponseIds.fill
    rw [hx, Option.some_or]

theorem bind_refused {fallback_cue_id : Option String}
    (hnone : (ledger.bind_ids ids fallback_cue_id).2 = none) :
    (ledger.bind_ids ids fallback_cue_id).1 = ledger := by
  unfold bind_ids at *
  split
  · rfl
  rename_i exact_index hexact
  rw [hexact] at hnone
  dsimp only at *
  have hcases : ledger.materialize ids exact_index fallback_cue_id = ledger ∨ _ :=
    materialize_cases h exact_index fallback_cue_id
  obtain heq | ⟨rfl, honly, lineage, hopen, heq⟩ := hcases
  · rw [heq] at hnone ⊢
    split
    · rfl
    split
    · rfl
    · rename_i howner _ _ hget
      rw [howner] at hnone
      dsimp only at hnone
      rw [hget] at hnone
      cases hnone
  · have hfifo : (ledger.materialize ids none fallback_cue_id).fifo_index ≠ none := by
      intro hfifo
      have hdone := List.findIdx?_eq_none_iff.mp hfifo lineage (by rw [heq]; simp)
      rw [hopen] at hdone
      cases hdone
    obtain ⟨j, hj⟩ := Option.ne_none_iff_exists'.mp hfifo
    obtain ⟨_, hget, -⟩ := findIdx?_get hj
    have howner : (ledger.materialize ids none fallback_cue_id).owner_index ids none
        fallback_cue_id = some j := by
      unfold owner_index
      rw [Option.none_or, if_pos honly, hj, Option.some_or]
    rw [howner] at hnone
    dsimp only at hnone
    rw [hget] at hnone
    cases hnone

end

theorem complete_pruned (ledger : ResponseLedger) (response_id : Option String) :
    ∃ all, Grows ledger.lineages all ∧
      Pruned all (ledger.complete_response response_id).lineages := by
  unfold complete_response
  dsimp only
  split
  · rename_i _ hfind
    obtain ⟨_, hget, -⟩ := findIdx?_get hfind
    refine ⟨_, ?_, prune_pruned _⟩
    rw [modify_put_in hget]
    exact Grows.put_in hget ⟨rfl, fun _ hx => hx, fun _ hx => hx, fun _ hx => hx, fun _ => rfl⟩
  · exact ⟨_, .refl _, prune_pruned _⟩

theorem Bounded.lawful (h : Bounded ledger.lineages) (op : LedgerOp) :
    lawful ledger op ∧ Bounded (step ledger op).lineages := by
  cases op with
  | set_generation _ =>
    unfold response_ledger.lawful step set_generation
    dsimp only
    split
    · rename_i hnew
      exact ⟨fun heq => absurd heq hnew, Nat.zero_le _⟩
    · exact ⟨fun _ => rfl, h⟩
  | record_source cue_id source_item_id =>
    obtain ⟨hgrows, hbounded⟩ := record_grows h cue_id source_item_id
    exact ⟨⟨_, hgrows, hbounded.pruned⟩, hbounded⟩
  | discard_unanswered_source source_item_id =>
    refine ⟨⟨List.filter_sublist, fun lineage hin => ?_⟩, ?_⟩
    · by_cases hdiscard : is_unanswered_source source_item_id lineage = true
      · right
        simpa [is_unanswered_source] using hdiscard
      · exact Or.inl (List.mem_filter.mpr ⟨hin, by simpa using hdiscard⟩)
    · exact (List.Sublist.countP_le List.filter_sublist).trans h
  | bind_response response_id source_item_id _ fallback_cue_id =>
    obtain ⟨hgrows, hbounded⟩ := bind_grows h fallback_cue_id
    exact ⟨⟨⟨_, hgrows, hbounded.pruned⟩, bind_refused h⟩, hbounded⟩
  | complete_response response_id =>
    obtain ⟨all, hgrows, hpruned⟩ := complete_pruned ledger response_id
    exact ⟨⟨all, hgrows, hpruned⟩, hpruned.bounded⟩
  | clear => exact ⟨trivial, Nat.zero_le _⟩

end

end omni_translate.response_ledger

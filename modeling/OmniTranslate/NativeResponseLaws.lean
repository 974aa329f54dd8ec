-- Under which cue a response ends. The ledger knows one lineage for each response, but a response
-- that ends while another one streams, or that ends twice, ends under a cue that is not its own.
import OmniTranslate.LineageLaws
import OmniTranslate.NativeResponses

namespace omni_translate.response_ledger

open runs places ResponseLedger

/-! ## One response, one lineage -/

/-- The two lineages have no response in common. -/
def Apart (lineage other : ResponseLineage) : Prop :=
  lineage.response_id.isSome → lineage.response_id ≠ other.response_id

theorem Apart.symm {lineage other : ResponseLineage} (h : Apart lineage other) : Apart other lineage := by
  intro hsome heq
  rw [heq] at hsome
  exact h hsome heq.symm

instance : Std.Symm Apart := ⟨fun _ _ => Apart.symm⟩

/-- Each response has one lineage, under an id that says something. -/
structure Owned (ledger : ResponseLedger) : Prop where
  apart : ledger.lineages.Pairwise Apart
  named : ∀ lineage ∈ ledger.lineages, lineage.response_id ≠ some "(none)"

variable {ledger : ResponseLedger} {ids : ResponseIds}

theorem Owned.nil (session_generation : Nat) : Owned ⟨session_generation, []⟩ :=
  ⟨List.Pairwise.nil, by simp⟩

section

variable (h : Owned ledger)

include h

theorem Owned.prune : Owned ledger.prune_completed_lineages := by
  have hsub := prune_loop_sublist ledger.lineages.length ledger.lineages
  exact ⟨h.apart.sublist hsub, fun lineage hin => h.named lineage (hsub.subset hin)⟩

theorem Owned.put_in {i : Nat} {old lineage : ResponseLineage}
    (hget : ledger.lineages[i]? = some old)
    (hapart : ∀ other ∈ ledger.lineages.eraseIdx i, Apart lineage other)
    (hnamed : lineage.response_id ≠ some "(none)") :
    Owned { ledger with lineages := ledger.lineages.set i lineage } :=
  ⟨(pairwise_put_in Apart.symm hget h.apart lineage).mpr hapart, forall_put_in h.named hnamed i⟩

/-- A lineage that keeps its response may change otherwise. -/
theorem Owned.keep_response {i : Nat} {old lineage : ResponseLineage}
    (hget : ledger.lineages[i]? = some old) (hsame : lineage.response_id = old.response_id) :
    Owned { ledger with lineages := ledger.lineages.set i lineage } := by
  refine h.put_in hget (fun other hother => ?_) ?_
  · unfold Apart
    rw [hsame]
    exact related_to_rest Apart.symm hget h.apart other hother
  · rw [hsame]
    exact h.named old (List.mem_of_getElem? hget)

theorem Owned.record (cue_id : String) (source_item_id : Option String) :
    Owned (ledger.record_source cue_id source_item_id) := by
  unfold record_source
  dsimp only
  split
  next i hfind =>
    obtain ⟨_, hget, -⟩ := findIdx?_get hfind
    rw [modify_put_in hget]
    exact h.keep_response hget rfl
  next =>
    refine Owned.prune ⟨?_, ?_⟩
    · refine List.pairwise_append.mpr ⟨h.apart, List.pairwise_singleton _ _, ?_⟩
      intro lineage _ last hlast hsome heq
      rw [heq, List.mem_singleton.mp hlast] at hsome
      cases hsome
    · intro lineage hin
      rcases List.mem_append.mp hin with hin | hin
      · exact h.named lineage hin
      · rw [List.mem_singleton.mp hin]
        simp

theorem Owned.materialize (exact_index : Option Nat) (fallback_cue_id : Option String) :
    Owned (ledger.materialize ids exact_index fallback_cue_id) := by
  unfold ResponseLedger.materialize
  split
  · split
    · exact h.record _ none
    · exact h
  · exact h

theorem Owned.complete (response_id : Option String) :
    Owned (ledger.complete_response response_id) := by
  unfold complete_response
  dsimp only
  split
  next i hfind =>
    obtain ⟨_, hget, -⟩ := findIdx?_get hfind
    rw [modify_put_in hget]
    apply Owned.prune
    exact h.keep_response hget rfl
  next => exact h.prune

end

variable {fallback_cue_id : Option String}

/-- Where the ids name no lineage, none has the response. -/
theorem materialized_lack_response (hexact : ledger.exact_index ids = some none) {r : String}
    (hr : ids.response_id = some r) :
    ∀ other ∈ (ledger.materialize ids none fallback_cue_id).lineages, other.response_id ≠ some r := by
  intro other hin heq
  obtain ⟨-, hnew⟩ := exact_index_none hexact
  rcases materialize_responses hin with hfree | ⟨before, hbefore, hsame⟩
  · rw [hfree] at heq
    cases heq
  · exact response_index_none hr hnew before hbefore (hsame ▸ heq)

/-- Where the ids name a lineage, it is the owner, and nothing is materialized. -/
theorem named_owner {index i : Nat} {old : ResponseLineage}
    (howner : (ledger.materialize ids (some index) fallback_cue_id).owner_index ids (some index)
      fallback_cue_id = some i)
    (hget : (ledger.materialize ids (some index) fallback_cue_id).lineages[i]? = some old) :
    index = i ∧ ledger.lineages[i]? = some old := by
  rw [owner_index, Option.some_or, Option.some_inj] at howner
  exact ⟨howner, hget⟩

/-- No other lineage has the response that the owner is filled with. -/
theorem others_lack_response {exact_index : Option Nat} {i : Nat} {old : ResponseLineage}
    (hexact : ledger.exact_index ids = some exact_index)
    (howner : (ledger.materialize ids exact_index fallback_cue_id).owner_index ids exact_index
      fallback_cue_id = some i)
    (hget : (ledger.materialize ids exact_index fallback_cue_id).lineages[i]? = some old)
    (hnone : old.response_id = none) {r : String} (hr : ids.response_id = some r) :
    ∀ other ∈ (ledger.materialize ids exact_index fallback_cue_id).lineages, other.response_id ≠ some r := by
  cases exact_index with
  | some _ =>
    obtain ⟨rfl, hat⟩ := named_owner howner hget
    exact exact_index_new_response hexact hat hnone hr
  | none => exact materialized_lack_response hexact hr

theorem Owned.bind (h : Owned ledger) (hids : ids.response_id ≠ some "(none)") (fallback_cue_id : Option String) :
    Owned (ledger.bind_ids ids fallback_cue_id).1 := by
  rcases bind_ids_cases ledger ids fallback_cue_id with
    heq | ⟨exact_index, -, heq⟩ | ⟨exact_index, i, old, hexact, howner, hget, heq⟩
  · rw [heq]
    exact h
  · rw [heq]
    exact h.materialize exact_index fallback_cue_id
  · rw [heq]
    have hm : Owned (ledger.materialize ids exact_index fallback_cue_id) := h.materialize exact_index fallback_cue_id
    cases hresponse : old.response_id with
    | some _ => exact hm.keep_response hget (by simp [ResponseIds.fill, hresponse])
    | none =>
      have hfill : (ids.fill old).response_id = ids.response_id := by simp [ResponseIds.fill, hresponse]
      refine hm.put_in hget (fun other hother => ?_) (hfill ▸ hids)
      intro hsome heq
      rw [hfill] at hsome heq
      obtain ⟨_, hr⟩ := Option.isSome_iff_exists.mp hsome
      have hin := (List.eraseIdx_sublist _ i).subset hother
      exact others_lack_response hexact howner hget hresponse hr other hin (heq ▸ hr)

/-- The lineage that an event is bound to is the one that has the response of the event. -/
theorem bound_is_owner (h : Owned ledger) {r : String} (hr : ids.response_id = some r) (hids : r ≠ "(none)")
    {bound lineage : ResponseLineage} (hbound : (ledger.bind_ids ids fallback_cue_id).2 = some bound)
    (hin : lineage ∈ (ledger.bind_ids ids fallback_cue_id).1.lineages) (hresponse : lineage.response_id = some r) : lineage = bound := by
  have howned := h.bind (hr ▸ fun heq => hids (Option.some.inj heq)) fallback_cue_id
  rcases bind_ids_cases ledger ids fallback_cue_id with
    heq | ⟨exact_index, -, heq⟩ | ⟨exact_index, i, old, hexact, howner, hget, heq⟩
  · rw [heq] at hbound
    cases hbound
  · rw [heq] at hbound
    cases hbound
  · rw [heq] at hbound hin howned
    obtain rfl := Option.some.inj hbound
    have hlt := (List.getElem?_eq_some_iff.mp hget).1
    by_contra hne
    cases exact_index with
    | some _ =>
      -- the owner has the response, and no other lineage has it too
      obtain ⟨rfl, hat⟩ := named_owner howner hget
      obtain ⟨named, hnamed, hno⟩ := exact_index_some hexact
      obtain rfl : named = old := Option.some.inj (hnamed.symm.trans hat)
      have hfill := fill_response hr (conflicts_response hr hno)
      have hapart := howned.apart.forall hin (List.mem_of_getElem? (List.getElem?_set_self hlt)) hne
      exact hapart (by rw [hresponse]; rfl) (hresponse.trans hfill.symm)
    | none =>
      rcases List.mem_or_eq_of_mem_set hin with hin | heq
      · exact materialized_lack_response hexact hr lineage hin hresponse
      · exact hne heq

end omni_translate.response_ledger

namespace omni_translate.native_responses

open json runs response_ledger
open bailian_protocol (native_response_id_from_event)

/-! ## Ids -/

theorem normalized_id_ne (value : Option String) : normalized_id value ≠ some "(none)" := by
  intro h
  have hp := (Option.filter_eq_some_iff.mp h).2
  simp at hp

/-- A trimmed id that says something is its own normal form. -/
theorem normalized_id_trimmed {r : String} (htrim : json.trim r = r) (hblank : r ≠ "") (hnone : r ≠ "(none)") :
    normalized_id (some r) = some r := by
  have hr : String.ofList (text.trim r.toList) = r := htrim
  simp [normalized_id, hr, hblank, hnone]

theorem trim_trim (s : String) : json.trim (json.trim s) = json.trim s := by
  simp [json.trim, text.trim_trim]

theorem normalized_id_normalized (value : Option String) : normalized_id (normalized_id value) = normalized_id value := by
  cases h : normalized_id value with
  | none => rfl
  | some _ =>
    obtain ⟨hmap, hp⟩ := Option.filter_eq_some_iff.mp h
    obtain ⟨s, -, rfl⟩ := Option.map_eq_some_iff.mp hmap
    simp only [decide_eq_true_eq] at hp
    exact normalized_id_trimmed (trim_trim s) hp.1 hp.2

theorem response_id_normalized {event : Value} {r : String} (h : native_response_id_from_event event = some r)
    (hnone : r ≠ "(none)") : normalized_id (event_ids event).response_id = some r := by
  have hid : (event_ids event).response_id = some r := h
  rw [hid]
  simp only [native_response_id_from_event, Option.bind_eq_bind, Option.bind_eq_some_iff] at h
  obtain ⟨_, -, s, -, h⟩ := h
  split at h
  · cases h
  next hblank =>
    obtain rfl := Option.some.inj h
    exact normalized_id_trimmed (trim_trim s) (by simpa [blank] using hblank) hnone

/-! ## Claims -/

namespace OmniEventDiagnostics

variable (d : OmniEventDiagnostics)

/-- What the ledger binds an event to. -/
def bound (event : Value) (fallback_cue_id : Option String) : ResponseLedger × Option ResponseLineage :=
  let ids := (event_ids event).normalized
  d.response_ledger.bind_response ids.response_id ids.source_item_id ids.translation_item_id fallback_cue_id

/-- The event takes an owner, if no response streams: the ledger does not refuse it, and its response is
not one that is completed. -/
def may_take_owner (event : Value) (fallback_cue_id : Option String) : Bool :=
  (d.bound event fallback_cue_id).2.isSome && !d.is_completed_response (event_ids event).normalized.response_id

variable {d} {event : Value} {fallback_cue_id : Option String}

theorem bound_eq : d.bound event fallback_cue_id =
    d.response_ledger.bind_ids ⟨normalized_id (event_ids event).response_id,
      normalized_id (event_ids event).source_item_id,
      normalized_id (event_ids event).translation_item_id⟩ fallback_cue_id := by
  simp only [bound, EventIds.normalized, ResponseLedger.bind_response, normalized_id_normalized]

theorem lineage_owner_cue (d : OmniEventDiagnostics) (lineage : ResponseLineage) :
    (d.lineage_owner lineage).2.cue_id = lineage.cue_id := by
  unfold lineage_owner
  split
  next owner hfind => simpa using List.find?_some hfind
  next => rfl

theorem lineage_owner_ledger (d : OmniEventDiagnostics) (lineage : ResponseLineage) :
    (d.lineage_owner lineage).1.response_ledger = d.response_ledger := by
  unfold lineage_owner
  split
  · rfl
  · rfl

theorem anonymous_owner_ledger (d : OmniEventDiagnostics) (fallback_cue_id : Option String) :
    (d.anonymous_owner fallback_cue_id).1.response_ledger = d.response_ledger := by
  unfold anonymous_owner
  split
  · rfl
  · rfl

theorem claim_ledger : (d.claim_native_response_owner_for_event event fallback_cue_id).response_ledger =
    (d.bound event fallback_cue_id).1 := by
  simp only [claim_native_response_owner_for_event, claim_native_response_owner]
  split
  · rfl
  split
  · rfl
  split
  · rfl
  split
  · exact lineage_owner_ledger _ _
  · split
    next heq => exact (congrArg (·.1.response_ledger) heq).symm.trans (anonymous_owner_ledger _ _)
    next heq => exact (congrArg (·.1.response_ledger) heq).symm.trans (anonymous_owner_ledger _ _)

/-- While a response streams, an event does not change the cue. -/
theorem claim_while_streaming {cue_id : String} (h : d.native_response_cue_id = some cue_id) :
    (d.claim_native_response_owner_for_event event fallback_cue_id).native_response_cue_id = some cue_id := by
  simp only [claim_native_response_owner_for_event, claim_native_response_owner]
  split
  · exact h
  split
  · exact h
  split
  · exact h
  next hfree => simp [h] at hfree

/-- An event that may take an owner takes that of its lineage. -/
theorem claim_takes_lineage (h : d.native_response_cue_id = none)
    (hmay : d.may_take_owner event fallback_cue_id = true) {lineage : ResponseLineage}
    (hbound : (d.bound event fallback_cue_id).2 = some lineage) :
    (d.claim_native_response_owner_for_event event fallback_cue_id).native_response_cue_id =
      some lineage.cue_id := by
  obtain ⟨-, hnew⟩ := Bool.and_eq_true_iff.mp hmay
  simp only [bound] at hbound
  simp only [claim_native_response_owner_for_event, claim_native_response_owner, hbound]
  split
  next hrefused => simp at hrefused
  split
  next hcompleted =>
    have hold : d.is_completed_response (event_ids event).normalized.response_id = true := hcompleted
    simp [hold] at hnew
  split
  next hstreams => simp [h] at hstreams
  · exact congrArg some (lineage_owner_cue _ lineage)

/-- An event with a response that may not take an owner leaves the response without one. -/
theorem claim_takes_nothing (h : d.native_response_cue_id = none)
    (hmay : d.may_take_owner event fallback_cue_id = false) {r : String}
    (hr : (event_ids event).normalized.response_id = some r) :
    (d.claim_native_response_owner_for_event event fallback_cue_id).native_response_cue_id = none := by
  simp only [claim_native_response_owner_for_event, claim_native_response_owner]
  split
  · exact h
  next haccepted =>
    split
    · exact h
    next hnew =>
      -- neither refused nor completed, so it may take an owner
      have hlineage : (event_ids event).normalized.has_provider_lineage = true := by
        simp [EventIds.has_provider_lineage, hr]
      have hsome : (d.bound event fallback_cue_id).2.isSome = true := by
        rw [Option.isSome_iff_ne_none]
        exact fun hnone => haccepted ⟨hlineage, hnone⟩
      have hfresh : d.is_completed_response (event_ids event).normalized.response_id = false :=
        Bool.eq_false_iff.mpr hnew
      simp [may_take_owner, hsome, hfresh] at hmay

/-! ## The end of a response -/

theorem register_ignored_ledger (d : OmniEventDiagnostics) :
    d.register_ignored_native_response_owner.response_ledger = d.response_ledger := by
  unfold register_ignored_native_response_owner
  split
  · split
    · rfl
    · rfl
  · rfl

theorem defer_ledger {d next : OmniEventDiagnostics} {turn : Turn} {cue_id source_text translated_text : String}
    {response_cue_exists : Bool} {metadata : ResponseDoneMetadata}
    (h : d.defer_empty_vad_terminal turn cue_id source_text translated_text response_cue_exists metadata =
      some next) : next.response_ledger = d.response_ledger := by
  simp only [defer_empty_vad_terminal, Option.bind_eq_bind, Option.bind_eq_some_iff] at h
  obtain ⟨_, -, _, -, _, -, _, -, h⟩ := h
  obtain rfl := Option.some.inj h
  rfl

theorem end_without_output_ledger (d : OmniEventDiagnostics) (turn : Turn) (metadata : ResponseDoneMetadata)
    (cue_id source_text translated_text : String) :
    (d.end_without_output turn metadata cue_id source_text translated_text).1.response_ledger =
      d.response_ledger := by
  unfold end_without_output
  dsimp only
  generalize (if metadata.allows_final_output turn.require_completed_status then
    d.native_response_vad_duration_ms else none) = duration_ms
  split
  · exact register_ignored_ledger d
  split
  · exact register_ignored_ledger d
  split
  · split
    next hdefer => exact defer_ledger hdefer
    · rfl
  · rfl

theorem end_response_ledger (d : OmniEventDiagnostics) (turn : Turn) (metadata : ResponseDoneMetadata)
    (cue_id source_text translated_text : String) :
    (d.end_response turn metadata cue_id source_text translated_text).1.response_ledger =
      d.response_ledger := by
  unfold end_response
  split
  · rfl
  split
  · rfl
  · exact end_without_output_ledger d turn metadata cue_id source_text translated_text

theorem complete_ledger (d : OmniEventDiagnostics) :
    d.complete_native_response_owner.response_ledger =
      d.response_ledger.complete_response d.native_response_id := by
  simp only [complete_native_response_owner]
  split
  · rfl
  · rfl

/-- The end of a response completes a response of the ledger after the claim. -/
theorem done_ledger (d : OmniEventDiagnostics) (calibrate : String → String → String) (turn : Turn)
    (event : Value) : ∃ response_id, (d.handle_response_done calibrate turn event).1.response_ledger =
      (d.bound event turn.current_cue_id).1.complete_response response_id := by
  have hclaim : (d.take_deferred_empty_vad.claim_native_response_owner_for_event event
      turn.current_cue_id).response_ledger = (d.bound event turn.current_cue_id).1 := claim_ledger
  unfold handle_response_done
  rw [complete_ledger]
  refine ⟨_, congrArg (ResponseLedger.complete_response · _) ?_⟩
  split
  · exact (end_response_ledger _ turn _ _ _ _).trans hclaim
  · exact (end_response_ledger _ turn _ _ _ _).trans hclaim

/-- The cue under which a response ends: that of the claimed owner, or that of the input, or a new one. -/
theorem done_cue (d : OmniEventDiagnostics) (calibrate : String → String → String) (turn : Turn) (event : Value) :
    (d.handle_response_done calibrate turn event).2.cue_id =
      ((d.take_deferred_empty_vad.claim_native_response_owner_for_event event
        turn.current_cue_id).native_response_cue_id.or turn.current_cue_id).getD turn.next_cue_id := rfl

/-! ## Runs -/

theorem capture_ledger (d : OmniEventDiagnostics) (cue_id : String) (input_item_id : Option String) :
    (d.capture_native_response_owner cue_id input_item_id).response_ledger =
      d.response_ledger.record_source cue_id input_item_id := by
  simp only [capture_native_response_owner]
  split
  · rfl
  split
  · rfl
  · rfl

theorem bound_owned {d : OmniEventDiagnostics} (h : Owned d.response_ledger) (event : Value)
    (fallback_cue_id : Option String) : Owned (d.bound event fallback_cue_id).1 := by
  exact h.bind (normalized_id_ne _) fallback_cue_id

theorem step_owned (calibrate : String → String → String) (d : OmniEventDiagnostics) (op : Op)
    (h : Owned d.response_ledger) : Owned (step calibrate d op).response_ledger := by
  cases op with
  | hear => exact h
  | capture cue_id input_item_id =>
    simp only [step, capture_ledger]
    exact h.record cue_id input_item_id
  | claim event fallback_cue_id =>
    simp only [step, claim_ledger]
    exact bound_owned h event fallback_cue_id
  | done turn event =>
    obtain ⟨response_id, hdone⟩ := done_ledger d calibrate turn event
    simp only [step, hdone]
    exact (bound_owned h event turn.current_cue_id).complete response_id

/-- The response that an event ends has, in the ledger after the claim, a lineage under the cue under
which it ends. -/
def EndsUnderItsCue (d : OmniEventDiagnostics) (calibrate : String → String → String) (turn : Turn)
    (event : Value) : Prop :=
  ∀ r, native_response_id_from_event event = some r →
    ∀ lineage ∈ (d.claim_native_response_owner_for_event event turn.current_cue_id).response_ledger.lineages,
      lineage.response_id = some r →
        (d.handle_response_done calibrate turn event).2.cue_id = lineage.cue_id

/-- The cue that streams when the event comes is that of the lineage. If none streams, the event may take
an owner, or the input has the cue. -/
def StreamsUnderItsCue (d : OmniEventDiagnostics) (turn : Turn) (event : Value) : Prop :=
  ∀ r, native_response_id_from_event event = some r →
    ∀ lineage ∈ (d.bound event turn.current_cue_id).1.lineages, lineage.response_id = some r →
      match d.native_response_cue_id with
      | some cue_id => cue_id = lineage.cue_id
      | none => d.may_take_owner event turn.current_cue_id = true ∨
          turn.current_cue_id.getD turn.next_cue_id = lineage.cue_id

theorem ends_iff_streams {d : OmniEventDiagnostics} (h : Owned d.response_ledger)
    (calibrate : String → String → String) (turn : Turn) (event : Value) :
    d.EndsUnderItsCue calibrate turn event ↔ d.StreamsUnderItsCue turn event := by
  unfold EndsUnderItsCue StreamsUnderItsCue
  rw [claim_ledger]
  refine forall_congr' fun r => forall_congr' fun hr => forall_congr' fun lineage => ?_
  refine forall_congr' fun hin => forall_congr' fun hresponse => ?_
  rw [done_cue]
  have hnone : r ≠ "(none)" := by
    rintro rfl
    exact (bound_owned h event turn.current_cue_id).named lineage hin hresponse
  have hid : (event_ids event).normalized.response_id = some r := response_id_normalized hr hnone
  cases hcue : d.native_response_cue_id with
  | some cue_id =>
    have hclaim : (d.take_deferred_empty_vad.claim_native_response_owner_for_event event
        turn.current_cue_id).native_response_cue_id = some cue_id := claim_while_streaming hcue
    rw [hclaim]
    simp
  | none =>
    by_cases hmay : d.may_take_owner event turn.current_cue_id = true
    · refine iff_of_true ?_ (.inl hmay)
      obtain ⟨_, hbound⟩ := Option.isSome_iff_exists.mp (Bool.and_eq_true_iff.mp hmay).1
      have hclaim := claim_takes_lineage (d := d.take_deferred_empty_vad) hcue hmay hbound
      rw [hclaim]
      -- the lineage that is bound is the one that has the response
      rw [bound_eq] at hbound hin
      have hsame := bound_is_owner h (response_id_normalized hr hnone) hnone hbound hin hresponse
      simp [hsame]
    · have hclaim := claim_takes_nothing (d := d.take_deferred_empty_vad) hcue (Bool.eq_false_iff.mpr hmay) hid
      rw [hclaim]
      simp [hmay]

/-- In every run, a response ends under the cue of its lineage exactly when that cue streams, or no cue
streams and the event may take the owner. -/
theorem response_ends_under_its_cue_iff (calibrate : String → String → String) (d : OmniEventDiagnostics)
    (ops : List Op) (turn : Turn) (event : Value) :
    (run (step calibrate) d.clear_native_response_owners ops).EndsUnderItsCue calibrate turn event ↔
      (run (step calibrate) d.clear_native_response_owners ops).StreamsUnderItsCue turn event := by
  refine ends_iff_streams ?_ calibrate turn event
  refine run_keeps (step calibrate) (fun d => Owned d.response_ledger) (step_owned calibrate) ?_ ops
  exact Owned.nil _

/-- An event with a response and its input. -/
def response_event (response_id input_item_id : String) : Value :=
  .object [("response", .object [("id", .string response_id), ("input_item_id", .string input_item_id),
    ("status", .string "completed")])]

def fresh_diagnostics : OmniEventDiagnostics :=
  ⟨none, none, 0, none, none, none, none, none, none, [], [], [], none, false, .new, 0⟩

/-- The input of the second turn is being spoken, and the text of the first response waits. -/
def second_turn : Turn where
  source_language := "en"
  current_cue_id := some "cue-three"
  pending_source_text := ""
  pending_translated_text := "zwei"
  subtitle_translate_active := false
  require_completed_status := true
  transcription_completed_flag := false
  next_cue_id := "cue-four"
  recent_cues := [("cue-one", "one"), ("cue-two", "two"), ("cue-three", "")]
  final_sources := []

/-- Two responses stream, and the second one ends first. -/
theorem second_response_ends_under_the_first_cue :
    ¬ (run (step fun _ text => text) fresh_diagnostics.clear_native_response_owners
      [.capture "cue-one" (some "item-one"), .capture "cue-two" (some "item-two"),
        .claim (response_event "resp-one" "item-one") (some "cue-two"),
        .claim (response_event "resp-two" "item-two") (some "cue-three")]).EndsUnderItsCue
      (fun _ text => text) second_turn (response_event "resp-two" "item-two") := by
  intro h
  have hends := h "resp-two" (by decide +kernel)
    ⟨0, "cue-two", some "item-two", none, some "resp-two", false⟩ (by decide +kernel) rfl
  exact absurd hends (by decide +kernel)

end OmniEventDiagnostics

end omni_translate.native_responses

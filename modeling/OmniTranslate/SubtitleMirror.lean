-- What a dispatch of the delta stream does to an index that agrees with the
-- stream: every delta applies, the contents are those of the new window, and
-- new cues come first, before the cues that stayed.
import OmniTranslate.SubtitleDelta

namespace omni_translate.subtitle_delta

open runs
open sentence (Instant)
open translation_lifecycle (SubtitleCue)
open SubtitleDeltaStream (push_delta)

variable {U : Type}

/-! ## Cues by id -/

/-- The ids of cues. -/
def ids (cues : List SubtitleCue) : List String := cues.map (·.cue_id)

variable {cues : List SubtitleCue} {id : String}

@[simp] theorem ids_cons (cue : SubtitleCue) (cues : List SubtitleCue) :
    ids (cue :: cues) = cue.cue_id :: ids cues := rfl

theorem mem_ids :
    id ∈ ids cues ↔ ∃ cue ∈ cues, cue.cue_id = id := List.mem_map

theorem filter_ids (p : String → Bool) (cues : List SubtitleCue) :
    (ids cues).filter p = ids (cues.filter fun cue => p cue.cue_id) :=
  List.filter_map

/-- A map after cues are set in it. -/
def set_cues (m : CueMap) (cues : List SubtitleCue) : CueMap :=
  cues.foldl (fun m cue => Function.update m cue.cue_id (some cue)) m

theorem set_cues_of_not_mem (h : id ∉ ids cues) (m : CueMap) : set_cues m cues id = m id := by
  induction cues generalizing m with
  | nil => rfl
  | cons cue cues ih =>
    simp only [ids_cons, List.mem_cons, not_or] at h
    change set_cues (Function.update m cue.cue_id (some cue)) cues id = m id
    rw [ih h.2, Function.update_of_ne h.1]

variable {cue : SubtitleCue}

theorem set_cues_of_mem (hnd : (ids cues).Nodup) (h : cue ∈ cues) (m : CueMap) :
    set_cues m cues cue.cue_id = some cue := by
  induction cues generalizing m with
  | nil => cases h
  | cons c cues ih =>
    simp only [ids_cons, List.nodup_cons] at hnd
    change set_cues (Function.update m c.cue_id (some c)) cues cue.cue_id = some cue
    rcases List.mem_cons.mp h with rfl | h
    · rw [set_cues_of_not_mem hnd.1, Function.update_self]
    · exact ih hnd.2 h _

theorem by_id_of_mem (hnd : (ids cues).Nodup) (h : cue ∈ cues) : by_id cues cue.cue_id = some cue :=
  set_cues_of_mem hnd h _

theorem by_id_of_not_mem (h : id ∉ ids cues) : by_id cues id = none :=
  set_cues_of_not_mem h _

theorem by_id_isNone (hnd : (ids cues).Nodup) (id : String) :
    (by_id cues id).isNone = true ↔ id ∉ ids cues := by
  constructor
  · intro h hmem
    obtain ⟨cue, hc, rfl⟩ := mem_ids.mp hmem
    rw [by_id_of_mem hnd hc] at h
    cases h
  · intro h
    rw [by_id_of_not_mem h]
    rfl

/-- Reading the ids of cues by id gives the cues. -/
theorem filterMap_by_id (hnd : (ids cues).Nodup) : (ids cues).filterMap (by_id cues) = cues := by
  have h : ∀ l : List SubtitleCue, (∀ cue ∈ l, cue ∈ cues) →
      (ids l).filterMap (by_id cues) = l := by
    intro l
    induction l with
    | nil => intro _; rfl
    | cons cue l ih =>
      intro hl
      have hcue := by_id_of_mem hnd (hl cue List.mem_cons_self)
      simp only [ids_cons, List.filterMap_cons, hcue]
      rw [ih fun c hc => hl c (List.mem_cons_of_mem _ hc)]
  exact h cues fun _ hc => hc

/-! ## One delta -/

/-- The contents of the index: its cues and their order. -/
abbrev Contents := CueMap × List String

def contents (index : SubtitleCueIndex) : Contents := (index.cueById, index.orderedCueIds)

/-- What a delta that applies does to the contents. -/
def apply_cue (operation : DeltaOperation) (c : Contents) (cue : SubtitleCue) : Contents :=
  match operation with
  | .reset => c
  | .remove =>
    if (c.1 cue.cue_id).isNone then c
    else capWindow (Function.update c.1 cue.cue_id none) (c.2.filter (· ≠ cue.cue_id))
  | .upsert =>
    capWindow (Function.update c.1 cue.cue_id (some cue))
      (if (c.1 cue.cue_id).isNone then cue.cue_id :: c.2 else c.2)

/-- The index stands at the cursor of the stream. -/
structure SameCursor (index : SubtitleCueIndex) (s : SubtitleDeltaStream U) : Prop where
  started : index.streamId ≠ ""
  streamId : index.streamId = s.stream_id
  generation : index.generation = s.generation
  seq : index.seq = s.seq

theorem next_counter_eq {n : Nat} (h : n < MAX_SAFE_INTEGER) : next_counter n = n + 1 := by
  have h64 : n + 1 < 2 ^ 64 := by
    have : MAX_SAFE_INTEGER < 2 ^ 64 - 1 := by decide
    omega
  unfold next_counter
  rw [Nat.mod_eq_of_lt h64]
  omega

variable {s : SubtitleDeltaStream U} {index : SubtitleCueIndex}

/-- A delta with a cue, pushed where the index stands, applies. -/
theorem apply_pushed (h : SameCursor index s) (hsafe : s.seq < MAX_SAFE_INTEGER)
    {operation : DeltaOperation} (hop : operation ≠ .reset) (cue : SubtitleCue) :
    applySubtitleDeltaToIndex index
        ⟨s.stream_id, s.generation, next_counter s.seq, operation, some cue⟩ =
      (.applied, ⟨(apply_cue operation (contents index) cue).1,
        (apply_cue operation (contents index) cue).2, s.stream_id, s.generation,
        next_counter s.seq⟩) := by
  have hstream := h.streamId ▸ h.started
  rw [next_counter_eq hsafe]
  have hreset : isExpectedReset index
      ⟨s.stream_id, s.generation, s.seq + 1, operation, some cue⟩ = false := by
    simp [isExpectedReset, hop]
  unfold applySubtitleDeltaToIndex
  simp only [h.streamId, h.generation, h.seq, hreset, hstream, if_false, ne_eq,
    not_true_eq_false, false_and, Bool.false_eq_true, not_false_eq_true, and_false,
    show ¬ s.seq + 1 ≤ s.seq by omega]
  cases operation with
  | reset => exact absurd rfl hop
  | remove =>
    by_cases hnone : (index.cueById cue.cue_id).isNone = true
    · simp [apply_cue, contents, hnone]
    · simp [apply_cue, contents, hnone]
  | upsert => rfl

theorem applySubtitleDeltas_append (index : SubtitleCueIndex) (a b : List SubtitleDelta) :
    applySubtitleDeltas index (a ++ b) =
      ((applySubtitleDeltas index a).1 ++ (applySubtitleDeltas (applySubtitleDeltas index a).2 b).1,
        (applySubtitleDeltas (applySubtitleDeltas index a).2 b).2) := by
  induction a generalizing index with
  | nil => rfl
  | cons d a ih =>
    simp only [List.cons_append, applySubtitleDeltas, ih]

/-- Every delta of the list applies, and they lead from one index to another. -/
def Leads (index : SubtitleCueIndex) (deltas : List SubtitleDelta) (index' : SubtitleCueIndex) :
    Prop :=
  (∀ r ∈ (applySubtitleDeltas index deltas).1, r = .applied) ∧
    (applySubtitleDeltas index deltas).2 = index'

theorem Leads.append {index index' index'' : SubtitleCueIndex} {a b : List SubtitleDelta}
    (ha : Leads index a index') (hb : Leads index' b index'') : Leads index (a ++ b) index'' := by
  unfold Leads at ha hb ⊢
  rw [applySubtitleDeltas_append]
  obtain ⟨ha1, rfl⟩ := ha
  obtain ⟨hb1, rfl⟩ := hb
  refine ⟨?_, rfl⟩
  intro r hr
  rcases List.mem_append.mp hr with hr | hr
  · exact ha1 r hr
  · exact hb1 r hr

theorem Leads.single {index index' : SubtitleCueIndex} {delta : SubtitleDelta}
    (h : applySubtitleDeltaToIndex index delta = (.applied, index')) :
    Leads index [delta] index' := by
  unfold Leads applySubtitleDeltas
  simp [h, applySubtitleDeltas]

/-- A row of pushes of one operation leads the index to the new cursor. -/
theorem push_all_leads {operation : DeltaOperation} (hop : operation ≠ .reset)
    (cues : List SubtitleCue) (acc : SubtitleDeltaStream U × List SubtitleDelta)
    (index : SubtitleCueIndex) {start : SubtitleCueIndex} (h : SameCursor index acc.1)
    (hsafe : acc.1.seq + cues.length ≤ MAX_SAFE_INTEGER) (hlead : Leads start acc.2 index) :
    let r := (cues.map some).foldl (push_delta operation) acc
    let c := cues.foldl (apply_cue operation) (contents index)
    Leads start r.2 ⟨c.1, c.2, r.1.stream_id, r.1.generation, r.1.seq⟩ ∧
      SameCursor ⟨c.1, c.2, r.1.stream_id, r.1.generation, r.1.seq⟩ r.1 ∧
      r.1 = { acc.1 with seq := acc.1.seq + cues.length } := by
  induction cues generalizing acc index with
  | nil =>
    refine ⟨?_, ⟨h.streamId ▸ h.started, rfl, rfl, rfl⟩, rfl⟩
    have heq : index = ⟨index.cueById, index.orderedCueIds, acc.1.stream_id, acc.1.generation,
        acc.1.seq⟩ := by
      rw [← h.streamId, ← h.generation, ← h.seq]
    rw [heq] at hlead
    exact hlead
  | cons cue cues ih =>
    simp only [List.length_cons] at hsafe
    have hlt : acc.1.seq < MAX_SAFE_INTEGER := by omega
    have happly := apply_pushed h hlt hop cue
    have hnext := next_counter_eq hlt
    have hstream := h.streamId ▸ h.started
    obtain ⟨h1, h2, h3⟩ := ih (push_delta operation acc (some cue))
      ⟨(apply_cue operation (contents index) cue).1,
        (apply_cue operation (contents index) cue).2, acc.1.stream_id, acc.1.generation,
        next_counter acc.1.seq⟩
      ⟨hstream, rfl, rfl, rfl⟩
      (by simp only [push_delta, hnext]; omega)
      (hlead.append (Leads.single happly))
    refine ⟨h1, h2, h3.trans ?_⟩
    simp only [push_delta, hnext, List.length_cons]
    congr 1
    omega

/-! ## A whole dispatch -/

variable {order : List String}

theorem capWindow_of_le {m : CueMap} (h : order.length ≤ SUBTITLE_WINDOW_LIMIT) :
    capWindow m order = (m, order) := by
  unfold capWindow
  rw [if_neg (by omega)]

/-- A row of removals from contents that hold every id they order. -/
theorem remove_all_contents (cues : List SubtitleCue) {m : CueMap}
    (hcap : order.length ≤ SUBTITLE_WINDOW_LIMIT) (hm : ∀ id ∈ order, (m id).isSome = true) :
    cues.foldl (apply_cue .remove) (m, order) =
      (fun id => if id ∈ ids cues then none else m id, order.filter (· ∉ ids cues)) := by
  induction cues generalizing m order with
  | nil => simp [ids]
  | cons cue cues ih =>
    have hstep : apply_cue .remove (m, order) cue =
        (Function.update m cue.cue_id none, order.filter (· ≠ cue.cue_id)) := by
      have hcap' : (order.filter (· ≠ cue.cue_id)).length ≤ SUBTITLE_WINDOW_LIMIT :=
        (List.length_filter_le _ _).trans hcap
      unfold apply_cue
      simp only
      split
      · rename_i hnone
        -- an id without a cue is not in the order either
        have hid : m cue.cue_id = none := by simpa using hnone
        have hnot : ∀ id ∈ order, id ≠ cue.cue_id := by
          rintro id hid' rfl
          have := hm _ hid'
          simp [hid] at this
        rw [← hid, Function.update_eq_self, List.filter_eq_self.mpr (by simpa using hnot)]
      · exact capWindow_of_le hcap'
    rw [List.foldl_cons, hstep, ih]
    · simp only [ids_cons, List.mem_cons, Prod.mk.injEq, List.filter_filter]
      refine ⟨?_, ?_⟩
      · funext id
        by_cases h1 : id ∈ ids cues
        · simp [h1]
        · by_cases h2 : id = cue.cue_id
          · subst h2; simp [h1]
          · simp [h1, h2]
      · congr 1
        funext id
        by_cases h1 : id ∈ ids cues <;> by_cases h2 : id = cue.cue_id <;> simp [h1, h2]
    · exact (List.length_filter_le _ _).trans hcap
    · intro id hid
      obtain ⟨hmem, hne⟩ := List.mem_filter.mp hid
      rw [Function.update_of_ne (by simpa using hne)]
      exact hm id hmem

/-- A row of upserts that stays in the window: new ids go to the front. -/
theorem upsert_all_contents (cues : List SubtitleCue) {m : CueMap} (hnd : (ids cues).Nodup)
    (hcap : ((ids cues).filter fun id => (m id).isNone).length + order.length ≤
      SUBTITLE_WINDOW_LIMIT) :
    cues.foldl (apply_cue .upsert) (m, order) =
      (set_cues m cues, ((ids cues).reverse.filter fun id => (m id).isNone) ++ order) := by
  induction cues generalizing m order with
  | nil => rfl
  | cons cue cues ih =>
    simp only [ids_cons, List.nodup_cons, List.filter_cons] at hnd hcap
    -- the other ids read the same cues after the update
    have hsame : ∀ id ∈ ids cues, Function.update m cue.cue_id (some cue) id = m id := by
      intro id hid
      apply Function.update_of_ne
      rintro rfl
      exact hnd.1 hid
    have hfilter : (ids cues).filter
        (fun id => (Function.update m cue.cue_id (some cue) id).isNone) =
          (ids cues).filter fun id => (m id).isNone :=
      List.filter_congr fun id hid => by rw [hsame id hid]
    have hfilter' : (ids cues).reverse.filter
        (fun id => (Function.update m cue.cue_id (some cue) id).isNone) =
          (ids cues).reverse.filter fun id => (m id).isNone := by
      rw [List.filter_reverse, List.filter_reverse, hfilter]
    by_cases hnew : (m cue.cue_id).isNone = true
    · simp only [hnew, if_true, List.length_cons] at hcap
      have hstep : apply_cue .upsert (m, order) cue =
          (Function.update m cue.cue_id (some cue), cue.cue_id :: order) := by
        unfold apply_cue
        simp only [hnew, if_true]
        exact capWindow_of_le (by simp only [List.length_cons]; omega)
      rw [List.foldl_cons, hstep, ih hnd.2 (by rw [hfilter]; simp only [List.length_cons]; omega),
        hfilter']
      simp [set_cues, hnew]
    · simp only [hnew, Bool.false_eq_true, if_false] at hcap
      have hstep : apply_cue .upsert (m, order) cue =
          (Function.update m cue.cue_id (some cue), order) := by
        unfold apply_cue
        simp only [hnew, Bool.false_eq_true, if_false]
        exact capWindow_of_le (by omega)
      rw [List.foldl_cons, hstep, ih hnd.2 (by rw [hfilter]; omega), hfilter']
      simp [set_cues, hnew]

/-- The stream knows the window `cues`. -/
structure Knows (s : SubtitleDeltaStream U) (cues : List SubtitleCue) : Prop where
  known : s.known_cues = by_id cues
  ordered : s.ordered_cue_ids = ids cues
  nodup : (ids cues).Nodup
  short : cues.length ≤ SUBTITLE_BASELINE_LIMIT

/-- The order in which an index shows a window after a dispatch: new cues first, then the old
ones that stayed. -/
def shown_order (old new : List String) : List String :=
  new.filter (· ∉ old) ++ old.filter (· ∈ new)

/-- The cues that a dispatch removes are those that are known and not in the new window. -/
theorem mem_ids_removed {old new : List SubtitleCue} (h : Knows s old) (hnd : (ids new).Nodup) :
    id ∈ ids (s.removed_cues new) ↔ id ∈ ids old ∧ id ∉ ids new := by
  rw [mem_ids]
  simp only [SubtitleDeltaStream.removed_cues, List.mem_filterMap, List.mem_filter,
    List.mem_reverse, h.ordered, h.known, by_id_isNone hnd]
  constructor
  · rintro ⟨cue, ⟨id', ⟨hold, hnew⟩, hcue⟩, rfl⟩
    obtain ⟨cue', hc', rfl⟩ := mem_ids.mp hold
    rw [by_id_of_mem h.nodup hc'] at hcue
    cases hcue
    exact ⟨hold, hnew⟩
  · rintro ⟨hold, hnew⟩
    obtain ⟨cue, hc, rfl⟩ := mem_ids.mp hold
    exact ⟨cue, ⟨cue.cue_id, ⟨hold, hnew⟩, by_id_of_mem h.nodup hc⟩, rfl⟩

/-- What the removals leave: the known cues of the new window. -/
theorem removed_contents {old new : List SubtitleCue} (h : Knows s old) (hnd : (ids new).Nodup) :
    (s.removed_cues new).foldl (apply_cue .remove) (by_id old, ids old) =
      (fun id => if id ∈ ids old ∧ id ∉ ids new then none else by_id old id,
        (ids old).filter (· ∈ ids new)) := by
  rw [remove_all_contents]
  · simp only [mem_ids_removed h hnd, Prod.mk.injEq, true_and]
    refine List.filter_congr fun id hid => ?_
    simp [hid]
  · rw [ids, List.length_map]
    exact h.short
  · intro id hid
    obtain ⟨cue, hc, rfl⟩ := mem_ids.mp hid
    rw [by_id_of_mem h.nodup hc]
    rfl

theorem mem_changed {old new : List SubtitleCue} (h : Knows s old) :
    cue ∈ s.changed_cues new ↔ cue ∈ new ∧ by_id old cue.cue_id ≠ some cue := by
  simp [SubtitleDeltaStream.changed_cues, h.known]

/-- The ids that the upserts bring in, newest first. -/
theorem new_ids_of_changed {old : List SubtitleCue} (h : Knows s old) (new : List SubtitleCue) :
    ((ids (s.changed_cues new)).reverse.filter fun id =>
        (if id ∈ ids old ∧ id ∉ ids new then none else by_id old id).isNone) =
      (ids new).filter (· ∉ ids old) := by
  have hrev : (ids (s.changed_cues new)).reverse =
      ids (new.filter fun cue => by_id old cue.cue_id ≠ some cue) := by
    simp only [ids, SubtitleDeltaStream.changed_cues, h.known, List.filter_reverse,
      List.map_reverse, List.reverse_reverse]
  rw [hrev, filter_ids, filter_ids, List.filter_filter]
  congr 1
  refine List.filter_congr fun cue hc => ?_
  have hnew : cue.cue_id ∈ ids new := mem_ids.mpr ⟨cue, hc, rfl⟩
  by_cases hold : cue.cue_id ∈ ids old
  · have hsome : (by_id old cue.cue_id).isNone = false := by
      by_contra hn
      exact (by_id_isNone h.nodup _).mp (by simpa using hn) hold
    simp [hnew, hold, hsome]
  · simp [hold, by_id_of_not_mem hold]

theorem shown_order_length {old new : List String} (hold : old.Nodup) (hnew : new.Nodup) :
    (shown_order old new).length ≤ new.length := by
  have hnd : (shown_order old new).Nodup := by
    refine List.Nodup.append (hnew.filter _) (hold.filter _) ?_
    intro id h1 h2
    simp_all
  refine (List.subperm_of_subset hnd ?_).length_le
  intro id hid
  rcases List.mem_append.mp hid with hid | hid
  · exact (List.mem_filter.mp hid).1
  · simpa using (List.mem_filter.mp hid).2

/-- The contents after the deltas from window `old` to window `new`. -/
theorem dispatch_contents {old new : List SubtitleCue} (h : Knows s old) (hnd : (ids new).Nodup)
    (hshort : new.length ≤ SUBTITLE_WINDOW_LIMIT) :
    (s.changed_cues new).foldl (apply_cue .upsert)
        ((s.removed_cues new).foldl (apply_cue .remove) (by_id old, ids old)) =
      (by_id new, shown_order (ids old) (ids new)) := by
  have hchanged : (ids (s.changed_cues new)).Nodup := by
    have hsub : (ids (s.changed_cues new)).Sublist (ids new).reverse := by
      rw [ids, ids, ← List.map_reverse]
      exact List.filter_sublist.map _
    exact (List.nodup_reverse.mpr hnd).sublist hsub
  have hnewids := new_ids_of_changed h new
  rw [removed_contents h hnd, upsert_all_contents _ hchanged]
  · rw [hnewids]
    refine Prod.ext ?_ rfl
    funext id
    simp only
    by_cases hid : id ∈ ids new
    · obtain ⟨cue, hc, rfl⟩ := mem_ids.mp hid
      rw [by_id_of_mem hnd hc]
      by_cases hch : by_id old cue.cue_id = some cue
      · -- the cue did not change, so no upsert has its id
        rw [set_cues_of_not_mem]
        · simp [hid, hch]
        · intro hmem
          obtain ⟨cue', hc', heq⟩ := mem_ids.mp hmem
          obtain ⟨hnew', hne⟩ := (mem_changed h).mp hc'
          obtain rfl : cue' = cue := List.inj_on_of_nodup_map hnd hnew' hc heq
          exact hne hch
      · exact set_cues_of_mem hchanged ((mem_changed h).mpr ⟨hc, hch⟩) _
    · rw [by_id_of_not_mem hid, set_cues_of_not_mem]
      · by_cases hold : id ∈ ids old
        · simp [hold, hid]
        · simp [hold, by_id_of_not_mem hold]
      · intro hmem
        obtain ⟨cue, hc, rfl⟩ := mem_ids.mp hmem
        exact hid (mem_ids.mpr ⟨cue, ((mem_changed h).mp hc).1, rfl⟩)
  · have hlen := shown_order_length h.nodup hnd
    have hnewlen : (ids new).length = new.length := List.length_map _
    have hcount := congrArg List.length hnewids
    rw [List.filter_reverse, List.length_reverse] at hcount
    simp only [shown_order, List.length_append] at hlen
    omega

/-- The index agrees with the window and the cursor of the stream. -/
structure Agrees (index : SubtitleCueIndex) (s : SubtitleDeltaStream U) : Prop where
  cursor : SameCursor index s
  cueById : index.cueById = s.known_cues
  orderedCueIds : index.orderedCueIds = s.ordered_cue_ids

/-- The counters of the stream have room for one more dispatch below the largest integer that
the numbers of the index count exactly. -/
def safe_counters (s : SubtitleDeltaStream U) : Prop :=
  s.seq + 2 * SUBTITLE_BASELINE_LIMIT ≤ MAX_SAFE_INTEGER ∧ s.generation < MAX_SAFE_INTEGER

theorem removed_length {old : List SubtitleCue} (h : Knows s old) (new : List SubtitleCue) :
    (s.removed_cues new).length ≤ SUBTITLE_BASELINE_LIMIT := by
  have h1 := List.length_filterMap_le s.known_cues
    (s.ordered_cue_ids.reverse.filter fun id => (by_id new id).isNone)
  have h2 := List.length_filter_le (fun id => (by_id new id).isNone) s.ordered_cue_ids.reverse
  have h3 : s.ordered_cue_ids.length = old.length := by rw [h.ordered, ids, List.length_map]
  have := h.short
  rw [List.length_reverse] at h2
  unfold SubtitleDeltaStream.removed_cues
  omega

/-- The pushed deltas lead an index that agrees to the contents of the new window. -/
theorem push_deltas_leads {old new : List SubtitleCue} (h : Knows s old) (hnd : (ids new).Nodup)
    (hshort : new.length ≤ SUBTITLE_BASELINE_LIMIT) (hsafe : safe_counters s)
    (hagree : Agrees index s) :
    Leads index (s.push_deltas new).2 ⟨by_id new, shown_order (ids old) (ids new), s.stream_id,
      (s.push_deltas new).1.generation, (s.push_deltas new).1.seq⟩ ∧
      (s.push_deltas new).1.stream_id = s.stream_id := by
  have hcursor := hagree.cursor
  unfold SubtitleDeltaStream.push_deltas
  split
  · rename_i hreset
    obtain ⟨rfl, _⟩ := hreset
    refine ⟨?_, rfl⟩
    have hgen := next_counter_eq hsafe.2
    have hstream : s.stream_id ≠ "" := hcursor.streamId ▸ hcursor.started
    have hexp : isExpectedReset index ⟨s.stream_id, next_counter s.generation, next_counter 0,
        .reset, none⟩ = true := by
      have hfirst : next_counter 0 = 1 := by decide
      simp [isExpectedReset, hgen, hcursor.generation, hfirst]
    have hempty : shown_order (ids old) (ids []) = [] := by simp [shown_order, ids]
    rw [hempty]
    apply Leads.single
    unfold applySubtitleDeltaToIndex
    simp only [hcursor.streamId, hstream, hexp, if_false, ne_eq, not_true_eq_false, and_false,
      false_and, if_true]
    rfl
  · have hrem := removed_length h new
    have hchg : (s.changed_cues new).length ≤ SUBTITLE_BASELINE_LIMIT := by
      refine (List.length_filter_le _ _).trans ?_
      rw [List.length_reverse]
      exact hshort
    obtain ⟨hseq, _⟩ := hsafe
    obtain ⟨h1, h2, h3⟩ := push_all_leads (show DeltaOperation.remove ≠ .reset by decide)
      (s.removed_cues new) (s, []) index hcursor (by simp only; omega)
      ⟨by simp [applySubtitleDeltas], rfl⟩
    obtain ⟨h4, _, h6⟩ := push_all_leads (show DeltaOperation.upsert ≠ .reset by decide)
      (s.changed_cues new) _ _ h2 (by rw [h3]; simp only; omega) h1
    have hcontents : contents index = (by_id old, ids old) := by
      rw [contents, hagree.cueById, hagree.orderedCueIds, h.known, h.ordered]
    have hstream : (((s.changed_cues new).map some).foldl (push_delta .upsert)
        (((s.removed_cues new).map some).foldl (push_delta .remove)
          (s, []))).1.stream_id = s.stream_id := by
      rw [h6, h3]
    refine ⟨?_, hstream⟩
    simp only [hcontents] at h4
    rw [show contents _ = (s.removed_cues new).foldl (apply_cue .remove) (by_id old, ids old)
      from rfl, dispatch_contents h hnd hshort, hstream] at h4
    exact h4

theorem prepare_dispatch_leads [DecidableEq U] {old recent_cues : List SubtitleCue}
    (h : Knows s old) (hnd : (ids recent_cues).Nodup) (hsafe : safe_counters s)
    (hagree : Agrees index s) (urgent_fingerprint : U) (now : Instant) :
    let r := s.prepare_dispatch recent_cues urgent_fingerprint now
    let window := recent_cues.take SUBTITLE_BASELINE_LIMIT
    Leads index r.2.deltas ⟨by_id window, shown_order (ids old) (ids window), r.1.stream_id,
      r.1.generation, r.1.seq⟩ ∧ r.1.stream_id = s.stream_id := by
  have hwindow : (ids (recent_cues.take SUBTITLE_BASELINE_LIMIT)).Nodup :=
    hnd.sublist ((List.take_sublist _ _).map _)
  obtain ⟨hleads, hstream⟩ := push_deltas_leads h hwindow (List.length_take_le _ _) hsafe hagree
  refine ⟨?_, hstream⟩
  simp only [SubtitleDeltaStream.prepare_dispatch, hstream]
  exact hleads

/-- After a dispatch the stream knows the window that it sent. -/
theorem knows_dispatched [DecidableEq U] (s : SubtitleDeltaStream U)
    {recent_cues : List SubtitleCue} (hnd : (ids recent_cues).Nodup) (urgent_fingerprint : U)
    (now : Instant) :
    Knows (s.prepare_dispatch recent_cues urgent_fingerprint now).1
      (recent_cues.take SUBTITLE_BASELINE_LIMIT) :=
  ⟨rfl, rfl, hnd.sublist ((List.take_sublist _ _).map _), List.length_take_le _ _⟩

/-! ## The law -/

/-- Every delta of the dispatch applies, and the index is left with the first cues of the
overlay, in their order, and with the cursor of the stream. -/
def mirrors [DecidableEq U] (index : SubtitleCueIndex) (s : SubtitleDeltaStream U)
    (recent_cues : List SubtitleCue) (urgent_fingerprint : U) (now : Instant) : Prop :=
  let r := s.prepare_dispatch recent_cues urgent_fingerprint now
  let applied := applySubtitleDeltas index r.2.deltas
  (∀ result ∈ applied.1, result = .applied) ∧
    indexedCues applied.2 = recent_cues.take SUBTITLE_BASELINE_LIMIT ∧
    applied.2.streamId = r.1.stream_id ∧ applied.2.generation = r.1.generation ∧
    applied.2.seq = r.1.seq

/-- The new window shows its new cues first and then the old ones in their old order. -/
def keeps_order (s : SubtitleDeltaStream U) (recent_cues : List SubtitleCue) : Prop :=
  ids (recent_cues.take SUBTITLE_BASELINE_LIMIT) =
    shown_order s.ordered_cue_ids (ids (recent_cues.take SUBTITLE_BASELINE_LIMIT))

/-- The ids of cues that are read by id are the ids read. -/
theorem ids_filterMap_by_id (hnd : (ids cues).Nodup) (h : ∀ id ∈ order, id ∈ ids cues) :
    ids (order.filterMap (by_id cues)) = order := by
  induction order with
  | nil => rfl
  | cons id order ih =>
    obtain ⟨cue, hc, rfl⟩ := mem_ids.mp (h id List.mem_cons_self)
    simp only [List.filterMap_cons, by_id_of_mem hnd hc, ids_cons]
    rw [ih fun id hid => h id (List.mem_cons_of_mem _ hid)]

theorem mem_shown_order {old new : List String} (h : id ∈ shown_order old new) : id ∈ new := by
  rcases List.mem_append.mp h with h | h
  · exact (List.mem_filter.mp h).1
  · simpa using (List.mem_filter.mp h).2

theorem mirrors_iff [DecidableEq U] {old recent_cues : List SubtitleCue} (h : Knows s old)
    (hnd : (ids recent_cues).Nodup) (hsafe : safe_counters s) (hagree : Agrees index s)
    (urgent_fingerprint : U) (now : Instant) :
    mirrors index s recent_cues urgent_fingerprint now ↔ keeps_order s recent_cues := by
  obtain ⟨⟨hall, heq⟩, _⟩ := prepare_dispatch_leads h hnd hsafe hagree urgent_fingerprint now
  have hwindow : (ids (recent_cues.take SUBTITLE_BASELINE_LIMIT)).Nodup :=
    hnd.sublist ((List.take_sublist _ _).map _)
  unfold mirrors keeps_order
  simp only [heq, h.ordered, indexedCues, and_true]
  constructor
  · rintro ⟨_, hcues⟩
    have hids := congrArg ids hcues
    rw [ids_filterMap_by_id hwindow fun id hid => mem_shown_order hid] at hids
    exact hids.symm
  · intro horder
    refine ⟨hall, ?_⟩
    rw [← horder]
    exact filterMap_by_id hwindow

/-- A change of the overlay, or a dispatch. -/
inductive OverlayOp (U : Type)
  | push_front (cue : SubtitleCue)
  | update (cue : SubtitleCue)
  | remove (cue_id : String)
  | dispatch (urgent_fingerprint : U) (now : Instant)

/-- The cues of the overlay, newest first, and the stream. -/
structure History (U : Type) where
  recent_cues : List SubtitleCue
  stream : SubtitleDeltaStream U

namespace History

def new (stream_id : String) : History U := ⟨[], SubtitleDeltaStream.new stream_id⟩

def step [DecidableEq U] (h : History U) : OverlayOp U → History U
  | .push_front cue =>
    if cue.cue_id ∈ ids h.recent_cues then h
    else { h with recent_cues := cue :: h.recent_cues }
  | .update cue =>
    { h with recent_cues := h.recent_cues.map fun c => if c.cue_id = cue.cue_id then cue else c }
  | .remove cue_id => { h with recent_cues := h.recent_cues.filter (·.cue_id ≠ cue_id) }
  | .dispatch urgent_fingerprint now =>
    { h with stream := (h.stream.prepare_dispatch h.recent_cues urgent_fingerprint now).1 }

end History

/-- The ids of the overlay are distinct, and the stream knows the window it sent last. -/
structure Distinct (h : History U) : Prop where
  nodup : (ids h.recent_cues).Nodup
  knows : ∃ old, Knows h.stream old

theorem distinct_new (stream_id : String) : Distinct (History.new stream_id : History U) :=
  ⟨List.nodup_nil, [], rfl, rfl, List.nodup_nil, by simp⟩

theorem Distinct.step [DecidableEq U] {h : History U} (hd : Distinct h) (op : OverlayOp U) :
    Distinct (h.step op) := by
  cases op with
  | push_front cue =>
    simp only [History.step]
    split
    · exact hd
    · rename_i hnew
      exact ⟨List.nodup_cons.mpr ⟨hnew, hd.nodup⟩, hd.knows⟩
  | update cue =>
    refine ⟨?_, hd.knows⟩
    have hids : ids (h.recent_cues.map fun c => if c.cue_id = cue.cue_id then cue else c) =
        ids h.recent_cues := by
      simp only [ids, List.map_map]
      refine List.map_congr_left fun c _ => ?_
      simp only [Function.comp_apply]
      split
      · rename_i heq
        exact heq.symm
      · rfl
    simp only [History.step, hids]
    exact hd.nodup
  | remove cue_id => exact ⟨hd.nodup.sublist (List.filter_sublist.map _), hd.knows⟩
  | dispatch urgent_fingerprint now =>
    exact ⟨hd.nodup, _, knows_dispatched _ hd.nodup urgent_fingerprint now⟩

/-- After any history of the overlay, an index that agrees with the stream mirrors the next
dispatch exactly when the dispatch keeps the order. -/
theorem a_dispatch_is_mirrored_iff [DecidableEq U] (stream_id : String) (ops : List (OverlayOp U))
    (index : SubtitleCueIndex) (urgent_fingerprint : U) (now : Instant)
    (hagree : Agrees index (run History.step (History.new stream_id) ops).stream)
    (hsafe : safe_counters (run History.step (History.new stream_id) ops).stream) :
    let h := run History.step (History.new stream_id) ops
    mirrors index h.stream h.recent_cues urgent_fingerprint now ↔
      keeps_order h.stream h.recent_cues := by
  have hd := run_keeps History.step Distinct (fun _ op hd => hd.step op)
    (distinct_new (U := U) stream_id) ops
  obtain ⟨old, hold⟩ := hd.knows
  exact mirrors_iff hold hd.nodup hsafe hagree urgent_fingerprint now

/-- The index of a renderer that agrees with the stream. -/
def index_of (s : SubtitleDeltaStream U) : SubtitleCueIndex :=
  ⟨s.known_cues, s.ordered_cue_ids, s.stream_id, s.generation, s.seq⟩

theorem agrees_index_of (h : s.stream_id ≠ "") : Agrees (index_of s) s :=
  ⟨⟨h, rfl, rfl, rfl⟩, rfl, rfl⟩

/-- A cue with a number for its id. -/
def numbered_cue (n : Nat) : SubtitleCue :=
  translation_lifecycle.new_subtitle_cue ("cue-" ++ toString n) "inbound" [] true n 0

/-- One more cue than the window holds, dispatched, and then the newest is removed. -/
def a_cue_pulled_back : History Unit :=
  run History.step (History.new "stream")
    ((List.range 33).map (OverlayOp.push_front ∘ numbered_cue) ++
      [.dispatch () 0, .remove "cue-32"])

theorem a_cue_pulled_back_is_misplaced :
    Agrees (index_of a_cue_pulled_back.stream) a_cue_pulled_back.stream ∧
      ¬ mirrors (index_of a_cue_pulled_back.stream) a_cue_pulled_back.stream
        a_cue_pulled_back.recent_cues () 1 := by
  refine ⟨agrees_index_of (by decide +kernel), ?_⟩
  intro h
  have hcues := h.2.1
  revert hcues
  decide +kernel

/-- A cue that is pushed is mirrored. -/
theorem a_pushed_cue_is_mirrored :
    let h := run History.step (History.new "stream")
      [.push_front (numbered_cue 1), .dispatch () 0, .push_front (numbered_cue 2)]
    mirrors (index_of h.stream) h.stream h.recent_cues () 1 :=
  (a_dispatch_is_mirrored_iff "stream" _ _ () 1 (agrees_index_of (by decide +kernel))
    (by unfold safe_counters; decide +kernel)).mpr (by unfold keeps_order; decide +kernel)

end omni_translate.subtitle_delta

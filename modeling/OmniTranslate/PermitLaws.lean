-- The laws of the playback permits: the map under the mutex holds each permit that is still held
-- under an id of its own, so that nobody plays once process exclusion owns playback, a permit that
-- was refused once is refused for ever, and the barrier does not forget a failed cleanup.
import OmniTranslate.PlaybackOwnership

namespace omni_translate.playback_ownership

open maps runs
open Playbacks (step respond)

variable {T : Type}

/-! ## What the map should hold -/

/-- What is in the map for a permit. -/
def Granted.live (granted : Granted) : Option ActivePlayback :=
  if granted.dropped then none else some granted.playback

/-- The permit that was granted as the `n`th has the id `n`. -/
def held (permits : List Granted) : Nat → Option ActivePlayback
  | 0 => none
  | i + 1 => permits[i]?.bind Granted.live

/-- There is an id left for a permit that is granted. -/
def ids_suffice (s : Playbacks) : OwnershipOp T → Prop
  | .acquire _ _ => s.state.owner = .desktop → s.permits.length < U64_MAX
  | _ => True

structure Kept (state : PlaybackOwnershipState) (permits : List Granted) : Prop where
  ids : ∀ i granted, permits[i]? = some granted → granted.permit.permit_id = i + 1
  next : state.next_permit_id = min (permits.length + 1) U64_MAX
  mirror : ∀ id, state.active.lookup id = held permits id
  bounded : state.generation ≤ U64_MAX
  born : ∀ granted ∈ permits, granted.playback.generation = granted.permit.generation ∧
    granted.permit.generation ≤ state.generation
  closed : state.owner ≠ .desktop → ∀ granted ∈ permits, granted.dropped = false →
    granted.playback.cancelled = true
  drained : state.owner = .process_exclusion →
    state.active.entries = [] ∧ state.cancellation_failures = []

section

variable {permits : List Granted} {i : Nat} {granted other : Granted}

theorem held_append (permits : List Granted) (granted : Granted) (id : Nat) :
    held (permits ++ [granted]) id =
      if id = permits.length + 1 then granted.live else held permits id := by
  cases id with
  | zero => simp [held]
  | succ j =>
    simp only [held, Nat.add_right_cancel_iff]
    by_cases hj : j = permits.length
    · simp [hj]
    · rw [if_neg hj, List.getElem?_append]
      split
      · rfl
      · rw [List.getElem?_eq_none (l := [granted]) (by simp; omega),
          List.getElem?_eq_none (by omega)]

theorem held_set (h : permits[i]? = some granted) (other : Granted) (id : Nat) :
    held (permits.set i other) id = if id = i + 1 then other.live else held permits id := by
  obtain ⟨hi, -⟩ := List.getElem?_eq_some_iff.mp h
  cases id with
  | zero => simp [held]
  | succ j =>
    simp only [held, Nat.add_right_cancel_iff]
    by_cases hj : j = i
    · simp [hj, hi]
    · rw [if_neg hj, List.getElem?_set_ne (Ne.symm hj)]

/-- A change of every permit that keeps those that are dropped. -/
theorem held_map (f : Granted → Granted) (g : ActivePlayback → ActivePlayback)
    (h : ∀ granted, (f granted).live = granted.live.map g) (id : Nat) :
    held (permits.map f) id = (held permits id).map g := by
  cases id with
  | zero => rfl
  | succ j =>
    simp only [held, List.getElem?_map]
    cases permits[j]? with
    | none => rfl
    | some granted => exact h granted

theorem held_at (h : permits[i]? = some granted) : held permits (i + 1) = granted.live := by
  simp [held, h]

end

/-! ## Every section keeps it -/

section

variable {state : PlaybackOwnershipState} {permits : List Granted} {i : Nat}
  {granted other : Granted}

section

variable (h : Kept state permits)

include h

theorem Kept.empty_iff :
    state.active.entries = [] ↔ ∀ granted ∈ permits, granted.dropped = true := by
  rw [entries_eq_nil]
  constructor
  · intro hnone granted hin
    obtain ⟨i, hi⟩ := List.mem_iff_getElem?.mp hin
    have hlookup : state.active.lookup (i + 1) = none :=
      AList.lookup_eq_none.mpr (hnone (i + 1))
    rw [h.mirror, held_at hi, Granted.live] at hlookup
    by_contra hheld
    rw [if_neg hheld] at hlookup
    cases hlookup
  · intro hdropped id hin
    have hlookup := h.mirror id
    cases id with
    | zero => exact AList.lookup_eq_none.mp hlookup hin
    | succ j =>
      cases hj : permits[j]? with
      | none =>
        rw [held, hj] at hlookup
        exact AList.lookup_eq_none.mp hlookup hin
      | some granted =>
        rw [held_at hj, Granted.live, if_pos (hdropped _ (List.mem_of_getElem? hj))] at hlookup
        exact AList.lookup_eq_none.mp hlookup hin

theorem Kept.lookup (hi : permits[i]? = some granted) :
    state.active.lookup granted.permit.permit_id = granted.live := by
  rw [h.ids i granted hi, h.mirror, held_at hi]

theorem Kept.acquire (cue_id source : String) (howner : state.owner = .desktop)
    (hroom : permits.length < U64_MAX) :
    Kept { state with
        next_permit_id := min (state.next_permit_id + 1) U64_MAX
        active := state.active.insert state.next_permit_id
          ⟨state.generation, cue_id, source, false, []⟩ }
      (permits ++ [⟨⟨state.next_permit_id, state.generation⟩,
        ⟨state.generation, cue_id, source, false, []⟩, false, 0⟩]) := by
  have hid : state.next_permit_id = permits.length + 1 := by
    rw [h.next]
    exact min_eq_left hroom
  refine ⟨fun i granted hi => ?_, ?_, fun id => ?_, h.bounded, fun granted hin => ?_,
    fun hclosed => absurd howner hclosed, fun hclosed => ?_⟩
  · rcases Nat.lt_or_ge i permits.length with hlt | hge
    · exact h.ids i granted (by rwa [List.getElem?_append_left hlt] at hi)
    · rw [List.getElem?_append_right hge] at hi
      obtain ⟨hlast, rfl⟩ := List.getElem?_eq_some_iff.mp hi
      simp only [List.length_singleton] at hlast
      simp only [hid, List.getElem_singleton]
      omega
  · simp only [hid, List.length_append, List.length_singleton]
  · rw [held_append, hid]
    by_cases hnew : id = permits.length + 1
    · subst hnew
      simp [Granted.live]
    · rw [if_neg hnew, AList.lookup_insert_ne hnew, h.mirror]
  · rcases List.mem_append.mp hin with hold | hnew
    · exact h.born granted hold
    · rw [List.mem_singleton.mp hnew]
      exact ⟨rfl, le_rfl⟩
  · rw [show state.owner = .process_exclusion from hclosed] at howner
    cases howner

section

variable (hi : permits[i]? = some granted)

include hi

/-- Something about one permit changes, and about what the map holds for it. -/
theorem Kept.update {active : AList fun _ : Nat => ActivePlayback} {failures : List String}
    (hpermit : other.permit = granted.permit)
    (hgeneration : other.playback.generation = granted.playback.generation)
    (hcancelled : other.playback.cancelled = granted.playback.cancelled)
    (hdropped : other.dropped = false → granted.dropped = false)
    (hactive : ∀ id, active.lookup id = if id = i + 1 then other.live else state.active.lookup id)
    (hdrained : state.owner = .process_exclusion → active.entries = [] ∧ failures = []) :
    Kept { state with active := active, cancellation_failures := failures }
      (permits.set i other) := by
  have hin := List.mem_of_getElem? hi
  refine ⟨fun j found hj => ?_, ?_, fun id => ?_, h.bounded, ?_, fun hclosed => ?_, hdrained⟩
  · by_cases hij : i = j
    · subst hij
      obtain ⟨hlt, -⟩ := List.getElem?_eq_some_iff.mp hi
      obtain rfl : other = found := by simpa [hlt] using hj
      rw [hpermit]
      exact h.ids i granted hi
    · rw [List.getElem?_set_ne hij] at hj
      exact h.ids j found hj
  · rw [List.length_set]
    exact h.next
  · rw [held_set hi, hactive, h.mirror]
  · intro found hfound
    rcases List.mem_or_eq_of_mem_set hfound with hold | rfl
    · exact h.born found hold
    · rw [hpermit, hgeneration]
      exact h.born granted hin
  · intro found hfound hheld
    rcases List.mem_or_eq_of_mem_set hfound with hold | rfl
    · exact h.closed hclosed found hold hheld
    · rw [hcancelled]
      exact h.closed hclosed granted hin (hdropped hheld)

/-- Nothing but the calls on a permit changes. -/
theorem Kept.poll (polls : Nat) : Kept state (permits.set i { granted with polls }) := by
  refine h.update hi rfl rfl rfl id (fun id => ?_) h.drained
  split
  · rename_i hid
    rw [hid, h.mirror, held_at hi]
    rfl
  · rfl

/-- While process exclusion owns playback no permit is held. -/
theorem Kept.not_drained (hheld : granted.dropped = false) : state.owner ≠ .process_exclusion := by
  intro howner
  have hdropped := h.empty_iff.mp (h.drained howner).1 granted (List.mem_of_getElem? hi)
  rw [hheld] at hdropped
  cases hdropped

theorem Kept.record (hheld : granted.dropped = false) (detail : String) :
    Kept (record_cancellation_failure state granted.permit detail)
      (permits.set i (granted.report detail)) := by
  have hlookup : state.active.lookup granted.permit.permit_id = some granted.playback := by
    rw [h.lookup hi, Granted.live, hheld]
    rfl
  unfold record_cancellation_failure
  rw [hlookup]
  refine h.update hi rfl rfl rfl id (fun id => ?_)
    fun howner => absurd howner (h.not_drained hi hheld)
  rw [h.ids i granted hi]
  by_cases hid : id = i + 1
  · subst hid
    simp [Granted.live, Granted.report, hheld]
  · rw [if_neg hid, AList.lookup_insert_ne hid]

theorem Kept.drop (hheld : granted.dropped = false) :
    Kept (drop state granted.permit) (permits.set i { granted with dropped := true }) := by
  have hlookup : state.active.lookup granted.permit.permit_id = some granted.playback := by
    rw [h.lookup hi, Granted.live, hheld]
    rfl
  unfold playback_ownership.drop
  rw [hlookup]
  refine h.update hi rfl rfl rfl (fun hnot => by cases hnot) (fun id => ?_)
    fun howner => absurd howner (h.not_drained hi hheld)
  rw [h.ids i granted hi]
  by_cases hid : id = i + 1
  · subst hid
    rw [if_pos rfl, AList.lookup_erase]
    rfl
  · rw [if_neg hid, AList.lookup_erase_ne hid]

end

theorem Kept.release : Kept (release_to_desktop state) permits := by
  refine ⟨h.ids, h.next, h.mirror, min_le_right _ _, fun granted hin => ?_,
    fun hclosed => absurd rfl hclosed, fun hclosed => by cases hclosed⟩
  obtain ⟨_, _⟩ := h.born granted hin
  have hbounded := h.bounded
  simp only [release_to_desktop]
  omega

/-- A barrier that finds no permit and no failure takes playback over. -/
theorem Kept.finish (hempty : state.active.entries = [])
    (hfailures : state.cancellation_failures = []) :
    Kept { state with owner := .process_exclusion } permits := by
  refine ⟨h.ids, h.next, h.mirror, h.bounded, h.born, fun _ granted hin hheld => ?_,
    fun _ => ⟨hempty, hfailures⟩⟩
  have hdropped := h.empty_iff.mp hempty granted hin
  rw [hheld] at hdropped
  cases hdropped

end

/-- The permits that are meant are cancelled in the map as they are. -/
theorem live_cancel (meant : ActivePlayback → Bool) (granted : Granted) :
    (granted.cancel meant).live =
      granted.live.map fun playback =>
        if meant playback then { playback with cancelled := true } else playback := by
  unfold Granted.cancel Granted.live
  cases hdropped : granted.dropped with
  | true => simp [hdropped]
  | false => cases hmeant : meant granted.playback <;> simp [hdropped, hmeant]

theorem cancel_permit (meant : ActivePlayback → Bool) (granted : Granted) :
    (granted.cancel meant).permit = granted.permit ∧
      (granted.cancel meant).dropped = granted.dropped ∧
      (granted.cancel meant).playback.generation =
        granted.playback.generation ∧
      (granted.cancel meant).playback.cleanup_failures =
        granted.playback.cleanup_failures ∧
      (granted.playback.cancelled = true →
        (granted.cancel meant).playback.cancelled = true) := by
  unfold Granted.cancel
  split
  · exact ⟨rfl, rfl, rfl, rfl, fun _ => rfl⟩
  · exact ⟨rfl, rfl, rfl, rfl, id⟩

theorem Kept.cancel (h : Kept state permits) (meant : ActivePlayback → Bool) :
    Kept { state with
        active := map_values (fun playback =>
          if meant playback then { playback with cancelled := true } else playback) state.active }
      (permits.map (Granted.cancel meant)) := by
  refine ⟨fun i granted hi => ?_, ?_, fun _ => ?_, h.bounded, ?_, fun hclosed => ?_,
    fun howner => ?_⟩
  · rw [List.getElem?_map, Option.map_eq_some_iff] at hi
    obtain ⟨before, hbefore, rfl⟩ := hi
    rw [(cancel_permit meant before).1]
    exact h.ids i before hbefore
  · rw [List.length_map]
    exact h.next
  · rw [lookup_map_values, h.mirror, held_map _ _ (live_cancel meant)]
  · intro granted hin
    obtain ⟨before, hbefore, rfl⟩ := List.mem_map.mp hin
    obtain ⟨hpermit, -, hgeneration, -⟩ := cancel_permit meant before
    rw [hpermit, hgeneration]
    exact h.born before hbefore
  · intro granted hin hheld
    obtain ⟨before, hbefore, rfl⟩ := List.mem_map.mp hin
    obtain ⟨-, hdropped, -, -, hcancelled⟩ := cancel_permit meant before
    rw [hdropped] at hheld
    exact hcancelled (h.closed hclosed before hbefore hheld)
  · obtain ⟨hempty, hfailures⟩ := h.drained howner
    exact ⟨by simp [map_values, hempty], hfailures⟩

/-- The Desktop loses its playback when all its permits are cancelled. -/
theorem Kept.transition (h : Kept state permits) :
    Kept (transition state) (permits.map (Granted.cancel fun _ => true)) := by
  have hcancel := h.cancel fun _ => true
  refine ⟨hcancel.ids, hcancel.next, hcancel.mirror, min_le_right _ _, fun granted hin => ?_,
    fun _ granted hin hheld => ?_, fun howner => by cases howner⟩
  · obtain ⟨hsame, hle⟩ := hcancel.born granted hin
    have hbounded := h.bounded
    refine ⟨hsame, le_trans hle ?_⟩
    simp only [playback_ownership.transition]
    omega
  · obtain ⟨before, -, rfl⟩ := List.mem_map.mp hin
    rw [(cancel_permit _ before).2.1] at hheld
    simp [Granted.cancel, hheld]

end

/-! ## Every step -/

/-- What a step does, as a chain of such changes. -/
inductive Moves (op : OwnershipOp T) :
    PlaybackOwnershipState → List Granted → PlaybackOwnershipState → List Granted → Prop
  | rest (state : PlaybackOwnershipState) (permits : List Granted) :
      Moves op state permits state permits
  | acquire {state : PlaybackOwnershipState} {permits : List Granted} (cue_id source : String)
      (hop : op = .acquire cue_id source) (howner : state.owner = .desktop)
      (hroom : permits.length < U64_MAX) :
      Moves op state permits
        { state with
          next_permit_id := min (state.next_permit_id + 1) U64_MAX
          active := state.active.insert state.next_permit_id
            ⟨state.generation, cue_id, source, false, []⟩ }
        (permits ++ [⟨⟨state.next_permit_id, state.generation⟩,
          ⟨state.generation, cue_id, source, false, []⟩, false, 0⟩])
  | poll {state : PlaybackOwnershipState} {permits : List Granted} {i : Nat} {granted : Granted}
      (hi : permits[i]? = some granted) (polls : Nat) :
      Moves op state permits state (permits.set i { granted with polls })
  | record {state : PlaybackOwnershipState} {permits : List Granted} {i : Nat} {granted : Granted}
      (hi : permits[i]? = some granted) (hheld : granted.dropped = false) (detail : String) :
      Moves op state permits (record_cancellation_failure state granted.permit detail)
        (permits.set i (granted.report detail))
  | drop {state : PlaybackOwnershipState} {permits : List Granted} {i : Nat} {granted : Granted}
      (hi : permits[i]? = some granted) (hheld : granted.dropped = false) :
      Moves op state permits (drop state granted.permit)
        (permits.set i { granted with dropped := true })
  | cancel (state : PlaybackOwnershipState) (permits : List Granted)
      (meant : ActivePlayback → Bool) :
      Moves op state permits
        { state with
          active := map_values (fun playback =>
            if meant playback then { playback with cancelled := true } else playback) state.active }
        (permits.map (Granted.cancel meant))
  | transition {state : PlaybackOwnershipState} (permits : List Granted)
      (howner : state.owner = .desktop) :
      Moves op state permits (transition state) (permits.map (Granted.cancel fun _ => true))
  | finish {state : PlaybackOwnershipState} (permits : List Granted)
      (hempty : state.active.entries = []) (hfailures : state.cancellation_failures = []) :
      Moves op state permits { state with owner := .process_exclusion } permits
  | release (state : PlaybackOwnershipState) (permits : List Granted)
      (hop : op = .release_to_desktop) :
      Moves op state permits (release_to_desktop state) permits
  | trans {state₁ state₂ state₃ : PlaybackOwnershipState} {permits₁ permits₂ permits₃ : List Granted}
      (first : Moves op state₁ permits₁ state₂ permits₂)
      (second : Moves op state₂ permits₂ state₃ permits₃) :
      Moves op state₁ permits₁ state₃ permits₃

section

variable (op : OwnershipOp T)

theorem acquire_granted {state : PlaybackOwnershipState} (cue_id source : String)
    (howner : state.owner = .desktop) :
    acquire state cue_id source = ({ state with
        next_permit_id := min (state.next_permit_id + 1) U64_MAX
        active := state.active.insert state.next_permit_id
          ⟨state.generation, cue_id, source, false, []⟩ },
      .ok ⟨state.next_permit_id, state.generation⟩) :=
  if_neg (not_not.mpr howner)

theorem acquire_refused {state : PlaybackOwnershipState} (cue_id source : String)
    (howner : state.owner ≠ .desktop) :
    acquire state cue_id source =
      (state, .error (cancelled_error cue_id source state.owner state.generation)) :=
  if_pos howner

variable (state : PlaybackOwnershipState) (permits : List Granted)

theorem drain_moves (expired : Bool) : Moves op state permits (drain state expired).1 permits := by
  unfold drain
  split
  · split
    · exact Moves.rest state permits
    · exact Moves.rest state permits
  · rename_i hempty
    split
    · exact Moves.rest state permits
    · rename_i hfailures
      exact Moves.finish permits (not_not.mp hempty) (not_not.mp hfailures)

/-- Nobody is cancelled by a barrier that means nobody. -/
theorem cancel_none : permits.map (Granted.cancel fun _ => false) = permits := by
  have hsame : (Granted.cancel fun _ => false) = id := by
    funext granted
    simp [Granted.cancel]
  rw [hsame, List.map_id]

theorem process_exclusion_moves (expired : Bool) :
    Moves op state permits (cancel_and_drain_for_process_exclusion state expired).1
      (permits.map (Granted.cancel fun _ => state.owner = .desktop)) := by
  unfold cancel_and_drain_for_process_exclusion
  by_cases howner : state.owner = .desktop
  · simp only [howner, reduceCtorEq, false_and, if_false, if_true, decide_true]
    exact (Moves.transition permits howner).trans (drain_moves op _ _ expired)
  · simp only [howner, if_false, decide_false, cancel_none]
    split
    · exact Moves.rest state permits
    · exact drain_moves op state permits expired

theorem drain_matching_same (cue_id source : String) (expired : Bool) : (drain_matching state cue_id source expired).1 = state := by
  unfold drain_matching
  split
  · split <;> rfl
  · rfl

theorem matching_moves (cue_id source : String) (expired : Bool) :
    Moves op state permits (cancel_and_drain_matching state cue_id source expired).1
      (permits.map (Granted.cancel fun playback => playback.matches cue_id source)) := by
  have hmove : Moves op state permits _ _ :=
    Moves.cancel state permits fun playback => playback.matches cue_id source
  unfold cancel_and_drain_matching
  split
  · rw [drain_matching_same]
    exact hmove
  · rename_i hnone
    rw [map_values_same] at hmove
    · exact hmove
    · intro e he
      have hother : ¬ e.2.matches cue_id source = true := by
        simp only [List.any_eq_true, not_exists, not_and] at hnone
        exact hnone e he
      rw [if_neg hother]

variable {op} in
theorem step_moves (s : Playbacks) (hids : ids_suffice s op) :
    Moves op s.state s.permits (s.step op).state (s.step op).permits := by
  have hrest : Moves op s.state s.permits s.state s.permits := Moves.rest s.state s.permits
  unfold step
  cases op with
  | acquire cue_id source =>
    by_cases howner : s.state.owner = .desktop
    · simp only [respond, acquire_granted cue_id source howner]
      exact Moves.acquire cue_id source rfl howner (hids howner)
    · simp only [respond, acquire_refused cue_id source howner]
      exact hrest
  | ensure_active i =>
    unfold respond
    dsimp only
    split
    · split <;> exact hrest
    · exact hrest
  | submit i _ =>
    unfold respond
    dsimp only
    split
    · split <;> exact hrest
    · exact hrest
  | wait_for_endpoint_poll i =>
    unfold respond
    dsimp only
    split
    · rename_i granted hi
      split
      · exact hrest
      · split
        · exact hrest
        · exact Moves.poll hi _
    · exact hrest
  | poll_goes_on i =>
    unfold respond
    dsimp only
    split
    · rename_i granted hi
      split
      · exact hrest
      · exact Moves.poll hi _
    · exact hrest
  | record_cancellation_failure i detail =>
    unfold respond
    dsimp only
    split
    · rename_i granted hi
      split
      · exact hrest
      · rename_i hheld
        exact Moves.record hi (Bool.not_eq_true _ ▸ hheld) detail
    · exact hrest
  | drop i =>
    unfold respond
    dsimp only
    split
    · rename_i granted hi
      split
      · exact hrest
      · rename_i hheld
        push Not at hheld
        exact Moves.drop hi (Bool.not_eq_true _ ▸ hheld.1)
    · exact hrest
  | cancel_and_drain_for_process_exclusion expired =>
    have hmoves := process_exclusion_moves (T := T) (.cancel_and_drain_for_process_exclusion expired)
      s.state s.permits expired
    unfold respond Playbacks.drained
    dsimp only
    split <;> rename_i hsection <;> rw [hsection] at hmoves <;> exact hmoves
  | drain_goes_on expired =>
    have hmoves := drain_moves (T := T) (.drain_goes_on expired) s.state s.permits expired
    unfold respond Playbacks.drained
    dsimp only
    split
    · exact hrest
    · split <;> rename_i hsection <;> rw [hsection] at hmoves <;> exact hmoves
  | cancel_and_drain_matching cue_id source expired =>
    have hmoves := matching_moves (T := T) (.cancel_and_drain_matching cue_id source expired)
      s.state s.permits cue_id source expired
    unfold respond Playbacks.stopped
    dsimp only
    split <;> rename_i hsection <;> rw [hsection] at hmoves <;> exact hmoves
  | stop_goes_on _ expired =>
    unfold respond Playbacks.stopped
    dsimp only
    split
    · rename_i cue_id source _
      have hsame := drain_matching_same s.state cue_id source expired
      split <;> rename_i hsection <;> rw [hsection] at hsame <;> subst hsame <;> exact hrest
    · exact hrest
  | release_to_desktop => exact Moves.release s.state s.permits rfl

end

/-! ## What a run keeps -/

section

variable {op : OwnershipOp T} {state state' : PlaybackOwnershipState}
  {permits permits' : List Granted}

theorem Moves.kept (hmoves : Moves op state permits state' permits') (h : Kept state permits) :
    Kept state' permits' := by
  induction hmoves with
  | rest => exact h
  | acquire cue_id source _ howner hroom => exact h.acquire cue_id source howner hroom
  | poll hi polls => exact h.poll hi polls
  | record hi hheld detail => exact h.record hi hheld detail
  | drop hi hheld => exact h.drop hi hheld
  | cancel state permits meant => exact h.cancel meant
  | transition permits howner => exact h.transition
  | finish permits hempty hfailures => exact h.finish hempty hfailures
  | release => exact h.release
  | trans _ _ ih₁ ih₂ => exact ih₂ (ih₁ h)

/-- A permit that is of no use any more. -/
def Spent (state : PlaybackOwnershipState) (granted : Granted) : Prop :=
  granted.dropped = true ∨ granted.playback.cancelled = true ∨
    granted.permit.generation < state.generation

theorem Kept.validate_iff (h : Kept state permits) {i : Nat} {granted : Granted}
    (hi : permits[i]? = some granted) :
    validate state granted.permit ≠ .ok () ↔ Spent state granted := by
  have hin := List.mem_of_getElem? hi
  obtain ⟨hsame, _⟩ := h.born granted hin
  unfold validate Spent
  rw [h.lookup hi]
  cases hdropped : granted.dropped with
  | true => simp [Granted.live, hdropped]
  | false =>
    simp only [Granted.live, hdropped, Bool.false_eq_true, if_false, false_or]
    constructor
    · intro hrefused
      by_contra hgood
      push Not at hgood
      apply hrefused
      have howner : state.owner = .desktop := by
        by_contra hclosed
        exact hgood.1 (h.closed hclosed granted hin hdropped)
      simp only [howner, hgood.1, hsame]
      simp
      omega
    · intro hspent
      rw [if_pos]
      · simp
      · rcases hspent with hcancelled | _
        · exact Or.inr (Or.inl hcancelled)
        · exact Or.inr (Or.inr (Or.inr (by omega)))

/-- What became of a permit: it keeps its id and generation, and what it has lost stays lost. -/
structure Ages (before after : Granted) : Prop where
  permit : after.permit = before.permit
  dropped : before.dropped = true → after.dropped = true
  cancelled : before.playback.cancelled = true → after.playback.cancelled = true
  failures : before.playback.cleanup_failures ≠ [] → after.playback.cleanup_failures ≠ []

theorem Ages.refl (granted : Granted) : Ages granted granted := ⟨rfl, id, id, id⟩

theorem Ages.trans {first second third : Granted} (h : Ages first second) (h' : Ages second third) :
    Ages first third :=
  ⟨h'.permit.trans h.permit, h'.dropped ∘ h.dropped, h'.cancelled ∘ h.cancelled,
    h'.failures ∘ h.failures⟩

theorem Ages.cancel (granted : Granted) (meant : ActivePlayback → Bool) :
    Ages granted (granted.cancel meant) := by
  obtain ⟨hpermit, hdropped, -, hfailures, hcancelled⟩ := cancel_permit meant granted
  exact ⟨hpermit, fun h => hdropped.trans h, hcancelled, fun h => by rwa [hfailures]⟩

theorem push_new_ne_nil (failures : List String) (failure : String) :
    push_new failures failure ≠ [] := by
  unfold push_new
  split
  · rename_i hin
    exact List.ne_nil_of_mem hin
  · simp

theorem ages_set {permits : List Granted} {i j : Nat} {granted other before : Granted}
    (hi : permits[i]? = some granted) (hages : Ages granted other)
    (hj : permits[j]? = some before) :
    ∃ after, (permits.set i other)[j]? = some after ∧ Ages before after := by
  by_cases hij : i = j
  · subst hij
    obtain ⟨hlt, -⟩ := List.getElem?_eq_some_iff.mp hi
    obtain rfl : granted = before := Option.some.inj (hi.symm.trans hj)
    exact ⟨other, by simp [hlt], hages⟩
  · exact ⟨before, by rwa [List.getElem?_set_ne hij], Ages.refl before⟩

section

variable (hmoves : Moves op state permits state' permits')

include hmoves

theorem Moves.ages {i : Nat} {before : Granted} (hi : permits[i]? = some before) :
    ∃ after, permits'[i]? = some after ∧ Ages before after := by
  induction hmoves generalizing before with
  | rest => exact ⟨before, hi, Ages.refl before⟩
  | acquire _ _ _ howner _ =>
    obtain ⟨hlt, -⟩ := List.getElem?_eq_some_iff.mp hi
    exact ⟨before, by rwa [List.getElem?_append_left hlt], Ages.refl before⟩
  | poll hj _ => exact ages_set hj ⟨rfl, id, id, id⟩ hi
  | record hj hheld _ =>
    exact ages_set hj ⟨rfl, id, id, fun _ => push_new_ne_nil _ _⟩ hi
  | drop hj hheld => exact ages_set hj ⟨rfl, fun _ => rfl, id, id⟩ hi
  | cancel _ permits meant =>
    exact ⟨before.cancel meant, by rw [List.getElem?_map, hi]; rfl, Ages.cancel before meant⟩
  | transition permits howner =>
    exact ⟨before.cancel _, by rw [List.getElem?_map, hi]; rfl, Ages.cancel before _⟩
  | finish permits _ _ => exact ⟨before, hi, Ages.refl before⟩
  | release => exact ⟨before, hi, Ages.refl before⟩
  | trans _ _ ih₁ ih₂ =>
    obtain ⟨_, hmiddle, hages⟩ := ih₁ hi
    obtain ⟨after, hafter, hages'⟩ := ih₂ hmiddle
    exact ⟨after, hafter, hages.trans hages'⟩

theorem Moves.generation (h : Kept state permits) : state.generation ≤ state'.generation := by
  induction hmoves with
  | rest | acquire | poll => exact le_rfl
  | record hi hheld _ =>
    unfold record_cancellation_failure
    split <;> exact le_rfl
  | drop hi hheld =>
    unfold playback_ownership.drop
    split <;> exact le_rfl
  | cancel state permits _ => exact le_rfl
  | transition permits _ => exact le_min (Nat.le_succ _) h.bounded
  | finish permits _ _ => exact le_rfl
  | release => exact le_min (Nat.le_succ _) h.bounded
  | trans first _ ih₁ ih₂ => exact le_trans (ih₁ h) (ih₂ (first.kept h))

theorem Moves.spent (h : Kept state permits) {i : Nat} {before : Granted}
    (hi : permits[i]? = some before) (hspent : Spent state before) :
    ∃ after, permits'[i]? = some after ∧ after.permit = before.permit ∧ Spent state' after := by
  obtain ⟨after, hafter, hages⟩ := hmoves.ages hi
  refine ⟨after, hafter, hages.permit, ?_⟩
  rcases hspent with hdropped | hcancelled | hold
  · exact Or.inl (hages.dropped hdropped)
  · exact Or.inr (Or.inl (hages.cancelled hcancelled))
  · refine Or.inr (Or.inr ?_)
    rw [hages.permit]
    exact lt_of_lt_of_le hold (hmoves.generation h)

end

/-! ## What the barrier remembers -/

/-- A failure that a permit has reported is still with the permit, or with the barrier. -/
def Owes (state : PlaybackOwnershipState) (granted : Granted) : Prop :=
  granted.playback.cleanup_failures ≠ [] →
    granted.dropped = false ∨ state.cancellation_failures ≠ []

theorem foldl_push_new_ne_nil {failures found : List String} (h : found ≠ [] ∨ failures ≠ []) :
    failures.foldl push_new found ≠ [] := by
  induction failures generalizing found with
  | nil => exact h.resolve_right (fun hne => hne rfl)
  | cons failure _ ih => exact ih (Or.inl (push_new_ne_nil found failure))

/-- A barrier forgets nothing when one permit changes. -/
theorem owes_set {i j : Nat} {granted other before : Granted} (hj : permits[j]? = some granted)
    (hother : Owes state granted → Owes state' other)
    (hmore : state.cancellation_failures ≠ [] → state'.cancellation_failures ≠ [])
    (hi : permits[i]? = some before) (howes : Owes state before) :
    ∃ after, (permits.set j other)[i]? = some after ∧ Owes state' after := by
  by_cases hij : j = i
  · subst hij
    obtain ⟨hlt, -⟩ := List.getElem?_eq_some_iff.mp hj
    obtain rfl : granted = before := Option.some.inj (hj.symm.trans hi)
    exact ⟨other, by simp [hlt], hother howes⟩
  · refine ⟨before, by rwa [List.getElem?_set_ne hij], fun hfailed => ?_⟩
    exact (howes hfailed).imp id hmore

/-- While the owner is not the Desktop, and nobody gives playback back to it. -/
theorem Moves.owes (hmoves : Moves op state permits state' permits') (h : Kept state permits)
    (hop : op ≠ .release_to_desktop) (hclosed : state.owner ≠ .desktop) :
    state'.owner ≠ .desktop ∧ ∀ (i : Nat) (before : Granted), permits[i]? = some before →
      Owes state before → ∃ after, permits'[i]? = some after ∧ Owes state' after := by
  induction hmoves with
  | rest => exact ⟨hclosed, fun i before hi howes => ⟨before, hi, howes⟩⟩
  | acquire _ _ hop howner _ => exact absurd howner hclosed
  | transition permits howner => exact absurd howner hclosed
  | release state permits hrelease => exact absurd hrelease hop
  | poll hj _ =>
    exact ⟨hclosed, fun i before hi howes => owes_set hj id id hi howes⟩
  | record hj hheld _ =>
    have hlookup := h.lookup hj
    rw [Granted.live, if_neg (by simp [hheld])] at hlookup
    unfold record_cancellation_failure
    rw [hlookup]
    refine ⟨hclosed, fun i before hi howes => owes_set hj (fun _ _ => Or.inl hheld) ?_ hi howes⟩
    intro hne
    dsimp only
    split
    · exact push_new_ne_nil _ _
    · exact hne
  | drop hj hheld =>
    have hlookup := h.lookup hj
    rw [Granted.live, if_neg (by simp [hheld])] at hlookup
    unfold playback_ownership.drop
    rw [hlookup]
    -- the owner is not the Desktop, so the permit leaves its failures with the barrier
    simp only [hclosed, ne_eq, not_false_eq_true, or_true, if_true]
    refine ⟨trivial, fun i before hi howes => owes_set hj (fun _ hfailed => ?_) ?_ hi howes⟩
    · exact Or.inr (foldl_push_new_ne_nil (Or.inr hfailed))
    · exact fun hne => foldl_push_new_ne_nil (Or.inl hne)
  | cancel state permits meant =>
    refine ⟨hclosed, fun i before hi howes => ⟨before.cancel meant, ?_, fun hfailed => ?_⟩⟩
    · rw [List.getElem?_map, hi]
      rfl
    · obtain ⟨-, hdropped, -, hfailures, -⟩ := cancel_permit meant before
      rw [hfailures] at hfailed
      rw [hdropped]
      exact howes hfailed
  | finish permits _ hfailures =>
    exact ⟨by simp, fun i before hi howes => ⟨before, hi, howes⟩⟩
  | trans first _ ih₁ ih₂ =>
    obtain ⟨hmiddle, howes₁⟩ := ih₁ h hclosed
    obtain ⟨hlast, howes₂⟩ := ih₂ (first.kept h) hmiddle
    refine ⟨hlast, fun i before hi howes => ?_⟩
    obtain ⟨middle, hi', howes'⟩ := howes₁ i before hi howes
    exact howes₂ i middle hi' howes'

end

/-- A barrier that succeeds has taken playback over. -/
theorem drain_ok {state : PlaybackOwnershipState} {expired : Bool}
    (h : (drain state expired).2 = .returns (.ok ())) :
    (drain state expired).1.owner = .process_exclusion := by
  unfold drain at h ⊢
  split at h
  · split at h
    · cases h
    · cases h
  · rename_i hempty
    rw [if_neg hempty]
    split at h
    · cases h
    · rename_i hfailures
      rw [if_neg hfailures]

@[simp] theorem drained_state (s : Playbacks) (ended : PlaybackOwnershipState × Section Unit)
    (permits : List Granted) (drains : Nat) :
    (s.drained (T := T) ended permits drains).1.state = ended.1 := by
  obtain ⟨state, _ | _⟩ := ended <;> rfl

variable {s : Playbacks}

theorem drained_returns {ended : PlaybackOwnershipState × Section Unit} {permits : List Granted}
    {drains : Nat} {result : Except String Unit}
    (h : (s.drained (T := T) ended permits drains).2 = .drained result) :
    ended.2 = .returns result := by
  obtain ⟨_, _ | _⟩ := ended
  · cases h
  · exact congrArg Section.returns (Answer.drained.inj h)

theorem stopped_ne_drained (s : Playbacks) (cue_id source : String)
    (ended : PlaybackOwnershipState × Section Bool) (permits : List Granted)
    (stops : List (String × String)) (result : Except String Unit) :
    (s.stopped (T := T) cue_id source ended permits stops).2 ≠ .drained result := by
  obtain ⟨_, _ | _⟩ := ended <;> exact fun h => by cases h

theorem drained_ok {op : OwnershipOp T} (h : (s.respond op).2 = .drained (.ok ())) :
    (s.step op).state.owner = .process_exclusion := by
  unfold step
  cases op with
  | cancel_and_drain_for_process_exclusion expired =>
    have hok := drained_returns h
    unfold respond
    rw [drained_state]
    unfold cancel_and_drain_for_process_exclusion at hok ⊢
    split at hok
    · rename_i hfast
      rw [if_pos hfast]
      exact hfast.1
    · rename_i hslow
      rw [if_neg hslow]
      exact drain_ok hok
  | drain_goes_on expired =>
    unfold respond at h ⊢
    dsimp only at h ⊢
    split at h
    · cases h
    · rename_i hsome
      rw [if_neg hsome, drained_state]
      exact drain_ok (drained_returns h)
  | _ => grind [respond, stopped_ne_drained]

/-! ## Every run -/

theorem Moves.length {op : OwnershipOp T} {state state' : PlaybackOwnershipState}
    {permits permits' : List Granted} (hmoves : Moves op state permits state' permits')
    (hop : ∀ cue_id source, op ≠ .acquire cue_id source) : permits'.length = permits.length := by
  induction hmoves with
  | acquire cue_id source hacquire _ _ => exact absurd hacquire (hop cue_id source)
  | trans _ _ ih₁ ih₂ => exact ih₂.trans ih₁
  | _ => simp

theorem run_kept {ops : List (OwnershipOp T)} (h : Along step ids_suffice start ops) :
    Kept (run step start ops).state (run step start ops).permits := by
  have hstart : Kept start.state start.permits := by
    refine ⟨by simp [start], rfl, fun id => ?_, by decide, by simp [start], by simp [start],
      fun howner => by cases howner⟩
    cases id <;> rfl
  exact h.keeps (fun s => Kept s.state s.permits)
    (fun s _ hkept hids => (step_moves s hids).kept hkept) hstart

/-- The call that granted a permit: the Desktop owned playback in the generation of the permit. -/
def GrantedAt (ops : List (OwnershipOp T)) (i : Nat) (granted : Granted) : Prop :=
  ∃ before cue_id source after, ops = before ++ .acquire cue_id source :: after ∧
    (run step start before).permits.length = i ∧
    (run step start before).state.owner = .desktop ∧
    (run step start before).state.generation = granted.permit.generation

variable {granted : Granted} {i : Nat}

theorem run_granted {ops : List (OwnershipOp T)} (h : Along step ids_suffice start ops)
    (hi : (run step start ops).permits[i]? = some granted) : GrantedAt ops i granted := by
  induction ops using List.reverseRecOn generalizing granted with
  | nil => simp [start] at hi
  | append_singleton ops op ih =>
    obtain ⟨hbefore, hids, -⟩ := Along.append.mp h
    rw [run_snoc] at hi
    -- a permit that was there before was granted before
    have hold (hlt : i < (run step start ops).permits.length) :
        GrantedAt (ops ++ [op]) i granted := by
      have hfound := List.getElem?_eq_getElem hlt
      obtain ⟨after, hafter, hages⟩ := (step_moves _ hids).ages hfound
      obtain rfl : granted = after := Option.some.inj (hi.symm.trans hafter)
      obtain ⟨first, cue_id, source, rest, rfl, hlength, howner, hgeneration⟩ := ih hbefore hfound
      refine ⟨first, cue_id, source, rest ++ [op], by simp, hlength, howner, ?_⟩
      rw [hages.permit]
      exact hgeneration
    by_cases hlt : i < (run step start ops).permits.length
    · exact hold hlt
    · obtain ⟨hlast, -⟩ := List.getElem?_eq_some_iff.mp hi
      by_cases hacquire : ∃ cue_id source, op = .acquire cue_id source
      · obtain ⟨cue_id, source, rfl⟩ := hacquire
        by_cases howner : (run step start ops).state.owner = .desktop
        · simp only [step, respond, acquire_granted cue_id source howner,
            List.length_append, List.length_singleton] at hi hlast
          obtain rfl : (run step start ops).permits.length = i := by omega
          refine ⟨ops, cue_id, source, [], rfl, rfl, howner, ?_⟩
          rw [List.getElem?_append_right le_rfl, Nat.sub_self] at hi
          rw [← Option.some.inj hi]
        · simp only [step, respond, acquire_refused cue_id source howner]
            at hlast
          exact absurd hlast hlt
      · push Not at hacquire
        rw [(step_moves _ hids).length hacquire] at hlast
        exact absurd hlast hlt

/-- A closure runs only under a permit that is held and validates. -/
theorem submitted_true {outcome result : Except String T}
    (h : (s.respond (.submit i outcome)).2 = .submitted true result) :
    ∃ granted, s.permits[i]? = some granted ∧ granted.dropped = false ∧
      validate s.state granted.permit = .ok () := by
  unfold respond submit at h
  dsimp only at h
  split at h
  · rename_i granted hi
    split at h
    · cases h
    · rename_i hheld
      refine ⟨granted, hi, Bool.not_eq_true _ ▸ hheld, ?_⟩
      cases hvalid : validate s.state granted.permit with
      | error error => simp [hvalid] at h
      | ok _ => rfl
  · cases h

theorem Kept.usable {state : PlaybackOwnershipState} {permits : List Granted} (h : Kept state permits)
    (hi : permits[i]? = some granted) (hvalid : validate state granted.permit = .ok ()) :
    state.owner = .desktop ∧ state.generation = granted.permit.generation ∧
      granted.dropped = false ∧ granted.playback.cancelled = false := by
  have hspent : ¬ Spent state granted := fun hspent => (h.validate_iff hi).mpr hspent hvalid
  have hborn := h.born granted (List.mem_of_getElem? hi)
  simp only [Spent, not_or, Bool.not_eq_true] at hspent
  refine ⟨?_, by omega, hspent.1, hspent.2.1⟩
  by_contra hclosed
  have hcancelled := h.closed hclosed granted (List.mem_of_getElem? hi) hspent.1
  rw [hspent.2.1] at hcancelled
  cases hcancelled

/-- What is refused once is refused for ever. -/
theorem run_spent (h : Kept s.state s.permits) (hi : s.permits[i]? = some granted)
    (hrefused : validate s.state granted.permit ≠ .ok ()) {later : List (OwnershipOp T)}
    (hids : Along step ids_suffice s later) : validate (run step s later).state granted.permit ≠ .ok () := by
  induction later generalizing s granted with
  | nil => exact hrefused
  | cons _ later ih =>
    have hmoves := step_moves s hids.1
    obtain ⟨_, hafter, hpermit, hspent⟩ :=
      hmoves.spent h hi ((h.validate_iff hi).mp hrefused)
    have hnext := ih (hmoves.kept h) hafter (((hmoves.kept h).validate_iff hafter).mpr hspent)
      hids.2
    rwa [hpermit] at hnext

/-- The barrier takes over from the Desktop with nothing forgotten. -/
theorem transition_owes (h : Kept s.state s.permits) (howner : s.state.owner = .desktop) (expired : Bool)
    (hi : s.permits[i]? = some granted) (hheld : granted.dropped = false) :
    let s' := s.step (T := T) (.cancel_and_drain_for_process_exclusion expired)
    s'.state.owner ≠ .desktop ∧ ∃ after, s'.permits[i]? = some after ∧ Owes s'.state after := by
  have hdrained : ∀ ended : PlaybackOwnershipState × Section Unit, ∀ permits,
      (s.drained (T := T) ended permits s.drains).1.permits = permits := by
    rintro ⟨state, _ | _⟩ permits <;> rfl
  have hmoves : Moves (T := T) (.drain_goes_on expired) (transition s.state)
      (s.permits.map (Granted.cancel fun _ => true)) (drain (transition s.state) expired).1 _ :=
    drain_moves _ _ _ expired
  obtain ⟨hclosed, howes⟩ := hmoves.owes h.transition (by simp) (by simp [transition])
  have hcancelled : (s.permits.map (Granted.cancel fun _ => true))[i]? =
      some (granted.cancel fun _ => true) := by
    rw [List.getElem?_map, hi]
    rfl
  have hafter := howes i _ hcancelled fun _ => Or.inl ((cancel_permit _ granted).2.1.trans hheld)
  simp only [step, respond, drained_state, hdrained,
    cancel_and_drain_for_process_exclusion, howner, if_true, decide_true]
  exact ⟨hclosed, hafter⟩

theorem run_owes (h : Kept s.state s.permits) (hclosed : s.state.owner ≠ .desktop) {rest : List (OwnershipOp T)}
    (hids : Along step ids_suffice s rest) (hrest : .release_to_desktop ∉ rest) (hi : s.permits[i]? = some granted)
    (howes : Owes s.state granted) :
    ∃ after, (run step s rest).permits[i]? = some after ∧
      Owes (run step s rest).state after := by
  induction rest generalizing s granted with
  | nil => exact ⟨granted, hi, howes⟩
  | cons _ rest ih =>
    rw [List.mem_cons, not_or] at hrest
    have hmoves := step_moves s hids.1
    obtain ⟨hstill, hnext⟩ := hmoves.owes h (Ne.symm hrest.1) hclosed
    obtain ⟨after, hafter, howes'⟩ := hnext i granted hi howes
    exact ih (hmoves.kept h) hstill hids.2 hrest.2 hafter howes'

/-- A barrier succeeds only if the permits that were held when it began have reported nothing. -/
theorem nothing_failed {before rest front : List (OwnershipOp T)} {last : OwnershipOp T} {expired : Bool}
    (hids : Along step ids_suffice start
      (before ++ .cancel_and_drain_for_process_exclusion expired :: rest))
    (howner : (run step start before).state.owner = .desktop) (hrest : .release_to_desktop ∉ rest)
    (hlast : before ++ .cancel_and_drain_for_process_exclusion expired :: rest = front ++ [last])
    (hok : ((run step start front).respond last).2 = .drained (.ok ()))
    (hi : (run step start before).permits[i]? = some granted) (hheld : granted.dropped = false) :
    ∃ after, (run step start
        (before ++ .cancel_and_drain_for_process_exclusion expired :: rest)).permits[i]? =
          some after ∧ after.playback.cleanup_failures = [] := by
  have hend := run_kept hids
  have hpe : (run step start
      (before ++ .cancel_and_drain_for_process_exclusion expired :: rest)).state.owner =
      .process_exclusion := by
    rw [hlast, run_snoc]
    exact drained_ok hok
  obtain ⟨hbefore, hcall, hafter⟩ := Along.append.mp hids
  have hkept := run_kept hbefore
  obtain ⟨hclosed, _, hcalled, howes⟩ := transition_owes (T := T) hkept howner expired hi hheld
  obtain ⟨after, hfound, howes'⟩ :=
    run_owes ((step_moves _ hcall).kept hkept) hclosed hafter hrest hcalled howes
  rw [run_append, run_cons] at hend hpe ⊢
  refine ⟨after, hfound, ?_⟩
  by_contra hfailed
  obtain ⟨hempty, hnone⟩ := hend.drained hpe
  rcases howes' hfailed with hstill | hmore
  · have hdropped := hend.empty_iff.mp hempty after (List.mem_of_getElem? hfound)
    rw [hstill] at hdropped
    cases hdropped
  · exact hmore hnone

instance (s : Playbacks) : (op : OwnershipOp T) → Decidable (ids_suffice s op)
  | .acquire _ _ => inferInstanceAs (Decidable (_ → _))
  | .ensure_active _ => isTrue trivial
  | .submit _ _ => isTrue trivial
  | .wait_for_endpoint_poll _ => isTrue trivial
  | .poll_goes_on _ => isTrue trivial
  | .record_cancellation_failure _ _ => isTrue trivial
  | .drop _ => isTrue trivial
  | .cancel_and_drain_for_process_exclusion _ => isTrue trivial
  | .drain_goes_on _ => isTrue trivial
  | .cancel_and_drain_matching _ _ _ => isTrue trivial
  | .stop_goes_on _ _ => isTrue trivial
  | .release_to_desktop => isTrue trivial

/-- A render that is cancelled and then dropped. -/
def one_render : List (OwnershipOp Unit) :=
  [.acquire "cue" "native-omni", .submit 0 (.ok ()),
    .cancel_and_drain_for_process_exclusion false, .drop 0, .drain_goes_on false]

/-- Permits that are dropped at once. -/
def short_renders : Nat → List (OwnershipOp Unit)
  | 0 => []
  | n + 1 => short_renders n ++ [.acquire "cue" "native-omni", .drop n]

/-- The Desktop after it has granted `n` permits, of which none is held. -/
structure Idle (n : Nat) (s : Playbacks) : Prop where
  owner : s.state.owner = .desktop
  generation : s.state.generation = 1
  next : s.state.next_permit_id = min (n + 1) U64_MAX
  active : s.state.active = ∅
  permits : s.permits.length = n

/-- A permit that the Desktop grants and takes back at once. -/
theorem Idle.acquire {n : Nat} (h : Idle n s) (cue_id source : String) :
    (s.step (T := T) (.acquire cue_id source)) = { s with
      state := { s.state with
        next_permit_id := min (s.state.next_permit_id + 1) U64_MAX
        active := AList.singleton s.state.next_permit_id ⟨1, cue_id, source, false, []⟩ }
      permits := s.permits ++ [⟨⟨s.state.next_permit_id, 1⟩,
        ⟨1, cue_id, source, false, []⟩, false, 0⟩] } := by
  simp only [step, respond, acquire_granted cue_id source h.owner,
    h.generation, h.active]
  rfl

theorem idle_short_renders (n : Nat) : Idle n (run step start (short_renders n)) := by
  induction n with
  | zero => exact ⟨rfl, rfl, rfl, rfl, rfl⟩
  | succ n ih =>
    rw [short_renders, run_append]
    generalize run step start (short_renders n) = s at ih
    rw [run_cons, ih.acquire, run_cons, run_nil]
    have hlast : (s.permits ++ [⟨⟨s.state.next_permit_id, 1⟩,
        ⟨1, "cue", "native-omni", false, []⟩, false, 0⟩])[n]? = some ⟨⟨s.state.next_permit_id, 1⟩,
        ⟨1, "cue", "native-omni", false, []⟩, false, 0⟩ := by
      rw [List.getElem?_append_right (Nat.le_of_eq ih.permits), ih.permits, Nat.sub_self]
      rfl
    simp only [step, respond, hlast, Bool.false_eq_true, ne_eq,
      not_true_eq_false, or_self, if_false, playback_ownership.drop, lookup_singleton]
    refine ⟨ih.owner, ih.generation, ?_, ?_, ?_⟩
    · rw [ih.next]
      simp only
      omega
    · exact erase_singleton _ _
    · simp [ih.permits]

/-- Once the ids are used up two permits share the last one, and what was cancelled for the first is
not cancelled for the second. -/
theorem Idle.resumes {n : Nat} (h : Idle n s) (hfull : U64_MAX ≤ n + 1) :
    let cancelled := run step s
      [.acquire (T := Unit) "a" "native-omni", .cancel_and_drain_matching "a" "native-omni" true]
    ∃ granted, cancelled.permits[n]? = some granted ∧ granted.playback.cancelled = true ∧
      validate cancelled.state granted.permit ≠ .ok () ∧
      validate (cancelled.step (T := Unit) (.acquire "b" "native-omni")).state granted.permit =
        .ok () := by
  have hid : s.state.next_permit_id = U64_MAX := by
    rw [h.next]
    exact min_eq_right hfull
  have hlast : min (U64_MAX + 1) U64_MAX = U64_MAX := min_eq_right (Nat.le_succ _)
  let cancelled : Granted :=
    ⟨⟨U64_MAX, 1⟩, ⟨1, "a", "native-omni", true, []⟩, false, 0⟩
  have hrun : run step s [.acquire (T := Unit) "a" "native-omni",
      .cancel_and_drain_matching "a" "native-omni" true] = { s with
        state := { s.state with
          active := AList.singleton U64_MAX cancelled.playback }
        permits := s.permits.map (Granted.cancel fun playback => playback.matches "a" "native-omni")
          ++ [cancelled] } := by
    rw [run_cons, h.acquire, run_cons, run_nil, hid, hlast]
    simp only [step, respond, cancel_and_drain_matching, drain_matching,
      map_values_singleton]
    simp [ActivePlayback.matches, Playbacks.stopped, Granted.cancel, cancelled]
    exact hid.symm
  rw [hrun]
  refine ⟨cancelled, ?_, rfl, ?_, ?_⟩
  · simp [h.permits]
  · simp [validate, cancelled]
  · simp [step, respond, playback_ownership.acquire, validate, cancelled, hid,
      h.owner, h.generation]

end omni_translate.playback_ownership

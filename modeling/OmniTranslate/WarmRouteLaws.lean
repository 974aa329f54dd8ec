-- One pre-opened device a direction. A slot has one owner at a time, the map or the
-- call that has it in its hands, as long as a thread is spawned only when the
-- direction has no slot; two calls that overlap spawn two threads.
import OmniTranslate.WarmRoutes

namespace omni_translate.warm_route

open maps runs
open Function (update update_of_ne update_self)

/-! ## A warm thread -/

/-- It opens or holds a device, and it was neither activated nor told to cancel. -/
def WarmThread.untold (thread : WarmThread) : Bool :=
  (thread.phase = .opening || thread.phase = .parked) && thread.sent = []

/-- A parked thread reads one message, the one that was sent, or that there is none to come. -/
structure TookOne (thread : WarmThread) : Prop where
  not_yet : thread.phase = .opening ∨ thread.phase = .parked → thread.received = []
  not_ready : thread.phase = .opening → thread.ready = false
  capturing : thread.phase = .capturing → thread.received = [.message .Activate]
  parked : thread.ready = true → thread.phase = .finished → thread.received.length = 1
  one_received : thread.received.length ≤ 1
  one_sent : thread.sent.length ≤ 1
  read : ∀ control, thread.received = [.message control] → thread.sent = [control]
  disconnected : thread.received = [.disconnected] → thread.sent = [] ∧ thread.has_sender = false

namespace TookOne

variable {thread : WarmThread}

theorem opening (direction requested_device_id : String) : TookOne (opening_thread direction requested_device_id) where
  not_yet _ := rfl
  not_ready _ := rfl
  capturing := nofun
  parked := nofun
  one_received := Nat.zero_le 1
  one_sent := Nat.zero_le 1
  read := nofun
  disconnected := nofun

section

variable (h : TookOne thread)

include h

theorem opened (ok : Bool) : TookOne (thread_opened ok thread) := by
  unfold thread_opened
  split
  · next hopening =>
    have hnone := h.not_yet (.inl hopening)
    cases ok with
    | true => exact ⟨fun _ => hnone, nofun, nofun, nofun, h.one_received, h.one_sent, h.read, h.disconnected⟩
    | false =>
      refine ⟨nofun, nofun, nofun, fun hready => ?_, h.one_received, h.one_sent, h.read, h.disconnected⟩
      have hnot := h.not_ready hopening
      rw [show thread.ready = true from hready] at hnot
      cases hnot
  · exact h

theorem receives : TookOne (thread_receives thread) := by
  unfold thread_receives
  split
  · next hparked =>
    have hnone := h.not_yet (.inr hparked)
    have hone := h.one_sent
    split
    · next rest hsent =>
      rw [hsent] at hone
      obtain rfl : rest = [] := List.length_eq_zero_iff.mp (Nat.le_zero.mp (Nat.le_of_succ_le_succ hone))
      refine ⟨nofun, nofun, fun _ => by rw [hnone]; rfl, nofun, by rw [hnone]; exact Nat.le_refl 1, h.one_sent, ?_, ?_⟩
      · intro control hread
        rw [hnone] at hread
        cases hread
        exact hsent
      · intro hread
        rw [hnone] at hread
        cases hread
    · next rest hsent =>
      rw [hsent] at hone
      obtain rfl : rest = [] := List.length_eq_zero_iff.mp (Nat.le_zero.mp (Nat.le_of_succ_le_succ hone))
      refine ⟨nofun, nofun, nofun, fun _ _ => by rw [hnone]; rfl, by rw [hnone]; exact Nat.le_refl 1, h.one_sent, ?_, ?_⟩
      · intro control hread
        rw [hnone] at hread
        cases hread
        exact hsent
      · intro hread
        rw [hnone] at hread
        cases hread
    · next hsent =>
      split
      · exact h
      · next hgone =>
        refine ⟨nofun, nofun, nofun, fun _ _ => by rw [hnone]; rfl, by rw [hnone]; exact Nat.le_refl 1, h.one_sent, ?_,
          fun _ => ⟨hsent, Bool.eq_false_iff.mpr hgone⟩⟩
        intro control hread
        rw [hnone] at hread
        cases hread
  · exact h

theorem ends : TookOne (thread_ends thread) := by
  unfold thread_ends
  split
  · next hcapturing =>
    have hread := h.capturing hcapturing
    exact ⟨nofun, nofun, nofun, fun _ _ => by rw [hread]; rfl, h.one_received, h.one_sent, h.read, h.disconnected⟩
  · exact h

theorem told (hnone : thread.sent = []) (control : WarmControl) :
    TookOne (thread_told control thread) := by
  unfold thread_told
  split
  · exact h
  · next hrunning =>
    have hreceived : thread.received = [] := by
      cases hphase : thread.phase with
      | opening => exact h.not_yet (.inl hphase)
      | parked => exact h.not_yet (.inr hphase)
      | finished => exact absurd hphase hrunning
      | capturing =>
        have hsent := h.read .Activate (h.capturing hphase)
        rw [hnone] at hsent
        cases hsent
    refine ⟨h.not_yet, h.not_ready, h.capturing, h.parked, h.one_received, ?_, ?_, ?_⟩
    · rw [hnone]
      exact Nat.le_refl 1
    · intro other hread
      rw [hreceived] at hread
      cases hread
    · intro hread
      rw [hreceived] at hread
      cases hread

theorem gone : TookOne (sender_gone thread) :=
  ⟨h.not_yet, h.not_ready, h.capturing, h.parked, h.one_received, h.one_sent, h.read,
    fun hread => ⟨(h.disconnected hread).1, rfl⟩⟩

end

end TookOne

/-! ## Who has a slot -/

/-- A thread of the direction that was told nothing and still can be. -/
def Tellable (threads : List WarmThread) (direction : String) (t : Nat) : Prop :=
  ∃ thread, threads[t]? = some thread ∧ thread.direction = direction ∧ thread.sent = [] ∧ thread.has_sender = true

/-- A slot of a direction is in the map or in the hands of one call, it is the only one, and every thread that was told
nothing has one. -/
structure Kept (place : String → Option Nat) (hand : Nat → Option (String × Nat)) (threads : List WarmThread) :
    Prop where
  apart : ∀ d (t : Nat) c (t' : Nat), place d = some t → hand c ≠ some (d, t')
  alone : ∀ d (t t' : Nat) c c', hand c = some (d, t) → hand c' = some (d, t') → c = c'
  placed : ∀ d (t : Nat), place d = some t → Tellable threads d t
  handed : ∀ c d (t : Nat), hand c = some (d, t) → Tellable threads d t
  has_slot : ∀ (t : Nat) thread, threads[t]? = some thread → thread.untold = true →
    place thread.direction = some t ∨ ∃ c, hand c = some (thread.direction, t)
  took : ∀ (t : Nat) thread, threads[t]? = some thread → TookOne thread

theorem of_update {α β : Type} [DecidableEq α] {f : α → Option β} {a x : α} {b : Option β} {y : β}
    (h : update f a b x = some y) : (x = a ∧ b = some y) ∨ (x ≠ a ∧ f x = some y) := by
  rw [Function.update_apply] at h
  split at h
  · next heq => exact .inl ⟨heq, h⟩
  · next hne => exact .inr ⟨hne, h⟩

namespace Kept

variable {place : String → Option Nat} {hand : Nat → Option (String × Nat)} {threads : List WarmThread} {call t : Nat}
  {d : String}

theorem new : Kept (fun _ => none) (fun _ => none) [] where
  apart := nofun
  alone := nofun
  placed := nofun
  handed := nofun
  has_slot := nofun
  took := nofun

/-- A slot goes from the map into the hands of a call. -/
theorem takes (h : Kept place hand threads) (hplace : place d = some t) (hcall : hand call = none) :
    Kept (update place d none) (update hand call (some (d, t))) threads where
  apart d' t' c t'' hp hc := by
    obtain ⟨-, hp⟩ | ⟨hne, hp⟩ := of_update hp
    · cases hp
    · rcases of_update hc with ⟨-, heq⟩ | ⟨-, hc⟩
      · cases heq
        exact hne rfl
      · exact h.apart d' t' c t'' hp hc
  alone d' t' t'' c c' hc hc' := by
    rcases of_update hc with ⟨rfl, heq⟩ | ⟨-, hold⟩ <;> rcases of_update hc' with ⟨rfl, heq'⟩ | ⟨-, hold'⟩
    · rfl
    · cases heq
      exact absurd hold' (h.apart d t c' t'' hplace)
    · cases heq'
      exact absurd hold (h.apart d t c t' hplace)
    · exact h.alone d' t' t'' c c' hold hold'
  placed d' t' hp := by
    obtain ⟨-, hp⟩ | ⟨-, hp⟩ := of_update hp
    · cases hp
    · exact h.placed d' t' hp
  handed c d' t' hc := by
    rcases of_update hc with ⟨-, heq⟩ | ⟨-, hc⟩
    · cases heq
      exact h.placed d t hplace
    · exact h.handed c d' t' hc
  has_slot t' thread hthread huntold := by
    rcases h.has_slot t' thread hthread huntold with hp | ⟨c, hc⟩
    · by_cases heq : thread.direction = d
      · rw [heq, hplace] at hp
        exact .inr ⟨call, by rw [heq, ← Option.some.inj hp, update_self]⟩
      · exact .inl (by rw [update_of_ne heq]; exact hp)
    · refine .inr ⟨c, ?_⟩
      rw [update_of_ne]
      · exact hc
      · rintro rfl
        rw [hcall] at hc
        cases hc
  took := h.took

/-- A slot goes from the hands of a call into the map. -/
theorem inserts (h : Kept place hand threads) (hcall : hand call = some (d, t)) :
    Kept (update place d (some t)) (update hand call none) threads where
  apart d' t' c t'' hp hc := by
    obtain ⟨-, hc⟩ | ⟨hne, hc⟩ := of_update hc
    · cases hc
    · rcases of_update hp with ⟨rfl, -⟩ | ⟨-, hp⟩
      · exact hne (h.alone d' t'' t c call hc hcall)
      · exact h.apart d' t' c t'' hp hc
  alone d' t' t'' c c' hc hc' := by
    obtain ⟨-, hc⟩ | ⟨-, hc⟩ := of_update hc
    · cases hc
    · obtain ⟨-, hc'⟩ | ⟨-, hc'⟩ := of_update hc'
      · cases hc'
      · exact h.alone d' t' t'' c c' hc hc'
  placed d' t' hp := by
    rcases of_update hp with ⟨rfl, heq⟩ | ⟨-, hp⟩
    · cases heq
      exact h.handed call _ _ hcall
    · exact h.placed d' t' hp
  handed c d' t' hc := by
    obtain ⟨-, hc⟩ | ⟨-, hc⟩ := of_update hc
    · cases hc
    · exact h.handed c d' t' hc
  has_slot t' thread hthread huntold := by
    rcases h.has_slot t' thread hthread huntold with hp | ⟨c, hc⟩
    · refine .inl ?_
      rw [update_of_ne]
      · exact hp
      · intro heq
        rw [heq] at hp
        exact h.apart d t' call t hp hcall
    · by_cases heq : c = call
      · rw [heq, hcall] at hc
        cases hc
        exact .inl (update_self _ _ _)
      · exact .inr ⟨c, by rw [update_of_ne heq]; exact hc⟩
  took := h.took

variable {f : WarmThread → WarmThread}

theorem modified {t' : Nat} {thread : WarmThread} (h : (threads.modify t f)[t']? = some thread) :
    ∃ old, threads[t']? = some old ∧ ((t = t' ∧ thread = f old) ∨ (t ≠ t' ∧ thread = old)) := by
  rw [List.getElem?_modify, Option.map_eq_map, Option.map_eq_some_iff] at h
  obtain ⟨old, hold, rfl⟩ := h
  refine ⟨old, hold, ?_⟩
  split
  · next heq => exact .inl ⟨heq, rfl⟩
  · next hne => exact .inr ⟨hne, rfl⟩

/-- What another thread does changes nothing for the others. -/
theorem tellable_modify {d' : String} {t' : Nat} (h : Tellable threads d' t')
    (hf : t = t' → ∀ thread, (f thread).direction = thread.direction ∧ (f thread).sent = thread.sent ∧
      (f thread).has_sender = thread.has_sender) : Tellable (threads.modify t f) d' t' := by
  obtain ⟨thread, hthread, hd, hsent, hsender⟩ := h
  by_cases heq : t = t'
  · obtain ⟨hsame, hsents, hsenders⟩ := hf heq thread
    refine ⟨f thread, ?_, hsame.trans hd, hsents.trans hsent, hsenders.trans hsender⟩
    rw [List.getElem?_modify, hthread, Option.map_eq_map, Option.map_some, if_pos heq]
  · refine ⟨thread, ?_, hd, hsent, hsender⟩
    rw [List.getElem?_modify, hthread, Option.map_eq_map, Option.map_some, if_neg heq]

/-- A call tells the thread of its slot something, and has the slot no more. -/
theorem tells (h : Kept place hand threads) (hcall : hand call = some (d, t))
    (hf : ∀ thread, thread.sent = [] → TookOne thread → TookOne (f thread) ∧ (f thread).untold = false) :
    Kept place (update hand call none) (threads.modify t f) := by
  obtain ⟨told, htold, hd, hsent, -⟩ := h.handed call d t hcall
  have hplace (d' : String) (t' : Nat) (hp : place d' = some t') : t ≠ t' := by
    rintro rfl
    obtain ⟨thread, hthread, hd', -⟩ := h.placed d' t hp
    rw [htold] at hthread
    cases hthread
    rw [← hd', hd] at hp
    exact h.apart d t call t hp hcall
  have hhand (c : Nat) (d' : String) (t' : Nat) (hc : hand c = some (d', t')) (hne : c ≠ call) : t ≠ t' := by
    rintro rfl
    obtain ⟨thread, hthread, hd', -⟩ := h.handed c d' t hc
    rw [htold] at hthread
    cases hthread
    rw [← hd', hd] at hc
    exact hne (h.alone d t t c call hc hcall)
  refine ⟨fun d' t' c t'' hp hc => ?_, fun d' t' t'' c c' hc hc' => ?_, fun d' t' hp => ?_, fun c d' t' hc => ?_,
    fun t' thread hthread huntold => ?_, fun t' thread hthread => ?_⟩
  · obtain ⟨-, hc⟩ | ⟨-, hc⟩ := of_update hc
    · cases hc
    · exact h.apart d' t' c t'' hp hc
  · obtain ⟨-, hc⟩ | ⟨-, hc⟩ := of_update hc
    · cases hc
    · obtain ⟨-, hc'⟩ | ⟨-, hc'⟩ := of_update hc'
      · cases hc'
      · exact h.alone d' t' t'' c c' hc hc'
  · exact tellable_modify (h.placed d' t' hp) fun heq => absurd heq (hplace d' t' hp)
  · obtain ⟨-, hc⟩ | ⟨hne, hc⟩ := of_update hc
    · cases hc
    · exact tellable_modify (h.handed c d' t' hc) fun heq => absurd heq (hhand c d' t' hc hne)
  · obtain ⟨old, hold, ⟨rfl, rfl⟩ | ⟨hne, rfl⟩⟩ := modified hthread
    · rw [htold] at hold
      cases hold
      rw [(hf told hsent (h.took t told htold)).2] at huntold
      cases huntold
    · rcases h.has_slot t' thread hold huntold with hp | ⟨c, hc⟩
      · exact .inl hp
      · refine .inr ⟨c, ?_⟩
        rw [update_of_ne]
        · exact hc
        · rintro rfl
          rw [hcall] at hc
          cases hc
          exact hne rfl
  · obtain ⟨old, hold, ⟨rfl, rfl⟩ | ⟨-, rfl⟩⟩ := modified hthread
    · rw [htold] at hold
      cases hold
      exact (hf told hsent (h.took t told htold)).1
    · exact h.took t' thread hold

theorem tellable_append {d' : String} {t' : Nat} (h : Tellable threads d' t') (thread : WarmThread) :
    Tellable (threads ++ [thread]) d' t' := by
  obtain ⟨old, hold, hrest⟩ := h
  exact ⟨old, by rw [List.getElem?_append_left (List.getElem?_eq_some_iff.mp hold).1]; exact hold, hrest⟩

theorem appended {t' : Nat} {new thread : WarmThread} (h : (threads ++ [new])[t']? = some thread) :
    threads[t']? = some thread ∨ (t' = threads.length ∧ thread = new) := by
  rcases Nat.lt_or_ge t' threads.length with hlt | hge
  · rw [List.getElem?_append_left hlt] at h
    exact .inl h
  · rw [List.getElem?_append_right hge, List.getElem?_singleton] at h
    split at h
    · next heq => exact .inr ⟨Nat.le_antisymm (Nat.sub_eq_zero_iff_le.mp heq) hge, (Option.some.inj h).symm⟩
    · cases h

/-- A call spawns a thread for a direction that has no slot. -/
theorem spawns (h : Kept place hand threads) (hplace : place d = none) (hhand : ∀ c t, hand c ≠ some (d, t))
    (hcall : hand call = none) (device : String) :
    Kept place (update hand call (some (d, threads.length))) (threads ++ [opening_thread d device]) where
  apart d' t' c t'' hp hc := by
    rcases of_update hc with ⟨-, heq⟩ | ⟨-, hc⟩
    · cases heq
      rw [hplace] at hp
      cases hp
    · exact h.apart d' t' c t'' hp hc
  alone d' t' t'' c c' hc hc' := by
    rcases of_update hc with ⟨rfl, heq⟩ | ⟨-, hold⟩ <;> rcases of_update hc' with ⟨rfl, heq'⟩ | ⟨-, hold'⟩
    · rfl
    · cases heq
      exact absurd hold' (hhand c' t'')
    · cases heq'
      exact absurd hold (hhand c t')
    · exact h.alone d' t' t'' c c' hold hold'
  placed d' t' hp := tellable_append (h.placed d' t' hp) _
  handed c d' t' hc := by
    rcases of_update hc with ⟨-, heq⟩ | ⟨-, hc⟩
    · cases heq
      exact ⟨opening_thread d device, by simp, rfl, rfl, rfl⟩
    · exact tellable_append (h.handed c d' t' hc) _
  has_slot t' thread hthread huntold := by
    rcases appended hthread with hold | ⟨rfl, rfl⟩
    · rcases h.has_slot t' thread hold huntold with hp | ⟨c, hc⟩
      · exact .inl hp
      · refine .inr ⟨c, ?_⟩
        rw [update_of_ne]
        · exact hc
        · rintro rfl
          rw [hcall] at hc
          cases hc
    · exact .inr ⟨call, update_self _ _ _⟩
  took t' thread hthread := by
    rcases appended hthread with hold | ⟨-, rfl⟩
    · exact h.took t' thread hold
    · exact .opening d device

theorem thread_step (h : Kept place hand threads)
    (hf : ∀ thread, ((f thread).direction = thread.direction ∧ (f thread).sent = thread.sent ∧
      (f thread).has_sender = thread.has_sender) ∧ ((f thread).untold = true → thread.untold = true) ∧
      (TookOne thread → TookOne (f thread))) : Kept place hand (threads.modify t f) where
  apart := h.apart
  alone := h.alone
  placed d' t' hp := tellable_modify (h.placed d' t' hp) fun _ thread => (hf thread).1
  handed c d' t' hc := tellable_modify (h.handed c d' t' hc) fun _ thread => (hf thread).1
  has_slot t' thread hthread huntold := by
    obtain ⟨old, hold, ⟨rfl, rfl⟩ | ⟨-, rfl⟩⟩ := modified hthread
    · rw [(hf old).1.1]
      exact h.has_slot t old hold ((hf old).2.1 huntold)
    · exact h.has_slot t' thread hold huntold
  took t' thread hthread := by
    obtain ⟨old, hold, ⟨rfl, rfl⟩ | ⟨-, rfl⟩⟩ := modified hthread
    · exact (hf old).2.2 (h.took t old hold)
    · exact h.took t' thread hold

end Kept

/-! ## The warmer -/

namespace CaptureRouteWarmer

variable (s : CaptureRouteWarmer)

/-- The thread of the slot that the map has for a direction. -/
def place (direction : String) : Option Nat := (s.slots.lookup direction).map (·.thread)

/-- The slot that a call has in its hands. -/
def hand (call : Nat) : Option (String × Nat) := (s.calls.lookup call).bind (·.in_hand)

/-- The map and the hands of the calls have each slot once. -/
def Sound : Prop := Kept s.place s.hand s.threads

variable {s}

theorem hand_set_call (call : Nat) (next : WarmCall) :
    (s.set_call call next).hand = update s.hand call next.in_hand := by
  funext c
  unfold set_call hand
  by_cases heq : c = call
  · rw [heq, update_self, AList.lookup_insert]
    rfl
  · rw [update_of_ne heq, AList.lookup_insert_ne heq]

theorem place_erase (direction : String) :
    { s with slots := s.slots.erase direction }.place = update s.place direction none := by
  funext d
  unfold place
  by_cases heq : d = direction
  · rw [heq, update_self, AList.lookup_erase]
    rfl
  · rw [update_of_ne heq, AList.lookup_erase_ne heq]

theorem place_insert (direction : String) (slot : WarmRouteSlot) :
    { s with slots := s.slots.insert direction slot }.place = update s.place direction (some slot.thread) := by
  funext d
  unfold place
  by_cases heq : d = direction
  · rw [heq, update_self, AList.lookup_insert]
    rfl
  · rw [update_of_ne heq, AList.lookup_insert_ne heq]

theorem hand_of_call {call : Nat} {current : WarmCall} (h : (s.calls.lookup call).getD .returned = current) :
    s.hand call = current.in_hand := by
  unfold hand
  cases hlookup : s.calls.lookup call with
  | none =>
    rw [hlookup] at h
    rw [← h]
    rfl
  | some other =>
    rw [hlookup] at h
    rw [← h]
    rfl

/-- A step of a call that has nothing in its hands, before and after. -/
theorem Sound.moves (h : s.Sound) {call : Nat} {next : WarmCall} (hcall : s.hand call = none)
    (hnext : next.in_hand = none) : (s.set_call call next).Sound := by
  unfold Sound
  rw [hand_set_call, hnext, ← hcall, Function.update_eq_self]
  exact h

end CaptureRouteWarmer

open CaptureRouteWarmer

theorem next_in_hand (direction : String) (after : AfterCancel) : (after.next direction).in_hand = none := by
  unfold AfterCancel.next
  split <;> rfl

/-- The direction for which a step spawns a thread. -/
def opens (s : CaptureRouteWarmer) : WarmOp → Option String
  | .proceed call true _ =>
    match (s.calls.lookup call).getD .returned with
    | .spawns direction _ => some direction
    | _ => none
  | _ => none

/-- The map has no slot of the direction, and no call has one in its hands. -/
def no_slot (s : CaptureRouteWarmer) (direction : String) : Bool :=
  (s.slots.lookup direction).isNone &&
    s.calls.entries.all fun call => call.2.in_hand.all fun held => held.1 ≠ direction

/-- A thread is spawned only for a direction that has no slot. -/
def SpawnsAlone (s : CaptureRouteWarmer) (op : WarmOp) : Prop := (opens s op).all (no_slot s) = true

instance (s : CaptureRouteWarmer) (op : WarmOp) : Decidable (SpawnsAlone s op) := by
  unfold SpawnsAlone
  infer_instance

variable {s : CaptureRouteWarmer}

theorem no_slot_spec {direction : String} (h : no_slot s direction = true) :
    s.place direction = none ∧ ∀ c t, s.hand c ≠ some (direction, t) := by
  unfold no_slot at h
  rw [Bool.and_eq_true, List.all_eq_true] at h
  refine ⟨?_, fun c t hc => ?_⟩
  · unfold place
    rw [Option.isNone_iff_eq_none.mp h.1]
    rfl
  · obtain ⟨call, hlookup, hheld⟩ := Option.bind_eq_some_iff.mp hc
    have hall := h.2 ⟨c, call⟩ (AList.mem_lookup_iff.mp hlookup)
    rw [hheld] at hall
    simp at hall

theorem sound_tells (h : s.Sound) {call t : Nat} {d : String} {next : WarmCall} (hcall : s.hand call = some (d, t))
    (hnext : next.in_hand = none) {f : WarmThread → WarmThread}
    (hf : ∀ thread, thread.sent = [] → TookOne thread → TookOne (f thread) ∧ (f thread).untold = false) :
    ({ s with threads := s.threads.modify t f }.set_call call next).Sound := by
  unfold Sound
  rw [hand_set_call, hnext]
  exact Kept.tells h hcall hf

theorem untold_told {thread : WarmThread} (hnone : thread.sent = []) (control : WarmControl) :
    (thread_told control thread).untold = false := by
  unfold thread_told WarmThread.untold
  split
  · next hfinished => simp [hfinished]
  · simp [hnone]

theorem sound_takes (h : s.Sound) {call : Nat} {direction : String} {slot : WarmRouteSlot} {next : WarmCall}
    (hslot : s.slots.lookup direction = some slot) (hcall : s.hand call = none)
    (hnext : next.in_hand = some (direction, slot.thread)) :
    ({ s with slots := s.slots.erase direction }.set_call call next).Sound := by
  have hplace : s.place direction = some slot.thread := by
    unfold place
    rw [hslot]
    rfl
  have htakes := Kept.takes h hplace hcall
  rw [← place_erase, ← hnext] at htakes
  unfold Sound
  rw [hand_set_call]
  exact htakes

theorem sound_proceed (h : s.Sound) {call : Nat} {spawned : Bool} {order : List String}
    (hok : SpawnsAlone s (.proceed call spawned order)) :
    (proceed s call spawned order ((s.calls.lookup call).getD .returned)).Sound := by
  cases hcurrent : (s.calls.lookup call).getD .returned with
  | returned => exact h
  | checks direction device =>
    unfold proceed
    dsimp only
    split
    · exact h.moves (hand_of_call hcurrent) rfl
    · exact h.moves (hand_of_call hcurrent) rfl
  | takes direction after =>
    unfold proceed
    dsimp only
    split
    · exact h.moves (hand_of_call hcurrent) (next_in_hand direction after)
    · next slot hslot => exact sound_takes h hslot (hand_of_call hcurrent) rfl
  | tells direction slot after =>
    exact sound_tells h (hand_of_call hcurrent) rfl fun thread hnone htook =>
      ⟨htook.told hnone .Cancel, untold_told hnone .Cancel⟩
  | joins direction slot after =>
    unfold proceed
    dsimp only
    split
    · exact h.moves (hand_of_call hcurrent) (next_in_hand direction after)
    · exact h
  | spawns direction device =>
    unfold proceed
    cases spawned with
    | false => exact h.moves (hand_of_call hcurrent) rfl
    | true =>
      unfold SpawnsAlone opens at hok
      dsimp only at hok
      rw [hcurrent] at hok
      obtain ⟨hplace, hhands⟩ := no_slot_spec hok
      unfold Sound
      dsimp only
      rw [if_pos rfl, hand_set_call]
      exact Kept.spawns h hplace hhands (hand_of_call hcurrent) device
  | inserts direction slot =>
    have hhand := hand_of_call hcurrent
    have hnone : s.slots.lookup direction = none := by
      cases hlookup : s.slots.lookup direction with
      | none => rfl
      | some replaced =>
        have hplace : s.place direction = some replaced.thread := by
          unfold place
          rw [hlookup]
          rfl
        exact absurd hhand (h.apart direction replaced.thread call slot.thread hplace)
    have hinserts := Kept.inserts h hhand
    rw [← place_insert] at hinserts
    unfold proceed Sound
    dsimp only
    rw [hnone, hand_set_call]
    exact hinserts
  | finds direction device =>
    unfold proceed
    dsimp only
    split
    · exact h.moves (hand_of_call hcurrent) rfl
    · next slot hslot =>
      split
      · exact sound_takes h hslot (hand_of_call hcurrent) rfl
      · exact h.moves (hand_of_call hcurrent) rfl
  | activates direction slot =>
    have htells := @sound_tells s h call slot.thread direction .returned (hand_of_call hcurrent) rfl
      (sender_gone ∘ thread_told .Activate) fun thread hnone htook =>
        ⟨(htook.told hnone .Activate).gone, untold_told hnone .Activate⟩
    rw [← List.modify_modify_eq] at htells
    exact htells
  | lists => exact h.moves (hand_of_call hcurrent) (next_in_hand "" _)

theorem sound_thread (h : s.Sound) {t : Nat} {f : WarmThread → WarmThread}
    (hf : ∀ thread, ((f thread).direction = thread.direction ∧ (f thread).sent = thread.sent ∧
      (f thread).has_sender = thread.has_sender) ∧ ((f thread).untold = true → thread.untold = true) ∧
      (TookOne thread → TookOne (f thread))) : { s with threads := s.threads.modify t f }.Sound :=
  Kept.thread_step h hf

theorem first_in_hand {op : WarmOp} {call : Nat} {first : WarmCall} (h : first_step op = some (call, first)) :
    first.in_hand = none := by
  unfold first_step at h
  split at h <;> cases h
  · split <;> rfl
  · rfl
  · split <;> rfl
  · rfl
  · rfl

theorem sound_begins (h : s.Sound) (op : WarmOp) : (begins s op).Sound := by
  unfold begins
  split
  · exact h
  · next call first hfirst =>
    split
    · next hreturned => exact h.moves (hand_of_call hreturned) (first_in_hand hfirst)
    · exact h

theorem sound_step (h : s.Sound) {op : WarmOp} (hok : SpawnsAlone s op) : (step s op).Sound := by
  cases op with
  | proceed call spawned order => exact sound_proceed h hok
  | opened t ok =>
    refine sound_thread h fun thread => ⟨?_, ?_, fun htook => htook.opened ok⟩
    · unfold thread_opened
      split
      · cases ok <;> exact ⟨rfl, rfl, rfl⟩
      · exact ⟨rfl, rfl, rfl⟩
    · unfold thread_opened WarmThread.untold
      split
      · next hopening => cases ok <;> simp [hopening]
      · exact id
  | receive t =>
    refine sound_thread h fun thread => ⟨?_, ?_, TookOne.receives⟩
    · unfold thread_receives
      split
      · split
        · exact ⟨rfl, rfl, rfl⟩
        · exact ⟨rfl, rfl, rfl⟩
        · split <;> exact ⟨rfl, rfl, rfl⟩
      · exact ⟨rfl, rfl, rfl⟩
    · unfold thread_receives
      split
      · split
        · simp [WarmThread.untold]
        · simp [WarmThread.untold]
        · split
          · exact id
          · simp [WarmThread.untold]
      · exact id
  | capture_ends t =>
    refine sound_thread h fun thread => ⟨?_, ?_, TookOne.ends⟩
    · unfold thread_ends
      split <;> exact ⟨rfl, rfl, rfl⟩
    · unfold thread_ends
      split
      · simp [WarmThread.untold]
      · exact id
  | prewarm call direction spec => exact sound_begins h _
  | try_activate call direction spec => exact sound_begins h _
  | cancel call direction => exact sound_begins h _
  | cancel_all call => exact sound_begins h _

/-! ## Runs -/

/-- A direction has at most one warm thread that opens or holds a device and was told nothing, the map has the slot of
such a thread when no call has it in its hands, and a parked thread reads one message. -/
structure WarmedAlone (s : CaptureRouteWarmer) : Prop where
  one_device : ∀ (i j : Nat) a b, s.threads[i]? = some a → s.threads[j]? = some b → a.untold = true → b.untold = true →
    a.direction = b.direction → i = j
  reachable : ∀ (i : Nat) a, s.threads[i]? = some a → a.untold = true →
    (∀ c call, s.calls.lookup c = some call → call.in_hand ≠ some (a.direction, i)) →
    ∃ slot, s.slots.lookup a.direction = some slot ∧ slot.thread = i
  one_message : ∀ (i : Nat) a, s.threads[i]? = some a → TookOne a

theorem warmed_alone (h : s.Sound) : WarmedAlone s where
  one_device i j a b ha hb huntold huntold' hsame := by
    rcases h.has_slot i a ha huntold with hp | ⟨c, hc⟩ <;> rcases h.has_slot j b hb huntold' with hp' | ⟨c', hc'⟩
    · rw [hsame, hp'] at hp
      exact (Option.some.inj hp).symm
    · rw [hsame] at hp
      exact absurd hc' (h.apart b.direction i c' j hp)
    · rw [hsame] at hc
      exact absurd hc (h.apart b.direction j c i hp')
    · rw [hsame] at hc
      rw [h.alone b.direction i j c c' hc hc', hc'] at hc
      exact (Prod.mk.inj (Option.some.inj hc)).2.symm
  reachable i a ha huntold hhands := by
    rcases h.has_slot i a ha huntold with hp | ⟨c, hc⟩
    · exact Option.map_eq_some_iff.mp hp
    · obtain ⟨call, hlookup, hheld⟩ := Option.bind_eq_some_iff.mp hc
      exact absurd hheld (hhands c call hlookup)
  one_message := h.took

/-- As long as a thread is spawned only for a direction that has no slot. -/
theorem one_warm_device {ops : List WarmOp} (h : Along step SpawnsAlone new ops) : WarmedAlone (run step new ops) :=
  warmed_alone (h.keeps Sound (fun _ _ hsound hok => sound_step hsound hok) Kept.new)

/-! ## Calls that overlap -/

def spec : RouteSpec := ⟨"d", false⟩

/-- A call opens a device and is followed by one that cancels it. -/
def one_after_the_other : List WarmOp :=
  [.prewarm 0 "inbound" (some spec), .proceed 0 true [], .proceed 0 true [], .proceed 0 true [], .proceed 0 true [],
    .opened 0 true, .cancel 1 "inbound", .proceed 1 true [], .proceed 1 true [], .receive 0, .proceed 1 true []]

theorem one_device_after_the_other : WarmedAlone (run step new one_after_the_other) :=
  one_warm_device (by decide +kernel)

/-- Two calls that look at the map before either of them spawns its thread. -/
def two_at_a_time : List WarmOp :=
  [.prewarm 0 "inbound" (some spec), .prewarm 1 "inbound" (some spec), .proceed 0 true [], .proceed 1 true [],
    .proceed 0 true [], .proceed 1 true [], .proceed 0 true [], .proceed 1 true []]

/-- Both of them open the device. -/
theorem two_calls_open_two_devices : ¬ ∀ ops : List WarmOp, WarmedAlone (run step new ops) := by
  intro hall
  have hone := (hall two_at_a_time).one_device 0 1 (opening_thread "inbound" "d") (opening_thread "inbound" "d")
    (by decide +kernel) (by decide +kernel) rfl rfl rfl
  cases hone

end omni_translate.warm_route

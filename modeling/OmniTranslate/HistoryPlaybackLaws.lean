-- Each playback that was started ends once. The slot has room for one playback:
-- a `begin` over one that still plays, or a failed drain that puts one back,
-- loses or doubles its last event; where neither happens, a playback is in the
-- slot, or one process still has its last event to send, or that event is out.
import OmniTranslate.HistoryPlayback
import OmniTranslate.Places

namespace omni_translate.history_playback

open runs places
open translation_lifecycle (U64_MAX saturating_succ)

namespace Process

/-- The playbacks that the process knows of. -/
def playbacks : Process → List ActivePlayback
  | draining active _ _ | drained active _ _ | restoring active _ | failing active _ => [active]
  | spawning active _ | unspawned active _ | unstarted active _ => [active]
  | starting active _ | playing active _ _ | ended active => [active]
  | completing active completed _ => [active, completed]
  | stopping _ _ | loading _ | beginning _ _ | returned => []

/-- The playback that a call has begun, or whose thread it is. -/
def own : Process → Option ActivePlayback
  | spawning active _ | unspawned active _ | unstarted active _ => active
  | starting active _ | playing active _ _ | completing active _ _ | ended active => active
  | _ => none

/-- The playback whose thread was not spawned. -/
def unborn : Process → Option ActivePlayback
  | unspawned active _ | unstarted active _ => active
  | _ => none

/-- The playback whose thread it is. -/
def thread : Process → Option ActivePlayback
  | starting active _ | playing active _ _ | completing active _ _ | ended active => active
  | _ => none

/-- The playback whose `finish` is still to come. -/
def unfinished : Process → Option ActivePlayback
  | spawning active _ | unspawned active _ | starting active _ | playing active _ _ => active
  | _ => none

/-- The playback out of the slot whose last event the process still has to send. -/
def owed : Process → Option ActivePlayback
  | draining active _ _ | drained active _ _ | restoring active _ | failing active _ => active
  | completing _ completed _ => completed
  | _ => none

/-- The process still has something to do for this playback. -/
def busy_with (playback_id : String) (p : Process) : Prop :=
  ∃ active, (p.unfinished = some active ∨ p.owed = some active) ∧ active.playback_id = playback_id

end Process

instance (playback_id : String) (p : Process) : Decidable (p.busy_with playback_id) :=
  decidable_of_iff ((∃ active ∈ p.unfinished, active.playback_id = playback_id) ∨
    ∃ active ∈ p.owed, active.playback_id = playback_id) <| by
      simp only [Process.busy_with, or_and_right, exists_or, Option.mem_def]

namespace History

def was_started (playback_id : String) (s : History) : Prop :=
  ∃ e ∈ s.events, e.playback_id = playback_id ∧ e.status = .started

def terminals (playback_id : String) (s : History) : Nat :=
  s.events.countP fun e => e.playback_id = playback_id ∧ e.status.is_terminal

/-- Each playback that was started has at most one last event, and has it when no call or thread has anything
left to do for it; the playback in the slot is one whose thread has not finished. -/
structure EndsOnce (s : History) : Prop where
  once : ∀ id, s.was_started id → s.terminals id ≤ 1
  ends : ∀ id, s.was_started id → (∀ p ∈ s.processes, ¬ p.busy_with id) → s.terminals id = 1
  live : ∀ active, s.controller.active = some active → ∃ p ∈ s.processes, p.unfinished = some active

/-- The uuid crate gives an id that it has not given before. -/
def Fresh (s : History) : Step → Prop
  | .go_on i outcome =>
    match s.processes[i]? with
    | some (.beginning _ _) =>
      (∀ e ∈ s.events, e.playback_id ≠ outcome.playback_id) ∧
        ∀ p ∈ s.processes, ∀ active ∈ p.playbacks, active.playback_id ≠ outcome.playback_id
    | _ => True
  | _ => True

/-- The spawn of this playback's thread has failed, and its call has not come to its `finish`. -/
def spawn_failed (active : ActivePlayback) (s : History) : Prop :=
  ∃ p ∈ s.processes, p.unborn = some active ∧ p.unfinished = some active

/-- A playback begins where the slot is empty, and nothing is put back into it; a playback whose thread is never
spawned does not count. The counter, which saturates, gives no generation that is still in use. -/
def OneAtATime (s : History) : Step → Prop
  | .go_on i _ =>
    match s.processes[i]? with
    | some (.beginning _ _) =>
      (∀ active, s.controller.active = some active → s.spawn_failed active) ∧
        (s.controller.next_generation = U64_MAX → ∀ p ∈ s.processes, ∀ active,
          p.unfinished = some active → active.generation ≠ U64_MAX)
    | some (.restoring active _) => s.controller.active = none → s.spawn_failed active
    | _ => True
  | _ => True

end History

/-! ## What a step of one process does -/

/-- The steps of a process, told apart by what they do to the slot and to the last events. -/
inductive Change (controller : PlaybackState) (outcome : Outcome) : Process → Moved → Prop
  | quiet {p q : Process} {events : List HistoryPlaybackEvent} (own : q.own = p.own) (unborn : q.unborn = p.unborn)
      (unfinished : q.unfinished = p.unfinished) (owed : q.owed = p.owed)
      (thread : ∀ active, p.thread = some active → q.thread = some active)
      (sent : ∀ e ∈ events, e.status = .started ∧
        ∃ active, p.thread = some active ∧ active.playback_id = e.playback_id) :
      Change controller outcome p ⟨q, controller, events⟩
  | takes {active : ActivePlayback} {reason : String} {play : Option Request}
      (slot : controller.active = some active) :
      Change controller outcome (.stopping reason play) ⟨.draining active reason play, controller.take, []⟩
  | ends {p q : Process} {active : ActivePlayback} {e : HistoryPlaybackEvent} (owed : p.owed = some active)
      (paid : q.owed = none) (own : q.own = p.own) (unborn : q.unborn = p.unborn)
      (unfinished : q.unfinished = p.unfinished) (thread : q.thread = p.thread)
      (about : e.playback_id = active.playback_id) (terminal : e.status.is_terminal = true) :
      Change controller outcome p ⟨q, controller, [e]⟩
  | restores {active : ActivePlayback} {error : String} :
      Change controller outcome (.restoring active error) ⟨.failing active error, controller.restore_if_empty active, []⟩
  | begins {request : Request} {pieces : List DecodedAudioPiece} {active : ActivePlayback}
      (generation : active.generation = saturating_succ controller.next_generation)
      (playback_id : active.playback_id = outcome.playback_id) :
      Change controller outcome (.beginning request pieces) ⟨.spawning active pieces, controller.begin active, []⟩
  | fails_to_spawn {active : ActivePlayback} {pieces : List DecodedAudioPiece} {error : String} :
      Change controller outcome (.spawning active pieces) ⟨.unspawned active error, controller, []⟩
  | gives_up {active : ActivePlayback} {error : String} :
      Change controller outcome (.unspawned active error)
        ⟨.unstarted active error, controller.finish active.generation, []⟩
  | reports {active : ActivePlayback} {error : String} {e : HistoryPlaybackEvent}
      (about : e.playback_id = active.playback_id) (terminal : e.status = .failed) :
      Change controller outcome (.unstarted active error) ⟨.returned, controller, [e]⟩
  | finishes {active : ActivePlayback} {pieces : List DecodedAudioPiece} {result : Option String} :
      Change controller outcome (.playing active pieces result)
        ⟨after_finish active result (controller.finished active.generation),
          controller.finish active.generation, []⟩

open Process in
theorem Process.next_change (controller : PlaybackState) (outcome : Outcome) (p : Process) :
    Change controller outcome p (p.next controller outcome) := by
  cases p with
  | stopping reason play =>
    unfold next
    cases hactive : controller.active with
    | none => cases play <;> exact .quiet rfl rfl rfl rfl (by simp [thread]) (by simp)
    | some active => exact .takes hactive
  | draining active reason play =>
    unfold next
    dsimp only
    split <;> exact .quiet rfl rfl rfl rfl (by simp [thread]) (by simp)
  | drained active reason play => cases play <;> exact .ends rfl rfl rfl rfl rfl rfl rfl rfl
  | restoring active error => exact .restores
  | failing active error => exact .ends rfl rfl rfl rfl rfl rfl rfl rfl
  | loading request =>
    unfold next
    dsimp only
    split <;> exact .quiet rfl rfl rfl rfl (by simp [thread]) (by simp)
  | beginning request pieces => exact .begins rfl rfl
  | spawning active pieces =>
    unfold next
    dsimp only
    split
    · exact .fails_to_spawn
    · exact .quiet rfl rfl rfl rfl (by simp [thread]) (by simp)
  | unspawned active error => exact .gives_up
  | unstarted active error => exact .reports rfl rfl
  | starting active pieces =>
    refine .quiet rfl rfl rfl rfl (by simp [thread]) fun _ he => ?_
    rw [List.mem_singleton.mp he]
    exact ⟨rfl, active, rfl, rfl⟩
  | playing active pieces result =>
    rcases result with _ | error
    · rcases pieces with _ | ⟨_, pieces⟩
      · exact .finishes
      · unfold next play_piece
        dsimp only
        split <;> exact .quiet rfl rfl rfl rfl (by simp [thread]) (by simp)
    · cases pieces <;> exact .finishes
  | completing active _ result => cases result <;> exact .ends rfl rfl rfl rfl rfl rfl rfl rfl
  | ended active => exact .quiet rfl rfl rfl rfl (by simp [thread]) (by simp)
  | returned => exact .quiet rfl rfl rfl rfl (by simp [thread]) (by simp)

/-! ## The account of each playback -/

/-- One for a last event that the process owes this playback. -/
def Process.owes (playback_id : String) (p : Process) : Bool := p.owed.any fun active => active.playback_id = playback_id

/-- One for the playback in the slot. -/
def PlaybackState.holds (playback_id : String) (controller : PlaybackState) : Nat :=
  if controller.active.any fun active => active.playback_id = playback_id then 1 else 0

def ends_in (playback_id : String) (events : List HistoryPlaybackEvent) : Nat :=
  events.countP fun e => e.playback_id = playback_id ∧ e.status.is_terminal

namespace History

/-- The last events of a playback that are out, those that are owed, and its place in the slot. -/
def account (playback_id : String) (s : History) : Nat :=
  s.terminals playback_id + s.processes.countP (Process.owes playback_id) + s.controller.holds playback_id

variable {s : History} {i : Nat} {p : Process} {m : Moved}

theorem account_moved (hp : s.processes[i]? = some p) (m : Moved) (id : String) :
    (s.moved i m).account id + ((if p.owes id then 1 else 0) + s.controller.holds id) =
      s.account id + (ends_in id m.events + (if m.process.owes id then 1 else 0) + m.controller.holds id) := by
  have hcount := countP_put_in hp (Process.owes id) m.process
  simp only [account, moved, terminals, ends_in, List.countP_append]
  omega

/-- What holds of every reachable state whose steps were one at a time. -/
structure Kept (s : History) : Prop where
  bounded : s.controller.next_generation ≤ U64_MAX
  apart : Apart (fun p => p.own.map (·.playback_id)) s.processes
  in_use : Apart (fun p => p.unfinished.map (·.generation)) s.processes
  numbered : ∀ p ∈ s.processes, ∀ active, p.unfinished = some active →
    active.generation ≤ s.controller.next_generation
  live : ∀ active, s.controller.active = some active → ∃ p ∈ s.processes, p.unfinished = some active
  threads : ∀ e ∈ s.events, e.status = .started →
    ∃ p ∈ s.processes, ∃ active, p.thread = some active ∧ active.playback_id = e.playback_id
  accounts : ∀ p ∈ s.processes, p.unborn = none → ∀ active, p.own = some active →
    s.account active.playback_id = 1

end History

variable {active : ActivePlayback}

theorem Process.own_of_thread {p : Process} (h : p.thread = some active) : p.own = some active ∧ p.unborn = none := by
  cases p <;> simp_all [thread, own, unborn]

theorem Process.own_of_unborn {p : Process} (h : p.unborn = some active) : p.own = some active := by
  cases p <;> simp_all [own, unborn]

theorem Process.mem_playbacks {p : Process} (h : p.own = some active ∨ p.owed = some active) : active ∈ p.playbacks := by
  cases p <;> simp_all [own, owed, playbacks]; tauto

namespace PlaybackState

variable {controller : PlaybackState} {active : ActivePlayback} {generation : Nat}

theorem finish_cases (generation : Nat) (controller : PlaybackState) :
    (∃ active, controller.active = some active ∧ active.generation = generation ∧
        controller.finished generation = some active ∧ controller.finish generation = controller.take) ∨
      ((∀ active, controller.active = some active → active.generation ≠ generation) ∧
        controller.finished generation = none ∧ controller.finish generation = controller) := by
  unfold finished finish is_active
  rcases hslot : controller.active with _ | active
  · simp
  · by_cases hsame : active.generation = generation
    · exact .inl ⟨active, rfl, hsame, by simp [hsame], by simp [hsame]⟩
    · exact .inr ⟨by simpa using hsame, by simp [hsame], by simp [hsame]⟩

theorem holds_eq_zero {playback_id : String}
    (h : ∀ active, controller.active = some active → active.playback_id ≠ playback_id) :
    controller.holds playback_id = 0 := by
  unfold holds
  cases hslot : controller.active with
  | none => rfl
  | some active => simp [h active hslot]

theorem holds_congr {controller' : PlaybackState} (h : controller'.active = controller.active) (playback_id : String) :
    controller'.holds playback_id = controller.holds playback_id := by
  unfold holds
  rw [h]

end PlaybackState

namespace History

variable {s : History} {i : Nat} {p : Process} {m : Moved}

/-! ## What a step keeps -/

/-- The playback in the slot is the one of the process that finishes with its generation. -/
theorem Kept.slot_is_own (hk : s.Kept) (hp : s.processes[i]? = some p) {active own : ActivePlayback}
    (hslot : s.controller.active = some active) (hown : p.unfinished = some own)
    (hgen : active.generation = own.generation) : active = own := by
  obtain ⟨r, hr, hactive⟩ := hk.live active hslot
  have hsame : r = p := hk.in_use.eq_of_mem (k := own.generation) hr (List.mem_of_getElem? hp)
    (by simp [hactive, hgen]) (by simp [hown])
  rw [hsame, hown] at hactive
  exact (Option.some.inj hactive).symm

/-- A playback whose thread was not spawned is not one that a thread plays or is to play. -/
theorem Kept.unborn_ne (hk : s.Kept) {q r : Process} (hq : q ∈ s.processes) (hr : r ∈ s.processes)
    {a b : ActivePlayback} (hunborn : q.unborn = some a) (hown : r.own = some b) (hborn : r.unborn = none) :
    a.playback_id ≠ b.playback_id := by
  intro hid
  have hsame : q = r := hk.apart.eq_of_mem (k := b.playback_id) hq hr
    (by simp [Process.own_of_unborn hunborn, hid]) (by simp [hown])
  rw [hsame, hborn] at hunborn
  cases hunborn

/-- A playback that has just begun is in the slot, and has no last event. -/
theorem account_begun {request : Request} {pieces : List DecodedAudioPiece} {new : ActivePlayback}
    (hp : s.processes[i]? = some (.beginning request pieces)) (hid : new.playback_id = outcome.playback_id)
    (hfresh : s.Fresh (.go_on i outcome)) :
    (s.moved i ⟨.spawning new pieces, s.controller.begin new, []⟩).account new.playback_id = 1 := by
  have hmoved := account_moved hp ⟨.spawning new pieces, s.controller.begin new, []⟩ new.playback_id
  simp only [Fresh, hp] at hfresh
  have hterminals : s.terminals new.playback_id = 0 := List.countP_eq_zero.mpr fun e he => by
    simp [hid, hfresh.1 e he]
  have howing : s.processes.countP (Process.owes new.playback_id) = 0 := List.countP_eq_zero.mpr fun q hq => by
    cases howed : q.owed with
    | none => simp [Process.owes, howed]
    | some slot => simp [Process.owes, howed, hid, hfresh.2 q hq slot (Process.mem_playbacks (.inr howed))]
  simp only [account, hterminals, howing] at hmoved ⊢
  simp [Process.owes, Process.owed, PlaybackState.holds, PlaybackState.begin, ends_in] at hmoved ⊢
  omega

section

variable (hk : s.Kept) (hp : s.processes[i]? = some p) (hc : Change s.controller outcome p m)

include hk hc

theorem Kept.next_generation_moved :
    s.controller.next_generation ≤ m.controller.next_generation ∧ m.controller.next_generation ≤ U64_MAX := by
  have hbounded := hk.bounded
  cases hc with
  | quiet | takes | ends | fails_to_spawn | reports | restores | gives_up | finishes =>
    simpa using hbounded
  | begins generation =>
    simp only [PlaybackState.begin, generation, saturating_succ]
    split <;> omega

include hp

theorem Kept.numbered_moved (q : Process) (hq : q ∈ (s.moved i m).processes) (active : ActivePlayback)
    (hactive : q.unfinished = some active) : active.generation ≤ (s.moved i m).controller.next_generation := by
  have hmem := List.mem_of_getElem? hp
  have hnext := (hk.next_generation_moved hc).1
  rcases List.mem_or_eq_of_mem_set hq with hq | rfl
  · exact (hk.numbered q hq active hactive).trans hnext
  cases hc with
  | quiet own unborn unfinished =>
    rw [unfinished] at hactive
    exact hk.numbered p hmem active hactive
  | ends _ _ own unborn unfinished =>
    rw [unfinished] at hactive
    exact hk.numbered p hmem active hactive
  | takes | restores | gives_up | reports => simp [Process.unfinished] at hactive
  | begins =>
    rw [← Option.some.inj hactive]
    exact Nat.le_refl _
  | fails_to_spawn => exact hk.numbered _ hmem active hactive
  | @finishes active _ _ =>
    unfold after_finish at hactive
    split at hactive <;> simp [Process.unfinished] at hactive

theorem Kept.in_use_moved (hone : s.OneAtATime (.go_on i outcome)) :
    Apart (fun p => p.unfinished.map (·.generation)) (s.moved i m).processes := by
  refine hk.in_use.put_in hp fun k hq => ?_
  cases hc with
  | quiet own unborn unfinished => exact .inl (by rwa [unfinished] at hq)
  | ends _ _ own unborn unfinished => exact .inl (by rwa [unfinished] at hq)
  | takes | restores | gives_up | reports => simp [Process.unfinished] at hq
  | @begins _ pieces active generation =>
    refine .inr fun c hc hck => ?_
    obtain ⟨old, hold, _⟩ := Option.map_eq_some_iff.mp hck
    have hle := hk.numbered c hc old hold
    have hbounded := hk.bounded
    have hnew : saturating_succ s.controller.next_generation = k := by
      rw [← generation]
      simpa [Process.unfinished] using hq
    simp only [OneAtATime, hp] at hone
    unfold saturating_succ at hnew
    split at hnew
    · omega
    · have hmax : s.controller.next_generation = U64_MAX := by omega
      exact hone.2 hmax c hc old hold (by omega)
  | fails_to_spawn => exact .inl hq
  | @finishes active pieces _ =>
    unfold after_finish at hq
    split at hq <;> simp [Process.unfinished] at hq

theorem Kept.apart_moved (hfresh : s.Fresh (.go_on i outcome)) :
    Apart (fun p => p.own.map (·.playback_id)) (s.moved i m).processes := by
  refine hk.apart.put_in hp fun _ hq => ?_
  cases hc with
  | quiet own => exact .inl (by rwa [own] at hq)
  | ends _ _ own => exact .inl (by rwa [own] at hq)
  | takes | restores | reports => simp [Process.own] at hq
  | @begins _ pieces active _ playback_id =>
    refine .inr fun c hc hck => ?_
    obtain ⟨old, hold, hid⟩ := Option.map_eq_some_iff.mp hck
    simp only [Fresh, hp] at hfresh
    refine hfresh.2 c hc old (Process.mem_playbacks (.inl hold)) ?_
    rw [hid, ← playback_id]
    simpa [Process.own] using hq.symm
  | fails_to_spawn | gives_up => exact .inl hq
  | @finishes active pieces _ =>
    unfold after_finish at hq
    split at hq <;> exact .inl hq

theorem Kept.live_moved (hone : s.OneAtATime (.go_on i outcome)) (active : ActivePlayback)
    (hslot : m.controller.active = some active) : ∃ q ∈ (s.moved i m).processes, q.unfinished = some active := by
  have hlive := hk.live active
  cases hc with
  | quiet own unborn unfinished | ends owed paid own unborn unfinished =>
    exact exists_put_in hp (hlive hslot) (by rw [unfinished]; exact id)
  | takes => cases hslot
  | @restores restored _ =>
    have hput : s.controller.active = some active ∨ (s.controller.active = none ∧ active = restored) := by
      cases hempty : s.controller.active with
      | none => simpa [PlaybackState.restore_if_empty, hempty, eq_comm] using hslot
      | some _ => simpa [PlaybackState.restore_if_empty, hempty] using hslot
    refine exists_put_in hp ?_ (by simp [Process.unfinished])
    rcases hput with hold | ⟨hempty, rfl⟩
    · exact hlive hold
    · simp only [OneAtATime, hp] at hone
      obtain ⟨q, hq, -, hunfinished⟩ := hone hempty
      exact ⟨q, hq, hunfinished⟩
  | @begins _ pieces new =>
    refine ⟨.spawning new pieces, List.mem_set (List.getElem?_eq_some_iff.mp hp).1 _, ?_⟩
    simpa [PlaybackState.begin, Process.unfinished] using hslot
  | fails_to_spawn => exact exists_put_in hp (hlive hslot) (by simp [Process.unfinished])
  | reports => exact exists_put_in hp (hlive hslot) (by simp [Process.unfinished])
  | @gives_up own | @finishes own =>
    rcases PlaybackState.finish_cases own.generation s.controller with ⟨_, _, _, _, hfinish⟩ | ⟨hother, _, hfinish⟩
    · rw [hfinish] at hslot
      cases hslot
    · rw [hfinish] at hslot
      refine exists_put_in hp (hlive hslot) fun hown => absurd ?_ (hother active hslot)
      rw [← Option.some.inj hown]

theorem Kept.threads_moved (e : HistoryPlaybackEvent) (he : e ∈ (s.moved i m).events) (hstarted : e.status = .started) :
    ∃ q ∈ (s.moved i m).processes, ∃ active, q.thread = some active ∧ active.playback_id = e.playback_id := by
  have hkept : (∃ q ∈ s.processes, ∃ active, q.thread = some active ∧ active.playback_id = e.playback_id) := by
    rcases List.mem_append.mp he with he | he
    · exact hk.threads e he hstarted
    · cases hc with
      | quiet own unborn unfinished owed thread sent => exact ⟨p, List.mem_of_getElem? hp, (sent e he).2⟩
      | ends owed paid own unborn unfinished thread about terminal =>
        rw [List.mem_singleton.mp he] at hstarted
        simp [hstarted, Status.is_terminal] at terminal
      | reports about terminal =>
        rw [List.mem_singleton.mp he, terminal] at hstarted
        cases hstarted
      | takes | restores | begins | fails_to_spawn | gives_up | finishes => simp at he
  refine exists_put_in hp hkept ?_
  rintro ⟨active, hthread, hid⟩
  refine ⟨active, ?_, hid⟩
  cases hc with
  | quiet own unborn unfinished owed thread => exact thread active hthread
  | ends owed paid own unborn unfinished thread => rwa [thread]
  | takes | restores | begins | fails_to_spawn | gives_up | reports => simp [Process.thread] at hthread
  | @finishes active _ _ =>
    unfold after_finish
    split <;> exact hthread

/-- The step changes no account of a playback that was begun before and whose thread was or may be spawned. -/
theorem Kept.account_kept (hfresh : s.Fresh (.go_on i outcome)) (hone : s.OneAtATime (.go_on i outcome))
    {r : Process} (hr : r ∈ s.processes) {active : ActivePlayback} (hown : r.own = some active)
    (hborn : r.unborn = none) :
    (s.moved i m).account active.playback_id = s.account active.playback_id := by
  have hmoved := account_moved hp m active.playback_id
  have hmem := List.mem_of_getElem? hp
  cases hc with
  | @quiet _ q events own unborn unfinished owed thread sent =>
    have hnone : ends_in active.playback_id events = 0 := List.countP_eq_zero.mpr fun e he => by
      simp [(sent e he).1, Status.is_terminal]
    have howes : q.owes active.playback_id = p.owes active.playback_id := by simp [Process.owes, owed]
    simp only [howes, hnone] at hmoved
    omega
  | @takes slot _ _ hslot =>
    simp only [Process.owes, Process.owed, PlaybackState.holds, hslot, PlaybackState.take_active, ends_in]
      at hmoved
    simp at hmoved
    omega
  | @ends _ q slot e owed paid own unborn unfinished thread about terminal =>
    simp only [Process.owes, owed, paid, ends_in, List.countP_singleton, about, terminal] at hmoved
    simp at hmoved
    omega
  | @restores slot error =>
    have hholds : (s.controller.restore_if_empty slot).holds active.playback_id =
        s.controller.holds active.playback_id := by
      rcases hempty : s.controller.active with _ | _
      · -- what is put back is a playback whose thread was not spawned
        simp only [OneAtATime, hp] at hone
        obtain ⟨q, hq, hunborn, -⟩ := hone hempty
        have hne := hk.unborn_ne hq hr hunborn hown hborn
        rw [PlaybackState.holds_eq_zero, PlaybackState.holds_eq_zero] <;>
          simp [PlaybackState.restore_if_empty, hempty, hne]
      · exact PlaybackState.holds_congr (by simp [PlaybackState.restore_if_empty, hempty]) _
    simp only [Process.owes, Process.owed, hholds, ends_in] at hmoved
    simp at hmoved
    omega
  | @begins _ pieces new generation playback_id =>
    simp only [OneAtATime, hp] at hone
    simp only [Fresh, hp] at hfresh
    have hold : s.controller.holds active.playback_id = 0 := by
      refine PlaybackState.holds_eq_zero fun old hslot => ?_
      obtain ⟨q, hq, hunborn, -⟩ := hone.1 old hslot
      exact hk.unborn_ne hq hr hunborn hown hborn
    have hnew : (s.controller.begin new).holds active.playback_id = 0 := by
      refine PlaybackState.holds_eq_zero fun _ hslot => ?_
      rw [← Option.some.inj hslot, playback_id]
      exact (hfresh.2 r hr active (Process.mem_playbacks (.inl hown))).symm
    simp only [hold, hnew, Process.owes, Process.owed, ends_in] at hmoved
    simp at hmoved
    omega
  | fails_to_spawn =>
    simp [Process.owes, Process.owed, ends_in] at hmoved
    omega
  | @gives_up own error =>
    have hne := hk.unborn_ne hmem hr (a := own) rfl hown hborn
    have hholds : (s.controller.finish own.generation).holds active.playback_id =
        s.controller.holds active.playback_id := by
      rcases PlaybackState.finish_cases own.generation s.controller with
        ⟨slot, hslot, hgen, -, hfinish⟩ | ⟨-, -, hfinish⟩
      · have hsame := hk.slot_is_own hp hslot rfl hgen
        rw [hfinish, PlaybackState.holds_eq_zero (by simp), PlaybackState.holds_eq_zero]
        simpa [hslot, hsame] using hne
      · rw [hfinish]
    simp only [Process.owes, Process.owed, hholds, ends_in] at hmoved
    simp at hmoved
    omega
  | @reports own error e about terminal =>
    have hne := hk.unborn_ne hmem hr (a := own) rfl hown hborn
    simp only [Process.owes, Process.owed, ends_in, List.countP_singleton, about, hne] at hmoved
    simp at hmoved
    omega
  | @finishes own pieces _ =>
    rcases PlaybackState.finish_cases own.generation s.controller with
      ⟨slot, hslot, -, hfinished, hfinish⟩ | ⟨-, hfinished, hfinish⟩
    · rw [hfinished, hfinish, after_finish] at hmoved ⊢
      simp only [Process.owes, Process.owed, PlaybackState.holds, hslot, PlaybackState.take_active, ends_in] at hmoved
      simp at hmoved
      omega
    · rw [hfinished, hfinish, after_finish] at hmoved ⊢
      simp only [Process.owes, Process.owed, ends_in] at hmoved
      simp at hmoved
      omega

theorem Kept.accounts_moved (hfresh : s.Fresh (.go_on i outcome)) (hone : s.OneAtATime (.go_on i outcome))
    (q : Process) (hq : q ∈ (s.moved i m).processes) (hborn : q.unborn = none) (active : ActivePlayback)
    (hown : q.own = some active) : (s.moved i m).account active.playback_id = 1 := by
  have hmem := List.mem_of_getElem? hp
  have hold : ∀ r ∈ s.processes, r.unborn = none → r.own = some active →
      (s.moved i m).account active.playback_id = 1 := fun r hr hborn hown => by
    rw [hk.account_kept hp hc hfresh hone hr hown hborn]
    exact hk.accounts r hr hborn active hown
  rcases List.mem_or_eq_of_mem_set hq with hq | rfl
  · exact hold q hq hborn hown
  cases hc with
  | quiet own unborn => exact hold p hmem (unborn ▸ hborn) (own ▸ hown)
  | ends _ _ own unborn => exact hold p hmem (unborn ▸ hborn) (own ▸ hown)
  | takes | restores | gives_up | reports => simp [Process.own, Process.unborn] at hown hborn
  | begins _ playback_id =>
    rw [← Option.some.inj hown]
    exact account_begun hp playback_id hfresh
  | fails_to_spawn => simp [Process.unborn] at hborn
  | @finishes own _ _ =>
    refine hold _ hmem rfl ?_
    unfold after_finish at hown
    split at hown <;> exact hown

end

theorem Kept.initial : Kept {} where
  bounded := Nat.zero_le _
  apart := .nil
  in_use := .nil
  numbered := by simp
  live := by simp
  threads := by simp
  accounts := by simp

/-- A call that comes in has nothing to do with any playback. -/
theorem Kept.called (hk : s.Kept) (reason : String) (play : Option Request) :
    Kept { s with processes := s.processes ++ [.stopping reason play] } where
  bounded := hk.bounded
  apart := hk.apart.snoc rfl
  in_use := hk.in_use.snoc rfl
  numbered q hq active hactive := by
    rcases List.mem_append.mp hq with hq | hq
    · exact hk.numbered q hq active hactive
    · rw [List.mem_singleton.mp hq] at hactive
      cases hactive
  live active hslot := by
    obtain ⟨q, hq, hactive⟩ := hk.live active hslot
    exact ⟨q, List.mem_append_left _ hq, hactive⟩
  threads e he hstarted := by
    obtain ⟨q, hq, hthread⟩ := hk.threads e he hstarted
    exact ⟨q, List.mem_append_left _ hq, hthread⟩
  accounts q hq hborn active hown := by
    rcases List.mem_append.mp hq with hq | hq
    · simpa [account, Process.owes, Process.owed, terminals] using hk.accounts q hq hborn active hown
    · rw [List.mem_singleton.mp hq] at hown
      cases hown

theorem Kept.step (hk : s.Kept) (op : Step) (hfresh : s.Fresh op) (hone : s.OneAtATime op) : (s.step op).Kept := by
  cases op with
  | play_cue_audio | stop_playback => exact hk.called _ _
  | go_on i outcome =>
    unfold History.step
    dsimp only
    cases hp : s.processes[i]? with
    | none => exact hk
    | some p =>
      have hc := Process.next_change s.controller outcome p
      exact {
        bounded := (hk.next_generation_moved hc).2
        apart := hk.apart_moved hp hc hfresh
        in_use := hk.in_use_moved hp hc hone
        numbered := hk.numbered_moved hp hc
        live := hk.live_moved hp hc hone
        threads := hk.threads_moved hp hc
        accounts := hk.accounts_moved hp hc hfresh hone }

theorem Kept.ends_once (hk : s.Kept) : s.EndsOnce where
  once id hstarted := by
    obtain ⟨e, he, rfl, hstatus⟩ := hstarted
    obtain ⟨p, hp, active, hthread, hid⟩ := hk.threads e he hstatus
    obtain ⟨hown, hborn⟩ := Process.own_of_thread hthread
    have haccount := hk.accounts p hp hborn active hown
    rw [← hid]
    unfold account at haccount
    omega
  ends id hstarted hidle := by
    obtain ⟨e, he, rfl, hstatus⟩ := hstarted
    obtain ⟨p, hp, active, hthread, hid⟩ := hk.threads e he hstatus
    obtain ⟨hown, hborn⟩ := Process.own_of_thread hthread
    have haccount := hk.accounts p hp hborn active hown
    have howing : s.processes.countP (Process.owes active.playback_id) = 0 :=
      List.countP_eq_zero.mpr fun q hq howes => by
        obtain ⟨slot, howed, hsame⟩ : ∃ slot, q.owed = some slot ∧ slot.playback_id = active.playback_id := by
          simpa [Process.owes, Option.any_eq_true] using howes
        exact hidle q hq ⟨slot, .inr howed, hsame.trans hid⟩
    have hslot : s.controller.holds active.playback_id = 0 := by
      refine PlaybackState.holds_eq_zero fun slot hslot hsame => ?_
      obtain ⟨q, hq, hunfinished⟩ := hk.live slot hslot
      exact hidle q hq ⟨slot, .inl hunfinished, hsame.trans hid⟩
    rw [← hid]
    unfold account at haccount
    omega
  live := hk.live

end History

/-- In every interleaving in which no playback begins while another is in the slot and no failed drain puts one
back, every playback that was started ends once, and the one in the slot has not finished. -/
theorem every_playback_ends_once {steps : List Step} (hfresh : Along History.step History.Fresh {} steps)
    (hone : Along History.step History.OneAtATime {} steps) : (run History.step {} steps).EndsOnce := by
  have hkept : (run History.step {} steps).Kept :=
    (hfresh.and hone).keeps History.Kept (fun _ op hk hok => hk.step op hok.1 hok.2) .initial
  exact hkept.ends_once

section

def request_a : Request where
  session_id := "session-a"
  cue_id := "cue-a"
  track := .Source

def loaded : Outcome where
  pieces := [{ sample_rate_hz := 16000, samples := [1] }]

/-- Two calls find the slot empty; the second begins over the playback of the first, whose thread runs to its end. -/
def two_calls : List Step :=
  [.play_cue_audio request_a, .play_cue_audio request_a, .go_on 0 {}, .go_on 1 {}, .go_on 0 loaded, .go_on 1 loaded,
    .go_on 0 { playback_id := "a" }, .go_on 1 { playback_id := "b" }, .go_on 0 {}, .go_on 0 {}, .go_on 0 {},
    .go_on 0 {}]

/-- The first playback was started, its thread is over, and nothing says that it stopped. -/
theorem a_second_call_takes_the_slot :
    Along History.step History.Fresh {} two_calls ∧ ¬ (run History.step {} two_calls).EndsOnce := by
  constructor
  · exact ⟨trivial, trivial, trivial, trivial, trivial, trivial, ⟨by decide, by decide⟩, ⟨by decide, by decide⟩,
      trivial, trivial, trivial, trivial, trivial⟩
  · intro h
    have hidle : ∀ p ∈ (run History.step {} two_calls).processes, ¬ p.busy_with "a" := by
      decide
    have hend := h.ends "a" ⟨_, .head _, rfl, rfl⟩ hidle
    exact absurd hend (by decide)

/-- A playback that plays its one piece. -/
def one_call : List Step :=
  [.play_cue_audio request_a, .go_on 0 {}, .go_on 0 loaded, .go_on 0 { playback_id := "a" }, .go_on 0 {}, .go_on 0 {},
    .go_on 0 {}, .go_on 0 {}, .go_on 0 {}]

theorem one_call_ends_once : (run History.step {} one_call).EndsOnce ∧ (run History.step {} one_call).terminals "a" = 1 := by
  refine ⟨every_playback_ends_once ?_ ?_, by decide⟩
  · exact ⟨trivial, trivial, trivial, ⟨by decide, by decide⟩, trivial, trivial, trivial, trivial, trivial, trivial⟩
  · exact ⟨trivial, trivial, trivial, ⟨nofun, fun hmax => absurd hmax (by decide)⟩, trivial, trivial, trivial, trivial,
      trivial, trivial⟩

end

end omni_translate.history_playback

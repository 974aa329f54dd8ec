-- The shutdown barrier of the process loopback (`windows/mod.rs` and
-- `windows/control/shutdown.rs`). The capture worker begins generations and publishes how
-- each one ended, and shutdown requests wait for the end of the generation that they block.
-- Every lock of the lifecycle is a step; a wait is the step that begins it and the one in
-- which it ends.
import OmniTranslate.Runs

namespace omni_translate.process_loopback

open runs

/-! ## The lifecycle -/

structure ProcessLoopbackTerminalEvidence where
  generation : Nat
  status : String
  timestamp_ms : Nat
  detail : Option String
deriving DecidableEq

def ProcessLoopbackTerminalEvidence.authorizes_shutdown (evidence : ProcessLoopbackTerminalEvidence)
    (requested_generation : Nat) : Bool :=
  evidence.generation = requested_generation ∧
    (evidence.status = "stopped" ∨ evidence.status = "not-active")

structure ProcessLoopbackLifecycle where
  active_generation : Option Nat
  shutdown_requested : Bool
  blocked_generation : Option Nat
  terminal : Option ProcessLoopbackTerminalEvidence

/-- How far a shutdown is in `wait_for_shutdown_terminal`. A waiting one watches the generation that
was active when it began to wait. -/
inductive WaitStage
  | requested
  | waiting (active_generation : Nat)
  | returned (result : Except String ProcessLoopbackTerminalEvidence)

namespace ProcessLoopbackLifecycle

variable (lifecycle : ProcessLoopbackLifecycle)

def new : ProcessLoopbackLifecycle := ⟨none, false, none, none⟩

def begin_generation (generation : Nat) : ProcessLoopbackLifecycle × Bool :=
  if lifecycle.shutdown_requested then (lifecycle, false)
  else ({ lifecycle with active_generation := some generation }, true)

def publish_terminal (evidence : ProcessLoopbackTerminalEvidence) : ProcessLoopbackLifecycle :=
  { lifecycle with
    active_generation :=
      if lifecycle.active_generation = some evidence.generation then none
      else lifecycle.active_generation
    terminal := some evidence }

def request_shutdown (fallback_generation : Nat) : ProcessLoopbackLifecycle × Nat :=
  let blocked_generation :=
    (lifecycle.blocked_generation.filter fun _ => lifecycle.shutdown_requested).getD
      (lifecycle.active_generation.getD fallback_generation)
  ({ lifecycle with
    shutdown_requested := true
    blocked_generation := some blocked_generation }, blocked_generation)

/-- The evidence of a generation, if it is the last that was published. -/
def terminal_of (generation : Nat) : Option ProcessLoopbackTerminalEvidence :=
  lifecycle.terminal.filter fun terminal => terminal.generation = generation

/-- `wait_for_shutdown_terminal` until it returns or waits. -/
def begin_wait (blocked_generation unix_ms : Nat) : ProcessLoopbackLifecycle × WaitStage :=
  match lifecycle.terminal_of blocked_generation with
  | some terminal => (lifecycle, .returned (.ok terminal))
  | none =>
    match lifecycle.active_generation with
    | none =>
      let evidence : ProcessLoopbackTerminalEvidence :=
        ⟨blocked_generation, "not-active", unix_ms, none⟩
      ({ lifecycle with terminal := some evidence }, .returned (.ok evidence))
    | some active_generation => (lifecycle, .waiting active_generation)

def wait_error (active_generation timeout_ms : Nat) (timed_out : Bool) : String :=
  let active := (lifecycle.active_generation.map toString).getD "none"
  s!"process loopback generation {active_generation} did not publish terminal evidence within {timeout_ms} ms (activeGeneration={active}, timedOut={timed_out})"

/-- A look at the watched generation. The wait goes on while there is time and no evidence. -/
def end_wait (active_generation timeout_ms : Nat) (timed_out : Bool) : WaitStage :=
  match lifecycle.terminal_of active_generation with
  | some terminal => .returned (.ok terminal)
  | none =>
    if timed_out then
      .returned (.error (lifecycle.wait_error active_generation timeout_ms timed_out))
    else .waiting active_generation

end ProcessLoopbackLifecycle

/-! ## The shutdown of the Bridge -/

inductive ShutdownResponse
  | bridge_error (code detail : String)
  | stopped

/-- What `handle_bridge_shutdown` answers to the end of its wait. -/
def shutdown_response (shutdown_generation : Nat) :
    Except String ProcessLoopbackTerminalEvidence → ShutdownResponse
  | .error detail => .bridge_error "bridge.timeout" detail
  | .ok evidence =>
    if evidence.authorizes_shutdown shutdown_generation then .stopped
    else .bridge_error "bridge.process-loopback-capture-failed"
      s!"process loopback shutdown terminal was rejected: requestedGeneration={shutdown_generation}, terminalGeneration={evidence.generation}, terminalStatus={evidence.status}"

/-- A call of `handle_bridge_shutdown`. -/
structure Shutdown where
  shutdown_generation : Nat
  stage : WaitStage

/-- The lifecycle with its threads: the generation that the capture worker has begun and not
published, and the shutdowns. `published` is a record of what the worker has published, and
`idle_at_choice` of whether no generation was active when the blocked one was chosen. -/
structure LoopbackHost where
  lifecycle : ProcessLoopbackLifecycle
  worker : Option Nat
  shutdowns : List Shutdown
  published : List ProcessLoopbackTerminalEvidence
  idle_at_choice : Option Bool

inductive LoopbackOp
  | begin_generation (generation : Nat)
  | publish_terminal (status : String) (timestamp_ms : Nat) (detail : Option String)
  | request_shutdown (fallback_generation : Nat)
  | begin_wait (i : Nat) (unix_ms : Nat)
  | end_wait (i : Nat) (timeout_ms : Nat) (timed_out : Bool)

namespace LoopbackHost

variable (s : LoopbackHost)

def new : LoopbackHost := ⟨.new, none, [], [], none⟩

/-- The worker begins a generation once it has published the one before. -/
def begin_generation (generation : Nat) : LoopbackHost :=
  match s.worker with
  | some _ => s
  | none =>
    let (lifecycle, begun) := s.lifecycle.begin_generation generation
    { s with lifecycle, worker := if begun then some generation else none }

def publish_terminal (status : String) (timestamp_ms : Nat) (detail : Option String) :
    LoopbackHost :=
  match s.worker with
  | none => s
  | some generation =>
    let evidence : ProcessLoopbackTerminalEvidence := ⟨generation, status, timestamp_ms, detail⟩
    { s with
      lifecycle := s.lifecycle.publish_terminal evidence
      worker := none
      published := s.published ++ [evidence] }

def request_shutdown (fallback_generation : Nat) : LoopbackHost :=
  let (lifecycle, shutdown_generation) := s.lifecycle.request_shutdown fallback_generation
  { s with
    lifecycle
    shutdowns := s.shutdowns ++ [⟨shutdown_generation, .requested⟩]
    idle_at_choice :=
      if s.lifecycle.shutdown_requested then s.idle_at_choice
      else some s.lifecycle.active_generation.isNone }

def begin_wait (i unix_ms : Nat) : LoopbackHost :=
  match s.shutdowns[i]? with
  | some ⟨shutdown_generation, .requested⟩ =>
    let (lifecycle, stage) := s.lifecycle.begin_wait shutdown_generation unix_ms
    { s with lifecycle, shutdowns := s.shutdowns.set i ⟨shutdown_generation, stage⟩ }
  | _ => s

def end_wait (i timeout_ms : Nat) (timed_out : Bool) : LoopbackHost :=
  match s.shutdowns[i]? with
  | some ⟨shutdown_generation, .waiting active_generation⟩ =>
    let stage := s.lifecycle.end_wait active_generation timeout_ms timed_out
    { s with shutdowns := s.shutdowns.set i ⟨shutdown_generation, stage⟩ }
  | _ => s

def step : LoopbackOp → LoopbackHost
  | .begin_generation generation => s.begin_generation generation
  | .publish_terminal status timestamp_ms detail => s.publish_terminal status timestamp_ms detail
  | .request_shutdown fallback_generation => s.request_shutdown fallback_generation
  | .begin_wait i unix_ms => s.begin_wait i unix_ms
  | .end_wait i timeout_ms timed_out => s.end_wait i timeout_ms timed_out

end LoopbackHost

/-! ## The barrier -/

/-- The generation `b` is blocked. Unless nothing was active when it was chosen, it is still running
or the last one that was published. -/
structure Blocks (s : LoopbackHost) (b : Nat) : Prop where
  blocked : s.lifecycle.blocked_generation = some b
  shutdowns : ∀ x ∈ s.shutdowns, x.shutdown_generation = b
  generation : s.idle_at_choice = some true ∨ s.worker = some b ∨
    (s.worker = none ∧ ∃ e, s.lifecycle.terminal = some e ∧ e.generation = b)

/-- Evidence comes from the worker, unless nothing was active when the blocked generation was
chosen. -/
structure Guarded (s : LoopbackHost) : Prop where
  worker : s.lifecycle.active_generation = s.worker
  unrequested : s.lifecycle.shutdown_requested = false →
    s.shutdowns = [] ∧ s.idle_at_choice = none
  requested : s.lifecycle.shutdown_requested = true → ∃ b, Blocks s b
  terminal : ∀ e, s.lifecycle.terminal = some e → e ∈ s.published ∨ s.idle_at_choice = some true
  returned : ∀ x ∈ s.shutdowns, ∀ e, x.stage = .returned (.ok e) →
    e ∈ s.published ∨ s.idle_at_choice = some true

theorem guarded_new : Guarded LoopbackHost.new where
  worker := rfl
  unrequested := fun _ => ⟨rfl, rfl⟩
  requested := fun h => by cases h
  terminal := fun _ h => by cases h
  returned := fun _ h => by cases h

section

variable {s : LoopbackHost} {e : ProcessLoopbackTerminalEvidence}

theorem terminal_of_some {lifecycle : ProcessLoopbackLifecycle} {generation : Nat}
    (h : lifecycle.terminal_of generation = some e) : lifecycle.terminal = some e :=
  (Option.filter_eq_some_iff.mp h).1

theorem terminal_of_generation {lifecycle : ProcessLoopbackLifecycle} (h : lifecycle.terminal = some e) :
    lifecycle.terminal_of e.generation = some e :=
  Option.filter_eq_some_iff.mpr ⟨h, decide_eq_true rfl⟩

theorem Guarded.begin_generation (h : Guarded s) (generation : Nat) :
    Guarded (s.begin_generation generation) := by
  unfold LoopbackHost.begin_generation ProcessLoopbackLifecycle.begin_generation
  split
  · exact h
  rename_i hidle
  dsimp only
  split
  · rw [if_neg Bool.false_ne_true, ← hidle]
    exact h
  · rename_i hrequested
    refine ⟨rfl, h.unrequested, fun hclosed => absurd hclosed hrequested, h.terminal, h.returned⟩

theorem Guarded.publish_terminal (h : Guarded s) (status : String) (timestamp_ms : Nat)
    (detail : Option String) : Guarded (s.publish_terminal status timestamp_ms detail) := by
  unfold LoopbackHost.publish_terminal ProcessLoopbackLifecycle.publish_terminal
  split
  · exact h
  rename_i generation hworker
  have hactive : s.lifecycle.active_generation = some generation := h.worker.trans hworker
  refine ⟨if_pos hactive, h.unrequested, fun hclosed => ?_, fun e he => ?_, fun x hx e he => ?_⟩
  · obtain ⟨b, hblocks⟩ := h.requested hclosed
    refine ⟨b, hblocks.blocked, hblocks.shutdowns, ?_⟩
    rcases hblocks.generation with hidle | hrunning | ⟨hnone, -⟩
    · exact Or.inl hidle
    · rw [hworker] at hrunning
      exact Or.inr (Or.inr ⟨rfl, _, rfl, Option.some.inj hrunning⟩)
    · rw [hworker] at hnone
      cases hnone
  · cases he
    exact Or.inl (List.mem_append_right _ (List.mem_singleton_self _))
  · exact (h.returned x hx e he).imp (List.mem_append_left _) id

theorem Guarded.request_shutdown (h : Guarded s) (fallback_generation : Nat) :
    Guarded (s.request_shutdown fallback_generation) := by
  unfold LoopbackHost.request_shutdown ProcessLoopbackLifecycle.request_shutdown
  cases hrequested : s.lifecycle.shutdown_requested with
  | true =>
    obtain ⟨b, hblocks⟩ := h.requested hrequested
    have hsame : (s.lifecycle.blocked_generation.filter fun _ => true).getD
        (s.lifecycle.active_generation.getD fallback_generation) = b := by
      rw [hblocks.blocked]
      rfl
    rw [hsame]
    refine ⟨h.worker, fun hopen => (by cases hopen), fun _ => ?_, h.terminal, ?_⟩
    · refine ⟨b, rfl, fun x hx => ?_, hblocks.generation⟩
      rcases List.mem_append.mp hx with hold | hnew
      · exact hblocks.shutdowns x hold
      · rw [List.mem_singleton.mp hnew]
    · intro x hx e he
      rcases List.mem_append.mp hx with hold | hnew
      · exact h.returned x hold e he
      · rw [List.mem_singleton.mp hnew] at he
        cases he
  | false =>
    obtain ⟨hnone, hunchosen⟩ := h.unrequested hrequested
    have hchosen : (s.lifecycle.blocked_generation.filter fun _ => false).getD
        (s.lifecycle.active_generation.getD fallback_generation) =
          s.lifecycle.active_generation.getD fallback_generation := by
      cases s.lifecycle.blocked_generation <;> rfl
    have hpublished : ∀ e, s.lifecycle.terminal = some e → e ∈ s.published := by
      intro e he
      apply (h.terminal e he).resolve_right
      rw [hunchosen]
      exact fun hidle => by cases hidle
    dsimp only
    rw [hchosen, hnone, List.nil_append, if_neg Bool.false_ne_true]
    refine ⟨h.worker, fun hopen => (by cases hopen), fun _ => ?_,
      fun e he => Or.inl (hpublished e he), ?_⟩
    · refine ⟨_, rfl, fun x hx => by rw [List.mem_singleton.mp hx], ?_⟩
      cases hactive : s.lifecycle.active_generation with
      | none => exact Or.inl rfl
      | some generation => exact Or.inr (Or.inl (h.worker.symm.trans hactive))
    · intro x hx e he
      rw [List.mem_singleton.mp hx] at he
      cases he

theorem mem_set_shutdown {shutdowns : List Shutdown} {i generation : Nat} {before after : WaitStage}
    (hi : shutdowns[i]? = some ⟨generation, before⟩) {x : Shutdown}
    (hx : x ∈ shutdowns.set i ⟨generation, after⟩) :
    (x ∈ shutdowns ∨ x = ⟨generation, after⟩) ∧
      ∃ y ∈ shutdowns, y.shutdown_generation = x.shutdown_generation := by
  rcases List.mem_or_eq_of_mem_set hx with hold | hnew
  · exact ⟨Or.inl hold, x, hold, rfl⟩
  · refine ⟨Or.inr hnew, ⟨generation, before⟩, List.mem_of_getElem? hi, ?_⟩
    rw [hnew]

/-- A shutdown moves on. A last evidence that the worker has not published may only come in if
nothing was active when the blocked generation was chosen. -/
theorem Guarded.moves (h : Guarded s) {i shutdown_generation : Nat} {before after : WaitStage}
    (hi : s.shutdowns[i]? = some ⟨shutdown_generation, before⟩)
    {terminal : Option ProcessLoopbackTerminalEvidence}
    (hterminal : s.lifecycle.terminal = terminal ∨ s.idle_at_choice = some true)
    (hafter : ∀ e, after = .returned (.ok e) →
      e ∈ s.published ∨ s.idle_at_choice = some true) :
    Guarded { s with
      lifecycle := { s.lifecycle with terminal }
      shutdowns := s.shutdowns.set i ⟨shutdown_generation, after⟩ } where
  worker := h.worker
  unrequested := by
    intro hopen
    rw [(h.unrequested hopen).1] at hi
    cases hi
  requested := by
    intro hclosed
    obtain ⟨b, hblocks⟩ := h.requested hclosed
    refine ⟨b, hblocks.blocked, fun x hx => ?_, ?_⟩
    · obtain ⟨-, y, hy, heq⟩ := mem_set_shutdown hi hx
      rw [← heq]
      exact hblocks.shutdowns y hy
    · rcases hterminal with rfl | hidle
      · exact hblocks.generation
      · exact Or.inl hidle
  terminal := by
    rcases hterminal with rfl | hidle
    · exact h.terminal
    · exact fun _ _ => Or.inr hidle
  returned := by
    intro x hx e he
    rcases (mem_set_shutdown hi hx).1 with hold | hnew
    · exact h.returned x hold e he
    · rw [hnew] at he
      exact hafter e he

theorem begin_wait_cases (lifecycle : ProcessLoopbackLifecycle) (blocked_generation unix_ms : Nat) :
    (∃ e, lifecycle.terminal = some e ∧
        lifecycle.begin_wait blocked_generation unix_ms = (lifecycle, .returned (.ok e))) ∨
      (lifecycle.terminal_of blocked_generation = none ∧ lifecycle.active_generation = none ∧
        lifecycle.begin_wait blocked_generation unix_ms =
          ({ lifecycle with terminal := some ⟨blocked_generation, "not-active", unix_ms, none⟩ },
            .returned (.ok ⟨blocked_generation, "not-active", unix_ms, none⟩))) ∨
      ∃ active_generation,
        lifecycle.begin_wait blocked_generation unix_ms = (lifecycle, .waiting active_generation) := by
  unfold ProcessLoopbackLifecycle.begin_wait
  split
  · rename_i e he
    exact Or.inl ⟨e, terminal_of_some he, rfl⟩
  · rename_i hnone
    split
    · rename_i hactive
      exact Or.inr (Or.inl ⟨hnone, hactive, rfl⟩)
    · exact Or.inr (Or.inr ⟨_, rfl⟩)

theorem Guarded.begin_wait (h : Guarded s) (i unix_ms : Nat) :
    Guarded (s.begin_wait i unix_ms) := by
  unfold LoopbackHost.begin_wait
  split
  · rename_i shutdown_generation hi
    rcases begin_wait_cases s.lifecycle shutdown_generation unix_ms with
      ⟨e, he, heq⟩ | ⟨hnone, hactive, heq⟩ | ⟨active_generation, heq⟩
    · rw [heq]
      refine h.moves hi (Or.inl rfl) fun e' he' => ?_
      cases he'
      exact h.terminal e he
    · rw [heq]
      have hclosed : s.lifecycle.shutdown_requested = true := by
        by_contra hopen
        rw [(h.unrequested (by simpa using hopen)).1] at hi
        cases hi
      obtain ⟨b, hblocks⟩ := h.requested hclosed
      have hb : shutdown_generation = b := hblocks.shutdowns _ (List.mem_of_getElem? hi)
      have hidle : s.idle_at_choice = some true := by
        rcases hblocks.generation with hidle | hrunning | ⟨-, e, he, hgeneration⟩
        · exact hidle
        · rw [← h.worker, hactive] at hrunning
          cases hrunning
        · have hfound := terminal_of_generation he
          rw [hgeneration, ← hb, hnone] at hfound
          cases hfound
      exact h.moves hi (Or.inr hidle) fun _ _ => Or.inr hidle
    · rw [heq]
      refine h.moves hi (Or.inl rfl) fun e' he' => ?_
      cases he'
  · exact h

theorem Guarded.end_wait (h : Guarded s) (i timeout_ms : Nat) (timed_out : Bool) :
    Guarded (s.end_wait i timeout_ms timed_out) := by
  unfold LoopbackHost.end_wait
  split
  · rename_i _ _ hi
    refine h.moves hi (Or.inl rfl) fun e he => ?_
    unfold ProcessLoopbackLifecycle.end_wait at he
    split at he
    · rename_i terminal hterminal
      cases he
      exact h.terminal e (terminal_of_some hterminal)
    · split at he <;> cases he
  · exact h

theorem Guarded.step (h : Guarded s) (op : LoopbackOp) : Guarded (s.step op) := by
  cases op with
  | begin_generation generation => exact h.begin_generation generation
  | publish_terminal status timestamp_ms detail => exact h.publish_terminal status timestamp_ms detail
  | request_shutdown fallback_generation => exact h.request_shutdown fallback_generation
  | begin_wait i unix_ms => exact h.begin_wait i unix_ms
  | end_wait i timeout_ms timed_out => exact h.end_wait i timeout_ms timed_out

theorem step_requested (op : LoopbackOp) (h : s.lifecycle.shutdown_requested = true) :
    (s.step op).lifecycle.shutdown_requested = true := by
  cases op with
  | begin_generation _ =>
    dsimp only [LoopbackHost.step, LoopbackHost.begin_generation]
    split
    · exact h
    · unfold ProcessLoopbackLifecycle.begin_generation
      rw [if_pos h]
      exact h
  | publish_terminal _ _ _ =>
    dsimp only [LoopbackHost.step, LoopbackHost.publish_terminal]
    split <;> exact h
  | request_shutdown _ => rfl
  | begin_wait i unix_ms =>
    dsimp only [LoopbackHost.step, LoopbackHost.begin_wait]
    split
    · rename_i shutdown_generation _
      rcases begin_wait_cases s.lifecycle shutdown_generation unix_ms with
        ⟨e, -, heq⟩ | ⟨-, -, heq⟩ | ⟨active_generation, heq⟩
      · rw [heq]
        exact h
      · rw [heq]
        exact h
      · rw [heq]
        exact h
    · exact h
  | end_wait i _ _ =>
    dsimp only [LoopbackHost.step, LoopbackHost.end_wait]
    split <;> exact h

/-- From the first request on, a shutdown is requested. -/
theorem run_requested {fallback_generation : Nat} {ops : List LoopbackOp}
    (h : .request_shutdown fallback_generation ∈ ops) (s : LoopbackHost) :
    (run LoopbackHost.step s ops).lifecycle.shutdown_requested = true := by
  obtain ⟨_, after, rfl⟩ := List.append_of_mem h
  rw [run_append, run_cons]
  exact run_keeps LoopbackHost.step (fun s => s.lifecycle.shutdown_requested = true)
    (fun _ op hs => step_requested op hs) rfl after

/-- Evidence that authorizes the shutdown was published by the blocked generation, or nothing was
active when it was chosen. -/
theorem Guarded.authorized (h : Guarded s) {x : Shutdown} (hx : x ∈ s.shutdowns) (he : x.stage = .returned (.ok e))
    (hauthorizes : e.authorizes_shutdown x.shutdown_generation = true) :
    (∃ p ∈ s.published, p.generation = x.shutdown_generation ∧
        (p.status = "stopped" ∨ p.status = "not-active")) ∨
      s.idle_at_choice = some true :=
  (h.returned x hx e he).imp
    (fun hpublished => ⟨e, hpublished, of_decide_eq_true hauthorizes⟩) id

theorem stopped_has_evidence {shutdown_generation : Nat}
    {result : Except String ProcessLoopbackTerminalEvidence}
    (h : shutdown_response shutdown_generation result = .stopped) :
    ∃ e, result = .ok e ∧ e.authorizes_shutdown shutdown_generation = true := by
  unfold shutdown_response at h
  split at h
  · cases h
  · split at h
    · exact ⟨_, rfl, by assumption⟩
    · cases h

end

/-! ## Main results -/

/-- The Bridge reports that it has stopped only if the blocked generation has, or nothing was
active. -/
theorem a_stopped_bridge_has_stopped_its_generation (ops : List LoopbackOp) :
    ∃ s, s = run LoopbackHost.step LoopbackHost.new ops ∧ ∀ x ∈ s.shutdowns, ∀ result,
      x.stage = .returned result → shutdown_response x.shutdown_generation result = .stopped →
      (∃ p ∈ s.published, p.generation = x.shutdown_generation ∧
          (p.status = "stopped" ∨ p.status = "not-active")) ∨ s.idle_at_choice = some true := by
  refine ⟨_, rfl, fun x hx result hresult hstopped => ?_⟩
  obtain ⟨_, rfl, hauthorizes⟩ := stopped_has_evidence hstopped
  have hguarded := run_keeps LoopbackHost.step Guarded (fun _ op h => h.step op) guarded_new ops
  exact hguarded.authorized hx hresult hauthorizes

/-- After a shutdown request no generation begins, every request blocks the same generation, and a
wait ends with evidence that authorizes the shutdown only if the worker has published such evidence
for that generation, or nothing was active when the generation was chosen. -/
theorem a_shutdown_is_authorized_by_its_generation (ops : List LoopbackOp) :
    ∃ s, s = run LoopbackHost.step LoopbackHost.new ops ∧
      (∀ fallback_generation, .request_shutdown fallback_generation ∈ ops →
        ∀ generation, (s.lifecycle.begin_generation generation).2 = false) ∧
      (∀ x ∈ s.shutdowns, ∀ y ∈ s.shutdowns, x.shutdown_generation = y.shutdown_generation) ∧
      ∀ x ∈ s.shutdowns, ∀ e, x.stage = .returned (.ok e) →
        e.authorizes_shutdown x.shutdown_generation = true →
        (∃ p ∈ s.published, p.generation = x.shutdown_generation ∧
            (p.status = "stopped" ∨ p.status = "not-active")) ∨
          s.idle_at_choice = some true := by
  have hguarded := run_keeps LoopbackHost.step Guarded (fun _ op h => h.step op) guarded_new ops
  refine ⟨_, rfl, fun fallback_generation hrequest generation => ?_, fun x hx y hy => ?_,
    fun x hx e he hauthorizes => ?_⟩
  · unfold ProcessLoopbackLifecycle.begin_generation
    rw [if_pos (run_requested hrequest _)]
  · cases hrequested : (run LoopbackHost.step LoopbackHost.new ops).lifecycle.shutdown_requested with
    | true =>
      obtain ⟨_, hblocks⟩ := hguarded.requested hrequested
      rw [hblocks.shutdowns x hx, hblocks.shutdowns y hy]
    | false =>
      rw [(hguarded.unrequested hrequested).1] at hx
      cases hx
  · exact hguarded.authorized hx he hauthorizes

end omni_translate.process_loopback

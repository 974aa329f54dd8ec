-- Concurrent `bridge.init` requests (`windows/control.rs`). An init holds the state while it
-- takes its epoch and reserves an owner generation, lets go of it to send the rebind and to
-- wait for the worker's answer, and holds it again to install its owner.
import OmniTranslate.PlaybackWorker

namespace omni_translate.playback

open runs

variable {S : Type}

/-- What a `bridge.init` request asks for the physical output. `activation_error` is the failure of
the process loopback, and the reasons and changes are those that the handler finds. -/
structure InitCommand where
  physical_playback_device_id : String
  previous_playback_owner_generation : Nat
  physical_playback_required : Bool
  reconfiguration_reason : Option String
  reset_physical_stream_ledger : Bool
  activation_error : Option String

inductive InitStage
  | reserved
  | waiting
  | done
deriving DecidableEq

/-- An init that has been begun: what its thread holds while the state is free. -/
structure InitRequest where
  init_epoch : Nat
  requested_endpoint : String
  next_owner_generation : Nat
  stage : InitStage
  rebind_sent : Bool
  rebind_result : Option (Except String String)

/-- What an init does: it begins, with the stop of the work that it finds, the worker applies a
command that it has sent, or it installs its owner. -/
inductive InitEffect
  | began (init_epoch : Nat)
  | applied (init_epoch : Nat) (command : PlaybackControlCommand)
  | installed (init_epoch : Nat) (playback_owner_generation : Nat)

def InitEffect.init_epoch : InitEffect → Nat
  | .began init_epoch => init_epoch
  | .applied init_epoch _ => init_epoch
  | .installed init_epoch _ => init_epoch

/-- The Bridge with its inits, each known by its place in `requests`. `channel` is the control
channel with the init that sent each command, and `effects` a record of what the inits have done. -/
structure BridgeHost (S : Type) where
  bridge : Bridge S
  channel : List (Option Nat × PlaybackControlCommand)
  init_epoch : Nat
  playback_owner_generation : Nat
  playback_owner_reservation : Nat
  physical_playback_status : String
  requests : List InitRequest
  effects : List InitEffect

/-- The steps of the init threads, and of all other threads. -/
inductive HostOp (S : Type)
  | begin_init (command : InitCommand) (unix_ms : Nat)
  | send_rebind (i : Nat)
  | rebind_timeout (i : Nat)
  | finish_init (i : Nat)
  | other (op : Op S)

namespace BridgeHost

variable (s : BridgeHost S)

def new (device_id : String) : BridgeHost S where
  bridge := .new device_id
  channel := []
  init_epoch := 0
  playback_owner_generation := 0
  playback_owner_reservation := 0
  physical_playback_status := "uninitialized"
  requests := []
  effects := []

/-- The Bridge makes a step in which `sender` may send control commands. -/
def with_bridge (bridge : Bridge S) (sender : Option Nat) : BridgeHost S :=
  { s with
    bridge
    channel := s.channel ++ (bridge.controls.drop s.bridge.controls.length).map (sender, ·) }

def next_owner_generation (previous_playback_owner_generation unix_ms : Nat) : Nat :=
  max (max (max unix_ms (saturating_add previous_playback_owner_generation 1))
    (saturating_add s.playback_owner_generation 1)) (saturating_add s.playback_owner_reservation 1)

/-- The work of `bridge.init` on the Bridge while it holds the state for the first time. -/
def reconfigure (bridge : Bridge S) (command : InitCommand) : Bridge S :=
  match command.activation_error with
  | some code =>
    Bridge.request_playback_stop { bridge with state := { bridge.state with
      physical_playback_device_id := command.physical_playback_device_id } }
      (if code = "bridge.process-loopback-unsupported" then "process-loopback-unsupported"
        else "process-loopback-activation-failed") (some code)
  | none =>
    let accepted_translation_work := bridge.accepted_translation_work
    let bridge := bridge.handle_bridge_init command.physical_playback_device_id
      command.reconfiguration_reason command.reset_physical_stream_ledger
    match command.reconfiguration_reason with
    | none => bridge
    | some reason =>
      if command.physical_playback_required ∨ accepted_translation_work then bridge
      else bridge.request_playback_stop reason none

/-- `bridge.init` up to the place where it lets go of the state or returns. -/
def begin_init (command : InitCommand) (unix_ms : Nat) : BridgeHost S :=
  let init_epoch := (s.init_epoch + 1) % 2 ^ 64
  let request : InitRequest :=
    ⟨init_epoch, command.physical_playback_device_id, 0, .done, false, none⟩
  let begun := { s.with_bridge (reconfigure s.bridge command) (some s.requests.length) with
    init_epoch
    effects := s.effects ++ [InitEffect.began init_epoch] }
  if command.activation_error.isSome then
    { begun with requests := s.requests ++ [request] }
  else if command.physical_playback_required then
    let next_owner_generation :=
      s.next_owner_generation command.previous_playback_owner_generation unix_ms
    { begun with
      physical_playback_status := "rebinding"
      playback_owner_reservation := next_owner_generation
      requests := s.requests ++ [{ request with next_owner_generation, stage := .reserved }] }
  else
    { begun with
      physical_playback_status := "uninitialized"
      requests := s.requests ++ [request] }

/-- The init sends its rebind, without the state. -/
def send_rebind (i : Nat) : BridgeHost S :=
  match s.requests[i]? with
  | none => s
  | some request =>
    if request.stage ≠ .reserved then s
    else
      { s.with_bridge (step s.bridge (.rebind request.requested_endpoint)) (some i) with
        requests := s.requests.set i { request with stage := .waiting, rebind_sent := true } }

/-- The wait for the answer of the worker ends without one. -/
def rebind_timeout (i : Nat) : BridgeHost S :=
  match s.requests[i]? with
  | none => s
  | some request =>
    if request.stage = .waiting ∧ request.rebind_result.isNone then
      { s with requests := s.requests.set i { request with
          rebind_result := some (.error "physical playback rebind timed out") } }
    else s

/-- The init holds the state again: a superseded one changes nothing. -/
def finish_init (i : Nat) : BridgeHost S :=
  match s.requests[i]? with
  | none => s
  | some request =>
    if request.stage ≠ .waiting then s
    else
      match request.rebind_result with
      | none => s
      | some result =>
        let s := { s with requests := s.requests.set i { request with stage := .done } }
        if s.init_epoch ≠ request.init_epoch then s
        else
          match result with
          | .ok _ =>
            { s with
              physical_playback_status := "ready"
              playback_owner_generation := request.next_owner_generation
              effects := s.effects ++
                [.installed request.init_epoch request.next_owner_generation] }
          | .error _ => { s with physical_playback_status := "failed" }

/-- The worker answers the init whose rebind it has applied, if that still waits. -/
def answer (i : Nat) (result : Except String String) : BridgeHost S :=
  match s.requests[i]? with
  | none => s
  | some request =>
    if request.rebind_result.isSome then s
    else { s with requests := s.requests.set i { request with rebind_result := some result } }

def rebind_answer (device_id : String) (e : Outside) : Except String String :=
  match e.open_error with
  | none => .ok device_id
  | some error => .error error

/-- The worker takes a command from the control channel. -/
def apply_control (sender : Option Nat) (command : PlaybackControlCommand) (e : Outside) :
    BridgeHost S :=
  match sender with
  | none => s
  | some i =>
    let s := { s with effects := s.effects ++
      ((s.requests[i]?).map fun request => .applied request.init_epoch command).toList }
    match command with
    | .RebindPhysicalOutput device_id => s.answer i (rebind_answer device_id e)
    | _ => s

/-- A step of the worker. Only at its two control places it takes a control command. -/
def work (e : Outside) : BridgeHost S :=
  if s.bridge.worker.place = .control ∨ s.bridge.worker.place = .control_again then
    match s.channel with
    | [] => { s with bridge := s.bridge.run_playback_worker e }
    | (sender, command) :: channel =>
      apply_control { s with bridge := s.bridge.run_playback_worker e, channel } sender command e
  else { s with bridge := s.bridge.run_playback_worker e }

/-- All other threads. Their inits and rebinds are the steps above. -/
def other (op : Op S) : BridgeHost S :=
  match op with
  | .work e => s.work e
  | .bridge_init _ _ _ => s
  | .rebind _ => s
  | op => s.with_bridge (step s.bridge op) none

end BridgeHost

def HostOp.step (s : BridgeHost S) : HostOp S → BridgeHost S
  | .begin_init command unix_ms => s.begin_init command unix_ms
  | .send_rebind i => s.send_rebind i
  | .rebind_timeout i => s.rebind_timeout i
  | .finish_init i => s.finish_init i
  | .other op => s.other op

end omni_translate.playback

-- The delivery of playback statuses from the Bridge to the Desktop: the outbox
-- of `windows/translation.rs`, the status loop of `windows/playback.rs` and the
-- handler of `engine/bridge_playback_ack.rs` with its receipts and its active
-- cues. A status is delivered, receipted, acknowledged, applied and dropped in
-- steps of their own, over any number of source pipes.
import Mathlib.Data.Finset.Basic
import OmniTranslate.Runs
import OmniTranslate.Text

namespace omni_translate.bridge_playback_ack

open runs

/-! ## The Bridge -/

structure TranslationPlaybackAuthority where
  session_id : String
  bridge_instance_id : String
  source_generation : Nat
  source_generation_token : String
  playback_owner_generation : Nat
  physical_playback_device_id : String
deriving DecidableEq

inductive TranslationPlaybackStatusKind
  | Queued
  | Started
  | Completed
  | StaleDropped
  | RouteFailed
deriving DecidableEq

namespace TranslationPlaybackStatusKind

def is_terminal : TranslationPlaybackStatusKind → Bool
  | Queued | Started => false
  | Completed | StaleDropped | RouteFailed => true

end TranslationPlaybackStatusKind

structure TranslationPlaybackStatusEvent where
  status_id : String
  authority : TranslationPlaybackAuthority
  cue_id : String
  playback_status : TranslationPlaybackStatusKind
deriving DecidableEq

structure TranslationPlaybackStatusAck where
  status_id : String
  authority : TranslationPlaybackAuthority
deriving DecidableEq

structure TranslationStatusOutbox where
  producer_id : String
  next_sequence : Nat
  pending : List TranslationPlaybackStatusEvent

namespace TranslationStatusOutbox

/-- The id of the status with a sequence number. -/
def status_id (producer_id : String) (sequence : Nat) : String :=
  "bridge-translation-status-" ++ producer_id ++ "-" ++ toString sequence

variable (outbox : TranslationStatusOutbox)

/-- The next id, while the counter of 64 bits has one. -/
def next_status_id : Option (TranslationStatusOutbox × String) :=
  if outbox.next_sequence + 1 < 2 ^ 64 then
    some ({ outbox with next_sequence := outbox.next_sequence + 1 },
      status_id outbox.producer_id (outbox.next_sequence + 1))
  else none

def push (event : TranslationPlaybackStatusEvent) : TranslationStatusOutbox :=
  { outbox with pending := outbox.pending ++ [event] }

def front : Option TranslationPlaybackStatusEvent :=
  outbox.pending.head?

/-- An acknowledgement of the front with its authority takes the front out. -/
def acknowledge (ack : TranslationPlaybackStatusAck) :
    Option (TranslationStatusOutbox × TranslationPlaybackStatusEvent) :=
  match outbox.pending with
  | [] => none
  | front :: pending =>
    if front.status_id ≠ ack.status_id ∨ front.authority ≠ ack.authority then none
    else some ({ outbox with pending }, front)

end TranslationStatusOutbox

/-! ## The Desktop -/

def BRIDGE_TRANSLATION_STATUS_RECEIPT_CAPACITY : Nat := 4096

/-- The ids of the statuses that were accepted last. -/
structure BridgeTranslationStatusReceipts where
  order : List String
  ids : Finset String

namespace BridgeTranslationStatusReceipts

/-- The receipts over the capacity expire, the oldest first. -/
def expire : List String → Finset String → List String × Finset String
  | [], ids => ([], ids)
  | expired :: order, ids =>
    if (expired :: order).length > BRIDGE_TRANSLATION_STATUS_RECEIPT_CAPACITY then
      expire order (ids.erase expired)
    else (expired :: order, ids)

def insert (receipts : BridgeTranslationStatusReceipts) (status_id : String) :
    BridgeTranslationStatusReceipts × Bool :=
  if text.trim status_id.toList = [] ∨ status_id ∈ receipts.ids then (receipts, false)
  else
    let (order, ids) := expire (receipts.order ++ [status_id]) (Insert.insert status_id receipts.ids)
    (⟨order, ids⟩, true)

end BridgeTranslationStatusReceipts

inductive BridgeTranslationStatusDisposition
  | Apply
  | DuplicateReplay
  | SessionMismatch
deriving DecidableEq

def bridge_translation_status_disposition_for_authority (receipts : BridgeTranslationStatusReceipts)
    (status_id : String) (authority_matches : Bool) :
    BridgeTranslationStatusReceipts × BridgeTranslationStatusDisposition :=
  if ¬ authority_matches then (receipts, .SessionMismatch)
  else
    let (receipts, accepted) := receipts.insert status_id
    (receipts, if accepted then .Apply else .DuplicateReplay)

/-- The cues that the Bridge plays, each with the authority it was sent under. -/
abbrev ActiveBridgeCues := String → Option TranslationPlaybackAuthority

variable (active_bridge_cues : ActiveBridgeCues)

def bridge_playback_cue_matches_owner (cue_id : String) (authority : TranslationPlaybackAuthority) : Bool :=
  active_bridge_cues cue_id = some authority

def expect_bridge_playback_cue_for_owner (cue_id : String)
    (authority : TranslationPlaybackAuthority) : ActiveBridgeCues :=
  if text.trim cue_id.toList = [] then active_bridge_cues
  else Function.update active_bridge_cues cue_id (some authority)

/-- `none` is the refusal of a status that does not match the cue. -/
def observe_bridge_playback_status_for_owner (cue_id : String)
    (status : TranslationPlaybackStatusKind) (authority : TranslationPlaybackAuthority) : Option ActiveBridgeCues :=
  if ¬ bridge_playback_cue_matches_owner active_bridge_cues cue_id authority then none
  else if status.is_terminal then some (Function.update active_bridge_cues cue_id none)
  else some active_bridge_cues

/-- `none` is an error. `recorded` is the answer of the strict watch ledger to the renderer's
acknowledgement of a completed cue. -/
def apply_acknowledged_status_to_terminal_state_for_owner
    (disposition : BridgeTranslationStatusDisposition) (event : TranslationPlaybackStatusEvent)
    (recorded : Bool) : Option ActiveBridgeCues :=
  if disposition ≠ .Apply then some active_bridge_cues
  else if ¬ bridge_playback_cue_matches_owner active_bridge_cues event.cue_id event.authority then
    none
  else if event.playback_status = .Completed ∧ ¬ recorded then none
  else observe_bridge_playback_status_for_owner active_bridge_cues event.cue_id
    event.playback_status event.authority

/-! ## Both ends -/

/-- How far `handle_bridge_translation_status` is with a status. -/
inductive Handler
  | idle
  | received (event : TranslationPlaybackStatusEvent)
      (disposition : BridgeTranslationStatusDisposition)
  | acknowledged (event : TranslationPlaybackStatusEvent)
      (disposition : BridgeTranslationStatusDisposition)

/-- A source pipe: the status and the acknowledgement in flight, the Desktop's handler at one end
and the status loop of the Bridge at the other. -/
structure SourcePipe where
  is_open : Bool
  status : Option TranslationPlaybackStatusEvent
  handler : Handler
  ack : Option TranslationPlaybackStatusAck
  waiting : Bool

/-- The Desktop leaves a pipe after an error. -/
def SourcePipe.left (p : SourcePipe) : SourcePipe :=
  { p with is_open := false, status := none, handler := .idle }

/-- The Bridge leaves a pipe whose acknowledgement it cannot read or use. -/
def SourcePipe.abandoned (p : SourcePipe) : SourcePipe :=
  { p with is_open := false, status := none, ack := none, waiting := false }

/-- Both ends, with four records: the statuses emitted, the ids delivered with whether the authority
matched at the first delivery, the statuses accepted, and those dropped from the outbox; and a fifth
of the statuses applied, each with whether its cue has been expected again since. -/
structure System where
  translation_cue_authorities : String → Option TranslationPlaybackAuthority
  outbox : TranslationStatusOutbox
  pipes : List SourcePipe
  owner : Option TranslationPlaybackAuthority
  receipts : BridgeTranslationStatusReceipts
  active_bridge_cues : ActiveBridgeCues
  emitted : List TranslationPlaybackStatusEvent
  delivered : List (String × Bool)
  accepted : List TranslationPlaybackStatusEvent
  applied : List (TranslationPlaybackStatusEvent × Bool)
  dropped : List TranslationPlaybackStatusEvent

inductive Op
  | bind_translation_cue_authority (cue_id : String) (authority : TranslationPlaybackAuthority)
  | emit_translation_status (cue_id : String) (status : TranslationPlaybackStatusKind)
  | connect
  | write_status (i : Nat)
  | receive_status (i : Nat)
  | write_ack (i : Nat) (written : Bool)
  | apply_status (i : Nat) (recorded : Bool)
  | read_ack (i : Nat)
  | fail_read (i : Nat)
  | disconnect (i : Nat)
  | set_owner (owner : Option TranslationPlaybackAuthority)
  | expect_cue (cue_id : String) (authority : TranslationPlaybackAuthority)
  | close_failed_cue (cue_id : String) (authority : TranslationPlaybackAuthority)

/-- The record of deliveries after a status arrives: the first delivery of an id stays. -/
def note_delivery (delivered : List (String × Bool)) (status_id : String)
    (authority_matches : Bool) : List (String × Bool) :=
  if status_id ∈ delivered.map Prod.fst then delivered
  else delivered ++ [(status_id, authority_matches)]

namespace System

def new (producer_id : String) : System where
  translation_cue_authorities := fun _ => none
  outbox := ⟨producer_id, 0, []⟩
  pipes := []
  owner := none
  receipts := ⟨[], ∅⟩
  active_bridge_cues := fun _ => none
  emitted := []
  delivered := []
  accepted := []
  applied := []
  dropped := []

variable (s : System)

def emit_translation_status_with_authority (authority : TranslationPlaybackAuthority)
    (cue_id : String) (status : TranslationPlaybackStatusKind) : System :=
  match s.outbox.next_status_id with
  | none => s
  | some (outbox, status_id) =>
    let event := ⟨status_id, authority, cue_id, status⟩
    { s with outbox := outbox.push event, emitted := s.emitted ++ [event] }

/-- A terminal status takes the authority of its cue with it. Without one there is no status. -/
def emit_translation_status (cue_id : String) (status : TranslationPlaybackStatusKind) : System :=
  match s.translation_cue_authorities cue_id with
  | none => s
  | some authority =>
    let s := if status.is_terminal then
        { s with
          translation_cue_authorities := Function.update s.translation_cue_authorities cue_id none }
      else s
    s.emit_translation_status_with_authority authority cue_id status

def authority_matches (event : TranslationPlaybackStatusEvent) : Bool :=
  s.owner = some event.authority ∧
    bridge_playback_cue_matches_owner s.active_bridge_cues event.cue_id event.authority

/-- The first part of the handler, up to the disposition. -/
def receive_status (i : Nat) (p : SourcePipe) (event : TranslationPlaybackStatusEvent) : System :=
  let authority_matches := s.authority_matches event
  let (receipts, disposition) := bridge_translation_status_disposition_for_authority s.receipts
    event.status_id authority_matches
  { s with
    receipts
    pipes := s.pipes.set i { p with status := none, handler := .received event disposition }
    delivered := note_delivery s.delivered event.status_id authority_matches
    accepted := if disposition = .Apply then s.accepted ++ [event] else s.accepted }

/-- The acknowledgement is written, unless the write fails. -/
def write_ack (i : Nat) (p : SourcePipe) (event : TranslationPlaybackStatusEvent)
    (disposition : BridgeTranslationStatusDisposition) (written : Bool) : System :=
  if written ∧ p.is_open then
    { s with
      pipes := s.pipes.set i { p with
        ack := some ⟨event.status_id, event.authority⟩
        handler := .acknowledged event disposition } }
  else { s with pipes := s.pipes.set i p.left }

/-- The last part of the handler. -/
def apply_status (i : Nat) (p : SourcePipe) (event : TranslationPlaybackStatusEvent)
    (disposition : BridgeTranslationStatusDisposition) (recorded : Bool) : System :=
  match apply_acknowledged_status_to_terminal_state_for_owner s.active_bridge_cues disposition event
      recorded with
  | none => { s with pipes := s.pipes.set i p.left }
  | some active_bridge_cues =>
    { s with
      active_bridge_cues
      pipes := s.pipes.set i { p with handler := .idle }
      applied := if disposition = .Apply then s.applied ++ [(event, false)] else s.applied }

def read_ack (i : Nat) (p : SourcePipe) (ack : TranslationPlaybackStatusAck) : System :=
  match s.outbox.acknowledge ack with
  | none => { s with pipes := s.pipes.set i p.abandoned }
  | some (outbox, event) =>
    { s with
      outbox
      pipes := s.pipes.set i { p with ack := none, waiting := false }
      dropped := s.dropped ++ [event] }

def expect_cue (cue_id : String) (authority : TranslationPlaybackAuthority) : System :=
  { s with
    active_bridge_cues := expect_bridge_playback_cue_for_owner s.active_bridge_cues cue_id authority
    applied := s.applied.map fun a => (a.1, a.2 || a.1.cue_id = cue_id) }

/-- `close_failed_translation_cue`. -/
def close_failed_cue (cue_id : String) (authority : TranslationPlaybackAuthority) : System :=
  match observe_bridge_playback_status_for_owner s.active_bridge_cues cue_id .RouteFailed
      authority with
  | none => s
  | some active_bridge_cues => { s with active_bridge_cues }

def step : Op → System
  | .bind_translation_cue_authority cue_id authority =>
    { s with
      translation_cue_authorities :=
        Function.update s.translation_cue_authorities cue_id (some authority) }
  | .emit_translation_status cue_id status => s.emit_translation_status cue_id status
  | .connect => { s with pipes := s.pipes ++ [⟨true, none, .idle, none, false⟩] }
  | .write_status i =>
    match s.pipes[i]?, s.outbox.front with
    | some p, some event =>
      if p.is_open ∧ ¬ p.waiting then
        { s with pipes := s.pipes.set i { p with status := some event, waiting := true } }
      else s
    | _, _ => s
  | .receive_status i =>
    match s.pipes[i]? with
    | some p => match p.handler, p.status with
      | .idle, some event => s.receive_status i p event
      | _, _ => s
    | none => s
  | .write_ack i written =>
    match s.pipes[i]? with
    | some p => match p.handler with
      | .received event disposition => s.write_ack i p event disposition written
      | _ => s
    | none => s
  | .apply_status i recorded =>
    match s.pipes[i]? with
    | some p => match p.handler with
      | .acknowledged event disposition => s.apply_status i p event disposition recorded
      | _ => s
    | none => s
  | .read_ack i =>
    match s.pipes[i]? with
    | some p => match p.ack with
      | some ack => if p.waiting then s.read_ack i p ack else s
      | none => s
    | none => s
  | .fail_read i =>
    match s.pipes[i]? with
    | some p => { s with pipes := s.pipes.set i p.abandoned }
    | none => s
  | .disconnect i =>
    match s.pipes[i]? with
    | some p => { s with pipes := s.pipes.set i { p with is_open := false, status := none } }
    | none => s
  | .set_owner owner => { s with owner }
  | .expect_cue cue_id authority => s.expect_cue cue_id authority
  | .close_failed_cue cue_id authority => s.close_failed_cue cue_id authority

end System

end omni_translate.bridge_playback_ack

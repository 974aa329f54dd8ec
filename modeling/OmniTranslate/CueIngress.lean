-- How a subtitle comes into the archive (`history/cue_ingress.rs`,
-- `history/worker_persistence.rs`): the channel, the overflow map and the map of
-- what is pending keep the newest snapshot of each cue, and a flush writes all
-- that is pending in one transaction. Encryption and time are left to the
-- steps, as is the order in which a hash map gives its values.
import Mathlib.Data.List.AList
import OmniTranslate.HistoryTotals

namespace omni_translate.history

open runs

/-! ## Snapshots -/

/-- What the archive reads of a `SubtitleCueRuntime`. -/
structure ArchivedCue where
  cue_id : String
  sequence : Option Nat
  revision : Option Nat
  route_direction : String
  source_text : String
  translated_text : String
  committed : Bool
  translation_committed : Bool
  started_at : String
  ended_at : String
deriving DecidableEq

structure QueuedCue where
  session_id : String
  cue : ArchivedCue
  updated_at_ms : Int
deriving DecidableEq

def CUE_MUTATION_CAPACITY : Nat := 1024

def I64_MAX : Int := 2 ^ 63 - 1

/-- `i64::try_from(value).unwrap_or(i64::MAX)` of a `u64` -/
def to_i64 (value : Nat) : Int := if (value : Int) ≤ I64_MAX then value else I64_MAX

/-- `parse` of an `i64`. -/
def parse_i64 (text : List Char) : Option Int :=
  let digits (ds : List Char) : Option Int :=
    if ds.isEmpty ∨ !ds.all Char.isDigit then none
    else some (ds.foldl (fun (n : Int) d => 10 * n + ((d.toNat - '0'.toNat : Nat) : Int)) 0)
  let value := match text with
    | '-' :: ds => (digits ds).map Neg.neg
    | '+' :: ds => digits ds
    | ds => digits ds
  value.filter fun n => -I64_MAX - 1 ≤ n ∧ n ≤ I64_MAX

def parse_ms_marker (value : String) : Option Int :=
  let marker := "unix-ms:".toList
  parse_i64 (if marker.isPrefixOf value.toList then value.toList.drop marker.length else value.toList)

namespace QueuedCue

def key (queued : QueuedCue) : String × String := (queued.session_id, queued.cue.cue_id)

def revision (queued : QueuedCue) : Nat := queued.cue.revision.getD 0

def sequence (queued : QueuedCue) : Nat := queued.cue.sequence.getD 0

/-- `cue_order(a) >= cue_order(b)` -/
def order_ge (a b : QueuedCue) : Bool :=
  b.revision < a.revision ∨ (b.revision = a.revision ∧
    (b.sequence < a.sequence ∨ (b.sequence = a.sequence ∧ b.updated_at_ms ≤ a.updated_at_ms)))

def write (queued : QueuedCue) : Database.CueWrite where
  session_id := queued.session_id
  cue_id := queued.cue.cue_id
  sequence := (queued.cue.sequence.map to_i64).getD 0
  revision := (queued.cue.revision.map to_i64).getD 0
  route_direction := queued.cue.route_direction
  source_text := queued.cue.source_text
  translated_text := queued.cue.translated_text
  source_committed := queued.cue.committed
  translation_committed := queued.cue.translation_committed
  started_at_ms := (parse_ms_marker queued.cue.started_at).getD queued.updated_at_ms
  ended_at_ms := (parse_ms_marker queued.cue.ended_at).getD queued.updated_at_ms

end QueuedCue

/-! ## The maps -/

abbrev CueMap := AList fun _ : String × String => QueuedCue

def insert_latest_cue (pending : CueMap) (cue : QueuedCue) : CueMap :=
  match pending.lookup cue.key with
  | none => pending.insert cue.key cue
  | some held => if cue.order_ge held then pending.insert cue.key cue else pending

def values (m : CueMap) : List QueuedCue := m.entries.map (·.2)

/-- The order in which a hash map gives its values. -/
structure HashOrder where
  order : List QueuedCue → List QueuedCue
  perm : ∀ cues, (order cues).Perm cues

/-! ## The worker -/

/-- What the producers and the archive worker share, and what the worker holds; `unavailable_reason` is set
exactly while there is no repository. -/
structure CueWorker where
  cue_rx : List QueuedCue := []
  cue_overflow : CueMap := ∅
  pending : CueMap := ∅
  unavailable_reason : Option String := none
  repository : Database := {}

namespace CueWorker

/-- The channel is full, or takes the cue. -/
def send_cue (cue : QueuedCue) (w : CueWorker) : CueWorker :=
  if w.cue_rx.length < CUE_MUTATION_CAPACITY then { w with cue_rx := w.cue_rx ++ [cue] }
  else { w with cue_overflow := insert_latest_cue w.cue_overflow cue }

/-- One `recv` of the worker. -/
def receive_cue (w : CueWorker) : CueWorker :=
  match w.cue_rx with
  | [] => w
  | cue :: rest => { w with cue_rx := rest, pending := insert_latest_cue w.pending cue }

variable (hash : HashOrder)

def drain_cue_overflow (w : CueWorker) : CueWorker :=
  { w with
    cue_overflow := ∅
    pending := (hash.order (values w.cue_overflow)).foldl insert_latest_cue w.pending }

def drain_latest_cues (w : CueWorker) : CueWorker :=
  drain_cue_overflow hash { w with cue_rx := [], pending := w.cue_rx.foldl insert_latest_cue w.pending }

def contains (text word : String) : Bool := decide (word.toList <:+: text.toList)

/-- The text is compared in lower case. -/
def is_unrecoverable_database_error (error : String) : Bool :=
  contains error.toLower "database disk image is malformed" || contains error.toLower "file is not a database" ||
    contains error.toLower "database corruption"

def disable_history_after_unrecoverable_error (error : String) (w : CueWorker) : CueWorker :=
  if is_unrecoverable_database_error error then
    { w with unavailable_reason := w.unavailable_reason.or (some error) }
  else w

def unavailable_error (reason : String) : String := "字幕历史不可用：" ++ reason

/-- What SQLite says of a row without its session. -/
def FOREIGN_KEY_ERROR : String := "FOREIGN KEY constraint failed"

/-- `upsert_cues_batch` on the repository, which may fail with an error of its own. -/
def write_batch (batch : List QueuedCue) (updated_at_ms : Int) (failure : Option String) (w : CueWorker) :
    Except String Database :=
  match w.unavailable_reason, failure with
  | some reason, _ => .error (unavailable_error reason)
  | none, some error => .error error
  | none, none =>
    match w.repository.upsert_cues_batch (batch.map (·.write)) updated_at_ms with
    | none => .error FOREIGN_KEY_ERROR
    | some repository => .ok repository

/-- The error of the batch disables the history, if it is of that kind; then nothing is pending any more. -/
def flush_failed (error : String) (w : CueWorker) : CueWorker :=
  let disabled := if w.unavailable_reason.isSome then w else w.disable_history_after_unrecoverable_error error
  if disabled.unavailable_reason.isSome then { disabled with pending := ∅ } else disabled

/-- The cues in the order in which they were queued, and those of one time as the hash map has them. -/
def batch (w : CueWorker) : List QueuedCue :=
  (hash.order (values w.pending)).insertionSort fun a b => a.updated_at_ms ≤ b.updated_at_ms

def flush_pending_cues (updated_at_ms : Int) (failure : Option String) (w : CueWorker) :
    Except String Unit × CueWorker :=
  if w.pending.entries.isEmpty then (.ok (), w)
  else
    match w.write_batch (w.batch hash) updated_at_ms failure with
    | .ok repository => (.ok (), { w with repository := repository, pending := ∅ })
    | .error error => (.error error, w.flush_failed error)

/-- From `Finish` of the worker, after it has drained the cues: the flush, what `drain_audio` and
`flush_session_audio` do to the repository, and the end of the session. -/
def finish_session (session_id : String) (ended_at_ms updated_at_ms : Int)
    (failure : Option String) (audio : List Op) (audio_error : Option String) (w : CueWorker) :
    Except String Unit × CueWorker :=
  let flushed := w.flush_pending_cues hash updated_at_ms failure
  match flushed.1, flushed.2.unavailable_reason with
  | .error error, _ => (.error error, flushed.2)
  | .ok (), some reason => (.error (unavailable_error reason), flushed.2)
  | .ok (), none =>
    let repository := run Database.step flushed.2.repository audio
    match audio_error with
    | some error => (.error error, { flushed.2 with repository := repository })
    | none => (.ok (), { flushed.2 with repository := repository.end_session session_id ended_at_ms })

/-- What `discard_cue` of the producer removes. -/
def discard_overflow (session_id cue_id : String) (w : CueWorker) : CueWorker :=
  { w with cue_overflow := w.cue_overflow.erase (session_id, cue_id) }

def discard_queued_cue (hash : HashOrder) (session_id cue_id : String) (w : CueWorker) : CueWorker :=
  let drained := w.drain_latest_cues hash
  { drained with
    pending := drained.pending.erase (session_id, cue_id)
    repository :=
      if w.unavailable_reason.isSome then w.repository else w.repository.delete_cue session_id cue_id }

end CueWorker

/-- The steps of the producers, of the worker, and of whoever else uses the repository. -/
inductive CueStep
  | send_cue (cue : QueuedCue)
  | receive_cue
  | drain_cue_overflow (hash : HashOrder)
  | drain_latest_cues (hash : HashOrder)
  | flush_pending_cues (hash : HashOrder) (updated_at_ms : Int) (failure : Option String)
  | finish_session (hash : HashOrder) (session_id : String) (ended_at_ms updated_at_ms : Int)
      (failure : Option String) (audio : List Op) (audio_error : Option String)
  | discard_overflow (session_id cue_id : String)
  | discard_queued_cue (hash : HashOrder) (session_id cue_id : String)
  | repository (op : Op)

def CueWorker.step (w : CueWorker) : CueStep → CueWorker
  | .send_cue cue => w.send_cue cue
  | .receive_cue => w.receive_cue
  | .drain_cue_overflow hash => w.drain_cue_overflow hash
  | .drain_latest_cues hash => w.drain_latest_cues hash
  | .flush_pending_cues hash updated_at_ms failure => (w.flush_pending_cues hash updated_at_ms failure).2
  | .finish_session hash session_id ended_at_ms updated_at_ms failure audio audio_error =>
    (w.finish_session hash session_id ended_at_ms updated_at_ms failure audio audio_error).2
  | .discard_overflow session_id cue_id => w.discard_overflow session_id cue_id
  | .discard_queued_cue hash session_id cue_id => w.discard_queued_cue hash session_id cue_id
  | .repository op => if w.unavailable_reason.isSome then w else { w with repository := w.repository.step op }

end omni_translate.history

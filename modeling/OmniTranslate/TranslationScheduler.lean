-- The translation scheduler of `audio/translation_scheduler.rs`: a queue of
-- jobs with two key sets beside it, the map of the jobs in flight, and the
-- jobs that expired. Each operation takes the clock readings it makes.
import Mathlib.Data.Finset.Image
import Mathlib.Data.List.AList
import Mathlib.Data.List.MinMax
import Mathlib.Data.Prod.Lex
import Mathlib.Data.String.Basic
import OmniTranslate.Sentence

namespace omni_translate.translation_scheduler

open text
open sentence (Instant Duration SentenceResult)

def MAX_QUEUED_TRANSLATIONS : Nat := 128
def MAX_QUEUED_TRANSLATIONS_PER_CUE : Nat := 8

def normalize_sentence_key (sentence : Text) : Text := join [' '] (split_whitespace sentence)

inductive TranslationRank
  | Partial
  | Forced
  | Final
  | Replacement
deriving DecidableEq

/-- The value of `rank as u8`, which also orders the ranks. -/
def TranslationRank.value : TranslationRank → Nat
  | .Partial => 0
  | .Forced => 1
  | .Final => 2
  | .Replacement => 3

def translation_rank (result : SentenceResult) : TranslationRank :=
  if result.is_replacement then .Replacement
  else if result.is_forced then .Forced
  else .Final

/-- A job, with the fields that the scheduler reads. -/
structure TranslationJob where
  key : String
  sequence : Nat
  cue_revision : Nat
  display_index : Nat
  cue_id : String
  result : SentenceResult
  created_at : Instant
  deadline_at : Instant
deriving DecidableEq

def translation_sentence_work_key (job : TranslationJob) : String :=
  job.cue_id ++ ":" ++ toString job.cue_revision ++ ":" ++
    toString (translation_rank job.result).value ++ ":" ++
    String.ofList (normalize_sentence_key job.result.sentence)

def translation_supersession_key (job : TranslationJob) : String × Nat × Nat :=
  (job.cue_id, job.cue_revision, job.display_index)

inductive TranslationEnqueueResult
  | Enqueued
  | Duplicate
  | RejectedOverflow
  | RejectedExpired
deriving DecidableEq

structure InFlightJob where
  cue_id : String
  is_forced : Bool
  sentence_work_key : String
deriving DecidableEq

structure TranslationScheduler where
  queued : List TranslationJob
  queued_keys : Finset String
  queued_sentence_keys : Finset String
  in_flight : AList (fun _ : String => InFlightJob)
  max_concurrent : Nat
  max_concurrent_forced : Nat
  dispatch_not_before : Option Instant
  expired_terminal_jobs : List TranslationJob

namespace TranslationScheduler

def new (max_concurrent max_concurrent_forced : Nat) : TranslationScheduler where
  queued := []
  queued_keys := ∅
  queued_sentence_keys := ∅
  in_flight := ∅
  max_concurrent := max_concurrent
  max_concurrent_forced := max_concurrent_forced
  dispatch_not_before := none
  expired_terminal_jobs := []

variable (s : TranslationScheduler)

def set_max_concurrent (max_concurrent : Nat) : TranslationScheduler :=
  { s with max_concurrent := max max_concurrent 1 }

def defer_dispatch_for (delay : Duration) (now : Instant) : TranslationScheduler :=
  if delay = 0 then s
  else
    let not_before := now + delay
    { s with
      dispatch_not_before := some (match s.dispatch_not_before with
        | some current => max current not_before
        | none => not_before) }

/-! ## The ways out of the queue -/

variable (job : TranslationJob)

/-- The keys of a job leave both key sets. -/
def unindex : TranslationScheduler :=
  { s with
    queued_keys := s.queued_keys.erase job.key
    queued_sentence_keys := s.queued_sentence_keys.erase (translation_sentence_work_key job) }

/-- One turn of the loops of `drop_queued_for_cue` and `drop_expired_queued_at`, with the jobs
retained so far as the queue. -/
def sweep_step (stays terminal : TranslationJob → Bool) (s : TranslationScheduler)
    (job : TranslationJob) : TranslationScheduler :=
  if stays job then { s with queued := s.queued ++ [job] }
  else
    let s := s.unindex job
    if terminal job then { s with expired_terminal_jobs := s.expired_terminal_jobs ++ [job] }
    else s

def sweep (stays terminal : TranslationJob → Bool) (s : TranslationScheduler) :
    TranslationScheduler :=
  s.queued.foldl (sweep_step stays terminal) { s with queued := [] }

def drop_queued_for_cue (cue_id : String) : TranslationScheduler :=
  s.sweep (fun job => job.cue_id ≠ cue_id) (fun _ => false)

def drop_expired_queued_at (now : Instant) : TranslationScheduler :=
  s.sweep (fun job => job.deadline_at > now) (fun job => !job.result.is_forced)

def remove_queued_by_key (key : String) : TranslationScheduler :=
  match s.queued.findIdx? (fun job => job.key = key) with
  | none => s
  | some index =>
    match s.queued[index]? with
    | none => s
    | some job => { s with queued := s.queued.eraseIdx index }.unindex job

def drop_superseded_preview (incoming : TranslationJob) : TranslationScheduler :=
  let keys := (s.queued.filter fun job =>
    translation_supersession_key job = translation_supersession_key incoming ∧
      (translation_rank job.result).value ≤ (translation_rank incoming.result).value ∧
      job.result.is_forced).map (·.key)
  keys.foldl remove_queued_by_key s

/-- The result of an eviction: whether there was a job to evict. -/
def evict (job : Option TranslationJob) : TranslationScheduler × Bool :=
  match job with
  | none => (s, false)
  | some job => (s.remove_queued_by_key job.key, true)

def evict_preview_for_cue (cue_id : String) : TranslationScheduler × Bool :=
  s.evict (s.queued.find? fun job => job.cue_id = cue_id ∧ job.result.is_forced)

def evict_oldest_preview : TranslationScheduler × Bool :=
  s.evict ((s.queued.filter (·.result.is_forced)).argmin fun job =>
    toLex (job.created_at, job.sequence))

/-! ## The way in -/

/-- The job or its work is queued or in flight already. -/
def is_duplicate : Bool :=
  job.key ∈ s.queued_keys ∨ job.key ∈ s.in_flight ∨
    translation_sentence_work_key job ∈ s.queued_sentence_keys ∨
    s.in_flight.entries.any fun entry =>
      entry.2.sentence_work_key = translation_sentence_work_key job

/-- The number of queued jobs of a cue. -/
def queued_for_cue (cue_id : String) : Nat :=
  (s.queued.filter fun job => job.cue_id = cue_id).length

/-- The eviction of a preview when there is no room, or `false` when none can go. -/
def make_room (full : Bool) (evict : TranslationScheduler → TranslationScheduler × Bool) : TranslationScheduler × Bool :=
  if full then evict s else (s, true)

def push_back : TranslationScheduler :=
  { s with
    queued := s.queued ++ [job]
    queued_keys := insert job.key s.queued_keys
    queued_sentence_keys := insert (translation_sentence_work_key job) s.queued_sentence_keys }

def enqueue_with_result_at (now : Instant) : TranslationScheduler × TranslationEnqueueResult :=
  let s := s.drop_expired_queued_at now
  if job.deadline_at ≤ now then (s, .RejectedExpired)
  else if s.is_duplicate job then (s, .Duplicate)
  else
    let s := s.drop_superseded_preview job
    let (s, cue_room) := s.make_room (s.queued_for_cue job.cue_id ≥ MAX_QUEUED_TRANSLATIONS_PER_CUE)
      (·.evict_preview_for_cue job.cue_id)
    if !cue_room then (s, .RejectedOverflow)
    else
      let (s, room) := s.make_room (s.queued.length ≥ MAX_QUEUED_TRANSLATIONS) evict_oldest_preview
      if !room then (s, .RejectedOverflow)
      else (s.push_back job, .Enqueued)

/-! ## Dispatch -/

def forced_in_flight_count : Nat :=
  (s.in_flight.entries.filter (·.2.is_forced)).length

def next_dispatch_index : Option Nat :=
  if s.in_flight.entries.length ≥ s.max_concurrent then none
  else
    let ready := s.queued.zipIdx.filter fun (job, _) =>
      !job.result.is_forced || s.forced_in_flight_count < s.max_concurrent_forced
    (ready.argmin fun (job, _) =>
      toLex (OrderDual.toDual (translation_rank job.result).value,
        toLex (job.deadline_at, job.sequence))).map (·.2)

/-- A queued job goes in flight. -/
def launch (index : Nat) (job : TranslationJob) : TranslationScheduler :=
  let s := { s with queued := s.queued.eraseIdx index }.unindex job
  { s with
    in_flight := s.in_flight.insert job.key
      ⟨job.cue_id, job.result.is_forced, translation_sentence_work_key job⟩ }

/-- The loop of `dispatch_ready`, and the jobs handed to `spawn` in order. Each turn takes a
job off the queue, so a fuel of the queue's length is never used up. -/
def dispatch_loop : Nat → TranslationScheduler → TranslationScheduler × List TranslationJob
  | 0, s => (s, [])
  | fuel + 1, s =>
    match s.next_dispatch_index with
    | none => (s, [])
    | some index =>
      match s.queued[index]? with
      | none => (s, [])
      | some job =>
        let (s, spawned) := dispatch_loop fuel (s.launch index job)
        (s, job :: spawned)

/-- `dispatch_ready` reads the clock to purge the queue, and again to see whether dispatch is
deferred. -/
def dispatch_ready (purge_now now : Instant) : TranslationScheduler × List TranslationJob :=
  let s := s.drop_expired_queued_at purge_now
  if s.dispatch_not_before.any (now < ·) then (s, [])
  else dispatch_loop s.queued.length { s with dispatch_not_before := none }

def finish (key : String) : TranslationScheduler :=
  { s with in_flight := s.in_flight.erase key }

def take_expired_terminal_jobs : TranslationScheduler × List TranslationJob :=
  ({ s with expired_terminal_jobs := [] }, s.expired_terminal_jobs)

end TranslationScheduler

end omni_translate.translation_scheduler

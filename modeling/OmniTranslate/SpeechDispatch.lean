-- The worker that speaks the translated cues (`audio/speech/dispatch.rs` and
-- `planner.rs`): the clauses of a cue, what the worker remembers of them, and a
-- poll, which synthesizes two clauses at a time and plays what comes back.
-- Emitting a snapshot does not fail here.
import OmniTranslate.Maps
import OmniTranslate.Runs
import OmniTranslate.TranslationLifecycle
import Mathlib.Data.Finset.Basic

namespace omni_translate.speech_dispatch

open maps runs text
open translation_lifecycle (SubtitleCue SubtitleDisplaySegment SubtitleTranslationState)

@[irreducible] def MAX_PROCESSED_CUES : Nat := 128
def MAX_TTS_QUEUE_DEPTH : Nat := 32

/-- Five seconds, in nanoseconds. -/
def TTS_START_DEADLINE : Nat := 5 * 10 ^ 9
def PLAYBACK_START_DEADLINE_MS : Nat := 4000
def MAX_CONCURRENT_SYNTHESIS : Nat := 2
def USIZE_MAX : Nat := 2 ^ 64 - 1

/-- The fields of the configuration that the worker reads itself. -/
structure SpeechConfig where
  enabled : Bool
  secondary_segment_tts_enabled : Bool
  outbound_ptt_enabled : Bool
  outbound_ptt_state : String
deriving DecidableEq

/-! ## The clauses of a cue -/

/-- One turn of the loop of `split_tts_clauses`: the clauses so far, and the one that grows. -/
def split_char (clauses : List Text × Text) (c : Char) : List Text × Text :=
  let ended (current : Text) : List Text × Text :=
    (if trim current = [] then clauses.1 else clauses.1 ++ [trim current], [])
  if c = '\r' then clauses
  else if c ∈ ['\n', '；', ';'] then ended clauses.2
  else if c ∈ ['。', '！', '？', '!', '?'] then ended (clauses.2 ++ [c])
  else (clauses.1, clauses.2 ++ [c])

def split_tts_clauses (t : Text) : List Text :=
  let (clauses, current) := t.foldl split_char ([], [])
  if trim current = [] then clauses else clauses ++ [trim current]

def split_secondary_tts_segments (source_text translated_text : Text) : List (Text × Text) :=
  let translated_parts := split_tts_clauses translated_text
  let source_parts := split_tts_clauses source_text
  if source_parts.length = translated_parts.length then source_parts.zip translated_parts
  else translated_parts.map fun translated => (trim source_text, translated)

def secondary_tts_segment_index (display_index part_index : Nat) : Nat :=
  min (min (display_index * 1000) USIZE_MAX + part_index) USIZE_MAX

/-- `str::contains` -/
def contains (t pattern : Text) : Bool := (find pattern t).isSome

/-- `str::replace` of a pattern that is not empty; the number is what is left of the last match. -/
def replace_from (pattern other : Text) : Nat → Text → Text
  | _, [] => []
  | n + 1, _ :: t => replace_from pattern other n t
  | 0, c :: t =>
    if pattern.isPrefixOf (c :: t) then other ++ replace_from pattern other (pattern.length - 1) t
    else c :: replace_from pattern other 0 t

def replace (t pattern other : Text) : Text := replace_from pattern other 0 t

def AMOUNTS : List (Text × Text) :=
  [("one billion dollars".toList, "十亿美元".toList),
    ("five hundred million dollars".toList, "五亿美元".toList),
    ("one hundred million dollars".toList, "一亿美元".toList)]

def corrected_money_translation_for_playback (source_text translated_text : Text) : Text :=
  let source := source_text.map Char.toLower
  match AMOUNTS.find? fun amount => contains source amount.1 with
  | none => translated_text
  | some (_, expected) =>
    if contains translated_text expected then translated_text
    else
      let corrected := AMOUNTS.foldl (fun corrected amount =>
        if amount.2 ≠ expected ∧ contains corrected amount.2 = true then replace corrected amount.2 expected
        else corrected) translated_text
      if contains corrected expected then corrected
      else corrected.rdropWhile (· ∈ ['。', '.', ' ']) ++ "（金额为".toList ++ expected ++ "）".toList

structure SpeechDispatchTask where
  cue : SubtitleCue
  segment_index : Nat
  source_text : Text
  translated_text : Text
  segment_mode : Bool
  queued_at : Nat
deriving DecidableEq

variable (cue : SubtitleCue)

def is_speech_ready_cue : Bool :=
  cue.translation_committed && cue.translation_state = some .Final && trim cue.translated_text ≠ [] &&
    (cue.display_segments.filter fun segment => trim segment.translated_text ≠ []).all fun segment => !segment.pending

/-- A display segment that is not awaited any more and has a translation. -/
def is_spoken_segment (segment : SubtitleDisplaySegment) : Bool :=
  !segment.pending && trim segment.translated_text ≠ []

def segment_task (index now : Nat) (part : (Text × Text) × Nat) : SpeechDispatchTask where
  cue := cue
  segment_index := secondary_tts_segment_index index part.2
  source_text := part.1.1
  translated_text := corrected_money_translation_for_playback part.1.1 part.1.2
  segment_mode := true
  queued_at := now

def whole_cue_task (now : Nat) : SpeechDispatchTask where
  cue := cue
  segment_index := 0
  source_text := cue.display_source_text
  translated_text := corrected_money_translation_for_playback cue.display_source_text cue.translated_text
  segment_mode := false
  queued_at := now

/-- From `speech_dispatch_tasks_for_cue`: the tasks of a cue that has not been played. -/
def unplayed_tasks (config : SpeechConfig) (now : Nat) : List SpeechDispatchTask :=
  if cue.translation_committed = false ∨ cue.translation_state ≠ some .Final then []
  else if config.secondary_segment_tts_enabled then
    match cue.display_segments.zipIdx.find? fun segment => is_spoken_segment segment.1 with
    | none => []
    | some (segment, index) =>
      (split_secondary_tts_segments segment.source_text segment.translated_text).zipIdx.map (segment_task cue index now)
  else if is_speech_ready_cue cue then [whole_cue_task cue now]
  else []

def speech_dispatch_tasks_for_cue (config : SpeechConfig) (committed_played : Finset String)
    (now : Nat) : List SpeechDispatchTask :=
  if cue.committed = true ∧ cue.cue_id ∈ committed_played then [] else unplayed_tasks cue config now

/-! ## What is remembered -/

/-- A set of keys, with the order in which they came in. -/
structure History where
  keys : Finset String
  order : List String

/-- The oldest keys go as long as there are too many. -/
def History.remember (history : History) (key : String) : History :=
  let order := history.order ++ [key]
  let expired := order.take (order.length - MAX_PROCESSED_CUES)
  ⟨expired.foldl Finset.erase (insert key history.keys), order.drop (order.length - MAX_PROCESSED_CUES)⟩

structure SpeechDispatchQueue where
  processed : History
  processed_segment_slots : History
  committed_played : History
  queued_at : AList fun _ : String => Nat

def SpeechDispatchQueue.default : SpeechDispatchQueue where
  processed := ⟨∅, []⟩
  processed_segment_slots := ⟨∅, []⟩
  committed_played := ⟨∅, []⟩
  queued_at := ∅

/-- What is written to a hasher. -/
inductive Hashed
  | str (text : Text)
  | usize (n : Nat)
deriving DecidableEq

/-- `{:016x}` -/
def hex16 (n : UInt64) : String := String.ofList (List.leftpad 16 '0' (Nat.toDigits 16 n.toNat))

section

-- What the hasher of the standard library gives for what is written to it.
variable (finish : List Hashed → UInt64)

def dispatch_key (task : SpeechDispatchTask) : String :=
  task.cue.cue_id ++ ":" ++ toString task.segment_index ++ ":" ++
    hex16 (finish [.str task.cue.cue_id.toList, .usize task.segment_index, .str task.source_text,
      .str task.translated_text])

def segment_slot_key (task : SpeechDispatchTask) : Option String :=
  if task.segment_mode then
    some (task.cue.cue_id ++ ":" ++ toString task.segment_index ++ ":" ++
      hex16 (finish [.str task.source_text, .str task.translated_text]))
  else none

namespace SpeechDispatchQueue

variable (queue : SpeechDispatchQueue)

def contains (task : SpeechDispatchTask) : Bool :=
  (task.cue.committed && task.cue.cue_id ∈ queue.committed_played.keys) ||
    dispatch_key finish task ∈ queue.processed.keys ||
    (segment_slot_key finish task).any fun slot_key => slot_key ∈ queue.processed_segment_slots.keys

def remember (task : SpeechDispatchTask) : SpeechDispatchQueue where
  queued_at := queue.queued_at.erase (dispatch_key finish task)
  processed := queue.processed.remember (dispatch_key finish task)
  processed_segment_slots :=
    match segment_slot_key finish task with
    | none => queue.processed_segment_slots
    | some slot_key => queue.processed_segment_slots.remember slot_key
  committed_played :=
    if task.cue.committed = true ∧ task.cue.cue_id ∉ queue.committed_played.keys then
      queue.committed_played.remember task.cue.cue_id
    else queue.committed_played

/-- What `admit` makes of the tasks: each waits since it was first seen. -/
def since_first_seen (now : Nat) (tasks : List SpeechDispatchTask) : List SpeechDispatchTask :=
  tasks.map fun task => { task with queued_at := (queue.queued_at.lookup (dispatch_key finish task)).getD now }

def note_queued (now : Nat) (tasks : List SpeechDispatchTask) : SpeechDispatchQueue :=
  let current_keys := tasks.map (dispatch_key finish)
  let kept := retain (fun key => decide (key ∈ current_keys)) queue.queued_at
  { queue with queued_at := current_keys.foldl (fun queued_at key =>
      if key ∈ queued_at then queued_at else queued_at.insert key now) kept }

/-- The tasks that wait, those that are too many, and the queue that remembers the latter. -/
def admit_tasks (now : Nat) (tasks : List SpeechDispatchTask) :
    (List SpeechDispatchTask × List SpeechDispatchTask) × SpeechDispatchQueue :=
  let tasks := since_first_seen finish queue now tasks
  let overflow_count := tasks.length - MAX_TTS_QUEUE_DEPTH
  ((tasks.drop overflow_count, tasks.take overflow_count),
    (tasks.take overflow_count).foldl (remember finish) (note_queued finish queue now tasks))

end SpeechDispatchQueue

/-! ## A poll -/

/-- What becomes of a task. -/
inductive SpeechOutcome
  | queue_overflow
  | start_expired
  | playback_expired
  | played (result : Except String Unit)
  | synthesis_failed (error : String)

def SpeechOutcome.is_played : SpeechOutcome → Bool
  | .played _ => true
  | _ => false

/-- A task, and its place among those that wait in a poll. -/
abbrev Numbered := SpeechDispatchTask × Nat

/-- What a poll meets: the cues (the newest first), the configuration, clocks, what becomes of the synthesis and the
playback of each task, and which of two syntheses in flight is done first. -/
structure PollOutside where
  reconnected : Bool
  window : List SubtitleCue
  config : SpeechConfig
  now : Nat
  popped_at : Nat → Nat
  synthesis : Nat → Except String Nat
  received_at_ms : Nat → Nat
  playback : Nat → Except String Unit
  younger_first : Nat → Nat → Bool

/-- What is going on in a poll: the syntheses in flight, the oldest first. -/
structure Pipeline where
  in_flight : List Numbered
  queue : SpeechDispatchQueue
  outcomes : List (Numbered × SpeechOutcome)

inductive PollEnd
  | done
  | blocked_by_ptt
  | stuck
deriving DecidableEq

variable (outside : PollOutside)

def start_expired (task : Numbered) : Bool := TTS_START_DEADLINE ≤ outside.popped_at task.2 - task.1.queued_at

def is_gated (task : Numbered) : Bool :=
  task.1.cue.route_direction = "outbound" && outside.config.outbound_ptt_enabled &&
    outside.config.outbound_ptt_state ≠ "recording"

/-- What becomes of a task whose synthesis is received; `synthesis` tells when a success was made. -/
def received_outcome (place : Nat) : SpeechOutcome :=
  match outside.synthesis place with
  | .error error => .synthesis_failed error
  | .ok created_at_ms =>
    if PLAYBACK_START_DEADLINE_MS < outside.received_at_ms place - created_at_ms then .playback_expired
    else .played (outside.playback place)

/-- Every outcome is remembered. -/
def Pipeline.conclude (pipeline : Pipeline) (task : Numbered) (outcome : SpeechOutcome) : Pipeline :=
  { pipeline with
    queue := pipeline.queue.remember finish task.1
    outcomes := pipeline.outcomes ++ [(task, outcome)] }

/-- The synthesis in flight that is done first. -/
def first_done : List Numbered → Option Numbered
  | [] => none
  | task :: tasks => some (tasks.foldl (fun older younger =>
      if outside.younger_first older.2 younger.2 then younger else older) task)

/-- One result is received. -/
def receive (pipeline : Pipeline) : Pipeline :=
  match first_done outside pipeline.in_flight with
  | none => pipeline
  | some task =>
    { pipeline with in_flight := pipeline.in_flight.filter fun other => other.2 ≠ task.2 }.conclude finish task
      (received_outcome outside task.2)

/-- The two loops of a poll: tasks are taken until two syntheses are in flight, and then one is received. With nothing
in flight there is nothing to receive, and the channel stays open. -/
def run_pipeline : List Numbered → Pipeline → Pipeline × PollEnd
  | [], pipeline =>
    if pipeline.in_flight = [] then (pipeline, .stuck)
    else ((receive finish outside)^[pipeline.in_flight.length] pipeline, .done)
  | task :: tasks, pipeline =>
    if start_expired outside task then run_pipeline tasks (pipeline.conclude finish task .start_expired)
    else if is_gated outside task then (pipeline, .blocked_by_ptt)
    else
      let started := { pipeline with in_flight := pipeline.in_flight ++ [task] }
      run_pipeline tasks (if started.in_flight.length < MAX_CONCURRENT_SYNTHESIS then started
        else receive finish outside started)

/-! ## The worker -/

structure SpeechDispatchWorker where
  queue : SpeechDispatchQueue
  outcomes : List (SpeechDispatchTask × SpeechOutcome)
  stuck : Bool

def new : SpeechDispatchWorker := ⟨.default, [], false⟩

variable (queue : SpeechDispatchQueue)

/-- `discover_pending_speech_tasks`, before `admit`. -/
def discovered : List SpeechDispatchTask :=
  if outside.config.enabled then
    (outside.window.reverse.flatMap fun cue =>
      speech_dispatch_tasks_for_cue cue outside.config queue.committed_played.keys outside.now).filter
        fun task => !queue.contains finish task
  else []

/-- A reconnect forgets the committed cues. -/
def queue_at_poll : SpeechDispatchQueue :=
  if outside.reconnected then { queue with committed_played := ⟨∅, []⟩ } else queue

/-- What is admitted in a poll. -/
def admitted : (List SpeechDispatchTask × List SpeechDispatchTask) × SpeechDispatchQueue :=
  (queue_at_poll outside queue).admit_tasks finish outside.now (discovered finish outside (queue_at_poll outside queue))

/-- A poll; a worker that is stuck polls no more. -/
def poll (worker : SpeechDispatchWorker) : SpeechDispatchWorker :=
  if worker.stuck then worker
  else
    let found := admitted finish outside worker.queue
    let outcomes := worker.outcomes ++ found.1.2.map fun task => (task, .queue_overflow)
    if outside.config.enabled = false ∨ found.1.1 = [] then { worker with queue := found.2, outcomes }
    else
      let result := run_pipeline finish outside found.1.1.zipIdx ⟨[], found.2, []⟩
      { queue := result.1.queue
        outcomes := outcomes ++ result.1.outcomes.map fun outcome => (outcome.1.1, outcome.2)
        stuck := result.2 = .stuck }

end

end omni_translate.speech_dispatch

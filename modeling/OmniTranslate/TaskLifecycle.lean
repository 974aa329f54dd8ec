-- The lifecycle of one speech task, from `audio/bailian_tasks/lifecycle.rs`:
-- one connection, one task id, commands from the client and frames from the
-- server. Parsing of frames is a parameter.
import OmniTranslate.Json
import OmniTranslate.Runs
import OmniTranslate.TranslationLifecycle

namespace omni_translate.bailian_tasks

open json
open translation_lifecycle (U64_MAX)

inductive TaskRole where
  | asr
  | tts
deriving DecidableEq

namespace TaskRole

def operation : TaskRole → String
  | asr => "asr"
  | tts => "tts"

end TaskRole

inductive TaskFailure where
  | authority
  | transport
  | invalid_frame
  | identity
  | lifecycle
  | sentence
  | provider
  | timeout
  | stop_drain
deriving DecidableEq

structure TaskError where
  role : TaskRole
  failure : TaskFailure
  detail : String
deriving DecidableEq

inductive Phase where
  | new
  | awaiting_started
  | active
  | finishing
  | finished
  | failed
deriving DecidableEq

inductive TaskOutput where
  | started
  | transcript (sentence_id : Nat) (text : String) (final_sentence : Bool)
  | audio (samples : List Int16)
  | metadata
  | finished
deriving DecidableEq

/-! ## What the parser hands over -/

structure ServerHeader where
  task_id : String
  event : String
  error_code : Option String
  error_message : Option String

structure Envelope where
  header : ServerHeader
  payload : Value

structure AsrSentence where
  sentence_id : Nat
  text : String
  heartbeat : Bool
  sentence_begin : Bool
  sentence_end : Bool
  begin_time : Nat
  end_time : Option Nat

structure AsrHeartbeat where
  sentence_id : Nat
  sentence_begin : Bool
  sentence_end : Bool

structure TtsOutput where
  kind : String
  index : Nat
  original_text : Option String

/-- The libraries the task calls: the check of a UUID and the decoding of a frame and of its
parts, each with the text of its error. -/
structure Serde where
  is_uuid : String → Bool
  envelope : String → Except String Envelope
  asr_heartbeat : Value → Except String AsrHeartbeat
  asr_sentence : Value → Except String AsrSentence
  tts_output : Value → Except String TtsOutput

/-- A frame of the connection. -/
inductive Message where
  | text (text : String)
  | binary (bytes : List UInt8)
  | ping
  | pong
  | close
  | frame

def i16_from_le_bytes (lo hi : UInt8) : Int16 :=
  (lo.toUInt16 ||| (hi.toUInt16 <<< 8)).toInt16

/-- The samples of aligned bytes. -/
def samples : List UInt8 → List Int16
  | lo :: hi :: rest => i16_from_le_bytes lo hi :: samples rest
  | _ => []

def is_asr_model (model : String) : Bool :=
  model == "qwen-audio-3.0-asr-flash-streaming" || model == "qwen-audio-3.1-asr-flash-streaming"

def is_tts_model (model : String) : Bool :=
  model == "qwen-audio-3.0-tts-plus" || model == "qwen-audio-3.0-tts-flash"

/-! ## The task -/

structure TaskLifecycle where
  role : TaskRole
  task_id : String
  phase : Phase
  next_sentence : Nat
  active_sentence : Option Nat
  sentence_text : Option String
  pending_binary : Bool
  tts_text_sent : Bool
  sentence_audio_received : Bool
deriving DecidableEq

namespace TaskLifecycle

def new (serde : Serde) (role : TaskRole) (task_id : String) : Except TaskError TaskLifecycle :=
  if serde.is_uuid task_id then
    .ok {
      role, task_id, phase := .new
      next_sentence := if role = .asr then 1 else 0
      active_sentence := none, sentence_text := none, pending_binary := false
      tts_text_sent := false, sentence_audio_received := false }
  else .error { role, failure := .identity, detail := "task_id must be a UUID" }

variable (serde : Serde) (l : TaskLifecycle)

def error (failure : TaskFailure) (detail : String) : TaskError := { role := l.role, failure, detail }

def command (action : String) (payload : Value) : Value :=
  .object [
    ("header", .object [("action", .string action), ("streaming", .string "duplex"),
      ("task_id", .string l.task_id)]),
    ("payload", payload)]

/-- The part of a language tag before its first separator, in lower case. -/
def language_hint (language : String) : String :=
  String.ofList (((text.trim language.toList).takeWhile fun c => c ≠ '-' ∧ c ≠ '_').map Char.toLower)

def language_hints : List String :=
  ["zh", "en", "fr", "de", "ja", "ko", "ru", "pt", "th", "id", "vi", "es", "it", "ms", "fil", "ar"]

def parameters (voice language : String) : Except TaskError Value :=
  match l.role with
  | .asr =>
    .ok (.object [("format", .string "pcm"), ("heartbeat", .bool true),
      ("sample_rate", .number (.pos 16000))])
  | .tts =>
    if blank language then
      .ok (.object [("format", .string "pcm"), ("sample_rate", .number (.pos 24000)),
        ("text_type", .string "PlainText"), ("voice", .string voice)])
    else if language_hint language ∈ language_hints then
      .ok (.object [("format", .string "pcm"),
        ("language_hints", .array [.string (language_hint language)]),
        ("sample_rate", .number (.pos 24000)), ("text_type", .string "PlainText"),
        ("voice", .string voice)])
    else .error (l.error .sentence "unsupported TTS language_hints value")

def supported (model : String) : Bool :=
  match l.role with
  | .asr => is_asr_model model
  | .tts => is_tts_model model

def run (model voice language : String) : TaskLifecycle × Except TaskError Value :=
  if l.phase ≠ .new then (l, .error (l.error .lifecycle "run-task already sent"))
  else if l.supported model = false then
    (l, .error (l.error .authority "model not implemented by this task adapter"))
  else if l.role = .tts ∧ blank voice = true then
    (l, .error (l.error .sentence "TTS requires an explicit voice"))
  else match l.parameters voice language with
  | .error e => (l, .error e)
  | .ok parameters =>
    ({ l with phase := .awaiting_started },
      .ok (l.command "run-task" (.object [
        ("function", .string (if l.role = .asr then "recognition" else "SpeechSynthesizer")),
        ("input", .object []), ("model", .string model), ("parameters", parameters),
        ("task", .string l.role.operation), ("task_group", .string "audio")])))

def continue_text (text : String) : TaskLifecycle × Except TaskError Value :=
  if l.role ≠ .tts ∨ l.phase ≠ .active ∨ l.tts_text_sent = true then
    (l, .error (l.error .lifecycle
      "continue-task requires a started TTS task and exactly one text input"))
  else if blank text = true ∨ 20000 < text.length then
    (l, .error (l.error .sentence "TTS text must contain 1..20000 characters"))
  else
    ({ l with tts_text_sent := true },
      .ok (l.command "continue-task" (.object [("input", .object [("text", .string text)])])))

def finish : TaskLifecycle × Except TaskError Value :=
  if l.phase ≠ .active ∨ (l.role = .tts ∧ l.tts_text_sent = false) then
    (l, .error (l.error .lifecycle "finish-task requires a started task with complete input"))
  else
    ({ l with phase := .finishing }, .ok (l.command "finish-task" (.object [("input", .object [])])))

/-! ## Frames of the server -/

/-- The number of the next sentence, unless it has no successor. -/
def next_identity : Except TaskError Nat :=
  if l.next_sentence + 1 ≤ U64_MAX then .ok (l.next_sentence + 1)
  else .error (l.error .sentence "sentence identity overflow")

def asr_sentence (sentence : AsrSentence) : TaskLifecycle × Except TaskError TaskOutput :=
  if sentence.heartbeat then
    if sentence.sentence_id ≠ 0 ∨ sentence.sentence_begin = true ∨ sentence.sentence_end = true then
      (l, .error (l.error .sentence "invalid ASR heartbeat identity/finality"))
    else (l, .ok .metadata)
  else if sentence.sentence_id ≠ l.next_sentence ∨ sentence.sentence_id = 0 then
    (l, .error (l.error .sentence "ASR sentence_id reused, skipped, or reordered"))
  else if l.active_sentence.any (fun active => active ≠ sentence.sentence_id ∨ sentence.sentence_begin) then
    (l, .error (l.error .sentence "ASR sentence begun twice or changed before finality"))
  else if l.active_sentence = none ∧ sentence.sentence_begin = false ∧ sentence.sentence_end = false then
    (l, .error (l.error .sentence "ASR preview requires sentence_begin"))
  else if sentence.sentence_end then
    if sentence.end_time.any (sentence.begin_time ≤ ·) then
      let l := { l with active_sentence := none }
      match l.next_identity with
      | .error e => (l, .error e)
      | .ok next =>
        ({ l with next_sentence := next }, .ok (.transcript sentence.sentence_id sentence.text true))
    else (l, .error (l.error .sentence "ASR final sentence requires a valid end_time"))
  else if sentence.end_time.isSome then
    (l, .error (l.error .sentence "ASR preview cannot carry terminal end_time"))
  else
    ({ l with active_sentence := some sentence.sentence_id },
      .ok (.transcript sentence.sentence_id sentence.text false))

def asr_result (output : Value) : TaskLifecycle × Except TaskError TaskOutput :=
  match output.get "sentence" with
  | none => (l, .error (l.error .sentence "ASR missing sentence"))
  | some raw_sentence =>
    if raw_sentence.get "heartbeat" = some (.bool true) then
      match serde.asr_heartbeat raw_sentence with
      | .error e => (l, .error (l.error .sentence ("invalid ASR heartbeat: " ++ e)))
      | .ok heartbeat =>
        if heartbeat.sentence_id ≠ 0 ∨ heartbeat.sentence_begin = true
            ∨ heartbeat.sentence_end = true then
          (l, .error (l.error .sentence "invalid ASR heartbeat identity/finality"))
        else (l, .ok .metadata)
    else match serde.asr_sentence raw_sentence with
    | .error e => (l, .error (l.error .sentence ("invalid ASR sentence: " ++ e)))
    | .ok sentence => l.asr_sentence sentence

def tts_sentence (output : TtsOutput) : TaskLifecycle × Except TaskError TaskOutput :=
  if output.index ≠ l.next_sentence then
    (l, .error (l.error .sentence "TTS sentence index reused, skipped, or reordered"))
  else if output.kind = "sentence-begin" ∧ l.active_sentence = none then
    match output.original_text.filter (· ≠ "") with
    | none => (l, .error (l.error .sentence "TTS sentence-begin missing original_text"))
    | some text =>
      ({ l with
          active_sentence := some output.index, sentence_text := some text
          sentence_audio_received := false },
        .ok .metadata)
  else if output.kind = "sentence-synthesis" ∧ l.active_sentence = some output.index then
    ({ l with pending_binary := true }, .ok .metadata)
  else if output.kind = "sentence-end" ∧ l.active_sentence = some output.index then
    if l.sentence_audio_received = false then
      (l, .error (l.error .sentence "TTS sentence-end without any sentence audio"))
    else if output.original_text ≠ l.sentence_text then
      (l, .error (l.error .sentence "TTS terminal original_text changed"))
    else
      let l := { l with active_sentence := none, sentence_text := none }
      match l.next_identity with
      | .error e => (l, .error e)
      | .ok next => ({ l with next_sentence := next }, .ok .metadata)
  else (l, .error (l.error .sentence "invalid TTS sentence lifecycle"))

def tts_result (output : Value) : TaskLifecycle × Except TaskError TaskOutput :=
  if l.tts_text_sent = false then
    (l, .error (l.error .lifecycle "TTS output before continue-task"))
  else match serde.tts_output output with
  | .error e => (l, .error (l.error .sentence ("invalid TTS sentence: " ++ e)))
  | .ok output => l.tts_sentence output

/-- What the task does with a well-formed envelope of its own. -/
def receive_event (envelope : Envelope) : TaskLifecycle × Except TaskError TaskOutput :=
  let event := envelope.header.event
  if event = "task-failed" then
    (l, .error (l.error .provider (envelope.header.error_code.getD "unknown" ++ ": "
      ++ envelope.header.error_message.getD "task failed")))
  else if event = "task-started" ∧ l.phase = .awaiting_started then
    ({ l with phase := .active }, .ok .started)
  else if event = "result-generated" ∧ (l.phase = .active ∨ l.phase = .finishing) then
    match envelope.payload.get "output" with
    | none => (l, .error (l.error .invalid_frame "result-generated missing output"))
    | some output =>
      match l.role with
      | .asr => l.asr_result serde output
      | .tts => l.tts_result serde output
  else if event = "task-finished" ∧ l.phase = .finishing then
    if l.active_sentence.isSome ∨ l.pending_binary = true then
      (l, .error (l.error .sentence "task-finished with an unfinalized sentence"))
    else ({ l with phase := .finished }, .ok .finished)
  else (l, .error (l.error .lifecycle ("unexpected event '" ++ event ++ "'")))

def receive_inner (message : Message) : TaskLifecycle × Except TaskError TaskOutput :=
  if l.phase = .new ∨ l.phase = .failed ∨ l.phase = .finished then
    (l, .error (l.error .lifecycle "server frame outside live task"))
  else match message with
  | .text text =>
    match serde.envelope text with
    | .error e => (l, .error (l.error .invalid_frame ("invalid task envelope: " ++ e)))
    | .ok envelope =>
      if envelope.payload.is_object = false then
        (l, .error (l.error .invalid_frame "task payload must be an object"))
      else if envelope.header.task_id ≠ l.task_id then
        (l, .error (l.error .identity "server task_id does not match this task"))
      else if l.pending_binary = true ∧ envelope.header.event ≠ "task-failed" then
        (l, .error (l.error .invalid_frame "sentence-synthesis must be followed by binary audio"))
      else l.receive_event serde envelope
  | .binary bytes =>
    if l.role ≠ .tts ∨ l.pending_binary = false ∨ bytes = [] ∨ bytes.length % 2 ≠ 0 then
      (l, .error (l.error .invalid_frame "unexpected, empty, or unaligned binary audio"))
    else
      ({ l with pending_binary := false, sentence_audio_received := true },
        .ok (.audio (samples bytes)))
  | _ => (l, .error (l.error .invalid_frame "expected task JSON or licensed PCM binary"))

/-- Any refused frame poisons the task. -/
def receive (message : Message) : TaskLifecycle × Except TaskError TaskOutput :=
  match l.receive_inner serde message with
  | (l, .error e) => ({ l with phase := .failed }, .error e)
  | (l, .ok output) => (l, .ok output)

end TaskLifecycle

/-! ## Calls and their history -/

inductive Call where
  | run (model voice language : String)
  | continue_text (text : String)
  | finish
  | receive (message : Message)

inductive Reply where
  | command (result : Except TaskError Value)
  | output (result : Except TaskError TaskOutput)

abbrev History := List (Call × Reply)

namespace TaskLifecycle

def call (serde : Serde) (l : TaskLifecycle) : Call → TaskLifecycle × Reply
  | .run model voice language => ((l.run model voice language).1, .command (l.run model voice language).2)
  | .continue_text text => ((l.continue_text text).1, .command (l.continue_text text).2)
  | .finish => (l.finish.1, .command l.finish.2)
  | .receive message => ((l.receive serde message).1, .output (l.receive serde message).2)

/-- A call and its reply are added to the history. -/
def drive (serde : Serde) (s : TaskLifecycle × History) (c : Call) : TaskLifecycle × History :=
  ((s.1.call serde c).1, s.2 ++ [(c, (s.1.call serde c).2)])

/-- The history of a list of calls. -/
def history (serde : Serde) (l : TaskLifecycle) (calls : List Call) : History :=
  (runs.run (drive serde) (l, []) calls).2

end TaskLifecycle

end omni_translate.bailian_tasks

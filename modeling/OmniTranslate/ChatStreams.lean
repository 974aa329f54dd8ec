-- The streamed chat completions of `provider/gateway_parts`: the event lines of
-- the OpenAI-compatible and the DashScope compatible-mode adapters, and the
-- transcript that `record_translation_delta` of `shared.rs` makes of them.
import OmniTranslate.Json

namespace omni_translate.provider_gateway

open text
open json (Value)

structure ProviderRuntimeError where
  code : String
  message : String
  retriable : Bool
deriving DecidableEq

def ProviderRuntimeError.new (code message : String) : ProviderRuntimeError :=
  ⟨code, message, false⟩

structure ProviderStreamEventRecord where
  event_type : String
  summary : String
  segment_id : Option String
  text_delta : Option Text
  text : Option Text
deriving DecidableEq

/-- The fields of a result that a stream writes. -/
structure ProviderSmokeResult where
  stream_observed : Bool
  first_event_latency_ms : Option Nat
  transcript : Text
  event_log : List ProviderStreamEventRecord
  input_tokens : Option Nat
  output_tokens : Option Nat
deriving DecidableEq

def new_streaming_smoke_result (session_summary : String) : ProviderSmokeResult where
  stream_observed := false
  first_event_latency_ms := none
  transcript := []
  event_log := [⟨"session.started", session_summary, none, none, none⟩]
  input_tokens := none
  output_tokens := none

/-! ## The transcript -/

def normalize_stream_delta (previous incoming : Text) : Option Text :=
  if incoming = [] then none
  else if previous = [] then some incoming
  else if incoming = previous ∨ incoming <+: previous then none
  else if previous <+: incoming then some (incoming.drop previous.length)
  else some incoming

/-- A result while its stream is read: with the deltas that `on_delta` was handed, and the
reasoning text of the OpenAI adapter. -/
structure Stream where
  result : ProviderSmokeResult
  handed : List Text
  reasoning_transcript : Text
deriving DecidableEq

def Stream.new (session_summary : String) : Stream :=
  ⟨new_streaming_smoke_result session_summary, [], []⟩

/-- The answer of the callback, from all it was handed so far. -/
abbrev DeltaCallback := List Text → Except ProviderRuntimeError Unit

def ProviderSmokeResult.first_event (r : ProviderSmokeResult) (elapsed_ms : Nat) :
    ProviderSmokeResult :=
  { r with
    first_event_latency_ms := some (r.first_event_latency_ms.getD elapsed_ms)
    stream_observed := true }

variable (on_delta : DeltaCallback)

def record_translation_delta (elapsed_ms : Nat) (delta : Text) (summary : String) (s : Stream) : Except ProviderRuntimeError Stream :=
  match normalize_stream_delta s.result.transcript delta with
  | none => .ok s
  | some normalized_delta => do
    let result := s.result.first_event elapsed_ms
    let result := { result with transcript := result.transcript ++ normalized_delta }
    let handed := s.handed ++ [normalized_delta]
    on_delta handed
    let event := ⟨"translation.delta", summary, some "segment-1", some normalized_delta, none⟩
    .ok { s with result := { result with event_log := result.event_log ++ [event] }, handed }

def record_usage_update (input_tokens output_tokens : Nat) (r : ProviderSmokeResult) :
    ProviderSmokeResult :=
  let summary := "usage 已更新: input=" ++ toString input_tokens ++ " / output=" ++
    toString output_tokens
  { r with
    input_tokens := some input_tokens
    output_tokens := some output_tokens
    event_log := r.event_log ++ [⟨"usage.updated", summary, none, none, none⟩] }

/-! ## What an event carries -/

/-- The index of an array that a token of a pointer names. -/
def parse_index (token : Text) : Option Nat :=
  if token = [] ∨ ¬ token.all Char.isDigit ∨ (token.head? = some '0' ∧ token.length ≠ 1) then none
  else some (token.foldl (fun n c => 10 * n + (c.toNat - '0'.toNat)) 0)

/-- One token of `Value::pointer`: a field of an object or an index of an array. -/
def at_token (v : Value) (token : String) : Option Value :=
  match v with
  | .object fields => fields.lookup token
  | .array items => (parse_index token.toList).bind fun i => items[i]?
  | _ => none

/-- `Value::pointer`. -/
def pointer (v : Value) : List String → Option Value
  | [] => some v
  | token :: path => do pointer (← at_token v token) path

def pointer_str (v : Value) (path : List String) : Option Text := do
  let s ← (← pointer v path).as_str
  some s.toList

def pointer_u64 (v : Value) (path : List String) : Option Nat := do (← pointer v path).as_u64

variable (value : Value)

def extract_openai_delta : Option Text :=
  pointer_str value ["choices", "0", "delta", "content"] <|>
    pointer_str value ["choices", "0", "delta", "content", "0", "text"]

def extract_openai_reasoning_delta : Option Text :=
  pointer_str value ["choices", "0", "delta", "reasoning_content"] <|>
    pointer_str value ["choices", "0", "message", "reasoning_content"]

def extract_openai_usage : Option (Nat × Nat) := do
  let input ← pointer_u64 value ["usage", "prompt_tokens"]
  let output ← pointer_u64 value ["usage", "completion_tokens"]
  some (input, output)

/-! ## The lines of a response -/

/-- A read error of the response, with its text. -/
structure ReadError where
  timed_out : Bool
  text : String

/-- A line of the response as it is read, and the time that has passed by then. -/
structure RawLine where
  elapsed_ms : Nat
  read : Except ReadError Text

/-- `serde_json::from_str`, with the text of its error. -/
abbrev Parse := Text → Except String Value

def DATA : Text := "data:".toList

def DONE : Text := "[DONE]".toList

/-- `trim_start_matches` takes the mark off as often as it stands there. Each turn takes five
characters, so a fuel of the length is never used up. -/
def trim_start_matches (mark : Text) : Nat → Text → Text
  | 0, line => line
  | fuel + 1, line =>
    if mark ≠ [] ∧ mark <+: line then trim_start_matches mark fuel (line.drop mark.length) else line

/-- The payload of a line of the OpenAI adapter. -/
def openai_payload (raw_line : Text) : Option Text :=
  let line := trim raw_line
  if DATA <+: line then some (trim (trim_start_matches DATA line.length line)) else none

/-- The payload of a line of the DashScope adapter, which takes the mark off once. -/
def dashscope_payload (raw_line : Text) : Option Text :=
  let line := trim raw_line
  if DATA <+: line then some (trim (line.drop DATA.length)) else none

def delta_summary (delta : Text) : String := "收到增量文本: " ++ String.ofList delta

/-- The content of an event, when it has one. -/
def record_content (elapsed_ms : Nat) (content : Option Text) (s : Stream) : Except ProviderRuntimeError Stream :=
  match content with
  | some delta => record_translation_delta on_delta elapsed_ms delta (delta_summary delta) s
  | none => .ok s

def record_reasoning (elapsed_ms : Nat) (reasoning : Option Text) (s : Stream) : Stream :=
  match reasoning with
  | some reasoning_delta =>
    { s with
      result := s.result.first_event elapsed_ms
      reasoning_transcript := s.reasoning_transcript ++ reasoning_delta }
  | none => s

def record_usage (usage : Option (Nat × Nat)) (s : Stream) : Stream :=
  match usage with
  | some (input, output) => { s with result := record_usage_update input output s.result }
  | none => s

/-- What one event does to the stream of the OpenAI adapter. -/
def openai_event (elapsed_ms : Nat) (value : Value) (s : Stream) :
    Except ProviderRuntimeError Stream := do
  let s ← record_content on_delta elapsed_ms (extract_openai_delta value) s
  let s := record_reasoning elapsed_ms (extract_openai_reasoning_delta value) s
  .ok (record_usage (extract_openai_usage value) s)

/-- The content of an event of the DashScope adapter. -/
def dashscope_content : Option Text :=
  pointer_str value ["choices", "0", "delta", "content"]

/-- Whether a finish reason ends the stream. Any other than `stop` is an error. -/
def stop_reason (reason : Option Text) : Except ProviderRuntimeError Bool :=
  match reason with
  | some reason =>
    if reason = "stop".toList then .ok true
    else .error (.new "response.incomplete"
      ("DashScope SSE ended with finish_reason=" ++ String.ofList reason))
  | none => .ok false

/-- What one event does to the stream of the DashScope adapter, and whether it ends it. -/
def dashscope_event (elapsed_ms : Nat) (value : Value) (s : Stream) :
    Except ProviderRuntimeError (Stream × Bool) :=
  match pointer_str value ["error", "message"] with
  | some message => .error (.new "upstream.error" (String.ofList message))
  | none => do
    let s ← record_content on_delta elapsed_ms (dashscope_content value) s
    let stops ← stop_reason (pointer_str value ["choices", "0", "finish_reason"])
    .ok (record_usage (extract_openai_usage value) s, stops)

/-- What the loop over the event lines asks of an adapter. -/
structure Adapter (σ : Type) where
  payload_of : Text → Option Text
  read_error : ReadError → ProviderRuntimeError
  parse_error : String → ProviderRuntimeError
  event : Nat → Value → σ → Except ProviderRuntimeError σ
  done : σ → σ

def openai_adapter : Adapter Stream where
  payload_of := openai_payload
  read_error error :=
    ⟨"transport.unavailable", "OpenAI Compatible SSE read failed: " ++ error.text, true⟩
  parse_error error := .new "response.unparseable" ("无法解析 OpenAI Compatible SSE 事件: " ++ error)
  event := openai_event on_delta
  done s := s

/-- The adapter of DashScope keeps a `completed` flag beside its stream. -/
def dashscope_adapter : Adapter (Stream × Bool) where
  payload_of := dashscope_payload
  read_error error :=
    ⟨if error.timed_out then "timeout" else "transport.unavailable",
      "DashScope SSE read failed: " ++ error.text, true⟩
  parse_error error := .new "response.unparseable" ("无法解析 DashScope SSE 事件: " ++ error)
  event elapsed_ms value s := do
    let (stream, stops) ← dashscope_event on_delta elapsed_ms value s.1
    .ok (stream, s.2 || stops)
  done s := (s.1, true)

/-- The loop over the lines of a response. -/
def event_loop {σ : Type} (a : Adapter σ) (parse : Parse) :
    List RawLine → σ → Except ProviderRuntimeError σ
  | [], s => .ok s
  | line :: lines, s =>
    match line.read with
    | .error error => .error (a.read_error error)
    | .ok raw_line =>
      match a.payload_of raw_line with
      | none => event_loop a parse lines s
      | some payload =>
        if payload = DONE then .ok (a.done s)
        else match parse payload with
          | .error error => .error (a.parse_error error)
          | .ok value => do
            let s ← a.event line.elapsed_ms value s
            event_loop a parse lines s

end omni_translate.provider_gateway

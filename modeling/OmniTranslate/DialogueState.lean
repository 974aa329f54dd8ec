-- The state of a dialogue session and the events it admits, from
-- `audio/bailian_dialogue.rs`: input items, the responses with their items,
-- parts and text streams, and which item belongs to which of them. An event
-- that is refused changes nothing.
import Mathlib.Data.Finset.Card
import OmniTranslate.DialogueSession
import OmniTranslate.LiveTranslateState

namespace omni_translate.bailian_dialogue

open calls json maps
open bailian_protocol (Codec Map LiveTranslateServerMutation sha256_canonical_json)

structure TextStream where
  text : String := ""
  done : Bool := false
deriving DecidableEq

structure OutputPart where
  kind : Option String := none
  announced : Bool := false
  done : Bool := false
  text : Option TextStream := none
  transcript : Option TextStream := none
  audio : Option Bool := none
deriving DecidableEq

structure OutputItem where
  id : String
  announced : Bool := false
  done : Bool := false
  parts : Map Nat OutputPart := ∅
deriving DecidableEq

structure ResponseState where
  done : Bool := false
  prefer_audio : Bool
  items : Map Nat OutputItem := ∅
  input_item : Option String
deriving DecidableEq

structure InputState where
  pending : Bool := false
  answered : Bool := false
  abandoned : Bool := false
  speech : Bool := false
  ended : Bool := false
  transcripts : Map Nat TextStream := ∅
deriving DecidableEq

structure DialogueServerState where
  expected : Option Value := none
  authority : Option String := none
  session_id : Option String := none
  active : Bool := false
  responses : Map String ResponseState := ∅
  response_order : List String := []
  /-- The response and the output index of each item. -/
  item_owners : Map String (String × Nat) := ∅
  inputs : Map String InputState := ∅
  invalid_inputs : Finset String := ∅
  ambient_inputs : Finset String := ∅
  /-- The role of each conversation item. -/
  conversation_items : Map String String := ∅
  seen : Map String String := ∅
  recent_events : List String := []
  ignored : Bool := false
  invalidated_item : Option String := none

/-- What an admitted event leaves and what it tells. -/
abbrev Admission := Except String (DialogueServerState × LiveTranslateServerMutation)

/-! ## Parts -/

variable (p : OutputPart)

def part_streams_terminal : Bool :=
  p.text.all (·.done) && p.transcript.all (·.done) && p.audio.all id

def part_terminal : Bool := part_streams_terminal p && (!p.announced || p.done)

/-- The stream that a summary's field speaks of. -/
def summary_stream (kind key : String) : Except String (Option TextStream) :=
  if kind = "audio" then pure (p.transcript.or p.text)
  else if key = "text" then pure p.text
  else .error (identity_error "text content has audio transcript")

def validate_part_summary (value : Value) (p : OutputPart) : Except String Unit := do
  let kind ← text value "type"
  require (kind ∈ ["text", "audio"] ∧ (∀ old ∈ p.kind, old = kind) ∧
      ¬ (kind = "text" ∧ (p.transcript.isSome ∨ p.audio.isSome)))
    (identity_error "summary content type differs")
  ["text", "transcript"].forM fun key =>
    match value.get key with
    | none => pure ()
    | some v => do
      let stream ← summary_stream p kind key
      require (v = .string ((stream.map (·.text)).getD "")) (identity_error "summary transcript differs")

def validate_item_part (i : OutputItem) (e : Value × Nat) : Except String Unit := do
  let p ← expect (i.parts.lookup e.2) (identity_error "summary introduced unseen content")
  validate_part_summary e.1 p

def validate_item_summary (value : Value) (i : OutputItem) : Except String Unit := do
  require (value.get_str "type" = some "message" ∧ value.get_str "role" = some "assistant")
    (invalid "unsupported output summary item")
  match value.get "content" with
  | none => pure ()
  | some content =>
    let content ← expect content.as_array (invalid "item.content must be array")
    content.zipIdx.forM (validate_item_part i)
    require (content = [] ∨ content.length = i.parts.entries.length)
      (identity_error "summary omitted content identity")

def validate_terminal_part (i : OutputItem) (e : Value × Nat) : Except String Unit := do
  let p ← expect (i.parts.lookup e.2) (identity_error "terminal summary introduced unseen content")
  let kind ← text e.1 "type"
  require (kind ∈ ["audio", "text"] ∧ ∀ old ∈ p.kind, old = kind)
    (identity_error "terminal content type differs")
  require (∀ key ∈ ["text", "transcript"], ∀ v ∈ e.1.get key, v.is_string = true)
    (invalid "terminal transcript must be string")

def validate_terminal_item_identity (value : Value) (i : OutputItem) : Except String Unit := do
  require (value.get_str "type" = some "message" ∧ value.get_str "role" = some "assistant")
    (invalid "unsupported terminal output item")
  match value.get "content" with
  | none => pure ()
  | some content =>
    let content ← expect content.as_array (invalid "terminal content must be array")
    content.zipIdx.forM (validate_terminal_part i)

/-- The text stream of a part, or the transcript of its sound. -/
def OutputPart.stream (audio : Bool) : Option TextStream :=
  if audio then p.transcript else p.text

def OutputPart.with_stream (audio : Bool) (stream : TextStream) : OutputPart :=
  if audio then { p with transcript := some stream } else { p with text := some stream }

/-- The part without its texts, which a terminal response drops. -/
def OutputPart.without_text : OutputPart :=
  { p with
    text := p.text.map fun s => { s with text := "" }
    transcript := p.transcript.map fun s => { s with text := "" } }

def ResponseState.finished (r : ResponseState) : ResponseState :=
  { r with
    done := true
    items := map_values (fun i => { i with parts := map_values OutputPart.without_text i.parts }) r.items }

def InputState.answerable (i : InputState) : Bool := i.pending && i.ended && !i.speech && !i.answered

/-- The input item that an event names as the one its response answers. -/
def explicit_lineage (event : Value) : Except String (Option String) :=
  let response := event.index "response"
  [response.get "input_item_id", response.get "source_item_id", event.get "input_item_id",
    event.get "source_item_id"].foldlM (fun explicit value =>
      match value with
      | none => pure explicit
      | some v => do
        let id ← expect (v.as_str.filter (!blank ·)) (invalid "invalid input lineage")
        require (∀ old ∈ explicit, old = id) (identity_error "conflicting input lineage")
        pure (some id)) none

def authority_key (codec : Codec) (a : AuthorizedModelProtocolProfile) : String :=
  bailian_protocol.canonical codec (.array [.string a.profile_id, .number (.pos a.profile_version),
    .string a.wire_dialect, .number (.pos a.wire_dialect_version), .string a.exact_model_id,
    .string a.region, .string a.endpoint_host, .string a.operation])

namespace DialogueServerState

variable (codec : Codec) (a : AuthorizedModelProtocolProfile) (s : DialogueServerState)

def cancelable_response_ids : List String := (s.responses.entries.filter fun e => !e.2.done).map (·.1)

/-! ## Client calls -/

def put_input (id : String) (i : InputState) : DialogueServerState :=
  { s with inputs := s.inputs.insert id i }

/-- Gives an input up by the local gate, and never because the provider heard nothing. -/
def abandon_manual_input (item_id : String) (response_create_sent : Bool) :
    Except String DialogueServerState := do
  require (s.active = true ∧ (s.expected.bind (·.get "turn_detection")) = some .null)
    (invalid "input abandonment requires an admitted manual session")
  require (response_create_sent = false ∧ ∀ e ∈ s.responses.entries,
      e.2.input_item ≠ some item_id ∧ (e.2.done = false → e.2.input_item.isSome = true))
    (identity_error "manual input may already own a response")
  let input ← expect (s.inputs.lookup item_id) (identity_error "unknown manual input item")
  require (input.answered = false ∧ input.speech = false ∧ input.ended = true)
    (identity_error "manual input is owned or not settled")
  pure (s.put_input item_id { input with pending := false, abandoned := true })

def bind : Except String DialogueServerState := do
  require (is_supported_authority a = true) (invalid "unsupported dialogue authority")
  require (∀ old ∈ s.authority, old = authority_key codec a)
    (identity_error "authority changed without reconnect")
  pure { s with authority := some (authority_key codec a) }

variable (event : Value)

def record_client_session_update : Except String DialogueServerState := do
  admit_client_event codec a event
  require (event.get_str "type" = some "session.update" ∧ s.active = false ∧ s.expected = none)
    (invalid "one initial session.update required")
  let next ← s.bind codec a
  pure { next with expected := some (event.index "session") }

/-! ## Items -/

/-- The id is no user's, or no longer one. -/
def input_isolated (id : String) : Prop :=
  (∃ i ∈ s.inputs.lookup id, i.abandoned = true) ∨ id ∈ s.item_owners ∨
    (∃ role ∈ s.conversation_items.lookup id, role ≠ "user") ∨ id ∈ s.ambient_inputs ∨ id ∈ s.invalid_inputs

instance (id : String) : Decidable (s.input_isolated id) :=
  inferInstanceAs (Decidable (_ ∨ _ ∨ _ ∨ _ ∨ _))

/-- The first answered input that is silent makes room when the table is full. -/
def make_room : Except String DialogueServerState :=
  if s.inputs.entries.length < MAX_INPUT_ITEMS then .ok s
  else
    match (in_order s.inputs).find? fun e => e.2.answered && !e.2.speech with
    | some e => .ok { s with inputs := s.inputs.erase e.1 }
    | none => .error (invalid "too many unresolved input items")

def input (id : String) : Except String (DialogueServerState × InputState) := do
  require (¬ s.input_isolated id) (identity_error "input item collides with output/isolated item")
  match s.inputs.lookup id with
  | some i => pure (s, i)
  | none =>
    let s ← s.make_room
    pure (s, { pending := true })

/-- The pending input that a new response answers, where there is just one. -/
def candidate (explicit : Option String) : Except String (Option String) :=
  match explicit with
  | some id => do
    require ((s.inputs.lookup id).any (·.answerable) = true)
      (identity_error "response refers to unknown/unsettled input")
    pure (some id)
  | none =>
    match s.inputs.entries.filter (·.2.answerable) with
    | [e] => pure (some e.1)
    | _ => pure none

def answer (id : String) : DialogueServerState :=
  match s.inputs.lookup id with
  | some i => s.put_input id { i with pending := false, answered := true }
  | none => s

def correlate_input : Except String (DialogueServerState × Option String) := do
  let explicit ← explicit_lineage event
  let candidate ← s.candidate explicit
  pure ((candidate.map s.answer).getD s, candidate)

def response_mut (id : String) : Except String ResponseState :=
  expect ((s.responses.lookup id).filter (!·.done)) (identity_error "unknown or terminal response")

def own (id response : String) (output : Nat) : DialogueServerState :=
  { s with item_owners := s.item_owners.insert id (response, output) }

def item_mut (response : String) (output : Nat) (id : String) :
    Except String (DialogueServerState × OutputItem) := do
  let r ← s.response_mut response
  require (id ∉ s.inputs ∧ (∀ role ∈ s.conversation_items.lookup id, role = "assistant") ∧
      id ∉ s.invalid_inputs ∧ id ∉ s.ambient_inputs)
    (identity_error "output item collides with input")
  require (∀ owner ∈ s.item_owners.lookup id, owner = (response, output))
    (identity_error "item reused across response/output identity")
  let item := (r.items.lookup output).getD { id }
  require (item.id = id ∧ item.done = false)
    (identity_error "output index rebound or item already terminal")
  pure (s.own id response output, item)

def put_item (response : String) (output : Nat) (item : OutputItem) : DialogueServerState :=
  match s.responses.lookup response with
  | some r => { s with responses := s.responses.insert response { r with items := r.items.insert output item } }
  | none => s

/-- A part of an item that is under way. -/
structure PartMut where
  response : String
  output : Nat
  item : OutputItem
  content : Nat
  part : OutputPart

def part_mut : Except String (DialogueServerState × PartMut) := do
  let response ← text event "response_id"
  let id ← text event "item_id"
  let output ← index event "output_index"
  let content ← index event "content_index"
  let (s, item) ← s.item_mut response output id
  let part := (item.parts.lookup content).getD {}
  require (part.done = false) (identity_error "content already terminal")
  pure (s, { response, output, item, content, part })

def put_part (p : PartMut) (part : OutputPart) : DialogueServerState :=
  s.put_item p.response p.output { p.item with parts := p.item.parts.insert p.content part }

/-- The stream of a part that a response speaks through. -/
def selected_stream (prefer_audio fallback : Bool) (p : OutputPart) : Option TextStream :=
  (p.stream prefer_audio).or (if fallback then p.stream !prefer_audio else none)

def selected_text (id : String) (fallback : Bool) : Option String := do
  let r ← s.responses.lookup id
  let texts := (in_order r.items).flatMap fun item =>
    (in_order item.2.parts).filterMap fun p => (selected_stream r.prefer_audio fallback p.2).map (·.text)
  if texts = [] then none else some (String.join texts)

/-! ## Session events -/

def session_created : Admission := do
  let session := event.index "session"
  let id ← text session "id"
  require (s.session_id = none ∧ s.active = false) (identity_error "duplicate session.created")
  require (∀ v ∈ session.get "model", v = .string a.exact_model_id) (identity_error "created model differs")
  pure ({ s with session_id := some id }, {})

def session_updated : Admission := do
  let session := event.index "session"
  require (s.active = false) (identity_error "session.updated has wrong session identity/order")
  let id ← text session "id"
  require (s.session_id = some id) (identity_error "session.updated has wrong session identity/order")
  let expected ← expect s.expected (invalid "session.update not recorded")
  check_echo a expected session
  pure ({ s with active := true }, {})

def error_event : Admission := do
  require ((event.index "error").is_object = true) (invalid "error object required")
  pure (s, {})

/-! ## Input events -/

def user_content (part : Value) : Bool :=
  part.get_str "type" == some "input_audio" && (part.get "transcript").all fun t => t.is_null || t.is_string

def assistant_content (part : Value) : Bool :=
  (part.get_str "type").any fun k => k ∈ ["text", "audio"]

/-- The input of a user's conversation item has ended; an abandoned one stays as it is. -/
def user_item (id : String) : Except String DialogueServerState :=
  if (s.inputs.lookup id).any (·.abandoned) then pure { s with ignored := true }
  else do
    let (s, i) ← s.input id
    pure (s.put_input id { i with ended := true })

def conversation_role (id role : String) (content : List Value) : Except String DialogueServerState :=
  if role = "user" then do
    require (∀ part ∈ content, user_content part = true) (invalid "unsupported user conversation content")
    s.user_item id
  else do
    require (id ∉ s.inputs ∧ id ∉ s.invalid_inputs ∧ id ∉ s.ambient_inputs)
      (identity_error "assistant conversation item collides with input")
    require (∀ part ∈ content, assistant_content part = true)
      (invalid "unsupported assistant conversation content")
    pure s

def conversation_item_created : Admission := do
  let item := event.index "item"
  let id ← text item "id"
  let role ← text item "role"
  require (item.get_str "type" = some "message" ∧ role ∈ ["user", "assistant"])
    (invalid "only audio user/assistant message conversation items supported")
  require (∀ v ∈ item.get "object", v = .string "realtime.item") (invalid "invalid conversation item object")
  require (id ∉ s.conversation_items) (identity_error "conversation item ID reused")
  let content ← expect (item.index "content").as_array (invalid "conversation content must be array")
  require (content.length ≤ 32) (invalid "too many conversation content parts")
  let s ← s.conversation_role id role content
  require (s.conversation_items.entries.length < 4096) (invalid "conversation identity ledger full")
  pure ({ s with conversation_items := s.conversation_items.insert id role }, {})

inductive SpeechMark where
  | started
  | stopped
  | committed
deriving DecidableEq

/-- A turn that the provider found invalid takes its input back. -/
def invalidate (id : String) : Except String DialogueServerState := do
  require (id ∉ s.item_owners ∧ (s.inputs.lookup id).any (·.answered) = false)
    (identity_error "invalid turn revokes answered/output item")
  require (s.invalid_inputs.card < MAX_INPUT_ITEMS) (invalid "invalid input ledger full")
  pure { s with
    inputs := s.inputs.erase id
    invalid_inputs := insert id s.invalid_inputs
    invalidated_item := some id
    ignored := true }

def mark_speech (mark : SpeechMark) (id : String) : Except String DialogueServerState := do
  let (s, i) ← s.input id
  require (i.answered = false) (identity_error "speech/commit after input answered")
  if mark = .started then
    require (i.speech = false ∧ i.ended = false) (identity_error "duplicate/restarted speech item")
    pure (s.put_input id { i with speech := true })
  else pure (s.put_input id { i with speech := false, ended := true })

/-- The time that a speech mark has to carry. -/
def stamp_key : SpeechMark → Option String
  | .started => some "audio_start_ms"
  | .stopped => some "audio_end_ms"
  | .committed => none

def speech_event (mark : SpeechMark) (event : Value) : Admission := do
  let id ← text event "item_id"
  require (∀ key ∈ stamp_key mark, (event.get key).any (·.as_u64.isSome) = true)
    (invalid "speech timestamp must be nonnegative integer")
  match event.get "reason" with
  | some reason =>
    require (is_omni a = false ∧ mark = .stopped ∧ reason = .string "turn_invalid")
      (invalid "unsupported speech stop reason")
    let s ← s.invalidate id
    pure (s, {})
  | none =>
    let s ← s.mark_speech mark id
    pure (s, {})

inductive TranscriptionPhase where
  | delta
  | completed
  | failed
deriving DecidableEq

def snapshot (phase : TranscriptionPhase) (event : Value) : Except String String :=
  match phase with
  | .failed => do
    require ((event.index "error").is_object = true) (invalid "ASR failure requires error object")
    pure ""
  | .completed => string event "transcript"
  | .delta => do
    let _ ← string event "stash"
    string event "text"

def ambient_transcription (id : String) : Except String DialogueServerState := do
  require (is_omni a = false ∧ id ∉ s.inputs ∧ id ∉ s.item_owners ∧ id ∉ s.conversation_items)
    (identity_error "ambient item collides with conversation ownership")
  require (s.ambient_inputs.card < MAX_INPUT_ITEMS ∨ id ∈ s.ambient_inputs) (invalid "ambient ledger full")
  pure { s with ambient_inputs := insert id s.ambient_inputs, ignored := true }

def input_transcription (phase : TranscriptionPhase) (id : String) (content : Nat) (text : String) :
    Except String DialogueServerState :=
  if id ∈ s.invalid_inputs ∨ (s.inputs.lookup id).any (·.abandoned) then pure { s with ignored := true }
  else do
    let (s, i) ← s.input id
    let stream := (i.transcripts.lookup content).getD {}
    require (stream.done = false) (identity_error "source transcript after terminal")
    let done := decide (phase ≠ .delta)
    let transcripts := i.transcripts.insert content { text, done }
    pure (s.put_input id { i with transcripts, ended := i.ended || done })

def transcribe (ambient : Bool) (phase : TranscriptionPhase) (id : String) (content : Nat) (text : String) :
    Except String DialogueServerState :=
  if ambient then s.ambient_transcription a id else s.input_transcription phase id content text

def transcription_event (ambient : Bool) (phase : TranscriptionPhase) (event : Value) : Admission := do
  let id ← text event "item_id"
  let content ← index event "content_index"
  let snapshot ← snapshot phase event
  require (snapshot.utf8ByteSize ≤ MAX_TEXT_BYTES) (invalid "source snapshot too large")
  let s ← s.transcribe a ambient phase id content snapshot
  pure (s, {})

/-! ## Response events -/

/-- The modalities that a new response names, or else those of the session. -/
def response_modalities (response : Value) (requested : Finset String) : Except String (Finset String) :=
  match response.get "modalities" with
  | some value => modalities value
  | none => pure requested

def response_created : Admission := do
  let response := event.index "response"
  let id ← text response "id"
  require (id ∉ s.responses) (identity_error "response ID reused")
  require ((∀ status ∈ response.get "status", status = .string "in_progress") ∧
      ∀ output ∈ response.get "output", output.as_array = some [])
    (invalid "invalid response.created status/output")
  require (s.cancelable_response_ids.length < MAX_ACTIVE_RESPONSES) (invalid "too many active responses")
  let requested ← modalities ((s.expected.getD .null).index "modalities")
  let actual ← response_modalities response requested
  require (actual ⊆ requested) (identity_error "response exceeds requested modalities")
  let (s, input_item) ← s.correlate_input event
  pure ({ s with
    responses := s.responses.insert id { prefer_audio := decide ("audio" ∈ actual), input_item }
    response_order := s.response_order ++ [id] }, {})

def text_kind_allowed (audio : Bool) (kind : String) : Bool :=
  kind == "audio" || (!audio && kind == "text")

def text_event (audio done : Bool) (event : Value) : Admission := do
  let id ← text event "response_id"
  let value ← string event (if !done then "delta" else if audio then "transcript" else "text")
  let r ← s.response_mut id
  let (s, p) ← s.part_mut event
  require (∀ kind ∈ p.part.kind, text_kind_allowed audio kind = true)
    (identity_error "text stream contradicts content type")
  let stream := (p.part.stream audio).getD {}
  require (stream.done = false) (identity_error "text event after stream terminal")
  let stream : TextStream := { text := if done then value else stream.text ++ value, done }
  require (stream.text.utf8ByteSize ≤ MAX_TEXT_BYTES) (invalid "output transcript too large")
  let s := s.put_part p (p.part.with_stream audio stream)
  if r.prefer_audio = audio then
    let text := s.selected_text id false
    pure (s, { normalized_text := text, completed_response_text := if done then text else none })
  else pure ({ s with ignored := true }, {})

/-- A piece of sound has to be whole samples; the end of the sound carries none. -/
def check_media (done : Bool) (event : Value) : Except String Unit :=
  if done then .ok () else pcm codec event "delta"

def audio_event (done : Bool) (event : Value) : Admission := do
  let id ← text event "response_id"
  let r ← s.response_mut id
  require (r.prefer_audio = true) (identity_error "audio media in text-only response")
  check_media codec done event
  let (s, p) ← s.part_mut event
  require ((∀ kind ∈ p.part.kind, kind = "audio") ∧ p.part.audio ≠ some true)
    (identity_error "audio after terminal or wrong content type")
  pure (s.put_part p { p.part with audio := some done }, {})

/-- What an output item becomes when it is announced or done. -/
def step_item (done : Bool) (state : OutputItem) : Except String OutputItem :=
  if done = false then do
    require (state.announced = false ∧ state.parts.entries = [])
      (identity_error "duplicate/late output_item.added")
    pure { state with announced := true }
  else do
    require (∀ e ∈ state.parts.entries, part_terminal e.2 = true)
      (identity_error "item done before opened content terminal")
    pure { state with done := true }

def output_item_event (done : Bool) (event : Value) : Admission := do
  let id ← text event "response_id"
  let output ← index event "output_index"
  let item := event.index "item"
  let item_id ← text item "id"
  require (item.get_str "type" = some "message" ∧ item.get_str "role" = some "assistant")
    (invalid "only assistant message items supported")
  let (s, state) ← s.item_mut id output item_id
  let state ← step_item done state
  validate_item_summary item state
  pure (s.put_item id output state, {})

/-- What a part becomes when it is announced or done. -/
def step_part (done : Bool) (part : Value) (p : OutputPart) : Except String OutputPart :=
  if done = false then do
    require (p.announced = false ∧ p.text = none ∧ p.transcript = none ∧ p.audio = none)
      (identity_error "duplicate/late content_part.added")
    require (∀ key ∈ ["text", "transcript"], ∀ v ∈ part.get key, v = .string "")
      (invalid "new content must have empty initial text")
    pure { p with announced := true }
  else do
    require (part_streams_terminal p = true) (identity_error "content done before opened stream terminal")
    validate_part_summary part p
    pure { p with done := true }

def content_part_event (done : Bool) (event : Value) : Admission := do
  let part := event.index "part"
  let part_kind ← text part "type"
  require (part_kind ∈ ["text", "audio"]) (invalid "unsupported content part type")
  let (s, p) ← s.part_mut event
  require ((∀ kind ∈ p.part.kind, kind = part_kind) ∧
      ¬ (part_kind = "text" ∧ (p.part.audio.isSome ∨ p.part.transcript.isSome)))
    (identity_error "content part type rebound")
  let stepped ← step_part done part p.part
  pure (s.put_part p { stepped with kind := some part_kind }, {})

def validate_output_entry (r : ResponseState) (status : String) (e : Value × Nat) : Except String Unit := do
  let state ← expect (r.items.lookup e.2) (identity_error "response.output index differs")
  require (e.1.get_str "id" = some state.id) (identity_error "response.output item differs")
  if status = "completed" then validate_item_summary e.1 state else validate_terminal_item_identity e.1 state

def validate_output (r : ResponseState) (status : String) (response : Value) : Except String Unit :=
  match response.get "output" with
  | none => pure ()
  | some output => do
    let output ← expect output.as_array (invalid "response.output must be array")
    require (status = "completed" → output.length = r.items.entries.length)
      (identity_error "response.output identity count differs")
    output.zipIdx.forM (validate_output_entry r status)

def MAX_RESPONSES : Nat := 1024

/-- The oldest response that is done is forgotten, with the items that it owns. -/
def retire_response (old : String) : DialogueServerState :=
  { s with
    response_order := s.response_order.erase old
    responses := s.responses.erase old
    item_owners := retain_values (fun owner => owner.1 != old) s.item_owners }

/-- Each round takes one response out of the order, so there are no more rounds than it is long. -/
def retire_responses : Nat → DialogueServerState → DialogueServerState
  | 0, s => s
  | rounds + 1, s =>
    if s.response_order.length ≤ MAX_RESPONSES then s
    else
      match s.response_order.find? fun id => (s.responses.lookup id).any (·.done) with
      | some old => retire_responses rounds (s.retire_response old)
      | none => s

/-- Whether an item keeps a response from being completed. -/
def item_open (i : OutputItem) : Bool :=
  (i.announced && !i.done) || i.parts.entries.any fun e => !part_terminal e.2

def response_done (event : Value) : Admission := do
  let response := event.index "response"
  let id ← text response "id"
  let status ← text response "status"
  require (status ∈ ["completed", "cancelled", "failed", "incomplete"])
    (invalid "unsupported response terminal status")
  let r ← s.response_mut id
  require (status = "completed" → ∀ e ∈ r.items.entries, item_open e.2 = false)
    (identity_error "completed response before children terminal")
  validate_output r status response
  let text := s.selected_text id true
  -- the ledger keeps the identities and drops the texts
  let s := { s with responses := s.responses.insert id r.finished }
  pure (retire_responses s.response_order.length s,
    { normalized_text := text
      completed_response_text := if status = "completed" then text else none
      response_completed := true
      response_terminal_status := some status })

end DialogueServerState

/-! ## Events -/

inductive EventKind where
  | session_created
  | session_updated
  | error
  | buffer_cleared
  | conversation_item_created
  | speech (mark : DialogueServerState.SpeechMark)
  | transcription (ambient : Bool) (phase : DialogueServerState.TranscriptionPhase)
  | response_created
  | text (audio done : Bool)
  | audio (done : Bool)
  | output_item (done : Bool)
  | content_part (done : Bool)
  | response_done
  | other
deriving DecidableEq

/-- The events of the implemented subset. -/
def EVENT_KINDS : List (String × EventKind) :=
  [("session.created", .session_created),
    ("session.updated", .session_updated),
    ("error", .error),
    ("input_audio_buffer.cleared", .buffer_cleared),
    ("conversation.item.created", .conversation_item_created),
    ("input_audio_buffer.speech_started", .speech .started),
    ("input_audio_buffer.speech_stopped", .speech .stopped),
    ("input_audio_buffer.committed", .speech .committed),
    ("conversation.item.input_audio_transcription.delta", .transcription false .delta),
    ("conversation.item.input_audio_transcription.completed", .transcription false .completed),
    ("conversation.item.input_audio_transcription.failed", .transcription false .failed),
    ("conversation.item.ambient_audio_transcription.delta", .transcription true .delta),
    ("conversation.item.ambient_audio_transcription.completed", .transcription true .completed),
    ("response.created", .response_created),
    ("response.text.delta", .text false false),
    ("response.text.done", .text false true),
    ("response.audio_transcript.delta", .text true false),
    ("response.audio_transcript.done", .text true true),
    ("response.audio.delta", .audio false),
    ("response.audio.done", .audio true),
    ("response.output_item.added", .output_item false),
    ("response.output_item.done", .output_item true),
    ("response.content_part.added", .content_part false),
    ("response.content_part.done", .content_part true),
    ("response.done", .response_done)]

def EventKind.parse (kind : String) : EventKind := (EVENT_KINDS.lookup kind).getD .other

namespace DialogueServerState

variable (codec : Codec) (a : AuthorizedModelProtocolProfile) (s : DialogueServerState)

variable (event : Value)

/-- The events of an active session. -/
def apply_active : EventKind → Admission
  | .conversation_item_created => s.conversation_item_created event
  | .speech mark => s.speech_event a mark event
  | .transcription ambient phase => s.transcription_event a ambient phase event
  | .response_created => s.response_created event
  | .text audio done => s.text_event audio done event
  | .audio done => s.audio_event codec done event
  | .output_item done => s.output_item_event done event
  | .content_part done => s.content_part_event done event
  | .response_done => s.response_done event
  | .buffer_cleared => pure (s, {})
  | _ => .error (invalid "server event outside implemented dialogue subset")

def apply (kind : EventKind) : Admission :=
  match kind with
  | .session_created => s.session_created a event
  | .session_updated => s.session_updated a event
  | .error => s.error_event event
  | kind => do
    require (s.active = true) (invalid "dialogue event before session.updated")
    s.apply_active codec a event kind

/-- The last events are remembered by their ids. -/
def remember (event_id : Option String) (hash : String) : DialogueServerState :=
  match event_id with
  | none => s
  | some id =>
    let s := { s with seen := s.seen.insert id hash, recent_events := s.recent_events ++ [id] }
    match s.recent_events with
    | old :: rest =>
      if s.recent_events.length > 4096 then { s with seen := s.seen.erase old, recent_events := rest } else s
    | [] => s

def frame_kind (kind : String) : ModelProtocolFrameKind :=
  if kind = "response.audio.delta" then .json_base64 else .json

/-- The state in which an event is applied. -/
def renewed : Except String DialogueServerState := do
  let next ← s.bind codec a
  pure { next with ignored := false, invalidated_item := none }

def admit_frame (frame : ModelProtocolFrameKind) : Admission := do
  let kind ← text event "type"
  require (frame = frame_kind kind) (invalid "wrong logical dialogue frame kind")
  admit_model_protocol_event a .server kind frame
  let event_id ← optional_event_id event
  let hash := sha256_canonical_json codec event
  let next ← s.renewed codec a
  match event_id.bind next.seen.lookup with
  | some old =>
    require (old = hash) (identity_error "event_id replay has different payload")
    pure ({ next with ignored := true }, {})
  | none =>
    let (next, result) ← next.apply codec a event (.parse kind)
    pure (next.remember event_id hash, result)

def admit_event : Admission :=
  s.admit_frame codec a event (frame_kind ((event.get_str "type").getD ""))

/-! ## Runs -/

inductive Op where
  | update (a : AuthorizedModelProtocolProfile) (event : Value)
  | server (a : AuthorizedModelProtocolProfile) (event : Value)
  | abandon (item_id : String) (response_create_sent : Bool)

/-- A call that is refused leaves the state as it was. -/
def step : Op → DialogueServerState
  | .update a event => (s.record_client_session_update codec a event).toOption.getD s
  | .server a event => ((s.admit_event codec a event).toOption.map (·.1)).getD s
  | .abandon item_id sent => (s.abandon_manual_input item_id sent).toOption.getD s

end DialogueServerState

end omni_translate.bailian_dialogue

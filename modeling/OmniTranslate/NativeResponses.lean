-- The owners of the provider's responses, from `audio/omni/protocol.rs`: which cue a response
-- streams into, which cues still wait for one, and what `handle_response_done` does with the cue
-- when the response is over.
import OmniTranslate.LiveTranslateEvents
import OmniTranslate.ResponseLedger
import OmniTranslate.TranslationLifecycle

namespace omni_translate.native_responses

open json runs response_ledger
open bailian_protocol (native_response_id_from_event)
open translation_lifecycle (saturating_succ)

def MAX_NATIVE_RESPONSE_OWNERS : Nat := 32
def SHORT_SERVER_VAD_FRAGMENT_MAX_MS : Nat := 100
def NONEMPTY_EMPTY_TRANSLATION_SCRIPT_ANOMALY_MAX_CHARS : Nat := 4
def IGNORABLE_DISCOURSE_ACK_MAX_MS : Nat := 500

def to_ascii_lowercase (s : String) : String := String.ofList (s.toList.map Char.toLower)

def eq_ignore_ascii_case (s t : String) : Bool := to_ascii_lowercase s = to_ascii_lowercase t

/-! ## The metadata of a `response.done` -/

mutual

def output_value_has_completed_status : Value → Bool
  | .array items => any_has_completed_status items
  | .object fields =>
    ((fields.lookup "status").bind Value.as_str).any (eq_ignore_ascii_case · "completed") ||
      ["content", "item", "part", "output"].any fun key =>
        ((fields_have_completed_status fields).lookup key).getD false
  | _ => false

def any_has_completed_status : List Value → Bool
  | [] => false
  | value :: values => output_value_has_completed_status value || any_has_completed_status values

/-- The fields, each with whether its value is completed. -/
def fields_have_completed_status : List (String × Value) → List (String × Bool)
  | [] => []
  | (key, value) :: fields =>
    (key, output_value_has_completed_status value) :: fields_have_completed_status fields

end

structure ResponseDoneMetadata where
  response_id : String
  status : String
  reason : String
  completed_output : Bool
deriving DecidableEq

namespace ResponseDoneMetadata

def from_event (event : Value) : ResponseDoneMetadata where
  response_id := (native_response_id_from_event event).getD "(none)"
  status :=
    let status := ((event.pointer ["response", "status"]).or (event.get "status")).bind Value.as_str
    to_ascii_lowercase (trim (status.getD "unknown"))
  reason :=
    let reason := [["response", "status_details", "reason"],
      ["response", "status_details", "error", "code"],
      ["response", "status_details", "error", "message"], ["error", "code"],
      ["error", "message"]].findSome? fun path => (event.pointer path).bind Value.as_str
    trim ((reason.filter (!blank ·)).getD "(none)")
  completed_output :=
    (event.pointer ["response", "output"]).any output_value_has_completed_status ||
      (event.get "item").any output_value_has_completed_status ||
      (event.get "part").any output_value_has_completed_status

variable (metadata : ResponseDoneMetadata)

def is_cancelled : Bool := metadata.status = "cancelled" ∨ metadata.status = "canceled"

def is_failed : Bool :=
  metadata.status = "failed" ∨ metadata.status = "incomplete" ∨ metadata.status = "interrupted"

def allows_final_output (require_completed_status : Bool) : Bool :=
  if metadata.is_cancelled ∨ metadata.is_failed then false
  else if require_completed_status then metadata.status = "completed"
  else metadata.status = "completed" ∨ metadata.completed_output ∨ metadata.status = "unknown" ∨
    metadata.status = ""

end ResponseDoneMetadata

/-! ## The text of a `response.done` -/

/-- The first of the keys under which there is a text that says something. -/
def first_text (keys : List String) (fields : List (String × Value)) : Option String :=
  keys.findSome? fun key => ((fields.lookup key).bind Value.as_str).filter (!blank ·)

mutual

def append_nested_response_text : Value → String
  | .array items => append_all_response_text items
  | .object fields =>
    match first_text ["text", "transcript", "output_text", "audio_transcript"] fields with
    | some text => text
    | none => String.join (["part", "item", "content", "output"].map fun key =>
        ((fields_response_text fields).lookup key).getD "")
  | _ => ""

def append_all_response_text : List Value → String
  | [] => ""
  | value :: values => append_nested_response_text value ++ append_all_response_text values

/-- The fields, each with the text of its value. -/
def fields_response_text : List (String × Value) → List (String × String)
  | [] => []
  | (key, value) :: fields => (key, append_nested_response_text value) :: fields_response_text fields

end

def extract_response_done_text (event : Value) : String :=
  match first_text ["text", "transcript", "output_text"] (event.as_object.getD []) with
  | some text => text
  | none =>
    (["part", "item", "response"].findSome? fun key =>
      ((event.get key).map append_nested_response_text).filter (· ≠ "")).getD ""

/-! ## Omissions -/

def source_language_is_english (source_language : String) : Bool :=
  eq_ignore_ascii_case (String.ofList (source_language.toList.takeWhile fun c => c ≠ '-' ∧ c ≠ '_')) "en"

def is_ignored_short_server_vad (duration_ms : Option Nat) : Bool :=
  duration_ms.any fun duration_ms => duration_ms ≤ SHORT_SERVER_VAD_FRAGMENT_MAX_MS

def is_han (c : Char) : Bool :=
  (0x3400 ≤ c.toNat && c.toNat ≤ 0x4dbf) || (0x4e00 ≤ c.toNat && c.toNat ≤ 0x9fff)

def is_nonempty_empty_translation_script_anomaly (source_language source_text : String) : Bool :=
  let source_text := (trim source_text).toList
  source_language_is_english source_language && source_text.any is_han &&
    !source_text.any Char.isAlpha &&
    decide (source_text.length ≤ NONEMPTY_EMPTY_TRANSLATION_SCRIPT_ANOMALY_MAX_CHARS)

def is_ignorable_completed_discourse_omission (source_language source_text : String) (source_final : Bool)
    (response_status : String) (vad_duration_ms : Option Nat) : Bool :=
  source_language_is_english source_language && source_final && response_status == "completed" &&
    vad_duration_ms.any (fun duration_ms => duration_ms ≤ IGNORABLE_DISCOURSE_ACK_MAX_MS) &&
    eq_ignore_ascii_case (trim source_text) "Okay."

/-! ## Owners -/

structure NativeResponseOwner where
  cue_id : String
  input_item_id : Option String
  response_id : Option String
  audio_start_ms : Option Nat
  audio_end_ms : Option Nat
  continuity_id : Nat
deriving DecidableEq

structure IgnoredNativeResponseOwner where
  cue_id : String
  input_item_id : String
deriving DecidableEq

/-- A response without a text whose end waits for the speech after it. -/
structure DeferredEmptyVadTerminal where
  cue_id : String
  input_item_id : String
  source_text : String
  translated_text : String
  response_cue_exists : Bool
  response_metadata : ResponseDoneMetadata
  audio_start_ms : Nat
  audio_end_ms : Nat
  continuity_id : Nat
  nonempty_micro_fragment : Bool
  cross_continuity_zero_gap_eligible : Bool
deriving DecidableEq

/-- The fields of the diagnostics that the ownership of responses depends on. -/
structure OmniEventDiagnostics where
  current_vad_audio_start_ms : Option Nat
  current_vad_audio_end_ms : Option Nat
  source_continuity_id : Nat
  native_response_cue_id : Option String
  native_response_item_id : Option String
  native_response_id : Option String
  native_response_audio_start_ms : Option Nat
  native_response_audio_end_ms : Option Nat
  native_response_continuity_id : Option Nat
  pending_native_response_owners : List NativeResponseOwner
  completed_native_response_owners : List NativeResponseOwner
  ignored_native_response_owners : List IgnoredNativeResponseOwner
  deferred_empty_vad_terminal : Option DeferredEmptyVadTerminal
  /-- `trailing_empty_vad.ownership_contradiction` -/
  ownership_contradiction : Bool
  response_ledger : ResponseLedger
  response_done_count : Nat
deriving DecidableEq

/-- `VecDeque`: the oldest owners go when there are too many. -/
def keep_newest {α : Type} (owners : List α) : List α :=
  owners.drop (owners.length - MAX_NATIVE_RESPONSE_OWNERS)

/-- The ids of a provider event. -/
structure EventIds where
  response_id : Option String
  source_item_id : Option String
  translation_item_id : Option String
deriving DecidableEq

def event_ids (event : Value) : EventIds where
  response_id := native_response_id_from_event event
  source_item_id :=
    [["response", "input_item_id"], ["response", "source_item_id"], ["input_item_id"],
      ["source_item_id"]].findSome? fun path => (event.pointer path).bind Value.as_str
  translation_item_id :=
    ((event.pointer ["item", "id"]).or
      ((event.pointer ["response", "output_item", "id"]).or (event.get "output_item_id"))).bind Value.as_str

def EventIds.normalized (ids : EventIds) : EventIds :=
  ⟨normalized_id ids.response_id, normalized_id ids.source_item_id, normalized_id ids.translation_item_id⟩

def EventIds.has_provider_lineage (ids : EventIds) : Bool :=
  ids.response_id.isSome ∨ ids.source_item_id.isSome ∨ ids.translation_item_id.isSome

namespace OmniEventDiagnostics

variable (d : OmniEventDiagnostics)

def clear_native_response_owners : OmniEventDiagnostics :=
  { d with
    native_response_cue_id := none
    native_response_item_id := none
    native_response_id := none
    native_response_audio_start_ms := none
    native_response_audio_end_ms := none
    native_response_continuity_id := none
    pending_native_response_owners := []
    completed_native_response_owners := []
    ignored_native_response_owners := []
    deferred_empty_vad_terminal := none
    ownership_contradiction := false
    response_ledger := d.response_ledger.clear }

/-- A pending owner is heard again. -/
def refresh_owner (input_item_id : Option String) (owner : NativeResponseOwner) : NativeResponseOwner :=
  { owner with
    input_item_id := owner.input_item_id.or input_item_id
    audio_start_ms := d.current_vad_audio_start_ms
    audio_end_ms := d.current_vad_audio_end_ms
    continuity_id := d.source_continuity_id }

def capture_native_response_owner (cue_id : String) (input_item_id : Option String) : OmniEventDiagnostics :=
  let d := { d with response_ledger := d.response_ledger.record_source cue_id input_item_id }
  if d.native_response_cue_id = some cue_id then
    { d with
      native_response_item_id := d.native_response_item_id.or input_item_id
      native_response_audio_start_ms := d.current_vad_audio_start_ms
      native_response_audio_end_ms := d.current_vad_audio_end_ms
      native_response_continuity_id := some d.source_continuity_id }
  else
    match d.pending_native_response_owners.findIdx? (·.cue_id = cue_id) with
    | some index =>
      { d with
        pending_native_response_owners :=
          d.pending_native_response_owners.modify index (d.refresh_owner input_item_id) }
    | none =>
      { d with
        pending_native_response_owners := d.pending_native_response_owners ++
          [⟨cue_id, input_item_id, none, d.current_vad_audio_start_ms, d.current_vad_audio_end_ms,
            d.source_continuity_id⟩] }

/-- The response streams into the cue of its owner from now on. -/
def take_owner (response_id : Option String) (owner : NativeResponseOwner) : OmniEventDiagnostics :=
  { d with
    native_response_cue_id := some owner.cue_id
    native_response_item_id := owner.input_item_id
    native_response_id := owner.response_id.or response_id
    native_response_audio_start_ms := owner.audio_start_ms
    native_response_audio_end_ms := owner.audio_end_ms
    native_response_continuity_id := some owner.continuity_id }

/-- The owner of a lineage, with the owners that are still pending. A response may be there before its
speech has stopped: then its owner is made from the lineage. -/
def lineage_owner (lineage : ResponseLineage) : OmniEventDiagnostics × NativeResponseOwner :=
  match d.pending_native_response_owners.find? (·.cue_id = lineage.cue_id) with
  | some owner =>
    ({ d with
      pending_native_response_owners :=
        d.pending_native_response_owners.eraseP (·.cue_id = lineage.cue_id) }, owner)
  | none =>
    (d, ⟨lineage.cue_id, lineage.source_item_id, lineage.response_id, none, none, d.source_continuity_id⟩)

/-- The owner of an event without an id: the oldest pending one, or the cue that is being spoken. -/
def anonymous_owner (fallback_cue_id : Option String) : OmniEventDiagnostics × Option NativeResponseOwner :=
  match d.pending_native_response_owners with
  | owner :: owners => ({ d with pending_native_response_owners := owners }, some owner)
  | [] =>
    (d, fallback_cue_id.map fun cue_id => ⟨cue_id, none, none, none, none, d.source_continuity_id⟩)

def is_completed_response (response_id : Option String) : Bool :=
  response_id.any fun response_id =>
    d.completed_native_response_owners.any (·.response_id = some response_id)

def claim_native_response_owner (ids : EventIds) (fallback_cue_id : Option String) : OmniEventDiagnostics :=
  let ids := ids.normalized
  let bound := d.response_ledger.bind_response ids.response_id ids.source_item_id ids.translation_item_id
    fallback_cue_id
  let d := { d with response_ledger := bound.1 }
  if ids.has_provider_lineage ∧ bound.2 = none then { d with ownership_contradiction := true }
  else if d.is_completed_response ids.response_id then d
  else if d.native_response_cue_id.isSome then
    { d with native_response_id := d.native_response_id.or ids.response_id }
  else
    match bound.2 with
    | some lineage =>
      let (d, owner) := d.lineage_owner lineage
      d.take_owner ids.response_id owner
    | none =>
      match d.anonymous_owner fallback_cue_id with
      | (d, some owner) => d.take_owner ids.response_id owner
      | (d, none) => d

def claim_native_response_owner_for_event (event : Value) (fallback_cue_id : Option String) :
    OmniEventDiagnostics :=
  d.claim_native_response_owner (event_ids event) fallback_cue_id

def native_response_vad_duration_ms : Option Nat := do
  let audio_end_ms ← d.native_response_audio_end_ms
  let audio_start_ms ← d.native_response_audio_start_ms
  if audio_start_ms ≤ audio_end_ms then some (audio_end_ms - audio_start_ms) else none

def register_ignored_native_response_owner : OmniEventDiagnostics :=
  match d.native_response_cue_id, d.native_response_item_id with
  | some cue_id, some input_item_id =>
    if blank cue_id ∨ blank input_item_id then d
    else
      { d with
        ignored_native_response_owners := keep_newest
          ((d.ignored_native_response_owners.filter fun owner =>
            owner.cue_id ≠ cue_id ∧ owner.input_item_id ≠ input_item_id) ++ [⟨cue_id, input_item_id⟩]) }
  | _, _ => d

def complete_native_response_owner : OmniEventDiagnostics :=
  let d := { d with response_ledger := d.response_ledger.complete_response d.native_response_id }
  match d.native_response_cue_id with
  | none => { d with native_response_item_id := none, native_response_id := none }
  | some cue_id =>
    { d with
      native_response_cue_id := none
      native_response_item_id := none
      native_response_id := none
      native_response_audio_start_ms := none
      native_response_audio_end_ms := none
      native_response_continuity_id := none
      completed_native_response_owners := keep_newest (d.completed_native_response_owners ++
        [⟨cue_id, d.native_response_item_id, d.native_response_id, d.native_response_audio_start_ms,
          d.native_response_audio_end_ms, d.native_response_continuity_id.getD 0⟩]) }

end OmniEventDiagnostics

/-! ## The end of a response -/

/-- What `handle_response_done` is given beside the event: the input that is being spoken, the settings
of the session and what it reads of the store. -/
structure Turn where
  source_language : String
  current_cue_id : Option String
  pending_source_text : String
  pending_translated_text : String
  subtitle_translate_active : Bool
  require_completed_status : Bool
  transcription_completed_flag : Bool
  /-- `next_omni_cue_id` -/
  next_cue_id : String
  /-- The recent cues of the overlay with their source texts. -/
  recent_cues : List (String × String)
  /-- The cues whose source is final. -/
  final_sources : List String

/-- What becomes of the cue of a response. -/
inductive Ending where
  | source_only (source_text : String)
  | skipped
  | committed (source_text translated_text : String)
  | short_vad_dropped
  | discourse_omission_ignored
  | deferred
  | failed (source_text failure_text : String)
deriving DecidableEq

structure Done where
  /-- The deferred end of an earlier response, which is settled first. -/
  flushed : Option DeferredEmptyVadTerminal
  cue_id : String
  ending : Ending
deriving DecidableEq

def NATIVE_EMPTY_TRANSLATION_FAILURE : String :=
  "[翻译失败] 实时模型已结束本轮响应，但没有返回可用译文。"

def NATIVE_CANCELLED_TRANSLATION_FAILURE : String := "[翻译失败] 实时响应被后续语音打断。"

def NATIVE_FAILED_TRANSLATION_FAILURE : String := "[翻译失败] 实时模型未能完成本轮响应。"

def terminalize_native_response_without_output (source_text : String) (response_cue_exists : Bool)
    (metadata : ResponseDoneMetadata) : Ending :=
  if source_text = "" ∧ response_cue_exists = false then .skipped
  else if metadata.is_cancelled then .failed source_text NATIVE_CANCELLED_TRANSLATION_FAILURE
  else if metadata.is_failed then .failed source_text NATIVE_FAILED_TRANSLATION_FAILURE
  else .failed source_text NATIVE_EMPTY_TRANSLATION_FAILURE

def resolve_native_response_source_text (turn : Turn) (cue_id : String) : String :=
  if turn.current_cue_id = some cue_id ∧ blank turn.pending_source_text = false then turn.pending_source_text
  else (turn.recent_cues.lookup cue_id).getD ""

namespace OmniEventDiagnostics

variable (d : OmniEventDiagnostics)

/-- `defer_empty_vad_terminal`; nothing where the response has no item or no audio marks. -/
def defer_empty_vad_terminal (turn : Turn) (cue_id source_text translated_text : String)
    (response_cue_exists : Bool) (metadata : ResponseDoneMetadata) : Option OmniEventDiagnostics := do
  let input_item_id ← d.native_response_item_id
  let audio_start_ms ← d.native_response_audio_start_ms
  let audio_end_ms ← d.native_response_audio_end_ms
  let continuity_id ← d.native_response_continuity_id
  some { d with
    deferred_empty_vad_terminal := some {
      cue_id, input_item_id, source_text, translated_text, response_cue_exists
      response_metadata := metadata
      audio_start_ms, audio_end_ms, continuity_id
      nonempty_micro_fragment := !blank source_text
      cross_continuity_zero_gap_eligible := turn.transcription_completed_flag && blank source_text &&
        blank translated_text && metadata.status == "completed" } }

def take_deferred_empty_vad : OmniEventDiagnostics := { d with deferred_empty_vad_terminal := none }

/-- The end of a response that gave no translation. -/
def end_without_output (turn : Turn) (metadata : ResponseDoneMetadata)
    (cue_id source_text translated_text : String) : OmniEventDiagnostics × Ending :=
  let final_output_allowed := metadata.allows_final_output turn.require_completed_status
  let response_cue_exists := (turn.recent_cues.lookup cue_id).isSome
  let duration_ms := if final_output_allowed then d.native_response_vad_duration_ms else none
  let terminal := terminalize_native_response_without_output source_text response_cue_exists metadata
  if is_ignored_short_server_vad duration_ms then
    (d.register_ignored_native_response_owner, .short_vad_dropped)
  else if final_output_allowed ∧ response_cue_exists ∧ is_ignorable_completed_discourse_omission
      turn.source_language source_text (cue_id ∈ turn.final_sources) metadata.status duration_ms then
    (d.register_ignored_native_response_owner, .discourse_omission_ignored)
  else if final_output_allowed ∧ d.native_response_vad_duration_ms.isSome ∧ (blank source_text ∨
      (metadata.status = "completed" ∧
        is_nonempty_empty_translation_script_anomaly turn.source_language source_text)) then
    match d.defer_empty_vad_terminal turn cue_id source_text translated_text response_cue_exists
        metadata with
    | some d => (d, .deferred)
    | none => (d, terminal)
  else (d, terminal)

/-- The translation is left to the subtitle worker, or committed, or there is none. -/
def end_response (turn : Turn) (metadata : ResponseDoneMetadata)
    (cue_id source_text translated_text : String) : OmniEventDiagnostics × Ending :=
  if turn.subtitle_translate_active then
    (d, if source_text ≠ "" then .source_only source_text else .skipped)
  else if blank translated_text = false then (d, .committed source_text translated_text)
  else d.end_without_output turn metadata cue_id source_text translated_text

/-- The input of the turn is over when the response owns its cue. -/
def reset_manual_turn_input_state : OmniEventDiagnostics :=
  { d with current_vad_audio_start_ms := none, current_vad_audio_end_ms := none }

def handle_response_done (calibrate : String → String → String) (turn : Turn) (event : Value) :
    OmniEventDiagnostics × Done :=
  let flushed := d.deferred_empty_vad_terminal
  let d := d.take_deferred_empty_vad
  let metadata := ResponseDoneMetadata.from_event event
  let final_output_allowed := metadata.allows_final_output turn.require_completed_status
  let response_text := extract_response_done_text event
  let pending_translated_text :=
    if final_output_allowed ∧ blank turn.pending_translated_text ∧ blank response_text = false then
      response_text
    else turn.pending_translated_text
  let d := d.claim_native_response_owner_for_event event turn.current_cue_id
  let d := { d with response_done_count := saturating_succ d.response_done_count }
  let cue_id := (d.native_response_cue_id.or turn.current_cue_id).getD turn.next_cue_id
  let source_text := resolve_native_response_source_text turn cue_id
  let translated_text := if final_output_allowed then calibrate source_text pending_translated_text else ""
  let (d, ending) := d.end_response turn metadata cue_id source_text translated_text
  let d := if turn.current_cue_id = some cue_id then d.reset_manual_turn_input_state else d
  (d.complete_native_response_owner, ⟨flushed, cue_id, ending⟩)

end OmniEventDiagnostics

/-! ## Runs -/

inductive Op where
  /-- The marks of the speech that is heard. -/
  | hear (audio_start_ms audio_end_ms : Option Nat) (source_continuity_id : Nat)
  | capture (cue_id : String) (input_item_id : Option String)
  | claim (event : Value) (fallback_cue_id : Option String)
  | done (turn : Turn) (event : Value)

def step (calibrate : String → String → String) (d : OmniEventDiagnostics) : Op → OmniEventDiagnostics
  | .hear audio_start_ms audio_end_ms source_continuity_id =>
    { d with
      current_vad_audio_start_ms := audio_start_ms
      current_vad_audio_end_ms := audio_end_ms
      source_continuity_id }
  | .capture cue_id input_item_id => d.capture_native_response_owner cue_id input_item_id
  | .claim event fallback_cue_id => d.claim_native_response_owner_for_event event fallback_cue_id
  | .done turn event => (d.handle_response_done calibrate turn event).1

end omni_translate.native_responses

-- Which translator an old configuration gets as its primary one, twice: natively in
-- `storage/repository/primary_text_translation.rs`, and in the renderer in
-- `stores/app-store.ts`. Each looks for the one provider a reference can mean.
import OmniTranslate.ModelRegistry
import OmniTranslate.TextSearch

namespace omni_translate.primary_text_translation

open json model_registry

def LEGACY_ASR_MODELS : List String :=
  ["whisper-1", "gpt-realtime-whisper", "gpt-4o-transcribe", "gpt-4o-mini-transcribe",
    "qwen3-asr-flash-realtime", "qwen3-asr-flash", "qwen3-asr-flash-filetrans", "fun-asr-realtime",
    "fun-asr", "paraformer-realtime-v2", "paraformer-v2"]

def LEGACY_OPENAI_ASR_MODELS : List String :=
  ["whisper-1", "gpt-realtime-whisper", "gpt-4o-transcribe", "gpt-4o-mini-transcribe"]

def PRIMARY : String := "primaryTextTranslationModelId"

/-- The one element of a list of one. -/
def only {α : Type} : List α → Option α
  | [a] => some a
  | _ => none

/-! ## The native side -/

/-- The template a reference names, if it names one, and its model. -/
def split_reference (reference : String) : Option String × String :=
  match text.split_once "::".toList reference.toList with
  | some (template, model) => (some (String.ofList template), String.ofList model)
  | none => (none, reference)

def trimmed (model_id : String) : Bool := text.trim model_id.toList = model_id.toList

variable (provider : Value)

/-- `provider.get("enabled").and_then(Value::as_bool) == Some(false)` -/
def is_disabled : Bool := provider.get "enabled" = some (.bool false)

/-- An item of the list has the model as its `modelId`. -/
def has_model (model_id : String) (provider : Value) (list : String) : Bool :=
  (items_of provider list).any fun item => item.get_str "modelId" = some model_id

/-- An item of the list has the model among its `modelIds`. -/
def has_grouped (model_id : String) (provider : Value) (list : String) : Bool :=
  (items_of provider list).any fun item =>
    (items_of item "modelIds").any fun id => id.as_str = some model_id

def is_match (template_id : Option String) (model_id : String) (provider : Value) : Bool :=
  if is_disabled provider then false
  else
    match template_id with
    | some template => provider.get_str "templateId" = some template
    | none =>
      provider.get_str "model" = some model_id ||
        ["localModelCapabilityRegistry", "modelProtocolBindings"].any
          (has_model model_id provider) ||
        ["candidateModelGroups", "sceneModelAssignments"].any (has_grouped model_id provider)

def resolve_exact_model_value (config : Value) (reference : String) : Option (Value × String) :=
  let (template_id, model_id) := split_reference reference
  if model_id = "" || !trimmed model_id then none
  else do
    let providers ← (← config.get "providers").as_array
    let provider ← only (providers.filter (is_match template_id model_id))
    some (provider, model_id)

def legacy_asr_pipeline (model_id : String) : Bool :=
  if !LEGACY_ASR_MODELS.contains model_id then false
  else
    let openai := LEGACY_OPENAI_ASR_MODELS.contains model_id
    provider.get_str "kind" = some (if openai then "openai-compatible" else "dashscope")

def text_capability (model_id : String) : Bool :=
  (items_of provider "localModelCapabilityRegistry").any fun entry =>
    entry.get_str "modelId" = some model_id &&
      (items_of entry "capabilities").any fun cap => cap.as_str = some "text-generation"

section

-- The check of an operation of a provider for a model, of `provider_manifest.rs`.
variable (operation_allowed : Value → String → String → Bool)

def translates (provider : Value) (model : String) : Bool :=
  text_capability provider model || operation_allowed provider model "text-translation"

def recognises (provider : Value) (model : String) : Bool :=
  legacy_asr_pipeline provider model || operation_allowed provider model "asr"

/-- The text of a field of the devices, or the empty one. -/
def device_text (devices : List (String × Value)) (field : String) : String :=
  ((devices.lookup field).bind Value.as_str).getD ""

def eligible (config : Value) (devices : List (String × Value)) : Bool :=
  (resolve_exact_model_value config (device_text devices "subtitleTranslationModelId")).any
    fun found =>
      if !translates operation_allowed found.1 found.2 then false
      else
        ["inboundVoiceModelId", "outboundVoiceModelId"].any fun key =>
          (resolve_exact_model_value config (device_text devices key)).any
            fun asr => recognises operation_allowed asr.1 asr.2

/-- `config["devices"]["primaryTextTranslationModelId"] = value` -/
def set_primary (config : Value) (devices : List (String × Value)) (value : String) : Value :=
  match config with
  | .object fields =>
    .object (insert_field "devices" (.object (insert_field PRIMARY (.string value) devices)) fields)
  | other => other

def migrate_config (config : Value) : Value :=
  match (config.get "devices").bind Value.as_object with
  | none => config
  | some devices =>
    if (devices.lookup PRIMARY).isSome then config
    else
      set_primary config devices
        (if eligible operation_allowed config devices then
          device_text devices "subtitleTranslationModelId" else "")

end

/-! ## The renderer

`undefined` is no value, and no result stands for a `TypeError`. -/

/-- `a || b`, where `b` is not reached when `a` holds. -/
def either (a b : Option Bool) : Option Bool := do if ← a then some true else b

/-- `items.some(test)` -/
def some_where {α : Type} (test : α → Option Bool) : List α → Option Bool
  | [] => some false
  | v :: vs => either (test v) (some_where test vs)

/-- `items.filter(test)` -/
def filter_where {α : Type} (test : α → Option Bool) : List α → Option (List α)
  | [] => some []
  | v :: vs => do
    let keep ← test v
    let rest ← filter_where test vs
    some (if keep then v :: rest else rest)

/-- `list?.some(test)` -/
def optional_some (list : Option Value) (test : Value → Option Bool) : Option Bool :=
  match nullish list with
  | none => some false
  | some (.array items) => some_where test items
  | some _ => none

/-- `v.field` -/
def member (v : Value) (field : String) : Option (Option Value) :=
  if v.is_null then none else some (v.get field)

/-- `list.includes(s)`, also of a text. -/
def includes (list : Option Value) (s : String) : Option Bool :=
  match list with
  | some (.array items) => some (items.any fun item => strict_equal (some item) (some (.string s)))
  | some (.string t) => some (text.index_of s.toList t.toList).isSome
  | _ => none

/-- `v === s` -/
def is_text (v : Option Value) (s : String) : Bool := strict_equal v (some (.string s))

/-- The template and the model by `indexOf` and `slice`. -/
def slice_reference (reference : String) : Option String × String :=
  let t := reference.toList
  match text.index_of "::".toList t with
  | none => (none, reference)
  | some separator =>
    (some (String.ofList (t.take separator)), String.ofList (t.drop (separator + 2)))

def js_trimmed (model_id : String) : Bool := text.js_trim model_id.toList = model_id.toList

def entry_has (model_id : String) (entry : Value) : Option Bool := do
  some (is_text (← member entry "modelId") model_id)

def group_has (model_id : String) (group : Value) : Option Bool := do
  includes (← member group "modelIds") model_id

def is_candidate (template_id : Option String) (model_id : String) (provider : Value) :
    Option Bool := do
  if strict_equal (← member provider "enabled") (some (.bool false)) then some false
  else
    match template_id with
    | some template => some (is_text (provider.get "templateId") template)
    | none =>
      either (some (is_text (provider.get "model") model_id))
        (either (optional_some (provider.get "localModelCapabilityRegistry") (entry_has model_id))
          (either (optional_some (provider.get "modelProtocolBindings") (entry_has model_id))
            (optional_some (provider.get "candidateModelGroups") (group_has model_id))))

/-- `config.providers ?? []`, of which only an array has `filter`. -/
def provider_list (config : Value) : Option (List Value) :=
  match nullish (config.get "providers") with
  | none => some []
  | some v => v.as_array

/-- `exactMigrationModel`. What is not a text has no `indexOf` or no `trim`. -/
def exact_migration_model (config : Value) (reference : Value) : Option (Option (Value × String)) :=
  match reference with
  | .string s =>
    let (template_id, model_id) := slice_reference s
    if model_id = "" || !js_trimmed model_id then some none
    else do
      let providers ← provider_list config
      let found ← filter_where (is_candidate template_id model_id) providers
      some ((only found).map fun provider => (provider, model_id))
  | _ => none

/-- `legacyAsrPipeline` -/
def is_legacy_asr (model_id : String) : Bool :=
  LEGACY_ASR_MODELS.contains model_id &&
    if LEGACY_OPENAI_ASR_MODELS.contains model_id then
      is_text (provider.get "kind") "openai-compatible"
    else is_text (provider.get "kind") "dashscope"

def entry_translates (model_id : String) (entry : Value) : Option Bool := do
  if is_text (← member entry "modelId") model_id then
    includes (entry.get "capabilities") "text-generation"
  else some false

/-- `config.devices[field] ?? ''` -/
def reference_of (devices : Value) (field : String) : Value :=
  (nullish (devices.get field)).getD (.string "")

section

-- The renderer's own check, which catches what its registry throws.
variable (operation_allowed : Value → String → String → Bool)

def voice_recognises (config devices : Value) (field : String) : Option Bool := do
  match ← exact_migration_model config (reference_of devices field) with
  | none => some false
  | some (provider, model_id) =>
    some (is_legacy_asr provider model_id || operation_allowed provider model_id "asr")

def migrate_primary_text_translation_model (config : Value) : Option Value := do
  let devices ← nullish (config.get "devices")
  match devices.get PRIMARY with
  | some primary => some primary
  | none =>
    match ← exact_migration_model config (reference_of devices "subtitleTranslationModelId") with
    | none => some (.string "")
    | some (provider, model_id) => do
      let has_text ← either
        (optional_some (provider.get "localModelCapabilityRegistry") (entry_translates model_id))
        (some (operation_allowed provider model_id "text-translation"))
      if !has_text then some (.string "")
      else do
        let has_asr_pipeline ← some_where (voice_recognises operation_allowed config devices)
          ["inboundVoiceModelId", "outboundVoiceModelId"]
        some (if has_asr_pipeline then devices.index "subtitleTranslationModelId" else .string "")

end

end omni_translate.primary_text_translation

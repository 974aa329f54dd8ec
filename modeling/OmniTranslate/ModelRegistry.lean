-- The migration of a provider's model registry to version 2, twice: natively in
-- `storage/repository/model_registry.rs`, and in the renderer in
-- `utils/provider-model-capabilities-registry.ts`. Both compare the rows of the
-- old registry with the frozen seeds of the last version.
import OmniTranslate.JsonEdits
import OmniTranslate.JsonText

namespace omni_translate.model_registry

open json

/-- The advisory fields, in the order of both sources. -/
def fields : List String :=
  ["capabilities", "interactionCapabilities", "apiModes", "realtimeAudioMode", "notes", "hidden",
    "displayName"]

def VERSION : Value := .number (.pos 2)

/-- The provider with its version and its overrides. -/
def upgraded (provider : List (String × Value)) (overrides : List Value) : Value :=
  .object (insert_field "modelCapabilityOverrides" (.array overrides)
    (insert_field "modelRegistryVersion" VERSION provider))

/-! ## The native side -/

/-- The items of a field that is an array. -/
def items_of (v : Value) (field : String) : List Value := ((v.get field).bind Value.as_array).getD []

def is_manual (row : Value) : Bool := row.index "source" = .string "manual"

def seed_of (seeds : List Value) (row : Value) : Option Value :=
  seeds.find? fun seed =>
    !is_manual row && (seed.get "modelId" = row.get "modelId" && seed.get "id" = row.get "id")

/-- The fields of a row that are not as the baseline has them. -/
def changed (row : Value) (baseline : String → Option Value) (delta : List (String × Value))
    (field : String) : List (String × Value) :=
  match row.get field with
  | none => delta
  | some value => if some value = baseline field then delta else insert_field field value delta

def native_baseline (seed : Value) (field : String) : Option Value :=
  seed.get field <|> if field = "realtimeAudioMode" then some (.string "server_vad") else none

/-- The override of one row, if it needs one. -/
def native_override (seeds : List Value) (row : Value) : Option Value :=
  match seed_of seeds row with
  | none =>
    let source := if is_manual row then "user" else "legacy"
    some (.object (fields.foldl (changed row fun _ => none)
      [("modelId", row.index "modelId"), ("source", .string source)]))
  | some seed =>
    let delta := fields.foldl (changed row (native_baseline seed))
      [("modelId", row.index "modelId"), ("source", .string "legacy")]
    if delta.length > 2 then some (.object delta) else none

def migrate_provider (seeds : List Value) (provider : Value) : Value :=
  if (provider.get "modelRegistryVersion").bind Value.as_u64 = some 2 then provider
  else
    let overrides := items_of provider "modelCapabilityOverrides" ++
      (items_of provider "localModelCapabilityRegistry").filterMap (native_override seeds)
    match provider with
    | .object object => upgraded object overrides
    | other => other

/-! ## The renderer

`undefined` is no value, and no result stands for a `TypeError`. -/

/-- `===`. Two objects that are equal this way are one object, so values of two documents are not. -/
def strict_equal : Option Value → Option Value → Bool
  | none, none => true
  | some .null, some .null => true
  | some (.bool a), some (.bool b) => a == b
  | some (.number a), some (.number b) => a.value == b.value
  | some (.string a), some (.string b) => a == b
  | _, _ => false

/-- What an iteration over `value ?? []` gives. -/
def iterate : Option Value → Option (List Value)
  | none => some []
  | some .null => some []
  | some (.array items) => some items
  | some (.string s) => some (s.toList.map fun c => .string (String.singleton c))
  | some _ => none

def nullish : Option Value → Option Value
  | some .null => none
  | v => v

section

variable (numerals : Numerals)

/-- `JSON.stringify(left) === JSON.stringify(right)`, where `undefined` has no text. -/
def same (left right : Option Value) : Bool :=
  left.map (stringify numerals) = right.map (stringify numerals)

/-- An override while it is built. The keys of the object are `modelId`, `source` and the
advisory ones. -/
structure Delta where
  model_id : Option Value
  source : String
  advisory : List (String × Value)

/-- The override as JSON has it, without a field that is `undefined`. -/
def Delta.to_value (d : Delta) : Value :=
  .object ((d.model_id.map fun v => ("modelId", v)).toList ++
    ("source", .string d.source) :: d.advisory)

def advisory_fields (row : Value) : List (String × Value) :=
  fields.filterMap fun field => (row.get field).map fun v => (field, v)

def renderer_baseline (seed : Value) (field : String) : Option Value :=
  if field = "realtimeAudioMode" then
    (nullish (seed.get field)).or (some (.string "server_vad"))
  else seed.get field

def renderer_delta (seed row : Value) : List (String × Value) :=
  fields.foldl (fun delta field =>
    match row.get field with
    | some v =>
      if same numerals (some v) (renderer_baseline seed field) then delta
      else insert_field field v delta
    | none => delta) []

/-- One turn of the loop over the rows. -/
def renderer_override (seeds : List Value) (row : Value) : Option (Option Delta) :=
  if row.is_null then none
  else
    let manual := strict_equal (row.get "source") (some (.string "manual"))
    match seeds.find? fun candidate =>
        strict_equal (candidate.get "modelId") (row.get "modelId") &&
          strict_equal (candidate.get "id") (row.get "id") with
    | none =>
      some (some ⟨row.get "modelId", if manual then "user" else "legacy", advisory_fields row⟩)
    | some seed =>
      if manual then some (some ⟨row.get "modelId", "user", advisory_fields row⟩)
      else
        let delta := renderer_delta numerals seed row
        some (if delta.length + 2 > 2 then some ⟨row.get "modelId", "legacy", delta⟩ else none)

/-- `migrateProviderModelRegistry`. A provider is an object. -/
def migrate_provider_model_registry (seeds : List Value) (provider : List (String × Value)) :
    Option Value :=
  if strict_equal (provider.lookup "modelRegistryVersion") (some VERSION) then
    some (.object provider)
  else do
    let overrides ← iterate (provider.lookup "modelCapabilityOverrides")
    let rows ← iterate (provider.lookup "localModelCapabilityRegistry")
    let deltas ← rows.mapM (renderer_override numerals seeds)
    some (upgraded provider (overrides ++ deltas.filterMap (·.map Delta.to_value)))

end

end omni_translate.model_registry

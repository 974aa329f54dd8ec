-- The configuration document of `storage/repository/mod.rs`: loading it over the
-- defaults and through the migrations, and saving it. The text of a document, the
-- relational tables beside it and the checks of a provider are parameters.
import OmniTranslate.CredentialAuthority
import OmniTranslate.JsonMerge
import OmniTranslate.PrimaryTranslation

namespace omni_translate.model_registry

open json

/-- `provider[field] = value`, which makes an object of `null` and panics for any other value. -/
def set_index (field : String) (v : Value) : Value → Option Value
  | .object fields => some (.object (insert_field field v fields))
  | .null => some (.object [(field, v)])
  | _ => none

/-- A provider of the defaults has no registry of its own. -/
def initialize_provider (provider : Value) : Option Value := do
  let provider ← set_index "modelRegistryVersion" VERSION provider
  let provider ← set_index "modelCapabilityOverrides" (.array []) provider
  set_index "localModelCapabilityRegistry" (.array []) provider

def initialize_defaults (config : Value) : Option Value :=
  match (config.get "providers").bind Value.as_array with
  | some providers => do
    let providers ← providers.mapM initialize_provider
    some (edit_field "providers" (fun _ => .array providers) config)
  | none => some config

def migrate_config (seeds : List Value) (config : Value) : Value :=
  edit_field "providers" (edit_items (migrate_provider seeds)) config

end omni_translate.model_registry

namespace omni_translate.repository

open json

/-! ## Merging -/

def merge_objects (target patch : Value) : Value := merge target patch

def DRIVER_CONTRACT : List String :=
  ["protocolVersion", "expectedDriverVersion", "expectedBridgeVersion"]

/-- One turn of the loop over the keys of the contract. -/
def enforce_key (defaults config : Value) (key : String) : Value :=
  match defaults.pointer ["driver", key] with
  | none => config
  | some default_value =>
    edit_field "driver" (edit_object (insert_field key default_value)) config

def enforce_current_driver_contract (config defaults : Value) : Value :=
  DRIVER_CONTRACT.foldl (enforce_key defaults) config

/-! ## The repository -/

/-- How documents are written and read. The objects that are read have distinct names. -/
structure Codec where
  to_string : Value → String
  from_str : String → Option Value
  distinct : ∀ text v, from_str text = some v → Distinct v

/-- The configuration of `app-config.default.json`, with what the repository relies on. -/
structure DefaultConfig where
  value : Value
  distinct : Distinct value
  providers : ∃ items, value.get "providers" = some (.array items) ∧
    ∀ provider ∈ items, provider.is_object = true
  primary : ∃ s, value.pointer ["devices", primary_text_translation.PRIMARY] = some (.string s)

/-- The one row of `config_documents`, if there is one. -/
structure ConfigRepository where
  document : Option String

section

variable {Settings Cache : Type} [Inhabited Cache] [DecidableEq Settings] [DecidableEq Cache]
variable (codec : Codec) (defaults : DefaultConfig) (seeds : List Value)
variable (operation_allowed : Value → String → String → Bool)
variable (is_known_model : credential_verification.ProviderDraftInput Settings Cache → Bool)
variable (from_value : Value → Option (credential_verification.ProviderDraftInput Settings Cache))
variable (authority : credential_verification.Authority Settings Cache)

/-- What the document makes of the defaults. -/
def merged (root stored : Value) : Value :=
  enforce_current_driver_contract
    (merge_objects root (primary_text_translation.migrate_config operation_allowed stored))
    defaults.value

def with_document (root : Value) : Option String → Option Value
  | some config_json => (codec.from_str config_json).map (merged defaults operation_allowed root)
  | none => some root

def load_config (repository : ConfigRepository) : Option Value := do
  let root ← model_registry.initialize_defaults defaults.value
  let root ← with_document codec defaults operation_allowed root repository.document
  some (credential_verification.reconcile_config is_known_model from_value authority
    (model_registry.migrate_config seeds root))

/-- What is saved of a configuration. -/
def reconciled (config : Value) : Value :=
  credential_verification.reconcile_config is_known_model from_value authority
    (primary_text_translation.migrate_config operation_allowed config)

-- Whether all the statements of the transaction succeed.
variable (commits : Value → Bool)

/-- `save_config`: the document is the one of the transaction, or the old one. -/
def save_config (repository : ConfigRepository) (config : Value) : ConfigRepository × Bool :=
  let config := reconciled operation_allowed is_known_model from_value authority config
  if commits config then (⟨some (codec.to_string config)⟩, true) else (repository, false)

end

end omni_translate.repository

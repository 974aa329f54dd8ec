-- The admission of a provider's operation by the manifest bundle, on the native side
-- (`provider/provider_manifest.rs`). The bundle and the parser of URLs are parameters.
import OmniTranslate.Calls
import OmniTranslate.Json
import OmniTranslate.TextSearch

set_option linter.dupNamespace false

namespace omni_translate.provider_manifest

open calls

/-! ## Manifests -/

structure ProviderIdentity where
  id : String
  template_id : String
deriving DecidableEq

structure AuthParameter where
  location : String
  name : String
  source : String
  scheme : Option String
  required : Bool
deriving DecidableEq

structure AuthProfile where
  id : String
  auth_type : String
  parameters : List AuthParameter
deriving DecidableEq

structure Transport where
  id : String
  kind : String
deriving DecidableEq

structure AudioDirection where
  formats : List String
  sample_rates_hz : List Nat
  channels : List Nat
deriving DecidableEq

structure AudioProfile where
  id : String
  input : AudioDirection
  output : AudioDirection
deriving DecidableEq

structure LifecycleProfile where
  id : String
  vad_modes : List String
deriving DecidableEq

structure ApiFamily where
  id : String
  base_url_template : String
  endpoint_template : Option String
  endpoint_status : String
  model_addressing : String
  transport_id : String
  auth_profile_ids : List String
deriving DecidableEq

structure Adapter where
  id : String
  status : String
  verification : String
deriving DecidableEq

structure ProtocolProfile where
  id : String
  version : Nat
  api_family_id : String
  transport_id : String
  auth_profile_ids : List String
  default_auth_profile_id : String
  audio_profile_id : Option String
  lifecycle_profile_id : String
  operations : List String
  capabilities : List String
  custom_provider_policy : Option String
  custom_endpoint_policy : Option String
  adapter : Adapter
deriving DecidableEq

structure ModelBinding where
  operation : String
  protocol_profile_id : String
  protocol_profile_version : Nat
deriving DecidableEq

structure Model where
  id : String
  protocol_bindings : List ModelBinding
deriving DecidableEq

structure ProviderManifest where
  manifest_version : Nat
  provider : ProviderIdentity
  auth_profiles : List AuthProfile
  transports : List Transport
  audio_profiles : List AudioProfile
  lifecycle_profiles : List LifecycleProfile
  api_families : List ApiFamily
  protocol_profiles : List ProtocolProfile
  models : List Model
deriving DecidableEq

/-- A profile by its identity and its version. -/
def ProviderManifest.profile (manifest : ProviderManifest) (id : String) (version : Nat) :
    Option ProtocolProfile :=
  manifest.protocol_profiles.find? fun profile => profile.id = id && profile.version = version

/-! ## Drafts -/

structure ProviderModelProtocolBinding where
  model_id : String
  operation : String
  profile_owner_provider_id : String
  manifest_version : Nat
  profile_id : String
  profile_version : Nat
  auth_profile_id : Option String
deriving DecidableEq

structure ProviderAuthRef where
  header_name : String
  scheme : String
deriving DecidableEq

/-- The fields of a provider draft that either side reads. -/
structure ProviderDraft where
  template_id : String
  provider_id : String
  manifest_provider_id : Option String
  deployment_id : Option String
  base_url : String
  transport : String
  auth_ref : ProviderAuthRef
  region : Option String
  stream_enabled : Bool
  model_protocol_bindings : List ProviderModelProtocolBinding
  model_registry_version : Option Nat
deriving DecidableEq

structure AuthorizedProviderProtocol where
  manifest_version : Nat
  provider_owner_id : String
  model_id : String
  deployment_id : Option String
  operation : String
  profile_id : String
  profile_version : Nat
  adapter_id : String
  adapter_verification : String
  api_family_id : String
  endpoint_template : String
  transport_kind : String
  auth_profile_id : String
  canonical_auth_header_name : Option String
  canonical_auth_scheme : Option String
  lifecycle_profile_id : String
  vad_modes : List String
  capabilities : List String
  audio_input_format : Option String
  audio_input_sample_rate_hz : Option Nat
  audio_input_channels : Option Nat
  audio_output_format : Option String
  audio_output_sample_rate_hz : Option Nat
  audio_output_channels : Option Nat
deriving DecidableEq

/-! ## URLs -/

/-- A URL by its parts; the port is the one that is written and not the default. -/
structure Url where
  scheme : String
  username : String
  password : Option String
  host : Option String
  port : Option Nat
  path : String
  query : Option String
  fragment : Option String
deriving DecidableEq

def default_port (scheme : String) : Option Nat :=
  if scheme = "https" ∨ scheme = "wss" then some 443
  else if scheme = "http" ∨ scheme = "ws" then some 80
  else if scheme = "ftp" then some 21
  else none

def Url.port_or_known_default (url : Url) : Option Nat := url.port.or (default_port url.scheme)

/-- `trim_end_matches('/')` -/
def trim_end_slashes (path : String) : String := String.ofList (path.toList.rdropWhile (· = '/'))

def split (separator : Char) (s : String) : List String :=
  (s.toList.splitOn separator).map String.ofList

/-- `s.split(separator).next().unwrap_or(s)` -/
def before (separator : Char) (s : String) : String := (split separator s).head?.getD s

def eq_ignore_ascii_case (a b : String) : Bool := a.toList.map Char.toLower = b.toList.map Char.toLower

def starts_with (s start : String) : Bool := start.toList.isPrefixOf s.toList

/-- Each field in braces becomes the word `placeholder`. -/
def replace_fields : Bool → text.Text → text.Text
  | _, [] => []
  | false, c :: rest =>
    if c = '\x7b' then "placeholder".toList ++ replace_fields true rest
    else c :: replace_fields false rest
  | true, c :: rest => replace_fields (c ≠ '\x7d') rest

def replace_template_fields (template : String) : String :=
  String.ofList (replace_fields false template.toList)

def is_ascii_alphanumeric (c : Char) : Bool :=
  ('a' ≤ c && c ≤ 'z') || ('A' ≤ c && c ≤ 'Z') || ('0' ≤ c && c ≤ '9')

def valid_dns_label (label : String) : Bool :=
  label ≠ "" && text.len label.toList ≤ 63 &&
    label.toList.all (fun c => is_ascii_alphanumeric c || c = '-') &&
    label.toList.head?.any is_ascii_alphanumeric && label.toList.getLast?.any is_ascii_alphanumeric

/-- The host of a template, as it is written. -/
def template_host (template : String) : String :=
  match text.split_once "://".toList template.toList with
  | some (_, rest) => before '/' (String.ofList rest)
  | none => ""

/-- A label of the host fits the label that is expected, or any name where the template has a field. -/
def label_matches (actual expected source : String) : Bool :=
  if source.toList.head? = some '\x7b' && source.toList.getLast? = some '\x7d' then
    valid_dns_label actual
  else eq_ignore_ascii_case actual expected

def path_matches (actual expected : Url) (endpoint_template : String) : Bool :=
  let actual_path := trim_end_slashes actual.path
  let expected_path := trim_end_slashes expected.path
  let endpoint_path := trim_end_slashes (before '?' endpoint_template)
  actual_path = expected_path ||
    actual_path ≠ "" && actual_path ≠ "/" && starts_with endpoint_path (actual_path ++ "/")

def secure (scheme : String) : Bool := scheme = "https" || scheme = "wss"

section

variable (parse : String → Option Url)

def endpoint_host_matches (base_url template endpoint_template : String) : Bool :=
  Option.getD (do
    let actual ← parse (json.trim base_url)
    let expected ← parse (replace_template_fields template)
    let actual_host ← actual.host
    let expected_host ← expected.host
    if !(secure actual.scheme && secure expected.scheme) || actual.username ≠ "" ||
        actual.password.isSome || actual.fragment.isSome ||
        actual.port_or_known_default ≠ expected.port_or_known_default ||
        !path_matches actual expected endpoint_template then some false
    else
      let actual_labels := split '.' actual_host
      let expected_labels := split '.' expected_host
      let template_labels := split '.' (template_host template)
      if actual_labels.length ≠ expected_labels.length ||
          template_labels.length ≠ expected_labels.length then some false
      else
        some (((actual_labels.zip expected_labels).zip template_labels).all
          fun labels => label_matches labels.1.1 labels.1.2 labels.2)) false

def valid_custom_endpoint (base_url transport : String) : Bool :=
  match parse (json.trim base_url) with
  | none => false
  | some endpoint =>
    (endpoint.scheme = "https" || transport = "websocket" && endpoint.scheme = "wss") &&
      endpoint.host.isSome && endpoint.username = "" && endpoint.password.isNone &&
      endpoint.fragment.isNone

end

/-! ## The checks -/

def transport_matches (provider_transport manifest_transport : String) : Bool :=
  [("http", "http"), ("streaming-http", "sse"), ("websocket", "websocket"),
    ("webrtc", "webrtc")].contains (provider_transport, manifest_transport)

variable (bundle : List ProviderManifest)

def find_template (template_id : String) : Option ProviderManifest :=
  bundle.find? fun manifest => manifest.provider.template_id = template_id

def WORKSPACE : String := "template-dashscope-workspace"

/-- The manifest that owns the template, before the claims of the draft are looked at. -/
def owner_of (provider : ProviderDraft) : Option ProviderManifest :=
  if provider.template_id = WORKSPACE then
    bundle.find? fun manifest =>
      manifest.provider.template_id = "template-dashscope-realtime" &&
        manifest.provider.id = "bailian"
  else find_template bundle provider.template_id

def provider_manifest (bundle : List ProviderManifest) (provider : ProviderDraft) :
    Except String (Option ProviderManifest) := do
  let manifest := owner_of bundle provider
  let runtime_owner := bundle.find? fun candidate => candidate.provider.id = provider.provider_id
  require (provider.template_id = WORKSPACE → ∀ owner ∈ runtime_owner, owner.provider.id = "bailian")
    s!"provider_manifest.provider_owner_mismatch: Workspace template cannot claim runtime owner '{provider.provider_id}'"
  let declared_owner := provider.manifest_provider_id.filter fun owner => !json.blank owner
  match manifest, declared_owner with
  | some manifest, some owner =>
    if owner ≠ manifest.provider.id then
      .error s!"provider_manifest.provider_owner_mismatch: template '{provider.template_id}' belongs to '{manifest.provider.id}', not '{owner}'"
    else .ok (some manifest)
  | some manifest, none => .ok (some manifest)
  | none, some owner =>
    .error s!"provider_manifest.template_not_registered: template '{provider.template_id}' cannot claim manifest owner '{owner}'"
  | none, none => .ok none

def selected_auth_profile (manifest : ProviderManifest) (profile : ProtocolProfile)
    (family : ApiFamily) (declared_auth_profile_id : Option String) : Except String AuthProfile := do
  let selected_id := declared_auth_profile_id.getD profile.default_auth_profile_id
  require (profile.auth_profile_ids.contains selected_id ∧ family.auth_profile_ids.contains selected_id)
    s!"provider_manifest.auth_profile_not_allowed: '{selected_id}' is not allowed by profile '{profile.id}'"
  expect (manifest.auth_profiles.find? fun auth => auth.id = selected_id)
    s!"provider_manifest.registry_invalid: auth profile '{selected_id}' is missing"

def credential_header (auth : AuthProfile) : Option AuthParameter :=
  auth.parameters.find? fun parameter =>
    parameter.location = "header" && parameter.source = "credential" && parameter.required

def expected_scheme (auth : AuthProfile) (parameter : AuthParameter) : String :=
  if parameter.scheme.any (eq_ignore_ascii_case · "bearer") then "bearer"
  else if parameter.scheme.any (eq_ignore_ascii_case · "token") then "api-key"
  else if auth.auth_type = "bearer" then "bearer"
  else "api-key"

variable (provider : ProviderDraft)

def validate_auth_shape (auth : AuthProfile) : Except String Unit :=
  match credential_header auth with
  | none => .ok ()
  | some parameter => do
    require (eq_ignore_ascii_case (json.trim provider.auth_ref.header_name) parameter.name)
      s!"provider_manifest.auth_header_mismatch: profile '{auth.id}' requires header '{parameter.name}'"
    let expected_scheme := expected_scheme auth parameter
    require (provider.auth_ref.scheme = expected_scheme)
      s!"provider_manifest.auth_scheme_mismatch: profile '{auth.id}' requires scheme '{expected_scheme}'"

/-- A draft that declares its profile is not asked for the shape. -/
def validate_declared_shape (auth : AuthProfile) (declared : Bool) : Except String Unit :=
  if declared then .ok () else validate_auth_shape provider auth

def canonical_auth_shape (auth : AuthProfile) : Option String × Option String :=
  match credential_header auth with
  | none => (none, none)
  | some parameter => (some parameter.name, some (expected_scheme auth parameter))

/-- What the declarations of a draft select. -/
structure Selection where
  manifest : ProviderManifest
  profile : ProtocolProfile
  declared_auth_profile_id : Option String
  explicit_declaration : Bool

def is_custom : Bool := starts_with provider.template_id "template-custom-"

def declared_bindings (model_id operation : String) : List ProviderModelProtocolBinding :=
  provider.model_protocol_bindings.filter fun declaration =>
    declaration.model_id = model_id && declaration.operation = operation

/-- The declaration names the profile, its manifest and its owner. -/
def Declares (declared : ProviderModelProtocolBinding) (manifest : ProviderManifest)
    (profile : ProtocolProfile) : Prop :=
  declared.profile_owner_provider_id = manifest.provider.id ∧
    declared.manifest_version = manifest.manifest_version ∧ declared.profile_id = profile.id ∧
    declared.profile_version = profile.version

instance (declared : ProviderModelProtocolBinding) (manifest : ProviderManifest)
    (profile : ProtocolProfile) : Decidable (Declares declared manifest profile) := by
  unfold Declares
  infer_instance

def select_registered (manifest : ProviderManifest) (model_id operation : String) : Except String Selection := do
  let model ← expect (manifest.models.find? fun model => model.id = model_id)
    s!"provider_manifest.model_not_found: exact model '{model_id}' is not registered by '{manifest.provider.id}'"
  let binding ← expect (model.protocol_bindings.find? fun binding => binding.operation = operation)
    s!"provider_manifest.model_operation_not_bound: model '{model.id}' has no '{operation}' binding"
  let profile ← expect
    (manifest.profile binding.protocol_profile_id binding.protocol_profile_version)
    s!"provider_manifest.registry_invalid: profile '{binding.protocol_profile_id}@{binding.protocol_profile_version}' is missing"
  let declarations := declared_bindings provider model_id operation
  require (provider.model_protocol_bindings = [] ∨ declarations.length = 1)
    s!"provider_manifest.profile_declaration_missing: exact binding for '{model.id}'/{operation} is required"
  match declarations.head? with
  | none => .ok ⟨manifest, profile, none, false⟩
  | some declared =>
    if Declares declared manifest profile then
      .ok ⟨manifest, profile, declared.auth_profile_id, true⟩
    else
      .error s!"provider_manifest.profile_declaration_mismatch: declared manifest {declared.manifest_version} '{declared.profile_id}@{declared.profile_version}' does not match manifest {manifest.manifest_version} '{profile.id}@{profile.version}'"

def select_custom (provider : ProviderDraft) (model_id operation : String) : Except String Selection := do
  require (provider.manifest_provider_id = none)
    "provider_manifest.custom_owner_forbidden: a custom provider cannot claim a built-in template owner"
  match declared_bindings provider model_id operation with
  | [declared] => do
    let manifest ← expect
      (bundle.find? fun candidate => candidate.provider.id = declared.profile_owner_provider_id)
      s!"provider_manifest.profile_owner_not_found: '{declared.profile_owner_provider_id}' is not registered"
    require (manifest.manifest_version = declared.manifest_version)
      s!"provider_manifest.manifest_version_mismatch: '{manifest.provider.id}' is manifest version {manifest.manifest_version}, not {declared.manifest_version}"
    let profile ← expect (manifest.profile declared.profile_id declared.profile_version)
      s!"provider_manifest.profile_not_found: '{declared.profile_id}@{declared.profile_version}' is not registered"
    require (profile.custom_provider_policy = some "explicit-profile" ∧
        profile.custom_endpoint_policy = some "absolute-secure-url-no-userinfo")
      s!"provider_manifest.custom_profile_forbidden: '{profile.id}@{profile.version}' is not approved for custom providers"
    .ok ⟨manifest, profile, declared.auth_profile_id, true⟩
  | _ =>
    .error s!"provider_manifest.profile_declaration_required: custom provider '{provider.provider_id}' must select exactly one versioned binding for '{model_id}'/{operation}"

/-- The deployment of a family that addresses one. -/
def deployment_of (family : ApiFamily) (model_id : String) : Except String (Option String) :=
  if family.model_addressing = "deployment-id" ∨ family.model_addressing = "path-deployment" then do
    let deployment ← expect (provider.deployment_id.filter fun value => !json.blank value)
      s!"provider_manifest.deployment_id_required: model '{model_id}' requires an explicit deployment id"
    .ok (some deployment)
  else .ok none

/-- The audio profile, if the profile names one. -/
def audio_of (manifest : ProviderManifest) (profile : ProtocolProfile) :
    Except String (Option AudioProfile) :=
  match profile.audio_profile_id with
  | none => .ok none
  | some audio_id => do
    let audio ← expect (manifest.audio_profiles.find? fun audio => audio.id = audio_id)
      s!"provider_manifest.registry_invalid: audio profile '{audio_id}' is missing"
    .ok (some audio)

/-- The text gateway streams over HTTP where a custom provider asks for a socket. -/
def custom_text_streaming_fallback (profile : ProtocolProfile) (transport : Transport)
    (operation : String) : Bool :=
  is_custom provider && (operation = "text" || operation = "text-translation") &&
    profile.adapter.id = "openai-compatible-http" && transport.kind = "sse" &&
    provider.transport = "websocket" && provider.stream_enabled

section

variable (parse : String → Option Url)

def endpoint_matches (provider : ProviderDraft) (family : ApiFamily) (transport : Transport)
    (endpoint_template : String) : Bool :=
  if is_custom provider then valid_custom_endpoint parse provider.base_url transport.kind
  else endpoint_host_matches parse provider.base_url family.base_url_template endpoint_template

/-- The checks of a selection, and what is authorized. -/
def admit_selection (provider : ProviderDraft) (model_id operation : String) (selection : Selection) :
    Except String AuthorizedProviderProtocol := do
  let manifest := selection.manifest
  let profile := selection.profile
  require (profile.operations.contains operation)
    s!"provider_manifest.profile_operation_mismatch: profile '{profile.id}' does not declare operation '{operation}'"
  require (profile.adapter.status = "enabled")
    s!"provider_manifest.adapter_unavailable: profile '{profile.id}@{profile.version}' is not enabled"
  let family ← expect (manifest.api_families.find? fun family => family.id = profile.api_family_id)
    s!"provider_manifest.registry_invalid: API family '{profile.api_family_id}' is missing"
  let endpoint_template ← expect
    (if family.endpoint_status = "verified" then family.endpoint_template else none)
    s!"provider_manifest.endpoint_unavailable: API family '{family.id}' is not verified"
  require (family.transport_id = profile.transport_id)
    s!"provider_manifest.registry_invalid: profile '{profile.id}' transport differs from API family"
  let transport ← expect
    (manifest.transports.find? fun transport => transport.id = profile.transport_id)
    s!"provider_manifest.registry_invalid: transport '{profile.transport_id}' is missing"
  require (transport_matches provider.transport transport.kind ∨
      custom_text_streaming_fallback provider profile transport operation)
    s!"provider_manifest.transport_mismatch: profile '{profile.id}' requires '{transport.kind}', got '{provider.transport}'"
  require (endpoint_matches parse provider family transport endpoint_template)
    s!"provider_manifest.endpoint_host_mismatch: '{provider.base_url}' is not authorized for family '{family.id}'"
  let deployment_id ← deployment_of provider family model_id
  let auth ← selected_auth_profile manifest profile family selection.declared_auth_profile_id
  validate_declared_shape provider auth selection.explicit_declaration
  let lifecycle ← expect
    (manifest.lifecycle_profiles.find? fun lifecycle => lifecycle.id = profile.lifecycle_profile_id)
    s!"provider_manifest.registry_invalid: lifecycle profile '{profile.lifecycle_profile_id}' is missing"
  let audio ← audio_of manifest profile
  .ok {
    manifest_version := manifest.manifest_version
    provider_owner_id := manifest.provider.id
    model_id, deployment_id, operation
    profile_id := profile.id
    profile_version := profile.version
    adapter_id := profile.adapter.id
    adapter_verification := profile.adapter.verification
    api_family_id := family.id
    endpoint_template
    transport_kind := transport.kind
    auth_profile_id := auth.id
    canonical_auth_header_name := (canonical_auth_shape auth).1
    canonical_auth_scheme := (canonical_auth_shape auth).2
    lifecycle_profile_id := profile.lifecycle_profile_id
    vad_modes := lifecycle.vad_modes
    capabilities := profile.capabilities
    audio_input_format := audio.bind (·.input.formats.head?)
    audio_input_sample_rate_hz := audio.bind (·.input.sample_rates_hz.head?)
    audio_input_channels := audio.bind (·.input.channels.head?)
    audio_output_format := audio.bind (·.output.formats.head?)
    audio_output_sample_rate_hz := audio.bind (·.output.sample_rates_hz.head?)
    audio_output_channels := audio.bind (·.output.channels.head?) }

/-- The selection of a draft, or none for a template that no manifest owns and that is not custom. -/
def select (bundle : List ProviderManifest) (provider : ProviderDraft) (model_id operation : String) :
    Except String (Option Selection) := do
  match ← provider_manifest bundle provider with
  | some manifest => do
    let selection ← select_registered provider manifest model_id operation
    .ok (some selection)
  | none =>
    if is_custom provider then do
      let selection ← select_custom bundle provider model_id operation
      .ok (some selection)
    else do
      require (provider.model_protocol_bindings = [])
        s!"provider_manifest.template_not_registered: template '{provider.template_id}' cannot attach protocol bindings"
      .ok none

def authorize_provider_operation_for_model (bundle : List ProviderManifest)
    (provider : ProviderDraft) (model_id operation : String) :
    Except String (Option AuthorizedProviderProtocol) := do
  require (¬ json.blank model_id)
    "provider_manifest.model_id_required: invocation model must not be empty"
  match ← select bundle provider model_id operation with
  | none => .ok none
  | some selection => do
    let authority ← admit_selection parse provider model_id operation selection
    .ok (some authority)

end

end omni_translate.provider_manifest

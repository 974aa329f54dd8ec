-- The resolution of a provider's protocol in the renderer (`provider-manifest/resolver.ts`),
-- and the request that a draft makes. The selection of a Bailian profile has a registry
-- of its own, and is a parameter.
import OmniTranslate.ProviderManifest

namespace omni_translate.provider_resolver

open provider_manifest

/-! ## Requests -/

structure ProviderProtocolResolutionRequest where
  provider_id : String
  template_id : Option String
  model_id : String
  deployment_id : Option String
  operation : String
  declared_profile_id : Option String
  declared_profile_version : Option Nat
  declared_manifest_version : Option Nat
  declared_auth_profile_id : Option String
  base_url : Option String
  transport : Option String
  auth_header_name : Option String
  auth_scheme : Option String
  custom_provider : Bool
  model_registry_version : Option Nat
  region : Option String

/-- The request of a draft for a model and an operation. Two declarations make none. -/
def request_of (provider : ProviderDraft) (model_id operation : String) :
    Option ProviderProtocolResolutionRequest :=
  let bindings := declared_bindings provider model_id operation
  if bindings.length > 1 then none
  else
    let binding := bindings.head?
    let scheme := provider.auth_ref.scheme
    some {
      provider_id := provider.provider_id
      template_id := some provider.template_id
      model_id, operation
      deployment_id := provider.deployment_id
      model_registry_version := provider.model_registry_version
      declared_profile_id := binding.map (·.profile_id)
      declared_profile_version := binding.map (·.profile_version)
      declared_manifest_version := binding.map (·.manifest_version)
      declared_auth_profile_id := binding.bind (·.auth_profile_id)
      base_url := some provider.base_url
      transport := some provider.transport
      region := provider.region
      auth_header_name := some provider.auth_ref.header_name
      auth_scheme := if scheme = "bearer" ∨ scheme = "api-key" then some scheme else none
      custom_provider := starts_with provider.template_id "template-custom-" }

inductive ErrorCode where
  | provider_manifest_not_found
  | provider_template_not_found
  | provider_owner_mismatch
  | model_not_found
  | model_operation_not_bound
  | protocol_profile_required
  | protocol_profile_not_found
  | protocol_profile_version_mismatch
  | provider_manifest_version_mismatch
  | protocol_profile_model_mismatch
  | protocol_profile_operation_mismatch
  | protocol_adapter_unavailable
  | custom_provider_profile_forbidden
  | auth_profile_not_allowed
  | deployment_id_required
  | api_family_unresolved
  | custom_endpoint_invalid
  | transport_mismatch
  | auth_shape_mismatch
  | provider_manifest_invalid
  | bailian_protocol_rejected
deriving DecidableEq

structure ProviderProtocolResolutionError where
  code : ErrorCode
  message : String

/-- What a resolution gives, or what it throws. -/
abbrev Resolution := Except ProviderProtocolResolutionError

/-- Throws unless the condition holds. -/
def check (condition : Prop) [Decidable condition] (code : ErrorCode) (message : String) :
    Resolution Unit :=
  if condition then .ok () else .error ⟨code, message⟩

/-- The value, or an error where there is none. -/
def found {α : Type} (value : Option α) (code : ErrorCode) (message : String) : Resolution α :=
  match value with
  | some value => .ok value
  | none => .error ⟨code, message⟩

structure AuthorizedProviderProtocol where
  manifest_version : Nat
  provider_id : String
  profile_owner_provider_id : String
  model_id : String
  deployment_id : Option String
  operation : String
  protocol_profile : ProtocolProfile
  api_family : ApiFamily
  transport : Transport
  auth_profile : AuthProfile
  audio_profile : Option AudioProfile
  lifecycle_profile : LifecycleProfile

def required_by_id {α : Type} (items : List α) (id_of : α → String) (id label : String) :
    Resolution α :=
  found (items.find? fun candidate => id_of candidate = id) .provider_manifest_invalid
    s!"Provider manifest references missing {label} '{id}'."

def find_profile : List ProviderManifest → String → Nat →
    Option (ProviderManifest × ProtocolProfile)
  | [], _, _ => none
  | manifest :: manifests, profile_id, profile_version =>
    match manifest.profile profile_id profile_version with
    | some profile => some (manifest, profile)
    | none => find_profile manifests profile_id profile_version

/-- `value?.trim()`, where a text that is empty counts as none. -/
def trimmed (value : Option String) : Option String :=
  (value.map fun s => String.ofList (text.js_trim s.toList)).filter (· ≠ "")

/-! ## URLs, as the `URL` class shows them -/

def protocol (url : Url) : String := url.scheme ++ ":"
def hostname (url : Url) : String := url.host.getD ""
def port (url : Url) : String := (url.port.map toString).getD ""

def marked (mark : String) (part : Option String) : String :=
  match part.getD "" with
  | "" => ""
  | s => mark ++ s

def search (url : Url) : String := marked "?" url.query
def hash (url : Url) : String := marked "#" url.fragment

/-- `path.replace(/\/$/, '')` -/
def without_slash (path : String) : String :=
  if path.toList.getLast? = some '/' then String.ofList path.toList.dropLast else path

def expected_provider_transport (kind : String) : Option String :=
  if kind = "sse" then some "streaming-http"
  else if kind = "http" ∨ kind = "websocket" ∨ kind = "webrtc" then some kind
  else none

section

-- The parser of URLs, without a base and with one; `toLowerCase`; the selection of a Bailian profile.
variable (parse : String → Option Url) (parse_in : Url → String → Option Url)
variable (to_lower_case : String → String)
variable (validate_bailian_selection :
  ProtocolProfile → ProviderProtocolResolutionRequest → Resolution Unit)

variable (manifest : ProviderManifest) (profile : ProtocolProfile)

/-- `if (manifest.provider.id === 'bailian') validateBailianSelection(profile, request)` -/
def validate_owner (request : ProviderProtocolResolutionRequest) : Resolution Unit :=
  if manifest.provider.id = "bailian" then validate_bailian_selection profile request else .ok ()

def audio_profile_of : Resolution (Option AudioProfile) :=
  match profile.audio_profile_id.filter (· ≠ "") with
  | some audio_profile_id => do
    let audio ← required_by_id manifest.audio_profiles AudioProfile.id audio_profile_id "audio profile"
    .ok (some audio)
  | none => .ok none

def authorize (runtime_provider_id model_id operation : String) (profile : ProtocolProfile)
    (request : ProviderProtocolResolutionRequest) (declared_version : Option Nat) : Resolution AuthorizedProviderProtocol := do
  let declared := declared_version.getD 0
  check (∀ version ∈ declared_version, profile.version = version) .protocol_profile_version_mismatch
    s!"Protocol profile '{profile.id}' is version {profile.version}, not {declared}."
  check (profile.operations.contains operation) .protocol_profile_operation_mismatch
    s!"Protocol profile '{profile.id}' does not support operation '{operation}'."
  check (profile.adapter.status = "enabled") .protocol_adapter_unavailable
    s!"Protocol profile '{profile.id}' has no enabled runtime adapter."
  let api_family ← required_by_id manifest.api_families ApiFamily.id profile.api_family_id "API family"
  check (api_family.endpoint_status = "verified" ∧ api_family.endpoint_template ≠ none)
    .api_family_unresolved s!"API family '{api_family.id}' is not an active verified endpoint."
  check (api_family.model_addressing = "deployment-id" ∨
      api_family.model_addressing = "path-deployment" → trimmed request.deployment_id ≠ none)
    .deployment_id_required
    s!"API family '{api_family.id}' requires an explicit deployment id separate from model id."
  let selected_auth_profile_id := request.declared_auth_profile_id.getD profile.default_auth_profile_id
  check (profile.auth_profile_ids.contains selected_auth_profile_id) .auth_profile_not_allowed
    s!"Protocol profile '{profile.id}' does not allow auth profile '{selected_auth_profile_id}'."
  validate_owner validate_bailian_selection manifest profile request
  let transport ← required_by_id manifest.transports Transport.id profile.transport_id "transport"
  let auth_profile ←
    required_by_id manifest.auth_profiles AuthProfile.id selected_auth_profile_id "auth profile"
  let audio_profile ← audio_profile_of manifest profile
  let lifecycle_profile ← required_by_id manifest.lifecycle_profiles LifecycleProfile.id
    profile.lifecycle_profile_id "lifecycle profile"
  .ok {
    manifest_version := manifest.manifest_version
    provider_id := runtime_provider_id
    profile_owner_provider_id := manifest.provider.id
    model_id
    deployment_id := trimmed request.deployment_id
    operation
    protocol_profile := profile
    api_family, transport, auth_profile, audio_profile, lifecycle_profile }

/-- The scheme, the host, and no user, password or fragment. -/
def secure_endpoint (endpoint : Url) (transport : Transport) : Bool :=
  (if transport.kind = "websocket" then ["https:", "wss:"] else ["https:"]).contains
      (protocol endpoint) &&
    hostname endpoint ≠ "" && endpoint.username = "" && endpoint.password.getD "" = "" &&
    hash endpoint = ""

def validate_custom_connection_shape (request : ProviderProtocolResolutionRequest) : Resolution Unit := do
  let base_url ← found
    (if profile.custom_endpoint_policy = some "absolute-secure-url-no-userinfo" then
      request.base_url.filter (· ≠ "") else none)
    .custom_endpoint_invalid
    s!"Protocol profile '{profile.id}' has no authorized custom endpoint policy or endpoint."
  let endpoint ← found (parse base_url) .custom_endpoint_invalid
    "Custom endpoint must be an absolute URL."
  let transport ← required_by_id manifest.transports Transport.id profile.transport_id "transport"
  check (secure_endpoint endpoint transport) .custom_endpoint_invalid
    "Custom endpoint must use an authorized secure scheme and cannot contain userinfo or a fragment."
  let expected_transport := expected_provider_transport transport.kind
  let expected := expected_transport.getD "null"
  check (expected_transport.any (· ≠ "") ∧ request.transport = expected_transport)
    .transport_mismatch
    s!"Protocol profile '{profile.id}' requires transport '{expected}'."
  let auth_id := request.declared_auth_profile_id.getD profile.default_auth_profile_id
  let auth ← required_by_id manifest.auth_profiles AuthProfile.id auth_id "auth profile"
  let header := credential_header auth
  let expected_scheme :=
    if (header.bind (·.scheme)).map to_lower_case = some "bearer" ∨ auth.auth_type = "bearer" then
      "bearer" else "api-key"
  check (header ≠ none ∧
      request.auth_header_name.map to_lower_case = header.map (fun h => to_lower_case h.name) ∧
      request.auth_scheme = some expected_scheme) .auth_shape_mismatch
    s!"Protocol profile '{profile.id}' requires its declared credential header and scheme."

/-- The URL is the one of the family: its origin, and its base path or its endpoint's. -/
def registered_endpoint (request : ProviderProtocolResolutionRequest) (family : ApiFamily)
    (transport : Transport) : Bool :=
  Option.getD (do
    let actual ← parse (request.base_url.getD "")
    let base ← parse family.base_url_template
    let endpoint ← match family.endpoint_template.filter (· ≠ "") with
      | some endpoint_template => parse_in base endpoint_template
      | none => some base
    let same_origin := hostname actual = hostname base && port actual = port base &&
      (protocol actual = protocol base ||
        transport.kind = "websocket" && protocol actual = "wss:" && protocol base = "https:")
    some (same_origin && actual.username = "" && actual.password.getD "" = "" && hash actual = "" &&
      search actual = "" &&
      [without_slash base.path, without_slash endpoint.path].contains (without_slash actual.path)))
    false

def validate_explicit_builtin_endpoint (request : ProviderProtocolResolutionRequest) : Resolution Unit :=
  if manifest.provider.id = "bailian" then validate_bailian_selection profile request
  else do
    let family ← required_by_id manifest.api_families ApiFamily.id profile.api_family_id "API family"
    let transport ← required_by_id manifest.transports Transport.id profile.transport_id "transport"
    check (request.transport = expected_provider_transport transport.kind) .transport_mismatch
      "Explicit binding cannot change transport."
    check (registered_endpoint parse parse_in request family transport) .custom_endpoint_invalid
      "Explicit binding must retain its registered endpoint."

variable (manifests : List ProviderManifest)

/-- Workspace is a connection variant of the Bailian template, not a new protocol owner. -/
def find_provider_manifest_by_template_id (template_id : String) : Option ProviderManifest :=
  (find_template manifests template_id).or
    (if template_id ≠ "template-dashscope-workspace" then none
    else manifests.find? fun manifest =>
      manifest.provider.template_id = "template-dashscope-realtime" &&
        manifest.provider.id = "bailian")

/-- The branch of a custom provider. -/
def resolve_custom (request : ProviderProtocolResolutionRequest) : Resolution AuthorizedProviderProtocol := do
  let declared ← found (do
      let profile_id ← request.declared_profile_id.filter (· ≠ "")
      let profile_version ← request.declared_profile_version
      let manifest_version ← request.declared_manifest_version
      some (profile_id, profile_version, manifest_version))
    .protocol_profile_required
    "A custom provider must explicitly select a protocol profile id and version."
  let (profile_id, profile_version, manifest_version) := declared
  let owned ← found (find_profile manifests profile_id profile_version) .protocol_profile_not_found
    s!"Declared protocol profile '{profile_id}' is not registered."
  let (manifest, profile) := owned
  check (manifest.manifest_version = manifest_version) .provider_manifest_version_mismatch
    s!"Protocol profile '{profile.id}' belongs to manifest version {manifest.manifest_version}, not {manifest_version}."
  check (profile.custom_provider_policy = some "explicit-profile") .custom_provider_profile_forbidden
    s!"Protocol profile '{profile.id}' does not allow custom provider reuse."
  validate_custom_connection_shape parse to_lower_case manifest profile request
  authorize validate_bailian_selection manifest request.provider_id request.model_id
    request.operation profile request (some profile_version)

/-- The manifest of the template, or of the provider where there is no template. -/
def requested_manifest (request : ProviderProtocolResolutionRequest) : Resolution ProviderManifest :=
  match request.template_id.filter (· ≠ "") with
  | some template_id =>
    found (find_provider_manifest_by_template_id manifests template_id)
      .provider_template_not_found s!"No provider manifest owns template '{template_id}'."
  | none =>
    found (manifests.find? fun candidate => candidate.provider.id = request.provider_id)
      .provider_manifest_not_found
      s!"No provider manifest is registered for '{request.provider_id}'."

/-- The manifest of a built-in request, whose runtime owner is not another one. -/
def builtin_manifest (request : ProviderProtocolResolutionRequest) : Resolution ProviderManifest := do
  let manifest ← requested_manifest manifests request
  let canonical_runtime_owner :=
    manifests.find? fun candidate => candidate.provider.id = request.provider_id
  let owner_template := (canonical_runtime_owner.map (·.provider.template_id)).getD ""
  let requested := request.template_id.getD "undefined"
  check (∀ owner ∈ canonical_runtime_owner, owner.provider.id = manifest.provider.id)
    .provider_owner_mismatch
    s!"Provider '{request.provider_id}' belongs to '{owner_template}', not '{requested}'."
  .ok manifest

/-- A model that no manifest registers, under a declaration of the second registry version. -/
def resolve_unregistered (request : ProviderProtocolResolutionRequest) (profile_id : String)
    (profile_version manifest_version : Nat) :
    Resolution AuthorizedProviderProtocol := do
  check (manifest.manifest_version = manifest_version) .provider_manifest_version_mismatch
    "Explicit binding manifest version does not match."
  let profile ← found (manifest.profile profile_id profile_version) .protocol_profile_not_found
    "Explicit profile is not owned by this provider."
  validate_explicit_builtin_endpoint parse parse_in validate_bailian_selection manifest profile request
  authorize validate_bailian_selection manifest request.provider_id request.model_id
    request.operation profile request (some profile_version)

/-- A model that the manifest registers. -/
def resolve_registered (model : Model) (request : ProviderProtocolResolutionRequest) : Resolution AuthorizedProviderProtocol := do
  let binding ← found
    (model.protocol_bindings.find? fun candidate => candidate.operation = request.operation)
    .model_operation_not_bound
    s!"Model '{model.id}' has no protocol binding for operation '{request.operation}'."
  let declared_id := request.declared_profile_id.getD ""
  check (∀ declared ∈ request.declared_profile_id.filter (· ≠ ""),
      declared = binding.protocol_profile_id) .protocol_profile_model_mismatch
    s!"Model '{model.id}' binds '{request.operation}' to '{binding.protocol_profile_id}', not '{declared_id}'."
  let declared_version := request.declared_profile_version.getD 0
  check (∀ declared ∈ request.declared_profile_version,
      declared = binding.protocol_profile_version) .protocol_profile_version_mismatch
    s!"Model '{model.id}' binds '{request.operation}' to version {binding.protocol_profile_version}, not {declared_version}."
  let profile ← found (manifest.profile binding.protocol_profile_id binding.protocol_profile_version)
    .provider_manifest_invalid
    s!"Model '{model.id}' references missing protocol profile '{binding.protocol_profile_id}' version {binding.protocol_profile_version}."
  authorize validate_bailian_selection manifest request.provider_id model.id request.operation
    profile request (some binding.protocol_profile_version)

/-- The declaration of a request that may bind a model which is not registered. -/
def explicit_declaration (request : ProviderProtocolResolutionRequest) :
    Option (String × Nat × Nat) := do
  let profile_id ← request.declared_profile_id.filter (· ≠ "")
  let profile_version ← request.declared_profile_version
  let manifest_version ← request.declared_manifest_version
  if request.model_registry_version = some 2 then some (profile_id, profile_version, manifest_version)
  else none

def resolve_builtin (request : ProviderProtocolResolutionRequest) : Resolution AuthorizedProviderProtocol := do
  let manifest ← builtin_manifest manifests request
  match manifest.models.find? fun candidate => candidate.id = request.model_id with
  | some model => resolve_registered validate_bailian_selection manifest model request
  | none =>
    match explicit_declaration request with
    | some (profile_id, profile_version, manifest_version) =>
      resolve_unregistered parse parse_in validate_bailian_selection manifest request profile_id
        profile_version manifest_version
    | none =>
      .error ⟨.model_not_found,
        s!"Model '{request.model_id}' is not registered by provider '{request.provider_id}'."⟩

def resolve_provider_protocol (request : ProviderProtocolResolutionRequest) : Resolution AuthorizedProviderProtocol := do
  check (request.model_id ≠ "" ∧ String.ofList (text.js_trim request.model_id.toList) = request.model_id)
    .model_not_found "An exact non-empty model ID is required."
  if request.custom_provider then
    resolve_custom parse to_lower_case validate_bailian_selection manifests request
  else resolve_builtin parse parse_in validate_bailian_selection manifests request

end

end omni_translate.provider_resolver

-- Where the renderer offers what the native side admits: of a draft that the renderer's
-- resolution authorizes, the native admission makes checks of its own, and it authorizes
-- the same profile exactly when they pass.
import OmniTranslate.ProviderResolver

namespace omni_translate.provider_resolver

open provider_manifest calls

/-! ## The registry -/

/-- What the compiled bundle keeps: identities are unique, a template is neither empty, nor custom,
nor the alias of another, and a profile stays within its family. -/
structure Registry (manifests : List ProviderManifest) : Prop where
  owners : ∀ m ∈ manifests, ∀ n ∈ manifests, m.provider.id = n.provider.id → m = n
  profiles : ∀ m ∈ manifests, ∀ n ∈ manifests, ∀ p ∈ m.protocol_profiles,
    ∀ q ∈ n.protocol_profiles, p.id = q.id → p.version = q.version → m = n
  templates : ∀ m ∈ manifests, m.provider.template_id ≠ "" ∧
    starts_with m.provider.template_id "template-custom-" = false
  families : ∀ m ∈ manifests, ∀ p ∈ m.protocol_profiles, ∀ f ∈ m.api_families,
    f.id = p.api_family_id →
      f.transport_id = p.transport_id ∧ ∀ id ∈ p.auth_profile_ids, id ∈ f.auth_profile_ids
  audio : ∀ m ∈ manifests, ∀ p ∈ m.protocol_profiles, p.audio_profile_id ≠ some ""

/-! ## What a draft refers to -/

/-- The manifest and the profile that a draft means by its declaration or by its template. -/
def referred (bundle : List ProviderManifest) (provider : ProviderDraft)
    (model_id operation : String) : Option (ProviderManifest × ProtocolProfile) :=
  if is_custom provider then do
    let declared ← (declared_bindings provider model_id operation).head?
    find_profile bundle declared.profile_id declared.profile_version
  else do
    let manifest ← find_template bundle provider.template_id
    let model ← manifest.models.find? fun model => model.id = model_id
    let binding ← model.protocol_bindings.find? fun binding => binding.operation = operation
    let profile ← manifest.profile binding.protocol_profile_id binding.protocol_profile_version
    some (manifest, profile)

/-- The parts of a manifest that a profile names. -/
structure Parts where
  family : ApiFamily
  endpoint_template : String
  transport : Transport
  auth : AuthProfile

def parts_of (manifest : ProviderManifest) (profile : ProtocolProfile)
    (declared_auth_profile_id : Option String) : Option Parts := do
  let family ← manifest.api_families.find? fun family => family.id = profile.api_family_id
  let endpoint_template ← family.endpoint_template
  let transport ← manifest.transports.find? fun transport => transport.id = profile.transport_id
  let auth ← manifest.auth_profiles.find? fun auth =>
    auth.id = declared_auth_profile_id.getD profile.default_auth_profile_id
  some ⟨family, endpoint_template, transport, auth⟩

section

variable (parse : String → Option Url)

/-- The checks that the native side makes of a draft and the renderer does not. -/
structure Accepts (provider : ProviderDraft) (model_id operation : String)
    (manifest : ProviderManifest) (profile : ProtocolProfile) (parts : Parts) : Prop where
  model : json.blank model_id = false
  owner : if is_custom provider then provider.manifest_provider_id = none
    else ∀ owner ∈ provider.manifest_provider_id,
      json.blank owner = true ∨ owner = manifest.provider.id
  bindings : is_custom provider = true ∨ provider.model_protocol_bindings = [] ∨
    declared_bindings provider model_id operation ≠ []
  declared : ∀ d ∈ declared_bindings provider model_id operation, Declares d manifest profile
  transport : transport_matches provider.transport parts.transport.kind = true
  endpoint : endpoint_matches parse provider parts.family parts.transport parts.endpoint_template =
    true
  deployment : parts.family.model_addressing = "deployment-id" ∨
    parts.family.model_addressing = "path-deployment" →
      ∃ value ∈ provider.deployment_id, json.blank value = false
  auth : declared_bindings provider model_id operation ≠ [] ∨
    (validate_auth_shape provider parts.auth).isOk = true

/-- The draft refers to a profile, and the native side accepts it. -/
def NativeAccepts (bundle : List ProviderManifest) (provider : ProviderDraft)
    (model_id operation : String) : Prop :=
  ∃ manifest profile parts,
    referred bundle provider model_id operation = some (manifest, profile) ∧
      parts_of manifest profile
        ((declared_bindings provider model_id operation).head?.bind (·.auth_profile_id)) = some parts ∧
      Accepts parse provider model_id operation manifest profile parts

/-- The native side authorizes the same profile with the same auth profile. -/
def Agrees (bundle : List ProviderManifest) (provider : ProviderDraft) (model_id operation : String)
    (authority : AuthorizedProviderProtocol) : Prop :=
  ∃ admitted, authorize_provider_operation_for_model parse bundle provider model_id operation =
      .ok (some admitted) ∧
    admitted.profile_id = authority.protocol_profile.id ∧
    admitted.profile_version = authority.protocol_profile.version ∧
    admitted.auth_profile_id = authority.auth_profile.id

end

/-! ## Checks -/

theorem check_eq_ok {c : Prop} [Decidable c] {code : ErrorCode} {message : String} {u : Unit} :
    check c code message = .ok u ↔ c := by
  unfold check
  split <;> simp_all

theorem found_eq_ok {α : Type} {value : Option α} {code : ErrorCode} {message : String} {a : α} :
    found value code message = .ok a ↔ value = some a := by
  unfold found
  cases value <;> simp

theorem required_by_id_eq_ok {α : Type} {items : List α} {id_of : α → String} {id label : String}
    {a : α} : required_by_id items id_of id label = .ok a ↔
      (items.find? fun candidate => id_of candidate = id) = some a :=
  found_eq_ok

/-- What the renderer has looked at when it authorizes a profile. -/
structure Authorized (manifest : ProviderManifest) (profile : ProtocolProfile)
    (request : ProviderProtocolResolutionRequest) (operation : String)
    (authority : AuthorizedProviderProtocol) : Prop where
  chosen : authority.protocol_profile = profile
  operation : profile.operations.contains operation = true
  adapter : profile.adapter.status = "enabled"
  family : (manifest.api_families.find? fun family => family.id = profile.api_family_id) =
    some authority.api_family
  verified : authority.api_family.endpoint_status = "verified"
  endpoint : authority.api_family.endpoint_template ≠ none
  allowed : profile.auth_profile_ids.contains
    (request.declared_auth_profile_id.getD profile.default_auth_profile_id) = true
  transport : (manifest.transports.find? fun transport => transport.id = profile.transport_id) =
    some authority.transport
  auth : (manifest.auth_profiles.find? fun auth =>
    auth.id = request.declared_auth_profile_id.getD profile.default_auth_profile_id) =
      some authority.auth_profile
  audio : ∀ id, profile.audio_profile_id = some id → id = "" ∨
    ∃ audio, (manifest.audio_profiles.find? fun audio => audio.id = id) = some audio
  lifecycle : ∃ lifecycle, (manifest.lifecycle_profiles.find? fun lifecycle =>
    lifecycle.id = profile.lifecycle_profile_id) = some lifecycle

variable {manifest : ProviderManifest} {profile : ProtocolProfile}
  {request : ProviderProtocolResolutionRequest} {authority : AuthorizedProviderProtocol}

section

variable {validate_bailian_selection :
  ProtocolProfile → ProviderProtocolResolutionRequest → Resolution Unit}

theorem authorize_ok {runtime_provider_id model_id operation : String}
    {declared_version : Option Nat}
    (h : authorize validate_bailian_selection manifest runtime_provider_id model_id operation profile
      request declared_version = .ok authority) :
    Authorized manifest profile request operation authority := by
  unfold authorize at h
  simp only [bind_eq_ok, check_eq_ok, required_by_id_eq_ok] at h
  obtain ⟨-, -, -, hoperation, -, hadapter, _, hfamily, -, hverified, -, -, -, hallowed, -, -,
    _, htransport, _, hauth, _, haudio, lifecycle, hlifecycle, h⟩ := h
  cases h
  refine ⟨rfl, hoperation, hadapter, hfamily, hverified.1, hverified.2, hallowed, htransport, hauth,
    fun id hid => ?_, ⟨lifecycle, hlifecycle⟩⟩
  by_cases hempty : id = ""
  · exact Or.inl hempty
  · right
    unfold audio_profile_of at haudio
    rw [hid] at haudio
    simp only [Option.filter, decide_eq_true_eq, ne_eq, hempty, not_false_eq_true, if_true,
      bind_eq_ok, required_by_id_eq_ok] at haudio
    obtain ⟨found, hfound, -⟩ := haudio
    exact ⟨found, hfound⟩

end

/-! ## The admission of a selection -/

theorem isOk_iff {x : Except String Unit} : x.isOk = true ↔ x = .ok () := by
  cases x with
  | error | ok => simp [Except.isOk, Except.toBool]

/-- Of a profile that the renderer authorized, a selection is admitted when the connection of the
draft fits. -/
theorem admit_selection_eq_ok (parse : String → Option Url) {bundle : List ProviderManifest}
    (hregistry : Registry bundle) (provider : ProviderDraft) (model_id : String)
    {operation : String} (selection : Selection) (hmanifest : selection.manifest ∈ bundle)
    (hprofile : selection.profile ∈ selection.manifest.protocol_profiles)
    (h : Authorized selection.manifest selection.profile request operation authority)
    (hauth : selection.declared_auth_profile_id = request.declared_auth_profile_id)
    {endpoint : String} (hendpoint : authority.api_family.endpoint_template = some endpoint) :
    (∃ admitted, admit_selection parse provider model_id operation selection = .ok admitted ∧
        admitted.profile_id = authority.protocol_profile.id ∧
        admitted.profile_version = authority.protocol_profile.version ∧
        admitted.auth_profile_id = authority.auth_profile.id) ↔
      (transport_matches provider.transport authority.transport.kind = true ∨
        custom_text_streaming_fallback provider selection.profile authority.transport operation =
          true) ∧
      endpoint_matches parse provider authority.api_family authority.transport endpoint = true ∧
      (authority.api_family.model_addressing = "deployment-id" ∨
        authority.api_family.model_addressing = "path-deployment" →
          ∃ value ∈ provider.deployment_id, json.blank value = false) ∧
      (selection.explicit_declaration = true ∨
        (validate_auth_shape provider authority.auth_profile).isOk = true) := by
  obtain ⟨htransport_id, hfamily_auth⟩ := hregistry.families _ hmanifest _ hprofile
    authority.api_family (List.mem_of_find?_eq_some h.family)
    (by simpa using List.find?_some h.family)
  have hselected : selected_auth_profile selection.manifest selection.profile authority.api_family
      selection.declared_auth_profile_id = .ok authority.auth_profile := by
    unfold selected_auth_profile
    simp only [bind_eq_ok, require_eq_ok, expect_eq_ok, hauth]
    have hmem := h.allowed
    refine ⟨(), ⟨hmem, ?_⟩, h.auth⟩
    simp only [List.contains_iff_mem] at hmem ⊢
    exact hfamily_auth _ hmem
  have hdeployment : (∃ id, deployment_of provider authority.api_family model_id = .ok id) ↔
      (authority.api_family.model_addressing = "deployment-id" ∨
        authority.api_family.model_addressing = "path-deployment" →
          ∃ value ∈ provider.deployment_id, json.blank value = false) := by
    unfold deployment_of
    split
    · rename_i haddress
      simp only [bind_eq_ok, expect_eq_ok, haddress, true_imp_iff]
      constructor
      · rintro ⟨id, value, hvalue, -⟩
        obtain ⟨hsome, hblank⟩ := Option.filter_eq_some_iff.mp hvalue
        exact ⟨value, hsome, by simpa using hblank⟩
      · rintro ⟨value, hsome, hblank⟩
        exact ⟨some value, value, Option.filter_eq_some_iff.mpr ⟨hsome, by simpa using hblank⟩, rfl⟩
    · rename_i haddress
      exact ⟨fun _ h => absurd h haddress, fun _ => ⟨none, rfl⟩⟩
  have hshape : ∀ u, validate_declared_shape provider authority.auth_profile
      selection.explicit_declaration = .ok u ↔ selection.explicit_declaration = true ∨
        (validate_auth_shape provider authority.auth_profile).isOk = true := by
    rw [isOk_iff]
    unfold validate_declared_shape
    cases selection.explicit_declaration <;> simp
  have haudio : ∃ audio, audio_of selection.manifest selection.profile = .ok audio := by
    unfold audio_of
    cases hid : selection.profile.audio_profile_id with
    | none => exact ⟨none, rfl⟩
    | some id =>
      rcases h.audio id hid with rfl | ⟨audio, haudio⟩
      · exact absurd hid (hregistry.audio _ hmanifest _ hprofile)
      · refine ⟨some audio, ?_⟩
        dsimp only
        rw [haudio]
        rfl
  unfold admit_selection
  simp only [bind_eq_ok, require_eq_ok, expect_eq_ok]
  constructor
  · rintro ⟨admitted, ⟨-, -, -, -, family, hfamily, _, htemplate, -, -, transport, htransport,
      -, hmatches, -, hfits, deployment, hid, auth, hfound, u, hdeclared, -⟩, -⟩
    rw [h.family] at hfamily
    cases hfamily
    rw [h.transport] at htransport
    cases htransport
    rw [hselected] at hfound
    cases hfound
    rw [if_pos h.verified, hendpoint] at htemplate
    cases htemplate
    exact ⟨hmatches, hfits, hdeployment.mp ⟨deployment, hid⟩, (hshape u).mp hdeclared⟩
  · rintro ⟨hmatches, hfits, haddressed, hdeclared⟩
    obtain ⟨deployment, hid⟩ := hdeployment.mpr haddressed
    obtain ⟨lifecycle, hlifecycle⟩ := h.lifecycle
    obtain ⟨audio, haudio⟩ := haudio
    refine ⟨_, ⟨(), h.operation, (), h.adapter, _, h.family, endpoint, ?_, (), htransport_id, _,
      h.transport, (), hmatches, (), hfits, deployment, hid, _, hselected, (),
      (hshape ()).mpr hdeclared, lifecycle, hlifecycle, audio, haudio, rfl⟩, ?_, ?_, rfl⟩
    · rw [if_pos h.verified, hendpoint]
    · rw [h.chosen]
    · rw [h.chosen]

/-! ## Declarations -/

theorem find_profile_some {manifests : List ProviderManifest} {id : String} {version : Nat}
    (h : find_profile manifests id version = some (manifest, profile)) :
    manifest ∈ manifests ∧ manifest.profile id version = some profile := by
  induction manifests with
  | nil => cases h
  | cons _ manifests ih =>
    unfold find_profile at h
    split at h
    · rename_i _ hp
      cases h
      exact ⟨List.mem_cons_self, hp⟩
    · obtain ⟨hmem, hprofile⟩ := ih h
      exact ⟨List.mem_cons_of_mem _ hmem, hprofile⟩

theorem profile_some {id : String} {version : Nat}
    (h : manifest.profile id version = some profile) :
    profile ∈ manifest.protocol_profiles ∧ profile.id = id ∧ profile.version = version := by
  have hfound := List.find?_some h
  simp only [Bool.and_eq_true, decide_eq_true_eq] at hfound
  exact ⟨List.mem_of_find?_eq_some h, hfound⟩

variable {model_id operation : String} {provider : ProviderDraft}

/-- The one declaration of a draft that makes a request. -/
theorem declared_of_request (h : request_of provider model_id operation = some request) :
    declared_bindings provider model_id operation = [] ∨
      ∃ declared, declared_bindings provider model_id operation = [declared] := by
  unfold request_of at h
  match hbindings : declared_bindings provider model_id operation with
  | [] => exact Or.inl rfl
  | [declared] => exact Or.inr ⟨declared, rfl⟩
  | a :: b :: rest =>
    rw [hbindings] at h
    simp at h

theorem request_fields (h : request_of provider model_id operation = some request) :
    request.template_id = some provider.template_id ∧ request.model_id = model_id ∧
      request.operation = operation ∧ request.transport = some provider.transport ∧
      request.custom_provider = is_custom provider ∧
      request.declared_profile_id =
        (declared_bindings provider model_id operation).head?.map (·.profile_id) ∧
      request.declared_profile_version =
        (declared_bindings provider model_id operation).head?.map (·.profile_version) ∧
      request.declared_manifest_version =
        (declared_bindings provider model_id operation).head?.map (·.manifest_version) ∧
      request.declared_auth_profile_id =
        (declared_bindings provider model_id operation).head?.bind (·.auth_profile_id) := by
  unfold request_of at h
  dsimp only at h
  split at h
  · cases h
  · cases h
    exact ⟨rfl, rfl, rfl, rfl, rfl, rfl, rfl, rfl, rfl⟩

/-- The parts of a profile that the renderer authorized. -/
theorem parts_of_authorized {operation : String}
    (h : Authorized manifest profile request operation authority) :
    ∃ endpoint, authority.api_family.endpoint_template = some endpoint ∧
      parts_of manifest profile request.declared_auth_profile_id =
        some ⟨authority.api_family, endpoint, authority.transport, authority.auth_profile⟩ := by
  obtain ⟨endpoint, hendpoint⟩ := Option.ne_none_iff_exists'.mp h.endpoint
  simp [parts_of, h.family, hendpoint, h.transport, h.auth]

/-! ## Which manifest -/

section

variable {bundle : List ProviderManifest} {provider : ProviderDraft}

theorem provider_manifest_eq (hworkspace : provider.template_id ≠ WORKSPACE)
    (result : Option ProviderManifest) :
    provider_manifest bundle provider = .ok result ↔
      find_template bundle provider.template_id = result ∧
        ∀ owner ∈ provider.manifest_provider_id, json.blank owner = true ∨
          ∃ manifest, result = some manifest ∧ owner = manifest.provider.id := by
  have howner : owner_of bundle provider = find_template bundle provider.template_id :=
    if_neg hworkspace
  have hclaim : ∀ P : String → Prop, (∀ owner ∈ provider.manifest_provider_id,
      json.blank owner = true ∨ P owner) ↔
      ∀ owner, (provider.manifest_provider_id.filter fun owner => !json.blank owner) = some owner →
        P owner := by
    cases provider.manifest_provider_id with
    | none => simp
    | some owner => cases hblank : json.blank owner <;> simp [Option.filter, hblank]
  rw [hclaim]
  unfold provider_manifest
  rw [bind_eq_ok, howner]
  have hfirst : ∀ rest : Except String (Option ProviderManifest),
      (∃ u : Unit, require (provider.template_id = WORKSPACE →
        ∀ owner ∈ bundle.find? fun candidate => candidate.provider.id = provider.provider_id,
          owner.provider.id = "bailian")
        s!"provider_manifest.provider_owner_mismatch: Workspace template cannot claim runtime owner '{provider.provider_id}'" =
        .ok u ∧ rest = .ok result) ↔ rest = .ok result :=
    fun rest => ⟨fun ⟨_, _, h⟩ => h,
      fun h => ⟨(), require_pos (fun htemplate => absurd htemplate hworkspace) _, h⟩⟩
  rw [hfirst]
  cases hfound : find_template bundle provider.template_id with
  | none =>
    cases provider.manifest_provider_id.filter fun owner => !json.blank owner with
    | none => simp
    | some owner =>
      simp only [reduceCtorEq, false_iff]
      rintro ⟨rfl, h⟩
      obtain ⟨_, hnone, -⟩ := h owner rfl
      cases hnone
  | some manifest =>
    cases provider.manifest_provider_id.filter fun owner => !json.blank owner with
    | none => simp
    | some owner =>
      dsimp only
      split
      · rename_i hne
        simp only [reduceCtorEq, false_iff]
        rintro ⟨rfl, h⟩
        obtain ⟨_, hsame, heq⟩ := h owner rfl
        cases hsame
        exact hne heq
      · rename_i heq
        simp only [not_not] at heq
        simp only [Except.ok.injEq, Option.some.injEq]
        exact ⟨fun h => ⟨h, fun _ ho => ⟨manifest, h.symm, ho ▸ heq⟩⟩, fun h => h.1⟩

end

/-! ## Which profile -/

/-- What a draft selects of a manifest. -/
def selection_of (provider : ProviderDraft) (model_id operation : String)
    (manifest : ProviderManifest) (profile : ProtocolProfile) : Selection where
  manifest
  profile
  declared_auth_profile_id :=
    (declared_bindings provider model_id operation).head?.bind (·.auth_profile_id)
  explicit_declaration := !(declared_bindings provider model_id operation).isEmpty

theorem select_registered_eq_ok {model : Model} {binding : ModelBinding}
    (hone : (declared_bindings provider model_id operation).length ≤ 1)
    (hmodel : (manifest.models.find? fun model => model.id = model_id) = some model)
    (hbinding : (model.protocol_bindings.find? fun binding => binding.operation = operation) =
      some binding) (hprofile : manifest.profile binding.protocol_profile_id binding.protocol_profile_version =
      some profile) (selection : Selection) :
    select_registered provider manifest model_id operation = .ok selection ↔
      (provider.model_protocol_bindings = [] ∨
        declared_bindings provider model_id operation ≠ []) ∧
      (∀ d ∈ declared_bindings provider model_id operation, Declares d manifest profile) ∧
      selection_of provider model_id operation manifest profile = selection := by
  unfold select_registered selection_of
  simp only [bind_eq_ok, expect_eq_ok, require_eq_ok]
  match hdeclared : declared_bindings provider model_id operation with
  | [] =>
    constructor
    · rintro ⟨_, hm, _, hb, _, hp, _, hnone, h⟩
      obtain rfl := Option.some.inj (hmodel.symm.trans hm)
      obtain rfl := Option.some.inj (hbinding.symm.trans hb)
      obtain rfl := Option.some.inj (hprofile.symm.trans hp)
      have hempty : provider.model_protocol_bindings = [] := by simpa using hnone
      cases h
      exact ⟨Or.inl hempty, by simp, by simp⟩
    · rintro ⟨hnone, -, rfl⟩
      refine ⟨_, hmodel, _, hbinding, _, hprofile, (), ?_, rfl⟩
      simpa using hnone
  | [declared] =>
    constructor
    · rintro ⟨_, hm, _, hb, _, hp, _, -, h⟩
      obtain rfl := Option.some.inj (hmodel.symm.trans hm)
      obtain rfl := Option.some.inj (hbinding.symm.trans hb)
      obtain rfl := Option.some.inj (hprofile.symm.trans hp)
      simp only [List.head?_cons] at h
      split at h
      · rename_i hdeclares
        cases h
        exact ⟨Or.inr (by simp), by simpa using hdeclares, by simp⟩
      · cases h
    · rintro ⟨-, hdeclares, rfl⟩
      refine ⟨_, hmodel, _, hbinding, _, hprofile, (), Or.inr rfl, ?_⟩
      simp only [List.head?_cons]
      rw [if_pos (hdeclares declared List.mem_cons_self)]
      simp
  | a :: b :: rest =>
    rw [hdeclared] at hone
    simp at hone

theorem select_custom_eq_ok {bundle : List ProviderManifest} (hregistry : Registry bundle)
    {declared : ProviderModelProtocolBinding}
    (hdeclared : declared_bindings provider model_id operation = [declared]) (hmanifest : manifest ∈ bundle)
    (hprofile : manifest.profile declared.profile_id declared.profile_version = some profile)
    (hversion : manifest.manifest_version = declared.manifest_version)
    (hpolicy : profile.custom_provider_policy = some "explicit-profile")
    (hendpoint : profile.custom_endpoint_policy = some "absolute-secure-url-no-userinfo") (selection : Selection) :
    select_custom bundle provider model_id operation = .ok selection ↔
      provider.manifest_provider_id = none ∧ Declares declared manifest profile ∧
      selection_of provider model_id operation manifest profile = selection := by
  obtain ⟨-, hid, hnumber⟩ := profile_some hprofile
  unfold select_custom selection_of
  rw [hdeclared]
  simp only [bind_eq_ok, expect_eq_ok, require_eq_ok]
  constructor
  · rintro ⟨_, hnone, owner, howner, _, -, _, hfound, _, -, h⟩
    obtain ⟨hmem, hnamed, hsame⟩ := profile_some hfound
    have howned : owner ∈ bundle := List.mem_of_find?_eq_some howner
    have heq : owner = manifest := hregistry.profiles _ howned _ hmanifest _ hmem _
      (profile_some hprofile).1 (hnamed.trans hid.symm) (hsame.trans hnumber.symm)
    subst heq
    rw [hprofile] at hfound
    cases hfound
    cases h
    refine ⟨hnone, ⟨?_, hversion.symm, hid.symm, hnumber.symm⟩, by simp⟩
    exact Eq.symm (by simpa using List.find?_some howner)
  · rintro ⟨hnone, ⟨hsame, -, -, -⟩, rfl⟩
    have howner : (bundle.find? fun candidate =>
        candidate.provider.id = declared.profile_owner_provider_id) = some manifest := by
      cases hfound : bundle.find? fun candidate =>
          candidate.provider.id = declared.profile_owner_provider_id with
      | none =>
        exact absurd hsame.symm (by simpa using List.find?_eq_none.mp hfound manifest hmanifest)
      | some owner =>
        have hnamed : owner.provider.id = declared.profile_owner_provider_id := by
          simpa using List.find?_some hfound
        rw [hregistry.owners _ (List.mem_of_find?_eq_some hfound) _ hmanifest (hnamed.trans hsame)]
    exact ⟨(), hnone, manifest, howner, (), hversion, profile, hprofile, (), ⟨hpolicy, hendpoint⟩,
      by simp⟩

/-! ## Both sides -/

section

variable {parse : String → Option Url} {bundle : List ProviderManifest} {provider : ProviderDraft}
variable {model_id operation : String}

theorem authorize_native_eq_ok (admitted : provider_manifest.AuthorizedProviderProtocol) :
    authorize_provider_operation_for_model parse bundle provider model_id operation =
        .ok (some admitted) ↔
      json.blank model_id = false ∧ ∃ selection,
        select bundle provider model_id operation = .ok (some selection) ∧
        admit_selection parse provider model_id operation selection = .ok admitted := by
  unfold authorize_provider_operation_for_model
  simp only [bind_eq_ok, require_eq_ok, Bool.not_eq_true]
  constructor
  · rintro ⟨-, hmodel, selected, hselected, h⟩
    cases selected with
    | none => cases h
    | some selection =>
      obtain ⟨_, hadmitted, h⟩ := bind_eq_ok.mp h
      cases h
      exact ⟨hmodel, selection, hselected, hadmitted⟩
  · rintro ⟨hmodel, selection, hselected, hadmitted⟩
    exact ⟨(), hmodel, some selection, hselected, bind_eq_ok.mpr ⟨admitted, hadmitted, rfl⟩⟩

theorem native_accepts_iff {parts : Parts}
    (hreferred : referred bundle provider model_id operation = some (manifest, profile))
    (hparts : parts_of manifest profile
      ((declared_bindings provider model_id operation).head?.bind (·.auth_profile_id)) =
        some parts) :
    NativeAccepts parse bundle provider model_id operation ↔
      Accepts parse provider model_id operation manifest profile parts := by
  constructor
  · rintro ⟨_, _, _, hsame, hfound, haccepts⟩
    cases hreferred.symm.trans hsame
    cases hparts.symm.trans hfound
    exact haccepts
  · exact fun haccepts => ⟨_, _, _, hreferred, hparts, haccepts⟩

/-- Of a profile that the renderer authorized: the native side authorizes it when it selects it and
its own checks pass. -/
theorem agrees_iff (hregistry : Registry bundle)
    (h : Authorized manifest profile request operation authority)
    (hauth : request.declared_auth_profile_id =
      (declared_bindings provider model_id operation).head?.bind (·.auth_profile_id))
    (hmanifest : manifest ∈ bundle) (hprofile : profile ∈ manifest.protocol_profiles)
    (hreferred : referred bundle provider model_id operation = some (manifest, profile))
    (hfallback : custom_text_streaming_fallback provider profile authority.transport operation = true →
      transport_matches provider.transport authority.transport.kind = true)
    (hselect : ∀ selection, select bundle provider model_id operation = .ok (some selection) ↔
      (if is_custom provider then provider.manifest_provider_id = none
        else ∀ owner ∈ provider.manifest_provider_id,
          json.blank owner = true ∨ owner = manifest.provider.id) ∧
      (is_custom provider = true ∨ provider.model_protocol_bindings = [] ∨
        declared_bindings provider model_id operation ≠ []) ∧
      (∀ d ∈ declared_bindings provider model_id operation, Declares d manifest profile) ∧
      selection_of provider model_id operation manifest profile = selection) :
    Agrees parse bundle provider model_id operation authority ↔
      NativeAccepts parse bundle provider model_id operation := by
  obtain ⟨endpoint, hendpoint, hparts⟩ := parts_of_authorized h
  rw [hauth] at hparts
  rw [native_accepts_iff hreferred hparts]
  have hadmit := admit_selection_eq_ok parse hregistry provider model_id
    (selection_of provider model_id operation manifest profile) hmanifest hprofile h hauth.symm
    hendpoint
  have hdeclared : (selection_of provider model_id operation manifest profile).explicit_declaration =
      true ↔ declared_bindings provider model_id operation ≠ [] := by
    unfold selection_of
    simp
  rw [hdeclared] at hadmit
  unfold Agrees
  simp only [authorize_native_eq_ok]
  constructor
  · rintro ⟨admitted, ⟨hmodel, selection, hselected, hadmitted⟩, hsame⟩
    obtain ⟨howner, hbindings, hdeclares, rfl⟩ := (hselect selection).mp hselected
    obtain ⟨htransport, hfits, hdeployment, hshape⟩ := hadmit.mp ⟨admitted, hadmitted, hsame⟩
    exact ⟨hmodel, howner, hbindings, hdeclares, htransport.elim id hfallback, hfits, hdeployment,
      hshape⟩
  · intro haccepts
    obtain ⟨admitted, hadmitted, hsame⟩ := hadmit.mpr ⟨Or.inl haccepts.transport, haccepts.endpoint,
      haccepts.deployment, haccepts.auth⟩
    exact ⟨admitted, ⟨haccepts.model, _, (hselect _).mpr ⟨haccepts.owner, haccepts.bindings,
      haccepts.declared, rfl⟩, hadmitted⟩, hsame⟩

theorem transport_matches_of_expected {transport kind : String}
    (h : expected_provider_transport kind = some transport) :
    transport_matches transport kind = true := by
  unfold expected_provider_transport at h
  split at h
  · rename_i hsse
    cases h
    subst hsse
    decide
  · split at h
    · rename_i hkind
      cases h
      rcases hkind with rfl | rfl | rfl <;> decide
    · cases h

/-- No manifest owns the template of a custom provider. -/
theorem custom_template (hregistry : Registry bundle) (hcustom : is_custom provider = true) :
    find_template bundle provider.template_id = none := by
  unfold find_template
  rw [List.find?_eq_none]
  intro manifest hmem hsame
  have hplain := (hregistry.templates manifest hmem).2
  rw [of_decide_eq_true hsame] at hplain
  rw [is_custom, hplain] at hcustom
  cases hcustom

theorem select_custom_iff (hregistry : Registry bundle)
    (hworkspace : provider.template_id ≠ WORKSPACE) (hcustom : is_custom provider = true)
    (selection : Selection) :
    select bundle provider model_id operation = .ok (some selection) ↔
      (∀ owner ∈ provider.manifest_provider_id, json.blank owner = true) ∧
        select_custom bundle provider model_id operation = .ok selection := by
  unfold select
  simp only [bind_eq_ok, provider_manifest_eq hworkspace, custom_template hregistry hcustom]
  constructor
  · rintro ⟨_, ⟨rfl, howner⟩, h⟩
    rw [if_pos hcustom] at h
    obtain ⟨_, hselected, h⟩ := bind_eq_ok.mp h
    cases h
    exact ⟨fun owner ho => by simpa using howner owner ho, hselected⟩
  · rintro ⟨howner, hselected⟩
    refine ⟨none, ⟨rfl, fun owner ho => Or.inl (howner owner ho)⟩, ?_⟩
    rw [if_pos hcustom]
    exact bind_eq_ok.mpr ⟨selection, hselected, rfl⟩

variable {parse_in : Url → String → Option Url} {to_lower_case : String → String}
variable {validate_bailian_selection :
  ProtocolProfile → ProviderProtocolResolutionRequest → Resolution Unit}

theorem resolve_custom_agrees (hregistry : Registry bundle)
    (hworkspace : provider.template_id ≠ WORKSPACE) (hcustom : is_custom provider = true)
    (hrequest : request_of provider model_id operation = some request)
    (h : resolve_custom parse to_lower_case validate_bailian_selection bundle request =
      .ok authority) :
    Agrees parse bundle provider model_id operation authority ↔
      NativeAccepts parse bundle provider model_id operation := by
  obtain ⟨-, -, hoperation, htransport, -, hid, hversion, hmversion, hauth⟩ :=
    request_fields hrequest
  unfold resolve_custom at h
  simp only [bind_eq_ok, found_eq_ok, check_eq_ok] at h
  obtain ⟨⟨profile_id, profile_version, manifest_version⟩, hdeclared, ⟨_, profile⟩, hfound, -,
    hmanifest_version, -, hpolicy, _, hshape, h⟩ := h
  rcases declared_of_request hrequest with hnone | ⟨declared, hone⟩
  · rw [hnone] at hid
    rw [hid] at hdeclared
    cases hdeclared
  rw [hone] at hid hversion hmversion hauth
  have hnames : declared.profile_id = profile_id ∧ declared.profile_version = profile_version ∧
      declared.manifest_version = manifest_version := by
    rw [hid, hversion, hmversion] at hdeclared
    simp only [List.head?_cons, Option.map_some, Option.filter] at hdeclared
    split at hdeclared
    · simpa using hdeclared
    · cases hdeclared
  obtain ⟨rfl, rfl, rfl⟩ := hnames
  obtain ⟨hmem, hprofile⟩ := find_profile_some hfound
  have hauthorized := authorize_ok h
  rw [hoperation] at hauthorized
  unfold validate_custom_connection_shape at hshape
  simp only [bind_eq_ok, found_eq_ok, check_eq_ok, required_by_id_eq_ok] at hshape
  obtain ⟨_, hpolicy', _, -, transport, hfound_transport, -, -, -, ⟨-, hexpected⟩, -⟩ := hshape
  have hendpoint : profile.custom_endpoint_policy = some "absolute-secure-url-no-userinfo" := by
    split at hpolicy'
    · assumption
    · cases hpolicy'
  cases hauthorized.transport.symm.trans hfound_transport
  rw [htransport] at hexpected
  refine agrees_iff hregistry hauthorized (by rw [hauth, hone]) hmem (profile_some hprofile).1 ?_
    (fun _ => transport_matches_of_expected hexpected.symm) fun _ => ?_
  · unfold referred
    rw [if_pos hcustom, hone]
    exact hfound
  · rw [select_custom_iff hregistry hworkspace hcustom, select_custom_eq_ok hregistry hone hmem
      hprofile hmanifest_version hpolicy hendpoint, if_pos hcustom, hone]
    constructor
    · rintro ⟨-, howner, hdeclares, hselected⟩
      exact ⟨howner, Or.inl hcustom, by simpa using hdeclares, hselected⟩
    · rintro ⟨howner, -, hdeclares, hselected⟩
      exact ⟨by simp [howner], howner, by simpa using hdeclares, hselected⟩

theorem select_builtin_iff (hworkspace : provider.template_id ≠ WORKSPACE)
    (hcustom : is_custom provider = false) (selection : Selection) :
    select bundle provider model_id operation = .ok (some selection) ↔
      ∃ manifest, find_template bundle provider.template_id = some manifest ∧
        (∀ owner ∈ provider.manifest_provider_id,
          json.blank owner = true ∨ owner = manifest.provider.id) ∧
        select_registered provider manifest model_id operation = .ok selection := by
  unfold select
  simp only [bind_eq_ok, provider_manifest_eq hworkspace]
  constructor
  · rintro ⟨found, ⟨hfound, howner⟩, h⟩
    cases found with
    | none =>
      rw [if_neg (by rw [hcustom]; exact Bool.false_ne_true)] at h
      obtain ⟨_, -, h⟩ := bind_eq_ok.mp h
      cases h
    | some manifest =>
      obtain ⟨_, hselected, h⟩ := bind_eq_ok.mp h
      cases h
      exact ⟨manifest, hfound, fun owner ho => by simpa using howner owner ho, hselected⟩
  · rintro ⟨manifest, hfound, howner, hselected⟩
    exact ⟨some manifest, ⟨hfound, fun owner ho => by simpa using howner owner ho⟩,
      bind_eq_ok.mpr ⟨selection, hselected, rfl⟩⟩

/-- A draft that refers to no profile is accepted by neither side. -/
theorem neither_of_unregistered (hworkspace : provider.template_id ≠ WORKSPACE)
    (hcustom : is_custom provider = false)
    (hnone : ∀ manifest, find_template bundle provider.template_id = some manifest →
      (manifest.models.find? fun model => model.id = model_id) = none) :
    ¬ Agrees parse bundle provider model_id operation authority ∧
      ¬ NativeAccepts parse bundle provider model_id operation := by
  constructor
  · rintro ⟨admitted, hadmitted, -⟩
    obtain ⟨-, selection, hselected, -⟩ := (authorize_native_eq_ok admitted).mp hadmitted
    obtain ⟨manifest, hfound, -, h⟩ := (select_builtin_iff hworkspace hcustom selection).mp hselected
    unfold select_registered at h
    rw [hnone manifest hfound] at h
    cases h
  · rintro ⟨manifest, _, _, hreferred, -⟩
    unfold referred at hreferred
    rw [if_neg (by rw [hcustom]; exact Bool.false_ne_true)] at hreferred
    obtain ⟨owner, hfound, hreferred⟩ := Option.bind_eq_some_iff.mp hreferred
    rw [hnone owner hfound] at hreferred
    cases hreferred

theorem resolve_registered_agrees (hregistry : Registry bundle)
    (hworkspace : provider.template_id ≠ WORKSPACE) (hcustom : is_custom provider = false)
    (htemplate : find_template bundle provider.template_id = some manifest) {model : Model}
    (hmodel : (manifest.models.find? fun model => model.id = model_id) = some model)
    (hrequest : request_of provider model_id operation = some request)
    (h : resolve_registered validate_bailian_selection manifest model request = .ok authority) :
    Agrees parse bundle provider model_id operation authority ↔
      NativeAccepts parse bundle provider model_id operation := by
  obtain ⟨-, -, hoperation, -, -, -, -, -, hauth⟩ := request_fields hrequest
  unfold resolve_registered at h
  simp only [bind_eq_ok, found_eq_ok, check_eq_ok, hoperation] at h
  obtain ⟨_, hbinding, -, -, -, -, _, hprofile, h⟩ := h
  have hmem : manifest ∈ bundle := List.mem_of_find?_eq_some htemplate
  refine agrees_iff hregistry (authorize_ok h) hauth hmem (profile_some hprofile).1 ?_ ?_
    fun selection => ?_
  · simp [referred, hcustom, htemplate, hmodel, hbinding, hprofile]
  · intro hfallback
    simp [custom_text_streaming_fallback, hcustom] at hfallback
  · have hone : (declared_bindings provider model_id operation).length ≤ 1 := by
      rcases declared_of_request hrequest with hnone | ⟨_, hone⟩
      · simp [hnone]
      · simp [hone]
    rw [select_builtin_iff hworkspace hcustom, if_neg (by rw [hcustom]; exact Bool.false_ne_true)]
    constructor
    · rintro ⟨_, hfound, howner, hselected⟩
      cases htemplate.symm.trans hfound
      obtain ⟨hbindings, hdeclares, hsame⟩ :=
        (select_registered_eq_ok hone hmodel hbinding hprofile selection).mp hselected
      exact ⟨howner, Or.inr hbindings, hdeclares, hsame⟩
    · rintro ⟨howner, hbindings, hdeclares, hsame⟩
      exact ⟨manifest, htemplate, howner, (select_registered_eq_ok hone hmodel hbinding hprofile
        selection).mpr ⟨hbindings.resolve_left (by simp [hcustom]), hdeclares, hsame⟩⟩

theorem resolve_builtin_agrees (hregistry : Registry bundle)
    (hworkspace : provider.template_id ≠ WORKSPACE) (hcustom : is_custom provider = false)
    (hrequest : request_of provider model_id operation = some request)
    (h : resolve_builtin parse parse_in validate_bailian_selection bundle request = .ok authority) :
    Agrees parse bundle provider model_id operation authority ↔
      NativeAccepts parse bundle provider model_id operation := by
  obtain ⟨htemplate_id, hmodel_id, -⟩ := request_fields hrequest
  have hneither : (∀ manifest, find_template bundle provider.template_id = some manifest →
      (manifest.models.find? fun model => model.id = model_id) = none) →
      ¬ Agrees parse bundle provider model_id operation authority ∧
        ¬ NativeAccepts parse bundle provider model_id operation :=
    fun hnone => neither_of_unregistered hworkspace hcustom hnone
  obtain ⟨manifest, hmanifest, h⟩ := bind_eq_ok.mp h
  by_cases hempty : provider.template_id = ""
  · -- The manifest is the one of the provider, and the template is no one's.
    obtain ⟨hagrees, haccepts⟩ := hneither fun owner hfound => by
      have hsame := List.find?_some hfound
      rw [hempty] at hsame
      exact absurd (of_decide_eq_true hsame)
        (hregistry.templates owner (List.mem_of_find?_eq_some hfound)).1
    exact iff_of_false hagrees haccepts
  have hfound : find_template bundle provider.template_id = some manifest := by
    unfold builtin_manifest requested_manifest at hmanifest
    rw [htemplate_id] at hmanifest
    simp only [Option.filter, ne_eq, hempty, not_false_eq_true, decide_true, if_true, bind_eq_ok,
      found_eq_ok] at hmanifest
    obtain ⟨_, hfound, -, -, hsame⟩ := hmanifest
    cases hsame
    unfold find_provider_manifest_by_template_id at hfound
    rwa [if_pos (show provider.template_id ≠ "template-dashscope-workspace" from hworkspace),
      Option.or_none] at hfound
  rw [hmodel_id] at h
  cases hmodel : manifest.models.find? fun candidate => candidate.id = model_id with
  | some model =>
    rw [hmodel] at h
    exact resolve_registered_agrees hregistry hworkspace hcustom hfound hmodel hrequest h
  | none =>
    obtain ⟨hagrees, haccepts⟩ := hneither fun owner howner => by
      cases hfound.symm.trans howner
      exact hmodel
    exact iff_of_false hagrees haccepts

end

/-- Of a draft that is not of Bailian and that the renderer offers, the native side authorizes the
same profile with the same auth profile exactly when its own checks of the draft pass. -/
theorem the_offered_is_authorized_when_the_native_checks_pass {parse : String → Option Url}
    {parse_in : Url → String → Option Url} {to_lower_case : String → String}
    {validate_bailian_selection :
      ProtocolProfile → ProviderProtocolResolutionRequest → Resolution Unit}
    {bundle : List ProviderManifest} (hregistry : Registry bundle) {provider : ProviderDraft}
    (hworkspace : provider.template_id ≠ WORKSPACE) {model_id operation : String}
    {request : ProviderProtocolResolutionRequest} {authority : AuthorizedProviderProtocol}
    (hrequest : request_of provider model_id operation = some request)
    (h : resolve_provider_protocol parse parse_in to_lower_case validate_bailian_selection bundle
      request = .ok authority) :
    Agrees parse bundle provider model_id operation authority ↔
      NativeAccepts parse bundle provider model_id operation := by
  obtain ⟨-, -, -, -, hcustom, -⟩ := request_fields hrequest
  obtain ⟨_, -, h⟩ := bind_eq_ok.mp h
  rw [hcustom] at h
  split at h
  · rename_i hyes
    exact resolve_custom_agrees hregistry hworkspace hyes hrequest h
  · rename_i hno
    exact resolve_builtin_agrees hregistry hworkspace (by simpa using hno) hrequest h

/-! ## A model of one's own -/

/-- The text translation of a manifest of the bundle. -/
def openai : ProviderManifest where
  manifest_version := 3
  provider := ⟨"openai", "template-openai-compatible-realtime"⟩
  auth_profiles := [⟨"openai.auth.bearer-header", "bearer",
    [⟨"header", "Authorization", "credential", some "Bearer", true⟩]⟩]
  transports := [⟨"openai.transport.http-json-sse", "sse"⟩]
  audio_profiles := []
  lifecycle_profiles := [⟨"openai.lifecycle.chat-completions-sse", ["none"]⟩]
  api_families := [{
    id := "openai.api.chat-completions.sse"
    base_url_template := "https://api.openai.com/v1"
    endpoint_template := some "/chat/completions"
    endpoint_status := "verified"
    model_addressing := "model-id"
    transport_id := "openai.transport.http-json-sse"
    auth_profile_ids := ["openai.auth.bearer-header"] }]
  protocol_profiles := [{
    id := "openai.chat-completions.sse.ga"
    version := 1
    api_family_id := "openai.api.chat-completions.sse"
    transport_id := "openai.transport.http-json-sse"
    auth_profile_ids := ["openai.auth.bearer-header"]
    default_auth_profile_id := "openai.auth.bearer-header"
    audio_profile_id := none
    lifecycle_profile_id := "openai.lifecycle.chat-completions-sse"
    operations := ["text", "text-translation"]
    capabilities := ["text-generation", "text-translation"]
    custom_provider_policy := some "explicit-profile"
    custom_endpoint_policy := some "absolute-secure-url-no-userinfo"
    adapter := ⟨"openai-compatible-http", "enabled", "fixture-only"⟩ }]
  models := [⟨"gpt-4o", [⟨"text-translation", "openai.chat-completions.sse.ga", 1⟩]⟩]

/-- A draft that binds the translation of a model to the profile above. -/
def draft_binding (model_id : String) : ProviderDraft where
  template_id := "template-openai-compatible-realtime"
  provider_id := "openai"
  manifest_provider_id := none
  deployment_id := none
  base_url := "https://api.openai.com/v1"
  transport := "streaming-http"
  auth_ref := ⟨"Authorization", "bearer"⟩
  region := none
  stream_enabled := true
  model_protocol_bindings :=
    [⟨model_id, "text-translation", "openai", 3, "openai.chat-completions.sse.ga", 1, none⟩]
  model_registry_version := some 2

def openai_url (path : String) : Url :=
  ⟨"https", "", none, some "api.openai.com", none, path, none, none⟩

/-- The parser of URLs, at the endpoint of the manifest. -/
def parse_openai (s : String) : Option Url :=
  if s = "https://api.openai.com/v1" then some (openai_url "/v1") else none

def parse_in_openai (_ : Url) (s : String) : Option Url :=
  if s = "/chat/completions" then some (openai_url s) else none

theorem openai_registry : Registry [openai] where
  owners := by simp
  profiles := by simp
  templates := by
    decide +kernel
  families := by
    simp only [List.mem_singleton, forall_eq, openai]
    decide +kernel
  audio := by
    decide +kernel

/-- What the renderer says of a draft that binds the model. -/
def resolve_draft_binding (model_id : String) : Resolution AuthorizedProviderProtocol := do
  let request ← found (request_of (draft_binding model_id) model_id "text-translation")
    .protocol_profile_required "Duplicate declarations."
  resolve_provider_protocol parse_openai parse_in_openai id (fun _ _ => .ok ()) [openai] request

theorem the_registered_model_is_authorized : ∃ request authority,
    request_of (draft_binding "gpt-4o") "gpt-4o" "text-translation" = some request ∧
      resolve_provider_protocol parse_openai parse_in_openai id (fun _ _ => .ok ()) [openai]
        request = .ok authority ∧
      (Agrees parse_openai [openai] (draft_binding "gpt-4o") "gpt-4o" "text-translation" authority ↔
        NativeAccepts parse_openai [openai] (draft_binding "gpt-4o") "gpt-4o" "text-translation") := by
  have hok : (resolve_draft_binding "gpt-4o").isOk = true := by decide +kernel
  cases hresolved : resolve_draft_binding "gpt-4o" with
  | error _ =>
    rw [hresolved] at hok
    cases hok
  | ok authority =>
    obtain ⟨request, hrequest, h⟩ := bind_eq_ok.mp hresolved
    exact ⟨request, authority, found_eq_ok.mp hrequest, h,
      the_offered_is_authorized_when_the_native_checks_pass openai_registry (by decide)
        (found_eq_ok.mp hrequest) h⟩

/-- The renderer offers a model of the user's own under the second registry version, and the native
side has never heard of it. -/
theorem a_model_of_the_users_is_offered_and_refused : Registry [openai] ∧
    (draft_binding "gpt-5").template_id ≠ WORKSPACE ∧ ∃ request authority,
      request_of (draft_binding "gpt-5") "gpt-5" "text-translation" = some request ∧
      resolve_provider_protocol parse_openai parse_in_openai id (fun _ _ => .ok ()) [openai]
        request = .ok authority ∧
      ¬ Agrees parse_openai [openai] (draft_binding "gpt-5") "gpt-5" "text-translation" authority ∧
      authorize_provider_operation_for_model parse_openai [openai] (draft_binding "gpt-5") "gpt-5"
        "text-translation" = .error
          "provider_manifest.model_not_found: exact model 'gpt-5' is not registered by 'openai'" := by
  have hok : (resolve_draft_binding "gpt-5").isOk = true := by decide +kernel
  have hrefused : authorize_provider_operation_for_model parse_openai [openai] (draft_binding "gpt-5")
      "gpt-5" "text-translation" = .error
        "provider_manifest.model_not_found: exact model 'gpt-5' is not registered by 'openai'" := by
    decide +kernel
  cases hresolved : resolve_draft_binding "gpt-5" with
  | error _ =>
    rw [hresolved] at hok
    cases hok
  | ok authority =>
    obtain ⟨request, hrequest, h⟩ := bind_eq_ok.mp hresolved
    refine ⟨openai_registry, by decide, request, authority, found_eq_ok.mp hrequest, h, ?_, hrefused⟩
    rintro ⟨_, hadmitted, -⟩
    cases hadmitted

end omni_translate.provider_resolver

-- The credential authority of a session (`storage/credential_verification.rs`):
-- which revision of a secret a probe read, the proofs that attested probes
-- leave, and the reconciliation of a configuration with them. A fresh
-- identifier is part of the operation that draws it.
import OmniTranslate.JsonEdits
import OmniTranslate.Maps
import OmniTranslate.Runs

namespace omni_translate.credential_verification

open json maps runs

variable {Settings Cache : Type}

/-! ## Providers and probes -/

structure ProviderAuthRefInput where
  kind : String
  reference : String
  header_name : String
  scheme : String
deriving DecidableEq

/-- A provider as a probe takes it; `settings` are its other fields. -/
structure ProviderDraftInput (Settings Cache : Type) where
  template_id : String
  provider_id : String
  model : String
  auth_ref : ProviderAuthRefInput
  settings : Settings
  model_catalog_cache : Cache
deriving DecidableEq

structure ProviderRuntimeError where
  code : String
  message : String
deriving DecidableEq

/-- The fields of a probe result that the authority reads or writes. -/
structure ProviderProbeProfileRuntime where
  id : String
  verdict : String
  checked_at : String
  stream_supported : Bool
  error_shape_stable : Bool
  response_shape_stable : Bool
  error : Option ProviderRuntimeError
deriving DecidableEq

def comparable_provider [Inhabited Cache] (provider : ProviderDraftInput Settings Cache) :
    ProviderDraftInput Settings Cache :=
  { provider with model_catalog_cache := default }

/-! ## The authority -/

def normalize_reference (reference : String) : String :=
  String.ofList (reference.toList.map fun c => if c = ':' ∨ c = '/' ∨ c = '\\' ∨ c = ' ' then '_' else c)

/-- Windows does not tell the case of a target, nor a reference from its normalized form. -/
def reference_key (reference : String) : String :=
  String.ofList ((normalize_reference reference).toList.map Char.toLower)

structure Proof (Settings Cache : Type) where
  reference : String
  revision : String
  provider : ProviderDraftInput Settings Cache
  snapshot : List (String × Value)

/-- For each reference its revision and how many writes are pending, and the proofs by their ids. -/
structure Authority (Settings Cache : Type) where
  revisions : AList fun _ : String => String × Nat
  proofs : AList fun _ : String => Proof Settings Cache

def revision_locked (state : Authority Settings Cache) (reference fresh : String) :
    Authority Settings Cache × Option String :=
  match state.revisions.lookup reference with
  | some (revision, pending) => (state, if pending = 0 then some revision else none)
  | none => ({ state with revisions := state.revisions.insert reference (fresh, 0) }, some fresh)

/-- `CredentialWrite::begin`, under the reference's key. -/
def write_begun (state : Authority Settings Cache) (reference fresh : String) :
    Authority Settings Cache :=
  let pending := ((state.revisions.lookup reference).getD ("", 0)).2
  { revisions := state.revisions.insert reference (fresh, pending + 1)
    proofs := retain_values (fun proof => proof.reference ≠ reference) state.proofs }

/-- The drop of a `CredentialWrite`. -/
def write_dropped (state : Authority Settings Cache) (reference fresh : String) :
    Authority Settings Cache :=
  match state.revisions.lookup reference with
  | some (_, pending) => { state with revisions := state.revisions.insert reference (fresh, pending - 1) }
  | none => state

/-! ## Reads and probe scopes -/

structure Reads where
  observed : List (String × String) := []
  invalid : Bool := false

/-- What a scope records of a read that began and ended at these revisions. -/
def observe (reference : String) (before after : Option String) (has_secret : Bool) (scope : Reads) :
    Reads :=
  match before with
  | some revision =>
    if has_secret && before == after then
      { scope with observed := scope.observed ++ [(reference_key reference, revision)] }
    else { scope with invalid := true }
  | none => { scope with invalid := true }

/-- The one revision that all reads of the innermost scope observed, of this reference. -/
def evidence (reads : List Reads) (reference : String) : Option String := do
  let scope ← reads.getLast?
  let first ← scope.observed.head?
  if scope.invalid = false ∧ ∀ item ∈ scope.observed, item = (reference, first.2) then
    some first.2
  else none

/-! ## Attestation -/

-- The manifest of the known models, and the decoding of a provider, are tables and
-- derived code that the authority only calls.
variable (is_known_model : ProviderDraftInput Settings Cache → Bool)
variable (from_value : Value → Option (ProviderDraftInput Settings Cache))

def invalidate_unproven_custom_result (provider : ProviderDraftInput Settings Cache)
    (result : ProviderProbeProfileRuntime) : ProviderProbeProfileRuntime :=
  if is_known_model provider then result
  else if result.error.isNone then
    { result with
      checked_at := "pending-probe"
      verdict := "unavailable"
      error := some ⟨"auth.invalid", "Credential verification is no longer current; verify again."⟩ }
  else { result with checked_at := "pending-probe" }

/-- The probe as the proof keeps it. -/
def snapshot_of (result : ProviderProbeProfileRuntime) : List (String × Value) :=
  [("profileId", .string result.id), ("verdict", .string result.verdict),
    ("checkedAt", .string result.checked_at), ("streamSupported", .bool result.stream_supported),
    ("errorShapeStable", .bool result.error_shape_stable),
    ("responseShapeStable", .bool result.response_shape_stable)]

/-- The revision for which the probe is attested: there is evidence of it, it is current, and the
probe has no error. -/
def attested (state : Authority Settings Cache) (reads : List Reads)
    (provider : ProviderDraftInput Settings Cache) (result : ProviderProbeProfileRuntime)
    (fresh : String) : Option String :=
  let reference := reference_key provider.auth_ref.reference
  let evidence := evidence reads reference
  let current := (revision_locked state reference fresh).2
  if evidence = none ∨ evidence ≠ current ∨ result.error.isSome then none else evidence

/-- The result with the receipt of its attestation. -/
def with_receipt (result : ProviderProbeProfileRuntime) (receipt : String) :
    ProviderProbeProfileRuntime :=
  { result with id := "credential-proof:" ++ receipt }

/-- A proof of another provider, or of another template of it. -/
def unrelated (provider : ProviderDraftInput Settings Cache) (proof : Proof Settings Cache) : Bool :=
  proof.provider.provider_id ≠ provider.provider_id ∨ proof.provider.template_id ≠ provider.template_id

def attest [Inhabited Cache] (state : Authority Settings Cache) (reads : List Reads)
    (provider : ProviderDraftInput Settings Cache) (result : ProviderProbeProfileRuntime)
    (fresh receipt : String) : Authority Settings Cache × ProviderProbeProfileRuntime :=
  let reference := reference_key provider.auth_ref.reference
  let locked := (revision_locked state reference fresh).1
  match attested state reads provider result fresh with
  | none => (locked, invalidate_unproven_custom_result is_known_model provider result)
  | some revision =>
    let result := with_receipt result receipt
    let proof : Proof Settings Cache :=
      { reference, revision, provider := comparable_provider provider, snapshot := snapshot_of result }
    let kept := retain_values (unrelated provider) locked.proofs
    ({ locked with proofs := kept.insert result.id proof }, result)

/-! ## Reconciliation -/

/-- The provider's probe has a proof that is current and fits both. -/
def valid [Inhabited Cache] [DecidableEq Settings] [DecidableEq Cache]
    (state : Authority Settings Cache) (provider : Value) : Bool :=
  Option.isSome do
    let probe ← provider.get "probe"
    let proof ← state.proofs.lookup (← probe.get_str "profileId")
    let (revision, pending) ← state.revisions.lookup proof.reference
    if pending ≠ 0 ∨ revision ≠ proof.revision then none
    else do
      let input ← from_value provider
      if comparable_provider input ≠ proof.provider then none
      else if ∀ field ∈ proof.snapshot, probe.get field.1 = some field.2 then some () else none

def known (provider : Value) : Bool := (from_value provider).any is_known_model

/-- The verification claim of a probe is withdrawn; a known model keeps the time of its check. -/
def withdrawn (known : Bool) (probe : List (String × Value)) : List (String × Value) :=
  remove_field "configurationSignature"
    (if known then probe else insert_field "checkedAt" (.string "pending-probe") probe)

def reconcile_provider [Inhabited Cache] [DecidableEq Settings] [DecidableEq Cache]
    (state : Authority Settings Cache) (provider : Value) : Value :=
  if valid from_value state provider then provider
  else match provider with
    | .object fields =>
      let known := known is_known_model from_value provider
      let fields := if known then fields else insert_field "status" (.string "draft") fields
      match (fields.lookup "probe").bind Value.as_object with
      | some probe => .object (insert_field "probe" (.object (withdrawn known probe)) fields)
      | none => .object fields
    | other => other

def reconcile_config [Inhabited Cache] [DecidableEq Settings] [DecidableEq Cache]
    (state : Authority Settings Cache) (config : Value) : Value :=
  match config with
  | .object fields =>
    match (fields.lookup "providers").bind Value.as_array with
    | some providers =>
      .object (insert_field "providers"
        (.array (providers.map (reconcile_provider is_known_model from_value state))) fields)
    | none => config
  | _ => config

/-! ## Sessions -/

/-- The authority, the writes that are not dropped, and for each thread the reads it is in and
its probe scopes, innermost last. -/
structure Session (Settings Cache : Type) where
  authority : Authority Settings Cache
  writes : List String
  calls : Nat → List (String × Option String)
  reads : Nat → List Reads

def start : Session Settings Cache := ⟨⟨∅, ∅⟩, [], fun _ => [], fun _ => []⟩

/-- One critical section of the authority or one change of a thread's scopes. -/
inductive Op (Settings Cache : Type)
  | write_begins (reference fresh : String)
  | write_drops (write : Nat) (fresh : String)
  | read_begins (thread : Nat) (reference fresh : String)
  | read_ends (thread : Nat) (has_secret : Bool) (fresh : String)
  | scope_begins (thread : Nat)
  | attests (thread : Nat) (provider : ProviderDraftInput Settings Cache)
      (result : ProviderProbeProfileRuntime) (fresh receipt : String)
  | scope_drops (thread : Nat)

/-- `read_with_revision` before the vault is read. -/
def read_begins (s : Session Settings Cache) (thread : Nat) (reference fresh : String) :
    Session Settings Cache :=
  let (authority, before) := revision_locked s.authority (reference_key reference) fresh
  { s with
    authority
    calls := Function.update s.calls thread (s.calls thread ++ [(reference, before)]) }

/-- `observe_read`, when the vault was read. -/
def read_ends (s : Session Settings Cache) (thread : Nat) (has_secret : Bool) (fresh : String) :
    Session Settings Cache :=
  match (s.calls thread).getLast? with
  | none => s
  | some (reference, before) =>
    let (authority, after) := revision_locked s.authority (reference_key reference) fresh
    { s with
      authority
      calls := Function.update s.calls thread (s.calls thread).dropLast
      reads := Function.update s.reads thread
        ((s.reads thread).map (observe reference before after has_secret)) }

def step [Inhabited Cache] (s : Session Settings Cache) : Op Settings Cache → Session Settings Cache
  | .write_begins reference fresh =>
    { s with
      authority := write_begun s.authority (reference_key reference) fresh
      writes := s.writes ++ [reference_key reference] }
  | .write_drops write fresh =>
    match s.writes[write]? with
    | none => s
    | some reference =>
      { s with
        authority := write_dropped s.authority reference fresh
        writes := s.writes.eraseIdx write }
  | .read_begins thread reference fresh => read_begins s thread reference fresh
  | .read_ends thread has_secret fresh => read_ends s thread has_secret fresh
  | .scope_begins thread =>
    { s with reads := Function.update s.reads thread (s.reads thread ++ [{}]) }
  | .attests thread provider result fresh receipt =>
    { s with
      authority :=
        (attest is_known_model s.authority (s.reads thread) provider result fresh receipt).1 }
  | .scope_drops thread =>
    { s with reads := Function.update s.reads thread (s.reads thread).dropLast }

end omni_translate.credential_verification

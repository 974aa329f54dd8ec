-- What a load makes of a document: a load after a save of what was loaded gives the
-- same configuration again, what the document has is kept outside the fields that a
-- migration owns, and the defaults fill in what it has not.
import OmniTranslate.ConfigRepository
import OmniTranslate.ModelRegistryLaws

namespace omni_translate.repository

open json
open credential_verification
  (Authority ProviderDraftInput reconcile_config reconcile_provider withdrawn)
open model_registry (initialize_provider items_of migrate_provider upgraded_version)
open primary_text_translation (PRIMARY set_primary)
open primary_text_translation (migrate_config)

/-! ## The passes, as edits of one field -/

/-- The defaults, with what `initialize_defaults` made of their providers. -/
structure Root (defaults : DefaultConfig) (root : Value) : Prop where
  distinct : Distinct root
  providers : ∃ items, root.get "providers" = some (.array items)
  others : ∀ k ≠ "providers", root.get k = defaults.value.get k

theorem initialized (defaults : DefaultConfig) :
    ∃ root, model_registry.initialize_defaults defaults.value = some root ∧ Root defaults root := by
  obtain ⟨items, hitems, hobjects⟩ := defaults.providers
  have hmap : ∃ providers, items.mapM initialize_provider = some providers := by
    clear hitems
    induction items with
    | nil => exact ⟨[], rfl⟩
    | cons item items ih =>
      obtain ⟨providers, hproviders⟩ := ih fun p hp => hobjects p (List.mem_cons_of_mem _ hp)
      have hitem := hobjects item List.mem_cons_self
      cases item with
      | object _ =>
        exact ⟨_, by
          rw [List.mapM_cons, hproviders]
          rfl⟩
      | _ => cases hitem
  obtain ⟨providers, hproviders⟩ := hmap
  refine ⟨edit_field "providers" (fun _ => .array providers) defaults.value, ?_, ?_, ?_, ?_⟩
  · simp [model_registry.initialize_defaults, hitems, Value.as_array, hproviders]
  · exact defaults.distinct.edit_field fun _ _ => .other _ rfl
  · exact ⟨providers, by rw [get_edit_field, hitems]; rfl⟩
  · exact fun _ hk => get_edit_field_ne hk _ _

section

variable {Settings Cache : Type} [Inhabited Cache] [DecidableEq Settings] [DecidableEq Cache]
variable {is_known_model : ProviderDraftInput Settings Cache → Bool}
variable {from_value : Value → Option (ProviderDraftInput Settings Cache)}
variable {authority : Authority Settings Cache}

theorem reconcile_config_eq (config : Value) :
    reconcile_config is_known_model from_value authority config =
      edit_field "providers" (edit_items
        (reconcile_provider is_known_model from_value authority)) config := by
  cases config with
  | object fields =>
    unfold reconcile_config edit_field
    dsimp only
    cases hproviders : fields.lookup "providers" with
    | none => rfl
    | some v =>
      cases v with
      | array _ => rfl
      | _ => exact congrArg Value.object (insert_field_self hproviders).symm
  | _ => rfl

/-! ## A second pass -/

/-- A provider that is not known is a draft. -/
def marked (known : Bool) (fields : List (String × Value)) : List (String × Value) :=
  if known then fields else insert_field "status" (.string "draft") fields

/-- The fields of a provider without a current proof. -/
def claimless (known : Bool) (fields : List (String × Value)) : List (String × Value) :=
  match ((marked known fields).lookup "probe").bind Value.as_object with
  | some probe =>
    insert_field "probe" (.object (withdrawn known probe))
      (marked known fields)
  | none => marked known fields

variable (known : Bool) (fields : List (String × Value))

theorem claimless_cases :
    (((marked known fields).lookup "probe").bind Value.as_object = none ∧
      claimless known fields = marked known fields) ∨
    ∃ probe, (marked known fields).lookup "probe" = some (.object probe) ∧
      claimless known fields = insert_field "probe"
        (.object (withdrawn known probe)) (marked known fields) := by
  unfold claimless
  cases hprobe : (marked known fields).lookup "probe" with
  | none => exact Or.inl ⟨rfl, rfl⟩
  | some v =>
    cases v with
    | object probe => exact Or.inr ⟨probe, rfl, rfl⟩
    | _ => exact Or.inl ⟨rfl, rfl⟩

variable (is_known_model from_value authority) in
theorem reconcile_provider_cases (provider : Value) :
    reconcile_provider is_known_model from_value authority provider =
        provider ∨
      ∃ fields, provider = .object fields ∧
        credential_verification.valid from_value authority provider = false ∧
        reconcile_provider is_known_model from_value authority provider =
          .object (claimless (credential_verification.known is_known_model from_value provider)
            fields) := by
  cases hvalid : credential_verification.valid from_value authority provider with
  | true =>
    refine Or.inl ?_
    unfold reconcile_provider
    rw [if_pos hvalid]
  | false =>
    cases provider with
    | object fields =>
      refine Or.inr ⟨fields, rfl, rfl, ?_⟩
      unfold reconcile_provider
      rw [if_neg (by simp [hvalid])]
      generalize credential_verification.known is_known_model from_value (.object fields) = known
      change (match ((marked known fields).lookup "probe").bind Value.as_object with
        | some probe => _
        | none => _) = _
      rcases claimless_cases known fields with ⟨hprobe, h⟩ | ⟨probe, hprobe, h⟩
      · rw [h, hprobe]
        rfl
      · rw [h, hprobe]
        rfl
    | _ =>
      refine Or.inl ?_
      unfold reconcile_provider
      rw [if_neg (by simp [hvalid])]

theorem withdrawn_twice (probe : List (String × Value)) :
    withdrawn known (withdrawn known probe) =
      withdrawn known probe := by
  unfold withdrawn
  cases known with
  | true => exact remove_field_twice _ probe
  | false =>
    simp only [Bool.false_eq_true, if_false]
    rw [remove_insert_remove (by decide), insert_field_self]
    rw [lookup_remove_field_ne (by decide), lookup_insert_field]

variable {k : String}

theorem marked_lookup_ne (hk : k ≠ "status") (known : Bool) (fields : List (String × Value)) :
    (marked known fields).lookup k = fields.lookup k := by
  cases known with
  | true => rfl
  | false => exact lookup_insert_field_ne hk _ fields

theorem marked_twice : marked known (marked known fields) = marked known fields := by
  cases known with
  | true => rfl
  | false => exact insert_field_twice _ _ _ fields

theorem marked_insert_marked (hk : k ≠ "status") (known : Bool) (v : Value)
    (fields : List (String × Value)) :
    marked known (insert_field k v (marked known fields)) =
      insert_field k v (marked known fields) := by
  cases known with
  | true => rfl
  | false =>
    refine insert_field_self ?_
    rw [lookup_insert_field_ne (Ne.symm hk)]
    exact lookup_insert_field _ _ fields

theorem claimless_lookup_ne (hstatus : k ≠ "status") (hprobe : k ≠ "probe") (known : Bool)
    (fields : List (String × Value)) : (claimless known fields).lookup k = fields.lookup k := by
  rcases claimless_cases known fields with ⟨-, h⟩ | ⟨probe, -, h⟩
  · rw [h, marked_lookup_ne hstatus]
  · rw [h, lookup_insert_field_ne hprobe, marked_lookup_ne hstatus]

theorem claimless_twice : claimless known (claimless known fields) = claimless known fields := by
  rcases claimless_cases known fields with ⟨hprobe, h⟩ | ⟨_, -, h⟩
  · rw [h]
    unfold claimless
    rw [marked_twice, hprobe]
  · rw [h]
    unfold claimless
    rw [marked_insert_marked (by decide), lookup_insert_field]
    simp only [Option.bind_some, Value.as_object, withdrawn_twice]
    exact insert_field_twice _ _ _ _

/-- The fields that are no part of a provider draft: a claim of verification is not decoded. -/
structure Unread (from_value : Value →
    Option (ProviderDraftInput Settings Cache)) : Prop where
  status : ∀ v fields,
    from_value (.object (insert_field "status" v fields)) = from_value (.object fields)
  probe : ∀ v fields,
    from_value (.object (insert_field "probe" v fields)) = from_value (.object fields)

omit [Inhabited Cache] [DecidableEq Settings] [DecidableEq Cache] in
theorem from_value_claimless (hunread : Unread from_value) (known : Bool)
    (fields : List (String × Value)) :
    from_value (.object (claimless known fields)) = from_value (.object fields) := by
  have hmarked : from_value (.object (marked known fields)) = from_value (.object fields) := by
    cases known with
    | true => rfl
    | false => exact hunread.status _ fields
  rcases claimless_cases known fields with ⟨-, h⟩ | ⟨probe, -, h⟩
  · rw [h, hmarked]
  · rw [h, hunread.probe, hmarked]

/-- The reconciliation changes nothing the second time. -/
theorem reconcile_provider_idempotent (hunread : Unread from_value) (provider : Value) :
    reconcile_provider is_known_model from_value authority
        (reconcile_provider is_known_model from_value authority provider) =
      reconcile_provider is_known_model from_value authority provider := by
  rcases reconcile_provider_cases is_known_model from_value authority provider
    with h | ⟨fields, rfl, -, h⟩
  · rw [h, h]
  · rw [h]
    generalize hknown : credential_verification.known is_known_model from_value (.object fields) =
      known
    have hagain : credential_verification.known is_known_model from_value
        (.object (claimless known fields)) = known := by
      rw [← hknown]
      unfold credential_verification.known
      rw [from_value_claimless hunread]
    rcases reconcile_provider_cases is_known_model from_value authority
      (.object (claimless known fields)) with h | ⟨_, hfields, -, h⟩
    · exact h
    · cases hfields
      rw [h, hagain, claimless_twice]

theorem migrate_provider_of_version {seeds : List Value} {provider : Value}
    (h : (provider.get "modelRegistryVersion").bind Value.as_u64 = some 2) :
    migrate_provider seeds provider = provider := by
  unfold migrate_provider
  rw [if_pos h]

/-- The registry of a provider that was migrated and reconciled is migrated. -/
theorem migrate_reconciled (seeds : List Value) (provider : Value) :
    migrate_provider seeds
        (reconcile_provider is_known_model from_value authority
          (migrate_provider seeds provider)) =
      reconcile_provider is_known_model from_value authority
        (migrate_provider seeds provider) := by
  have hagain := model_registry.migrate_provider_idempotent seeds provider
  generalize hmigrated : migrate_provider seeds provider = migrated at hagain ⊢
  rcases reconcile_provider_cases is_known_model from_value authority migrated
    with h | ⟨fields, hfields, -, h⟩
  · rw [h, hagain]
  · rw [h]
    subst hfields
    refine migrate_provider_of_version ?_
    change ((claimless _ fields).lookup _).bind _ = _
    rw [claimless_lookup_ne (by decide) (by decide)]
    have hversion : ((Value.object fields).get "modelRegistryVersion").bind Value.as_u64 =
        some 2 := by
      rcases model_registry.migrate_provider_cases seeds provider with hsame | ⟨object, _, -, hup⟩
      · by_contra hne
        have hprovider : provider = .object fields := by rw [← hsame, hmigrated]
        subst hprovider
        unfold migrate_provider at hmigrated
        rw [if_neg hne] at hmigrated
        have hup := upgraded_version fields
          (items_of (.object fields) "modelCapabilityOverrides" ++
            (items_of (.object fields) "localModelCapabilityRegistry").filterMap
              (model_registry.native_override seeds))
        dsimp only at hmigrated
        rw [hmigrated] at hup
        exact hne (by rw [hup]; rfl)
      · rw [← hmigrated, hup, upgraded_version]
        rfl
    exact hversion

/-! ## The contract of the driver -/

/-- The driver section, if it is an object, has the value of the defaults under the key. -/
def Holds (defaults config : Value) (key : String) : Prop :=
  ∀ v, defaults.pointer ["driver", key] = some v →
    ∀ driver, config.get "driver" = some (.object driver) → driver.lookup key = some v

variable {defaults config : Value}

theorem enforce_key_of_holds {key : String} (h : Holds defaults config key) : enforce_key defaults config key = config := by
  unfold enforce_key
  split
  · rfl
  · rename_i v hv
    refine edit_field_eq_self fun w hw => ?_
    cases w with
    | object driver => exact congrArg _ (insert_field_self (h v hv driver hw))
    | _ => rfl

theorem enforce_of_holds (h : ∀ key ∈ DRIVER_CONTRACT, Holds defaults config key) :
    enforce_current_driver_contract config defaults = config := by
  unfold enforce_current_driver_contract
  generalize DRIVER_CONTRACT = keys at h
  induction keys with
  | nil => rfl
  | cons key keys ih =>
    rw [List.foldl_cons, enforce_key_of_holds (h key List.mem_cons_self)]
    exact ih fun k hk => h k (List.mem_cons_of_mem _ hk)

/-- A turn of the loop gives its key the value, and leaves the others as they are. -/
theorem enforce_key_holds (key : String) :
    Holds defaults (enforce_key defaults config key) key ∧
      ∀ other, Holds defaults config other →
        Holds defaults (enforce_key defaults config key) other := by
  unfold enforce_key
  cases hkey : defaults.pointer ["driver", key] with
  | none =>
    refine ⟨fun v hv => ?_, fun other h => h⟩
    rw [hkey] at hv
    cases hv
  | some w =>
    have hdriver : ∀ driver, (edit_field "driver" (edit_object (insert_field key w)) config).get
        "driver" = some (.object driver) →
        ∃ old, config.get "driver" = some (.object old) ∧ driver = insert_field key w old := by
      intro driver h
      rw [get_edit_field, Option.map_eq_some_iff] at h
      obtain ⟨u, hu, h⟩ := h
      cases u with
      | object old => exact ⟨old, hu, (Value.object.inj h).symm⟩
      | _ => cases h
    constructor
    · intro v hv driver h
      obtain ⟨old, -, rfl⟩ := hdriver driver h
      rw [hkey] at hv
      rw [lookup_insert_field, hv]
    · intro other hother v hv driver h
      obtain ⟨old, hold, rfl⟩ := hdriver driver h
      by_cases heq : other = key
      · subst heq
        rw [hkey] at hv
        rw [lookup_insert_field, hv]
      · rw [lookup_insert_field_ne heq]
        exact hother v hv old hold

theorem enforce_holds (defaults config : Value) :
    ∀ key ∈ DRIVER_CONTRACT,
      Holds defaults (enforce_current_driver_contract config defaults) key := by
  unfold enforce_current_driver_contract
  generalize DRIVER_CONTRACT = keys
  have hkeep : ∀ (keys : List String) (config : Value) (key : String),
      Holds defaults config key → Holds defaults (keys.foldl (enforce_key defaults) config) key := by
    intro keys
    induction keys with
    | nil => exact fun _ _ h => h
    | cons k keys ih => exact fun config key h => ih _ key ((enforce_key_holds k).2 key h)
  induction keys generalizing config with
  | nil => simp
  | cons k keys ih =>
    intro key hkey
    rcases List.mem_cons.mp hkey with rfl | hmem
    · exact hkeep keys _ key (enforce_key_holds key).1
    · exact ih _ key hmem

/-! ## What the defaults add nothing to -/

/-- A configuration that the defaults add nothing to. -/
structure Complete (root config : Value) : Prop where
  distinct : Distinct config
  covers : merge root config = config
  primary : ∀ devices, config.get "devices" = some (.object devices) →
    (devices.lookup PRIMARY).isSome = true

variable {config : Value}

section

variable {defaults : DefaultConfig} {root : Value} (hroot : Root defaults root)
include hroot

theorem Root.primary : ∃ devices s, root.get "devices" = some (.object devices) ∧
    devices.lookup PRIMARY = some (.string s) := by
  obtain ⟨s, hs⟩ := defaults.primary
  obtain ⟨_, _, hfields, hdevices, hv⟩ := pointer_cons hs
  obtain ⟨devices, _, rfl, hw, hs⟩ := pointer_cons hv
  cases hs
  refine ⟨devices, s, ?_, hw⟩
  rw [hroot.others "devices" (by decide), hfields]
  exact hdevices

theorem complete_root : Complete root root := by
  refine ⟨hroot.distinct, merge_self root hroot.distinct, fun _ hdevices => ?_⟩
  obtain ⟨_, _, hother, hs⟩ := hroot.primary
  rw [hother] at hdevices
  cases hdevices
  rw [hs]
  rfl

theorem complete_merge {patch : Value} (hp : Distinct patch) :
    Complete root (merge root patch) := by
  refine ⟨hroot.distinct.merge patch root hp, merge_merge patch root hroot.distinct hp,
    fun devices hdevices => ?_⟩
  obtain ⟨mine, _, hmine, hs⟩ := hroot.primary
  have hpresent : ((merge root patch).pointer ["devices", PRIMARY]).isSome = true := by
    refine pointer_merge_isSome hp ?_ ?_
    · change ((root.get "devices").bind fun v => v.pointer [PRIMARY]).isSome = true
      rw [hmine]
      change ((mine.lookup PRIMARY).bind _).isSome = true
      rw [hs]
      rfl
    · cases patch with
      | object patch =>
        cases hpatch : patch.lookup "devices" with
        | none => simp [blocks, hpatch]
        | some w =>
          cases w with
          | object theirs => cases htheirs : theirs.lookup PRIMARY <;> simp [blocks, hpatch, htheirs]
          | _ =>
            -- A devices section of another kind is what the merge gives.
            cases root with
            | object fields =>
              change (merge_fields fields patch).lookup "devices" = _ at hdevices
              rw [lookup_merge_fields fields hp.fields.1, hpatch] at hdevices
              have hother := Option.some.inj hdevices
              rw [merge_of_not_object rfl] at hother
              cases hother
            | _ => cases hmine
      | _ =>
        rw [merge_of_not_object rfl] at hdevices
        cases hdevices
  obtain ⟨v, hv⟩ := Option.isSome_iff_exists.mp hpresent
  obtain ⟨fields, w, hfields, hw, hv⟩ := pointer_cons hv
  rw [hfields] at hdevices
  change fields.lookup "devices" = _ at hdevices
  rw [hw] at hdevices
  cases hdevices
  obtain ⟨_, _, hsame, hu, -⟩ := pointer_cons hv
  cases hsame
  rw [hu]
  rfl

omit hroot in
theorem Complete.edit_providers (h : Complete root config) (f : Value → Value) :
    Complete root (edit_field "providers" (edit_items f) config) := by
  refine ⟨h.distinct.edit_field fun w hw => ?_, merge_edit_field h.distinct h.covers fun w hw => ?_,
    fun devices hdevices => ?_⟩
  · cases w with
    | array items => exact .other _ rfl
    | _ => exact h.distinct.get hw
  · cases w with
    | array items => exact merge_of_not_object rfl
    | _ => exact merge_get h.distinct h.covers hw
  · rw [get_edit_field_ne (by decide)] at hdevices
    exact h.primary devices hdevices

theorem Complete.enforce_key (h : Complete root config) (key : String) :
    Complete root (enforce_key defaults.value config key) := by
  unfold repository.enforce_key
  cases hkey : defaults.value.pointer ["driver", key] with
  | none => exact h
  | some v =>
    obtain ⟨fields, _, hfields, hmine, hv⟩ := pointer_cons hkey
    obtain ⟨target, _, rfl, hw, hv⟩ := pointer_cons hv
    cases hv
    have hdefault : defaults.value.get "driver" = some (.object target) := by
      rw [hfields]
      exact hmine
    have hdistinct : Distinct v := (defaults.distinct.get hdefault).fields.2 _ (mem_of_lookup hw)
    refine ⟨h.distinct.edit_field fun u hu => ?_,
      merge_edit_field h.distinct h.covers fun u hu => ?_, fun devices hdevices => ?_⟩
    · have hu := h.distinct.get hu
      cases u with
      | object driver => exact hu.insert hdistinct
      | _ => exact hu
    · have hcovers := merge_get h.distinct h.covers hu
      have hu := h.distinct.get hu
      cases u with
      | object driver =>
        have htarget : root.index "driver" = .object target := by
          unfold Value.index
          rw [hroot.others "driver" (by decide), hdefault]
          rfl
        rw [htarget] at hcovers ⊢
        have hnames := hcovers
        rw [merge, Value.object.injEq, merge_fields_eq_self hu.fields.1] at hnames
        refine merge_insert_field hu.fields.1 hcovers ?_ ?_
        · exact hnames.1.subset (lookup_isSome.mp (by rw [hw]; rfl))
        · rw [hw]
          exact merge_self v hdistinct
      | _ => exact hcovers
    · rw [get_edit_field_ne (by decide)] at hdevices
      exact h.primary devices hdevices

theorem Complete.enforce (h : Complete root config) :
    Complete root (enforce_current_driver_contract config defaults.value) := by
  unfold enforce_current_driver_contract
  generalize DRIVER_CONTRACT = keys
  induction keys generalizing config with
  | nil => exact h
  | cons key keys ih => exact ih (h.enforce_key hroot key)

end

/-! ## Loading and saving -/

section

variable {codec : Codec} {defaults : DefaultConfig} {seeds : List Value}
variable {operation_allowed : Value → String → String → Bool}

theorem migrate_primary_of_complete {root config : Value} (h : Complete root config) :
    migrate_config operation_allowed config = config := by
  unfold migrate_config
  cases hdevices : config.get "devices" with
  | none => rfl
  | some v =>
    cases v with
    | object devices =>
      simp only [Option.bind_some, Value.as_object]
      rw [if_pos (h.primary devices hdevices)]
    | _ => rfl

theorem Distinct_set_primary (h : Distinct config) :
    Distinct (migrate_config operation_allowed config) := by
  unfold migrate_config
  cases hdevices : config.get "devices" with
  | none => exact h
  | some v =>
    cases v with
    | object devices =>
      simp only [Option.bind_some, Value.as_object]
      split
      · exact h
      · cases config with
        | object _ => exact h.insert ((h.get hdevices).insert (.other _ rfl))
        | _ => exact h
    | _ => exact h

variable (is_known_model from_value authority) in
/-- What the two last passes of a load make of a configuration. -/
def finished (seeds : List Value) (config : Value) : Value :=
  reconcile_config is_known_model from_value authority
    (model_registry.migrate_config seeds config)

theorem finished_eq (config : Value) :
    finished is_known_model from_value authority seeds config =
      edit_field "providers" (edit_items fun provider =>
        reconcile_provider is_known_model from_value authority
          (migrate_provider seeds provider)) config := by
  unfold finished
  rw [reconcile_config_eq]
  unfold model_registry.migrate_config
  rcases edit_field_cases "providers" (edit_items (migrate_provider seeds)) config
    with ⟨hnone, h⟩ | ⟨fields, w, rfl, hw, h⟩
  · rw [h, edit_field_eq_self, edit_field_eq_self] <;>
      · intro w hw
        rw [hnone] at hw
        cases hw
  · simp only [edit_field, lookup_insert_field, hw, insert_field_twice]
    cases w <;> simp [edit_items, Function.comp_def]

theorem holds_root {root : Value} (hroot : Root defaults root) (key : String) :
    Holds defaults.value root key := by
  intro v hv driver hdriver
  rw [hroot.others "driver" (by decide)] at hdriver
  change ((defaults.value.get "driver").bind fun w => w.pointer [key]) = some v at hv
  rw [hdriver, Option.bind_some, pointer_object] at hv
  obtain ⟨w, hw, hv⟩ := Option.bind_eq_some_iff.mp hv
  cases hv
  exact hw

/-- A load goes from the defaults, with the document or without one, through the two last passes. -/
theorem load_config_cases {repository : ConfigRepository} {c : Value}
    (h : load_config codec defaults seeds operation_allowed is_known_model from_value authority
      repository = some c) :
    ∃ root config, model_registry.initialize_defaults defaults.value = some root ∧
      Root defaults root ∧ Complete root config ∧
      (∀ key ∈ DRIVER_CONTRACT, Holds defaults.value config key) ∧
      with_document codec defaults operation_allowed root repository.document = some config ∧
      c = finished is_known_model from_value authority seeds config := by
  obtain ⟨root, hinit, hroot⟩ := initialized defaults
  unfold load_config at h
  rw [hinit, Option.bind_eq_bind, Option.bind_some] at h
  obtain ⟨config, hconfig, h⟩ := Option.bind_eq_some_iff.mp h
  have hc : c = finished is_known_model from_value authority seeds config := (Option.some.inj h).symm
  cases hdocument : repository.document with
  | none =>
    have hroot_config : root = config := by
      rw [hdocument] at hconfig
      exact Option.some.inj hconfig
    subst hroot_config
    exact ⟨root, root, hinit, hroot, complete_root hroot, fun key _ => holds_root hroot key, rfl, hc⟩
  | some text =>
    rw [hdocument] at hconfig
    obtain ⟨stored, hstored, hmerged⟩ := Option.map_eq_some_iff.mp hconfig
    subst hmerged
    exact ⟨root, _, hinit, hroot,
      (complete_merge hroot (Distinct_set_primary (codec.distinct text stored hstored))).enforce hroot,
      enforce_holds _ _, hconfig, hc⟩

variable (is_known_model authority seeds) in
/-- A configuration that was loaded: no pass changes it. -/
theorem passes_of_loaded (hunread : Unread from_value) {root config : Value}
    (hcomplete : Complete root config)
    (hholds : ∀ key ∈ DRIVER_CONTRACT, Holds defaults.value config key) :
    let c := finished is_known_model from_value authority seeds config
    finished is_known_model from_value authority seeds c = c ∧
      reconcile_config is_known_model from_value authority c = c ∧
      Complete root c ∧ ∀ key ∈ DRIVER_CONTRACT, Holds defaults.value c key := by
  intro c
  have hc : c = finished is_known_model from_value authority seeds config := rfl
  rw [finished_eq] at hc
  have hitems : ∀ f : Value → Value, (∀ provider, f
      (reconcile_provider is_known_model from_value authority
        (migrate_provider seeds provider)) =
      reconcile_provider is_known_model from_value authority
        (migrate_provider seeds provider)) →
      edit_field "providers" (edit_items f) c = c := by
    intro f hf
    refine edit_field_eq_self fun _ hw => ?_
    rw [hc, get_edit_field, Option.map_eq_some_iff] at hw
    obtain ⟨u, -, rfl⟩ := hw
    cases u with
    | array _ => simp [edit_items, hf]
    | _ => rfl
  refine ⟨?_, ?_, ?_, ?_⟩
  · rw [finished_eq]
    refine hitems _ fun provider => ?_
    rw [migrate_reconciled, reconcile_provider_idempotent hunread]
  · rw [reconcile_config_eq]
    exact hitems _ fun provider => reconcile_provider_idempotent hunread _
  · rw [hc]
    exact hcomplete.edit_providers _
  · intro key hkey v hv driver hdriver
    rw [hc, get_edit_field_ne (by decide)] at hdriver
    exact hholds key hkey v hv driver hdriver

theorem load_after_save (hunread : Unread from_value) (commits : Value → Bool)
    {repository : ConfigRepository} {c : Value}
    (hload : load_config codec defaults seeds operation_allowed is_known_model from_value authority
      repository = some c)
    (hread : codec.from_str (codec.to_string c) = some c) :
    load_config codec defaults seeds operation_allowed is_known_model from_value authority
      (save_config codec operation_allowed is_known_model from_value authority commits repository
        c).1 = some c := by
  obtain ⟨_, config, hinit, _, hcomplete, hholds, -, rfl⟩ := load_config_cases hload
  obtain ⟨hfinished, hreconciled, hcomplete, hholds⟩ :=
    passes_of_loaded is_known_model authority seeds hunread hcomplete hholds
  generalize finished is_known_model from_value authority seeds config = c at *
  have hsaved : reconciled operation_allowed is_known_model from_value authority c = c := by
    unfold reconciled
    rw [migrate_primary_of_complete hcomplete, hreconciled]
  unfold save_config
  rw [hsaved]
  by_cases hcommits : commits c = true
  · rw [if_pos hcommits]
    unfold load_config with_document merged merge_objects
    rw [hinit]
    simp only [Option.bind_eq_bind, Option.bind_some, hread, Option.map_some,
      migrate_primary_of_complete hcomplete, hcomplete.covers, enforce_of_holds hholds]
    exact congrArg some hfinished
  · rw [if_neg hcommits]
    exact hload

/-! ## What is carried over -/

/-- The fields of a provider that a migration or a reconciliation owns. -/
def PROVIDER_OWNED : List (List String) :=
  [["status"], ["probe", "checkedAt"], ["probe", "configurationSignature"],
    ["modelRegistryVersion"], ["modelCapabilityOverrides"]]

def DRIVER_OWNED : List (List String) := DRIVER_CONTRACT.map fun key => ["driver", key]

theorem carries_migrated (seeds : List Value) (provider : Value) :
    Carries PROVIDER_OWNED provider (migrate_provider seeds provider) := by
  rcases model_registry.migrate_provider_cases seeds provider with h | ⟨_, _, rfl, h⟩
  · rw [h]
    exact .refl _ _
  · rw [h]
    exact (Carries.insert _ (Or.inl (by decide))).trans (.insert _ (Or.inl (by decide)))

theorem carries_withdrawn (probe : List (String × Value)) :
    Carries [["checkedAt"], ["configurationSignature"]] (.object probe)
      (.object (withdrawn known probe)) := by
  cases known with
  | true => exact .remove (by decide) probe
  | false => exact (Carries.insert _ (Or.inl (by decide))).trans (.remove (by decide) _)

theorem carries_reconciled (provider : Value) :
    Carries PROVIDER_OWNED provider
      (reconcile_provider is_known_model from_value authority provider) := by
  rcases reconcile_provider_cases is_known_model from_value authority provider
    with h | ⟨fields, rfl, -, h⟩
  · rw [h]
    exact .refl _ _
  · rw [h]
    generalize credential_verification.known is_known_model from_value (.object fields) = known
    have hmarked : Carries PROVIDER_OWNED (.object fields) (.object (marked known fields)) := by
      cases known with
      | true => exact .refl _ _
      | false => exact .insert _ (Or.inl (by decide))
    rcases claimless_cases known fields with ⟨-, h⟩ | ⟨probe, hprobe, h⟩
    · rw [h]
      exact hmarked
    · rw [h]
      exact hmarked.trans (.inside hprobe (by decide) (carries_withdrawn known probe))

theorem carries_set_primary (except : List (List String)) (config : Value) :
    Carries except config (migrate_config operation_allowed config) := by
  unfold migrate_config
  cases hdevices : config.get "devices" with
  | none => exact .refl _ _
  | some v =>
    cases v with
    | object devices =>
      simp only [Option.bind_some, Value.as_object]
      split
      · exact .refl _ _
      · rename_i hnone
        cases config with
        | object _ =>
          refine .inside hdevices (by simp) (show Carries [] _ _ from .insert _ (Or.inr ?_))
          exact Option.not_isSome_iff_eq_none.mp hnone
        | _ => exact .refl _ _
    | _ => exact .refl _ _

theorem carries_enforced (defaults config : Value) :
    Carries DRIVER_OWNED config (enforce_current_driver_contract config defaults) := by
  have hkey : ∀ key ∈ DRIVER_CONTRACT, ∀ v,
      Carries DRIVER_OWNED v (enforce_key defaults v key) := by
    intro key hkey v
    unfold enforce_key
    split
    · exact .refl _ _
    · rcases edit_field_cases "driver" (edit_object (insert_field key _)) v
        with ⟨-, h⟩ | ⟨fields, w, rfl, hw, h⟩
      · rw [h]
        exact .refl _ _
      · rw [h]
        cases w with
        | object driver =>
          refine .inside hw ?_ (show Carries [[key]] _ _ from .insert _ (Or.inl (by simp)))
          intro e he
          rw [List.mem_singleton.mp he]
          exact List.mem_map_of_mem hkey
        | _ => exact .inside hw (by simp) (.refl [] _)
  unfold enforce_current_driver_contract
  generalize hkeys : DRIVER_CONTRACT = keys at hkey ⊢
  clear hkeys
  induction keys generalizing config with
  | nil => exact .refl _ _
  | cons key keys ih =>
    exact (hkey key List.mem_cons_self config).trans
      (ih _ fun k hk => hkey k (List.mem_cons_of_mem _ hk))

/-- What a configuration has of a document: each scalar and each array is as it was, but for the
fields of the driver contract, and the providers of a list are each as they were, but for the
fields that a migration owns. -/
def Kept (document config : Value) : Prop :=
  ∀ path v, document.pointer path = some v → v.is_object = false → within DRIVER_OWNED path = false →
    config.pointer path = some v ∨
      ∃ providers others, path = ["providers"] ∧ v = .array providers ∧
        config.pointer path = some (.array others) ∧
        List.Forall₂ (Carries PROVIDER_OWNED) providers others

theorem kept_of_carries {document config : Value} (h : Carries DRIVER_OWNED document config) :
    Kept document (finished is_known_model from_value authority seeds config) := by
  intro path v hv hobject hwithin
  have hconfig := h path v hv hobject hwithin
  rw [finished_eq]
  cases path with
  | nil =>
    obtain rfl : config = v := Option.some.inj hconfig
    left
    rcases edit_field_cases "providers" _ config with ⟨-, h⟩ | ⟨fields, w, rfl, -, -⟩
    · exact congrArg some h
    · cases hobject
  | cons k path =>
    obtain ⟨fields, w, rfl, hw, hpath⟩ := pointer_cons hconfig
    by_cases hk : k = "providers"
    · subst hk
      simp only [edit_field, hw, pointer_object, lookup_insert_field, Option.bind_some]
      cases w with
      | array providers =>
        cases path with
        | nil =>
          cases hpath
          refine Or.inr ⟨providers, _, rfl, rfl, rfl, ?_⟩
          rw [List.forall₂_map_right_iff]
          exact List.forall₂_same.mpr fun provider _ =>
            (carries_migrated seeds provider).trans (carries_reconciled _)
        | cons _ path => cases hpath
      | _ => exact Or.inl hpath
    · left
      have hget := get_edit_field_ne hk (edit_items fun provider =>
        reconcile_provider is_known_model from_value authority
          (migrate_provider seeds provider)) (.object fields)
      change ((edit_field _ _ _).get k).bind _ = _
      rw [hget]
      change (fields.lookup k).bind _ = _
      rw [hw]
      exact hpath

/-! ## What the defaults fill in -/

section

variable {root : Value} (hroot : Root defaults root) {path : List String}
variable (hpath : (defaults.value.pointer path).isSome = true)
include hpath

omit hpath in
theorem pointer_isSome_cons {v : Value} {path : List String} :
    (v.pointer (k :: path)).isSome = true ↔
      ∃ w, v.get k = some w ∧ (w.pointer path).isSome = true := by
  change ((v.get k).bind fun w => w.pointer path).isSome = true ↔ _
  cases v.get k <;> simp

/-- The providers of the defaults are an array, so no path of names goes on below them. -/
theorem default_providers (hhead : path.head? = some "providers") : path = ["providers"] := by
  obtain ⟨_, hitems, -⟩ := defaults.providers
  cases path with
  | nil => cases hhead
  | cons _ path =>
    cases hhead
    obtain ⟨_, hw, hpath⟩ := pointer_isSome_cons.mp hpath
    rw [hitems] at hw
    cases hw
    cases path with
    | nil => rfl
    | cons _ path => cases hpath

include hroot in
theorem present_root : (root.pointer path).isSome = true := by
  cases path with
  | nil => rfl
  | cons k path =>
    by_cases hk : k = "providers"
    · subst hk
      cases default_providers hpath rfl
      obtain ⟨_, hitems⟩ := hroot.providers
      exact pointer_isSome_cons.mpr ⟨_, hitems, rfl⟩
    · rw [pointer_isSome_cons, hroot.others k hk]
      exact pointer_isSome_cons.mp hpath

/-- The primary translator that a document is given is no object, and neither is the default one. -/
theorem blocks_set_primary {stored : Value} (h : blocks stored path = false) :
    blocks (migrate_config operation_allowed stored) path = false := by
  unfold migrate_config
  cases hdevices : stored.get "devices" with
  | none => exact h
  | some v =>
    cases v with
    | object devices =>
      simp only [Option.bind_some, Value.as_object]
      split
      · exact h
      · cases stored with
        | object fields =>
          cases path with
          | nil => rfl
          | cons k path =>
            by_cases hk : k = "devices"
            · subst hk
              simp only [set_primary, blocks, lookup_insert_field,
                Option.map_some, Option.getD_some]
              change fields.lookup "devices" = _ at hdevices
              simp only [blocks, hdevices, Option.map_some, Option.getD_some] at h
              cases path with
              | nil => rfl
              | cons l path =>
                by_cases hl : l = PRIMARY
                · subst hl
                  obtain ⟨_, hs⟩ := defaults.primary
                  obtain ⟨w, hw, hpath⟩ := pointer_isSome_cons.mp hpath
                  obtain ⟨u, hu, hpath⟩ := pointer_isSome_cons.mp hpath
                  change ((defaults.value.get "devices").bind fun w =>
                    (w.get PRIMARY).bind fun u => some u) = _ at hs
                  rw [hw, Option.bind_some, hu] at hs
                  cases hs
                  cases path with
                  | nil => simp [blocks]
                  | cons _ path => cases hpath
                · simp only [blocks, lookup_insert_field_ne hl]
                  exact h
            · simp only [set_primary, blocks, lookup_insert_field_ne hk]
              exact h
        | _ => exact h
    | _ => exact h

theorem present_enforced (h : (config.pointer path).isSome = true) :
    ((enforce_current_driver_contract config defaults.value).pointer path).isSome = true := by
  have hkey : ∀ key v, (v.pointer path).isSome = true →
      ((enforce_key defaults.value v key).pointer path).isSome = true := by
    intro key v hv
    unfold enforce_key
    cases hdefault : defaults.value.pointer ["driver", key] with
    | none => exact hv
    | some new =>
      dsimp only
      rcases edit_field_cases "driver" (edit_object (insert_field key new)) v
        with ⟨-, h⟩ | ⟨fields, w, rfl, hw, h⟩
      · rwa [h]
      · rw [h]
        cases path with
        | nil => rfl
        | cons k path =>
          by_cases hk : k = "driver"
          · subst hk
            obtain ⟨u, hu, hv⟩ := pointer_isSome_cons.mp hv
            change fields.lookup "driver" = _ at hu
            rw [hw] at hu
            cases hu
            refine pointer_isSome_cons.mpr ⟨_, lookup_insert_field _ _ fields, ?_⟩
            cases w with
            | object driver =>
              cases path with
              | nil => rfl
              | cons l path =>
                by_cases hl : l = key
                · subst hl
                  refine pointer_isSome_cons.mpr ⟨new, lookup_insert_field _ _ driver, ?_⟩
                  obtain ⟨x, hx, hpath⟩ := pointer_isSome_cons.mp hpath
                  obtain ⟨y, hy, hpath⟩ := pointer_isSome_cons.mp hpath
                  change ((defaults.value.get "driver").bind fun x =>
                    (x.get l).bind fun y => some y) = _ at hdefault
                  rw [hx, Option.bind_some, hy] at hdefault
                  cases hdefault
                  exact hpath
                · obtain ⟨x, hx, hv⟩ := pointer_isSome_cons.mp hv
                  exact pointer_isSome_cons.mpr
                    ⟨x, (lookup_insert_field_ne hl _ driver).trans hx, hv⟩
            | _ => exact hv
          · obtain ⟨u, hu, hv⟩ := pointer_isSome_cons.mp hv
            exact pointer_isSome_cons.mpr ⟨u, (lookup_insert_field_ne hk _ fields).trans hu, hv⟩
  unfold enforce_current_driver_contract
  generalize DRIVER_CONTRACT = keys
  induction keys generalizing config with
  | nil => exact h
  | cons key keys ih => exact ih (hkey key config h)

theorem present_finished (h : (config.pointer path).isSome = true) :
    ((finished is_known_model from_value authority seeds config).pointer path).isSome = true := by
  rw [finished_eq]
  cases path with
  | nil => rfl
  | cons k path =>
    obtain ⟨w, hw, h⟩ := pointer_isSome_cons.mp h
    by_cases hk : k = "providers"
    · subst hk
      cases default_providers hpath rfl
      exact pointer_isSome_cons.mpr ⟨_, by rw [get_edit_field, hw]; rfl, rfl⟩
    · exact pointer_isSome_cons.mpr ⟨w, (get_edit_field_ne hk _ config).trans hw, h⟩

end

/-- Loading is stable under saving, when the text of the configuration reads back: what was loaded
and saved is loaded again. The configuration has the scalars and arrays of the document, but for
the fields of the driver contract and those that a migration of a provider owns, and each key of
the defaults that the document does not cut off with a value that is no object. -/
theorem a_loaded_configuration_loads_again (codec : Codec) (defaults : DefaultConfig)
    (seeds : List Value) (operation_allowed : Value → String → String → Bool)
    (is_known_model : ProviderDraftInput Settings Cache → Bool)
    (from_value : Value → Option (ProviderDraftInput Settings Cache))
    (hunread : Unread from_value)
    (authority : Authority Settings Cache) (commits : Value → Bool)
    (text : String) (stored : Value) (hstored : codec.from_str text = some stored) (c : Value)
    (hload : load_config codec defaults seeds operation_allowed is_known_model from_value authority
      ⟨some text⟩ = some c)
    (hread : codec.from_str (codec.to_string c) = some c) :
    load_config codec defaults seeds operation_allowed is_known_model from_value authority
        (save_config codec operation_allowed is_known_model from_value authority commits
          ⟨some text⟩ c).1 = some c ∧
      Kept stored c ∧
      ∀ path, (defaults.value.pointer path).isSome = true → blocks stored path = false →
        (c.pointer path).isSome = true := by
  refine ⟨load_after_save hunread commits hload hread, ?_⟩
  have hdistinct := codec.distinct text stored hstored
  obtain ⟨root, _, -, hroot, -, -, hconfig, rfl⟩ := load_config_cases hload
  obtain ⟨_, hother, rfl⟩ := Option.map_eq_some_iff.mp hconfig
  rw [hstored] at hother
  cases hother
  refine ⟨kept_of_carries ?_, fun path hpath hblocks => ?_⟩
  · have hmerge : Carries DRIVER_OWNED
        (migrate_config operation_allowed stored)
        (merge root (migrate_config operation_allowed stored)) :=
      fun path _ hv hobject _ => pointer_merge (Distinct_set_primary hdistinct) hv hobject
    exact ((carries_set_primary _ stored).trans hmerge).trans (carries_enforced _ _)
  · exact present_finished hpath (present_enforced hpath
      (pointer_merge_isSome (Distinct_set_primary hdistinct) (present_root hroot hpath)
        (blocks_set_primary hpath hblocks)))

end

end

/-- An excerpt of the defaults. -/
def excerpt : DefaultConfig where
  value := .object [("providers", .array []),
    ("devices", .object [("inputLevel", .number (.pos 100)), (PRIMARY, .string "")])]
  distinct := by
    refine .object _ (by decide) fun f hf => ?_
    rcases List.mem_pair.mp hf with rfl | rfl
    · exact .other _ rfl
    · refine .object _ (by decide) fun f hf => ?_
      rcases List.mem_pair.mp hf with rfl | rfl <;> exact .other _ rfl
  providers := ⟨[], by decide +kernel, by simp⟩
  primary := ⟨"", by decide +kernel⟩

/-- A document with a devices section that is `null`, and what is loaded of it. -/
def null_devices : Value := .object [("devices", .null)]

def null_devices_loaded : Value := .object [("providers", .array []), ("devices", .null)]

def write_text (v : Value) : String := String.ofList (stringify integers v)

/-- The codec on the two documents. -/
def two_documents : Codec where
  to_string := write_text
  from_str text :=
    if text = write_text null_devices then some null_devices
    else if text = write_text null_devices_loaded then some null_devices_loaded
    else none
  distinct := by
    intro text v h
    split at h
    · cases h
      refine .object _ (by decide) fun f hf => ?_
      rw [List.mem_singleton.mp hf]
      exact .other _ rfl
    · split at h
      · cases h
        refine .object _ (by decide) fun f hf => ?_
        rcases List.mem_pair.mp hf with rfl | rfl <;> exact .other _ rfl
      · cases h

/-- No provider is decoded, and none has a proof. -/
def load_example (text : String) : Option Value :=
  load_config two_documents excerpt [] (fun _ _ _ => false) (fun _ => false)
    (fun _ => (none : Option (ProviderDraftInput Unit Unit))) ⟨∅, ∅⟩
    ⟨some text⟩

theorem the_null_devices_load_again :
    load_config two_documents excerpt [] (fun _ _ _ => false) (fun _ => false)
        (fun _ => (none : Option (ProviderDraftInput Unit Unit))) ⟨∅, ∅⟩
        (save_config two_documents (fun _ _ _ => false) (fun _ => false)
          (fun _ => (none : Option (ProviderDraftInput Unit Unit))) ⟨∅, ∅⟩
          (fun _ => true) ⟨some (write_text null_devices)⟩ null_devices_loaded).1 =
      some null_devices_loaded :=
  (a_loaded_configuration_loads_again two_documents excerpt [] (fun _ _ _ => false)
    (fun _ => false)
    (fun _ => (none : Option (ProviderDraftInput Unit Unit)))
    ⟨fun _ _ => rfl, fun _ _ => rfl⟩ ⟨∅, ∅⟩ (fun _ => true) (write_text null_devices) null_devices
    (by decide +kernel) null_devices_loaded (by decide +kernel) (by decide +kernel)).1

/-- A section that is `null` stays so, and the keys of the defaults under it are not there. -/
theorem a_null_section_hides_the_defaults :
    excerpt.value.pointer ["devices", "inputLevel"] = some (.number (.pos 100)) ∧
      null_devices.is_object = true ∧ null_devices.pointer ["devices", "inputLevel"] = none ∧
      load_example (write_text null_devices) = some null_devices_loaded ∧
      null_devices_loaded.pointer ["devices", "inputLevel"] = none := by
  decide +kernel

end omni_translate.repository

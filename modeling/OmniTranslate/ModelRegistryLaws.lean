-- The two migrations of a model registry agree: on every provider whose fields
-- have the types that the renderer gives them, and each is idempotent on any.
import OmniTranslate.ModelRegistry

namespace omni_translate.model_registry

open json

/-! ## What the sources rely on -/

/-- The advisory fields of a seed of the frozen file are strings or lists of strings. -/
def Frozen (seed : Value) : Prop := ∀ field ∈ fields, ∀ v, seed.get field = some v → Plain v

/-- A row of a registry: an object with its ids. -/
structure TypedRow (row : Value) : Prop where
  model_id : ∃ s, row.get "modelId" = some (.string s)
  id : ∃ s, row.get "id" = some (.string s)

/-- A field that holds a list, or nothing. The renderer takes an empty string for an empty list. -/
def Listed (v : Option Value) : Prop :=
  v = none ∨ v = some .null ∨ v = some (.string "") ∨ ∃ items, v = some (.array items)

/-- A version that is the number two is written as an integer. -/
def Integral (version : Option Value) : Prop :=
  ∀ n, version = some (.number n) → n.value = 2 → n = .pos 2

/-! ## Fields added to an override -/

variable {d : List (String × Value)}

theorem insert_field_new {field : String} {v : Value} (h : ∀ p ∈ d, p.1 ≠ field) : insert_field field v d = d ++ [(field, v)] := by
  induction d with
  | nil => rfl
  | cons p d ih =>
    obtain ⟨k, w⟩ := p
    rw [insert_field, if_neg (h (k, w) List.mem_cons_self),
      ih fun p hp => h p (List.mem_cons_of_mem _ hp)]
    rfl

/-- What one field adds. -/
def added (row : Value) (baseline : String → Option Value) (field : String) :
    Option (String × Value) :=
  match row.get field with
  | none => none
  | some value => if some value = baseline field then none else some (field, value)

variable {row : Value}

theorem changed_new {baseline : String → Option Value} {field : String} (h : ∀ p ∈ d, p.1 ≠ field) :
    changed row baseline d field = d ++ (added row baseline field).toList := by
  unfold changed added
  cases row.get field with
  | none => simp
  | some _ =>
    simp only
    split
    · simp
    · rw [insert_field_new h]
      rfl

/-- Distinct new fields are added at the end, one after the other. -/
theorem foldl_changed {baseline : String → Option Value} {fs : List String} (hfs : fs.Nodup)
    (h : ∀ f ∈ fs, ∀ p ∈ d, p.1 ≠ f) :
    fs.foldl (changed row baseline) d = d ++ fs.filterMap (added row baseline) := by
  induction fs generalizing d with
  | nil => simp
  | cons f fs ih =>
    have hnew := h f List.mem_cons_self
    obtain ⟨hf, hrest⟩ := List.nodup_cons.mp hfs
    rw [List.foldl_cons, changed_new hnew, ih hrest]
    · cases hadd : added row baseline f with
      | none => simp [List.filterMap_cons_none hadd]
      | some p => simp [List.filterMap_cons_some hadd]
    · intro g hg p hp
      rcases List.mem_append.mp hp with hp | hp
      · exact h g (List.mem_cons_of_mem _ hg) p hp
      · -- an added field has the name of its field
        have hname : p.1 = f := by
          unfold added at hp
          cases hrow : row.get f with
          | none => simp [hrow] at hp
          | some value =>
            by_cases hsame : some value = baseline f
            · simp only [hrow, if_pos hsame, Option.toList_none, List.not_mem_nil] at hp
            · simp only [hrow, if_neg hsame, Option.toList_some, List.mem_singleton] at hp
              rw [hp]
        rintro rfl
        exact hf (hname ▸ hg)

theorem fields_nodup : fields.Nodup := by decide

/-! ## One row on either side -/

theorem strict_equal_string (v : Option Value) (s : String) :
    strict_equal v (some (.string s)) = decide (v = some (.string s)) := by
  cases v with
  | none => rfl
  | some v =>
    cases v with
    | string _ => simp [strict_equal, beq_eq_decide]
    | _ => rfl

theorem is_manual_eq (row : Value) :
    is_manual row = strict_equal (row.get "source") (some (.string "manual")) := by
  rw [strict_equal_string]
  unfold is_manual Value.index
  cases row.get "source" with
  | none => simp
  | some _ => simp

/-- Both sides find the same seed for a row, but for a manual one. -/
theorem seed_of_eq (seeds : List Value) (hrow : TypedRow row) (hmanual : is_manual row = false) :
    seed_of seeds row = seeds.find? fun candidate =>
      strict_equal (candidate.get "modelId") (row.get "modelId") &&
        strict_equal (candidate.get "id") (row.get "id") := by
  obtain ⟨_, hm⟩ := hrow.model_id
  obtain ⟨_, hi⟩ := hrow.id
  simp only [seed_of, hmanual, hm, hi, strict_equal_string, Bool.not_false, Bool.true_and]

variable {seeds : List Value}

theorem seed_of_manual (h : is_manual row = true) : seed_of seeds row = none := by
  simp [seed_of, h]

variable {numerals : Numerals}

/-- The texts of a field and its baseline differ exactly when their values do. -/
theorem same_baseline {seed : Value} (hseed : Frozen seed) {field : String}
    (hfield : field ∈ fields) (v : Value) :
    same numerals (some v) (renderer_baseline seed field) =
      decide (some v = native_baseline seed field) := by
  have hplain := hseed field hfield
  have hbaseline : renderer_baseline seed field = native_baseline seed field := by
    unfold renderer_baseline native_baseline
    cases hget : seed.get field with
    | none => by_cases hf : field = "realtimeAudioMode" <;> simp [hf, nullish]
    | some w =>
      have hw := hplain w hget
      cases w with
      | null => cases hw
      | _ => by_cases hf : field = "realtimeAudioMode" <;> simp [hf, nullish]
  rw [hbaseline]
  unfold same
  cases hb : native_baseline seed field with
  | none => simp
  | some w =>
    have hw : Plain w := by
      unfold native_baseline at hb
      cases hget : seed.get field with
      | none =>
        rw [hget] at hb
        by_cases hf : field = "realtimeAudioMode"
        · simp [hf] at hb
          rw [← hb]
          trivial
        · simp [hf] at hb
      | some _ =>
        rw [hget] at hb
        cases hb
        exact hplain w hget
    simp only [Option.map_some, Option.some.injEq, stringify_eq_iff hw]

theorem renderer_delta_eq {seed : Value} (hseed : Frozen seed) (row : Value) :
    renderer_delta numerals seed row = fields.filterMap (added row (native_baseline seed)) := by
  have hsteps : renderer_delta numerals seed row =
      fields.foldl (changed row (native_baseline seed)) [] := by
    apply List.foldl_ext
    intro delta field hfield
    unfold changed
    cases row.get field with
    | none => rfl
    | some v =>
      simp only [same_baseline hseed hfield]
      by_cases hv : some v = native_baseline seed field <;> simp [hv]
  rw [hsteps, foldl_changed fields_nodup (by simp)]
  rfl

theorem advisory_fields_eq (row : Value) :
    advisory_fields row = fields.filterMap (added row fun _ => none) := by
  unfold advisory_fields added
  congr 1
  funext field
  cases row.get field with
  | none => rfl
  | some _ => simp

/-- The native override starts with its two keys, and the advisory fields follow. -/
theorem native_fields_eq (row : Value) (baseline : String → Option Value) (m s : Value) :
    fields.foldl (changed row baseline) [("modelId", m), ("source", s)] =
      ("modelId", m) :: ("source", s) :: fields.filterMap (added row baseline) := by
  rw [foldl_changed fields_nodup]
  · rfl
  · simp only [List.forall_mem_cons]
    decide

theorem native_override_none (h : seed_of seeds row = none) :
    native_override seeds row = some (.object (("modelId", row.index "modelId") ::
      ("source", .string (if is_manual row then "user" else "legacy")) ::
      fields.filterMap (added row fun _ => none))) := by
  simp only [native_override, h, native_fields_eq]

theorem native_override_some {row seed : Value} (h : seed_of seeds row = some seed) :
    native_override seeds row =
      if fields.filterMap (added row (native_baseline seed)) = [] then none
      else some (.object (("modelId", row.index "modelId") :: ("source", .string "legacy") ::
        fields.filterMap (added row (native_baseline seed)))) := by
  simp only [native_override, h, native_fields_eq]
  cases fields.filterMap (added row (native_baseline seed)) <;> simp

theorem renderer_override_eq (numerals : Numerals) (hseeds : ∀ seed ∈ seeds, Frozen seed)
    (hrow : TypedRow row) :
    ∃ d, renderer_override numerals seeds row = some d ∧
      d.map Delta.to_value = native_override seeds row := by
  obtain ⟨m, hm⟩ := hrow.model_id
  have hnull : row.is_null = false := by
    cases row with
    | null => cases hm
    | _ => rfl
  have hindex : row.index "modelId" = .string m := by simp [Value.index, hm]
  simp only [renderer_override, hnull, Bool.false_eq_true, if_false, ← is_manual_eq]
  cases hmanual : is_manual row with
  | true =>
    refine ⟨some ⟨row.get "modelId", "user", advisory_fields row⟩, ?_, ?_⟩
    · split <;> rfl
    · rw [native_override_none (seed_of_manual hmanual), hmanual, hindex, advisory_fields_eq]
      simp [Delta.to_value, hm]
  | false =>
    rw [← seed_of_eq seeds hrow hmanual]
    cases hseed : seed_of seeds row with
    | none =>
      rw [native_override_none hseed, hmanual, hindex, advisory_fields_eq]
      simp [Delta.to_value, hm]
    | some seed =>
      have hfrozen := hseeds seed (List.mem_of_find?_eq_some hseed)
      refine ⟨_, rfl, ?_⟩
      rw [native_override_some hseed, hindex, renderer_delta_eq hfrozen]
      cases fields.filterMap (added row (native_baseline seed)) with
      | nil => rfl
      | cons _ _ => simp [Delta.to_value, hm]

/-! ## Whole providers -/

theorem mapM_overrides (numerals : Numerals) (hseeds : ∀ seed ∈ seeds, Frozen seed)
    (rows : List Value) (hrows : ∀ row ∈ rows, TypedRow row) :
    ∃ deltas, rows.mapM (renderer_override numerals seeds) = some deltas ∧
      deltas.filterMap (·.map Delta.to_value) = rows.filterMap (native_override seeds) := by
  induction rows with
  | nil => exact ⟨[], rfl, rfl⟩
  | cons row rows ih =>
    obtain ⟨d, hd, hvalue⟩ := renderer_override_eq numerals hseeds
      (hrows row List.mem_cons_self)
    obtain ⟨ds, hds, hvalues⟩ := ih fun row hrow => hrows row (List.mem_cons_of_mem _ hrow)
    refine ⟨d :: ds, by simp [List.mapM_cons, hd, hds], ?_⟩
    rw [List.filterMap_cons, List.filterMap_cons, hvalue, hvalues]

theorem Listed.iterate {v : Option Value} (h : Listed v) :
    model_registry.iterate v = some ((v.bind Value.as_array).getD []) := by
  rcases h with rfl | rfl | rfl | ⟨_, rfl⟩ <;> rfl

theorem Integral.version {v : Option Value} (h : Integral v) :
    strict_equal v (some VERSION) = decide (v.bind Value.as_u64 = some 2) := by
  have htwo : (Number.pos 2).value = 2 := rfl
  cases v with
  | none => rfl
  | some v =>
    cases v with
    | number n =>
      change (n.value == (2 : ℚ)) = _
      by_cases hn : n.value = 2
      · rw [h n rfl hn]
        simp [htwo, Value.as_u64]
      · cases n with
        | pos k =>
          have hk : k ≠ 2 := by
            rintro rfl
            exact hn htwo
          simp [Value.as_u64, hk, hn]
        | neg k => simp [Value.as_u64, hn]
        | float _ => simp [Value.as_u64, hn]
    | null => rfl
    | bool _ => rfl
    | string _ => rfl
    | array _ => rfl
    | object _ => rfl

theorem upgraded_version (provider : List (String × Value)) (overrides : List Value) :
    (upgraded provider overrides).get "modelRegistryVersion" = some VERSION := by
  change List.lookup _ _ = _
  rw [lookup_insert_field_ne (by decide), lookup_insert_field]

theorem upgraded_rows (provider : List (String × Value)) (overrides : List Value) :
    (upgraded provider overrides).get "localModelCapabilityRegistry" =
      provider.lookup "localModelCapabilityRegistry" := by
  change List.lookup _ _ = _
  rw [lookup_insert_field_ne (by decide), lookup_insert_field_ne (by decide)]

theorem migrate_provider_cases (seeds : List Value) (provider : Value) :
    migrate_provider seeds provider = provider ∨
      ∃ object overrides, provider = .object object ∧
        migrate_provider seeds provider = upgraded object overrides := by
  unfold migrate_provider
  split
  · exact Or.inl rfl
  · cases provider with
    | object object => exact Or.inr ⟨object, _, rfl, rfl⟩
    | _ => exact Or.inl rfl

/-- The native migration changes nothing the second time. -/
theorem migrate_provider_idempotent (seeds : List Value) (provider : Value) :
    migrate_provider seeds (migrate_provider seeds provider) = migrate_provider seeds provider := by
  rcases migrate_provider_cases seeds provider with h | ⟨object, overrides, _, h⟩
  · rw [h, h]
  · rw [h]
    have htwo : ((upgraded object overrides).get "modelRegistryVersion").bind Value.as_u64 =
        some 2 := by
      rw [upgraded_version]
      rfl
    unfold migrate_provider
    rw [if_pos htwo]

/-- Nor does the renderer's. -/
theorem migrate_provider_model_registry_idempotent {provider migrated : List (String × Value)}
    (h : migrate_provider_model_registry numerals seeds provider = some (.object migrated)) :
    migrate_provider_model_registry numerals seeds migrated = some (.object migrated) := by
  have hversion : strict_equal (migrated.lookup "modelRegistryVersion") (some VERSION) = true := by
    unfold migrate_provider_model_registry at h
    split at h
    · rename_i hv
      cases h
      exact hv
    · obtain ⟨overrides, _, h⟩ := Option.bind_eq_some_iff.mp h
      obtain ⟨_, _, h⟩ := Option.bind_eq_some_iff.mp h
      obtain ⟨deltas, _, h⟩ := Option.bind_eq_some_iff.mp h
      have hget := upgraded_version provider (overrides ++ deltas.filterMap (·.map Delta.to_value))
      rw [Option.some.inj h] at hget
      change migrated.lookup "modelRegistryVersion" = _ at hget
      rw [hget]
      decide +kernel
  unfold migrate_provider_model_registry
  rw [if_pos hversion]

/-- On a provider with a list of overrides and a list of rows with ids, or without them, and a
version that is not a float, both sides migrate to one JSON value, with the rows as they were.
Each side is idempotent on any provider. -/
theorem the_two_migrations_agree (numerals : Numerals) (seeds : List Value)
    (hseeds : ∀ seed ∈ seeds, Frozen seed) (provider : List (String × Value))
    (hversion : Integral (provider.lookup "modelRegistryVersion"))
    (hoverrides : Listed (provider.lookup "modelCapabilityOverrides"))
    (hregistry : Listed (provider.lookup "localModelCapabilityRegistry"))
    (hrows : ∀ row ∈ items_of (.object provider) "localModelCapabilityRegistry", TypedRow row) :
    migrate_provider_model_registry numerals seeds provider =
        some (migrate_provider seeds (.object provider)) ∧
      (migrate_provider seeds (.object provider)).get "localModelCapabilityRegistry" =
        provider.lookup "localModelCapabilityRegistry" ∧
      (∀ p, migrate_provider seeds (migrate_provider seeds p) = migrate_provider seeds p) ∧
      ∀ p q, migrate_provider_model_registry numerals seeds p = some (.object q) →
        migrate_provider_model_registry numerals seeds q = some (.object q) := by
  refine ⟨?_, ?_, migrate_provider_idempotent seeds,
    fun _ _ => migrate_provider_model_registry_idempotent⟩
  · obtain ⟨_, hdeltas, hvalues⟩ := mapM_overrides numerals hseeds _ hrows
    unfold migrate_provider_model_registry migrate_provider
    rw [hversion.version, hoverrides.iterate, hregistry.iterate]
    have hget : (Value.object provider).get "modelRegistryVersion" =
        provider.lookup "modelRegistryVersion" := rfl
    rw [hget]
    by_cases htwo : (provider.lookup "modelRegistryVersion").bind Value.as_u64 = some 2
    · rw [if_pos htwo, if_pos (decide_eq_true htwo)]
    · rw [if_neg htwo, if_neg (by simpa using htwo)]
      change (List.mapM (renderer_override numerals seeds)
        (items_of (.object provider) "localModelCapabilityRegistry")).bind _ = _
      rw [hdeltas]
      simp only [Option.bind_some, hvalues]
      rfl
  · rcases migrate_provider_cases seeds (.object provider) with h | ⟨object, _, ho, h⟩
    · rw [h]
      rfl
    · cases ho
      rw [h, upgraded_rows]

/-- A seed, and a provider with its row changed and a row of the user's. -/
def example_seed : Value :=
  .object [("id", .string "seed-a"), ("modelId", .string "a"),
    ("capabilities", .array [.string "speech-to-text"]), ("realtimeAudioMode", .string "server_vad")]

def example_provider : List (String × Value) :=
  [("model", .string "a"), ("localModelCapabilityRegistry", .array
    [.object [("id", .string "seed-a"), ("modelId", .string "a"), ("capabilities", .array []),
        ("hidden", .null)],
      .object [("id", .string "mine"), ("modelId", .string "b"), ("source", .string "manual"),
        ("notes", .string "kept")]])]

/-- The changed row becomes a legacy override, and the row of the user's a user override. -/
theorem a_changed_row_and_a_manual_one :
    migrate_provider_model_registry integers [example_seed] example_provider =
        some (migrate_provider [example_seed] (.object example_provider)) ∧
      (migrate_provider [example_seed] (.object example_provider)).get "modelCapabilityOverrides" =
        some (.array
          [.object [("modelId", .string "a"), ("source", .string "legacy"),
              ("capabilities", .array []), ("hidden", .null)],
            .object [("modelId", .string "b"), ("source", .string "user"),
              ("notes", .string "kept")]]) := by
  refine ⟨(the_two_migrations_agree integers [example_seed] ?_ example_provider ?_ ?_ ?_ ?_).1,
    by decide +kernel⟩
  · intro seed hseed
    rw [List.mem_singleton.mp hseed]
    intro field hfield v hv
    simp only [fields, List.mem_cons, List.not_mem_nil, or_false] at hfield
    rcases hfield with rfl | rfl | rfl | rfl | rfl | rfl | rfl
    · cases hv
      exact ⟨["speech-to-text"], rfl⟩
    · cases hv
    · cases hv
    · cases hv
      trivial
    · cases hv
    · cases hv
    · cases hv
  · intro n hn
    cases hn
  · exact Or.inl rfl
  · exact Or.inr (Or.inr (Or.inr ⟨_, rfl⟩))
  · intro row hrow
    rcases List.mem_cons.mp hrow with rfl | hrow
    · exact ⟨⟨"a", rfl⟩, ⟨"seed-a", rfl⟩⟩
    · rw [List.mem_singleton.mp hrow]
      exact ⟨⟨"b", rfl⟩, ⟨"mine", rfl⟩⟩

/-- A version of `2.0` is the version two to the renderer alone, and a string of overrides is a
list of its characters to the renderer alone. -/
theorem a_float_version_and_a_string_of_overrides :
    migrate_provider_model_registry integers [] [("modelRegistryVersion", .number (.float 2))] ≠
        some (migrate_provider [] (.object [("modelRegistryVersion", .number (.float 2))])) ∧
      migrate_provider_model_registry integers [] [("modelCapabilityOverrides", .string "ab")] ≠
        some (migrate_provider [] (.object [("modelCapabilityOverrides", .string "ab")])) := by
  decide +kernel

end omni_translate.model_registry

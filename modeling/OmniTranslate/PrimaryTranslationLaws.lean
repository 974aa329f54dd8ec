-- When both sides choose the same translator. Only the native side takes a scene
-- assignment for a mention of a model, and the two languages trim different ends.
import Mathlib.Data.List.Perm.Basic
import OmniTranslate.PrimaryTranslation

namespace omni_translate.primary_text_translation

open json model_registry

/-! ## Who is meant -/

/-- The provider mentions the model anywhere but in its scenes. -/
def in_lists (model_id : String) (provider : Value) : Bool :=
  provider.get_str "model" = some model_id ||
    ["localModelCapabilityRegistry", "modelProtocolBindings"].any (has_model model_id provider) ||
    has_grouped model_id provider "candidateModelGroups"

variable (template_id : Option String)

def is_listed (model_id : String) (provider : Value) : Bool :=
  !is_disabled provider &&
    match template_id with
    | some template => provider.get_str "templateId" = some template
    | none => in_lists model_id provider

/-- A scene is all that mentions the model. -/
def is_scene_only (model_id : String) (provider : Value) : Bool :=
  !is_disabled provider && template_id.isNone && !in_lists model_id provider &&
    has_grouped model_id provider "sceneModelAssignments"

section

variable (config : Value) (reference : String)

def listed : List Value :=
  (items_of config "providers").filter
    (is_listed (split_reference reference).1 (split_reference reference).2)

def scene_only : List Value :=
  (items_of config "providers").filter
    (is_scene_only (split_reference reference).1 (split_reference reference).2)

/-- The native side looks for the model. -/
def sought : Bool :=
  (split_reference reference).2 ≠ "" && trimmed (split_reference reference).2

/-- The renderer looks for it. -/
def js_sought : Bool :=
  (split_reference reference).2 ≠ "" && js_trimmed (split_reference reference).2

variable (fits : Value → String → Bool)

/-- There is one provider, and it fits. -/
def sole (providers : List Value) : Bool :=
  (only providers).any fun provider => fits provider (split_reference reference).2

/-- Both sides find the provider. -/
def kept : Bool :=
  sought reference && js_sought reference && (scene_only config reference).isEmpty &&
    sole reference fits (listed config reference)

/-- Only the renderer finds it. -/
def lost : Bool :=
  js_sought reference && (!sought reference || !(scene_only config reference).isEmpty) &&
    sole reference fits (listed config reference)

/-- Only the native side finds it. -/
def gained : Bool :=
  sought reference &&
    ((listed config reference).isEmpty && sole reference fits (scene_only config reference) ||
      !js_sought reference && (scene_only config reference).isEmpty &&
        sole reference fits (listed config reference))

end

/-! ## The native side -/

variable {α : Type}

theorem only_eq_some {l : List α} {a : α} : only l = some a ↔ l = [a] := by
  match l with
  | [] => simp [only]
  | [b] => simp [only]
  | b :: c :: rest => simp [only]

theorem filter_or_eq_singleton (p q : α → Bool) (l : List α) (a : α) :
    l.filter (fun x => p x || q x) = [a] ↔
      (l.filter p = [a] ∧ l.filter (fun x => !p x && q x) = []) ∨
        (l.filter p = [] ∧ l.filter (fun x => !p x && q x) = [a]) := by
  have hperm := List.filter_append_perm p (l.filter fun x => p x || q x)
  have hp : (l.filter fun x => p x || q x).filter p = l.filter p := by
    rw [List.filter_filter]
    exact List.filter_congr fun x _ => by cases p x <;> simp
  have hq : ((l.filter fun x => p x || q x).filter fun x => !p x) =
      l.filter fun x => !p x && q x := by
    rw [List.filter_filter]
    exact List.filter_congr fun x _ => by cases p x <;> simp
  rw [hp, hq] at hperm
  constructor
  · intro h
    rw [h, List.perm_singleton] at hperm
    rcases List.append_eq_singleton_iff.mp hperm with ⟨h1, h2⟩ | ⟨h1, h2⟩
    · exact Or.inr ⟨h1, h2⟩
    · exact Or.inl ⟨h1, h2⟩
  · rintro (⟨h1, h2⟩ | ⟨h1, h2⟩)
    · rw [h1, h2] at hperm
      exact List.perm_singleton.mp hperm.symm
    · rw [h1, h2] at hperm
      exact List.perm_singleton.mp hperm.symm

/-- One provider in all is one that is listed, or one that only a scene mentions. -/
theorem only_filter_or (p q : α → Bool) (l : List α) :
    only (l.filter fun x => p x || q x) =
      if (l.filter fun x => !p x && q x) = [] then only (l.filter p)
      else if l.filter p = [] then only (l.filter fun x => !p x && q x)
      else none := by
  apply Option.ext
  intro a
  rw [only_eq_some, filter_or_eq_singleton]
  by_cases hq : (l.filter fun x => !p x && q x) = []
  · rw [if_pos hq, only_eq_some]
    simp [hq]
  · rw [if_neg hq]
    by_cases hp : l.filter p = []
    · rw [if_pos hp, only_eq_some]
      simp [hp]
    · simp [hp, hq]

theorem is_match_eq (model_id : String) (provider : Value) :
    is_match template_id model_id provider =
      (is_listed template_id model_id provider || is_scene_only template_id model_id provider) := by
  unfold is_match is_listed is_scene_only in_lists
  cases is_disabled provider with
  | true => rfl
  | false =>
    cases template_id with
    | some _ => simp
    | none =>
      simp only [List.any_cons, List.any_nil, Bool.or_false]
      generalize decide (provider.get_str "model" = some model_id) = a
      generalize has_model model_id provider "localModelCapabilityRegistry" = b
      generalize has_model model_id provider "modelProtocolBindings" = c
      generalize has_grouped model_id provider "candidateModelGroups" = d
      generalize has_grouped model_id provider "sceneModelAssignments" = e
      revert a b c d e
      decide

theorem is_scene_only_eq (model_id : String) (provider : Value) :
    (!is_listed template_id model_id provider && is_scene_only template_id model_id provider) =
      is_scene_only template_id model_id provider := by
  unfold is_listed is_scene_only
  cases template_id with
  | some _ => simp
  | none => cases is_disabled provider <;> cases in_lists model_id provider <;> rfl

variable (config : Value)

theorem resolve_exact_model_value_eq (reference : String) :
    resolve_exact_model_value config reference =
      if sought reference then
        (only ((items_of config "providers").filter
          (is_match (split_reference reference).1 (split_reference reference).2))).map
            fun provider => (provider, (split_reference reference).2)
      else none := by
  unfold resolve_exact_model_value sought items_of
  generalize split_reference reference = parts
  obtain ⟨template_id, model_id⟩ := parts
  dsimp only
  by_cases hid : model_id = ""
  · simp [hid]
  · cases htrim : trimmed model_id with
    | false => simp
    | true =>
      simp only [hid, decide_false, Bool.not_true, Bool.or_false, Bool.false_eq_true, if_false,
        ne_eq, not_false_eq_true, decide_true, Bool.and_true, if_true]
      cases hget : config.get "providers" with
      | none => rfl
      | some v =>
        cases harray : v.as_array with
        | none => simp [harray, only]
        | some providers =>
          simp only [Option.bind_eq_bind, Option.bind_some, harray, Option.getD_some]
          cases only (providers.filter (is_match template_id model_id)) <;> rfl

theorem native_finds (reference : String) (fits : Value → String → Bool) :
    ((resolve_exact_model_value config reference).any fun found => fits found.1 found.2) =
      (kept config reference fits || gained config reference fits) := by
  have honly : only ((items_of config "providers").filter
      (is_match (split_reference reference).1 (split_reference reference).2)) =
      if scene_only config reference = [] then only (listed config reference)
      else if listed config reference = [] then only (scene_only config reference) else none := by
    have h := only_filter_or
      (is_listed (split_reference reference).1 (split_reference reference).2)
      (is_scene_only (split_reference reference).1 (split_reference reference).2)
      (items_of config "providers")
    simp only [← is_match_eq, is_scene_only_eq] at h
    exact h
  rw [resolve_exact_model_value_eq, honly]
  unfold kept gained sole
  cases sought reference with
  | false => rfl
  | true =>
    simp only [if_true, Option.any_map]
    by_cases hscene : scene_only config reference = []
    · rw [if_pos hscene, hscene]
      cases js_sought reference <;> simp [only]
    · rw [if_neg hscene]
      by_cases hlisted : listed config reference = []
      · rw [if_pos hlisted, hlisted]
        simp [only]
      · simp [hscene, hlisted]

/-! ## The renderer -/

/-- A list, or no list. -/
def is_list (v : Option Value) : Bool := (nullish v).all fun items => items.as_array.isSome

/-- What the type of a provider draft promises of the lists that are read. -/
def well_typed (provider : Value) : Bool :=
  provider.is_object &&
    (["localModelCapabilityRegistry", "modelProtocolBindings", "candidateModelGroups"].all
      fun list => is_list (provider.get list) && (items_of provider list).all Value.is_object) &&
    ((items_of provider "localModelCapabilityRegistry").all
      fun entry => ((entry.get "capabilities").bind Value.as_array).isSome) &&
    (items_of provider "candidateModelGroups").all
      fun group => ((group.get "modelIds").bind Value.as_array).isSome

def typed_providers : Bool :=
  is_list (config.get "providers") && (items_of config "providers").all well_typed

theorem either_some (a b : Bool) : either (some a) (some b) = some (a || b) := by
  cases a <;> rfl

theorem some_where_eq {test : α → Option Bool} {f : α → Bool} (l : List α) (h : ∀ v ∈ l, test v = some (f v)) : some_where test l = some (l.any f) := by
  induction l with
  | nil => rfl
  | cons v _ ih =>
    rw [some_where, h v List.mem_cons_self, ih fun w hw => h w (List.mem_cons_of_mem _ hw),
      either_some, List.any_cons]

theorem filter_where_eq {test : α → Option Bool} {f : α → Bool} (l : List α) (h : ∀ v ∈ l, test v = some (f v)) : filter_where test l = some (l.filter f) := by
  induction l with
  | nil => rfl
  | cons v _ ih =>
    rw [filter_where, h v List.mem_cons_self, ih fun w hw => h w (List.mem_cons_of_mem _ hw)]
    cases hv : f v <;> simp [hv]

theorem items_eq {v : Option Value} (h : is_list v = true) :
    (nullish v = none ∧ (v.bind Value.as_array).getD [] = []) ∨
      ∃ items, v = some (.array items) := by
  match v, h with
  | none, _ => exact Or.inl ⟨rfl, rfl⟩
  | some .null, _ => exact Or.inl ⟨rfl, rfl⟩
  | some (.array items), _ => exact Or.inr ⟨items, rfl⟩

theorem optional_some_eq {provider : Value} {list : String} {test : Value → Option Bool}
    {f : Value → Bool} (hlist : is_list (provider.get list) = true)
    (h : ∀ item ∈ items_of provider list, test item = some (f item)) :
    optional_some (provider.get list) test = some ((items_of provider list).any f) := by
  unfold optional_some
  unfold items_of at h ⊢
  rcases items_eq hlist with ⟨hnone, hitems⟩ | ⟨items, hitems⟩
  · rw [hnone, hitems]
    rfl
  · rw [hitems] at h ⊢
    exact some_where_eq items h

theorem is_text_eq (v : Value) (field s : String) :
    is_text (v.get field) s = decide (v.get_str field = some s) := by
  unfold is_text Value.get_str
  cases v.get field with
  | none => rfl
  | some w => cases w <;> simp [strict_equal, Value.as_str, beq_eq_decide]

theorem member_of_object {v : Value} (h : v.is_object = true) (field : String) :
    member v field = some (v.get field) := by
  cases v with
  | object => rfl
  | _ => cases h

theorem includes_eq {v : Option Value} (h : (v.bind Value.as_array).isSome = true) (s : String) :
    includes v s =
      some (((v.bind Value.as_array).getD []).any fun item => item.as_str = some s) := by
  match v, h with
  | some (.array _), _ =>
    refine congrArg some (List.any_congr rfl fun item => ?_)
    cases item <;> simp [strict_equal, Value.as_str, beq_eq_decide]

theorem entry_has_eq {entry : Value} (h : entry.is_object = true) (model_id : String) :
    entry_has model_id entry = some (decide (entry.get_str "modelId" = some model_id)) := by
  simp [entry_has, member_of_object h, is_text_eq]

theorem group_has_eq {group : Value} (h : group.is_object = true)
    (hids : ((group.get "modelIds").bind Value.as_array).isSome = true) (model_id : String) :
    group_has model_id group =
      some ((items_of group "modelIds").any fun id => id.as_str = some model_id) := by
  simp [group_has, member_of_object h, includes_eq hids, items_of]

theorem entry_translates_eq {entry : Value} (h : entry.is_object = true)
    (hcaps : ((entry.get "capabilities").bind Value.as_array).isSome = true) (model_id : String) :
    entry_translates model_id entry = some (entry.get_str "modelId" = some model_id &&
      (items_of entry "capabilities").any fun cap => cap.as_str = some "text-generation") := by
  simp only [entry_translates, member_of_object h, is_text_eq, Option.bind_eq_bind,
    Option.bind_some]
  by_cases hid : entry.get_str "modelId" = some model_id
  · simp [hid, includes_eq hcaps, items_of]
  · simp [hid]

section

variable {provider : Value} (h : well_typed provider = true)
include h

theorem well_typed_list {list : String}
    (hlist : list ∈ ["localModelCapabilityRegistry", "modelProtocolBindings",
      "candidateModelGroups"]) :
    is_list (provider.get list) = true ∧
      ∀ item ∈ items_of provider list, item.is_object = true := by
  simp only [well_typed, Bool.and_eq_true, List.all_eq_true] at h
  exact h.1.1.2 list hlist

theorem well_typed_capabilities : ∀ entry ∈ items_of provider "localModelCapabilityRegistry",
    ((entry.get "capabilities").bind Value.as_array).isSome = true := by
  simp only [well_typed, Bool.and_eq_true, List.all_eq_true] at h
  exact h.1.2

theorem well_typed_model_ids : ∀ group ∈ items_of provider "candidateModelGroups",
    ((group.get "modelIds").bind Value.as_array).isSome = true := by
  simp only [well_typed, Bool.and_eq_true, List.all_eq_true] at h
  exact h.2

theorem optional_has_model (model_id list : String)
    (hlist : list ∈ ["localModelCapabilityRegistry", "modelProtocolBindings",
      "candidateModelGroups"]) :
    optional_some (provider.get list) (entry_has model_id) =
      some (has_model model_id provider list) :=
  optional_some_eq (well_typed_list h hlist).1 fun item hitem =>
    entry_has_eq ((well_typed_list h hlist).2 item hitem) model_id

theorem optional_has_grouped (model_id : String) :
    optional_some (provider.get "candidateModelGroups") (group_has model_id) =
      some (has_grouped model_id provider "candidateModelGroups") :=
  optional_some_eq (well_typed_list h (by simp)).1 fun item hitem =>
    group_has_eq ((well_typed_list h (by simp)).2 item hitem) (well_typed_model_ids h item hitem)
      model_id

theorem optional_text_capability (model_id : String) :
    optional_some (provider.get "localModelCapabilityRegistry") (entry_translates model_id) =
      some (text_capability provider model_id) :=
  optional_some_eq (well_typed_list h (by simp)).1 fun item hitem =>
    entry_translates_eq ((well_typed_list h (by simp)).2 item hitem)
      (well_typed_capabilities h item hitem) model_id

/-- The renderer takes what is listed. -/
theorem is_candidate_eq (template_id : Option String) (model_id : String) :
    is_candidate template_id model_id provider =
      some (is_listed template_id model_id provider) := by
  have hobject : provider.is_object = true := by
    simp only [well_typed, Bool.and_eq_true] at h
    exact h.1.1.1
  have hdisabled : strict_equal (provider.get "enabled") (some (.bool false)) =
      is_disabled provider := by
    unfold is_disabled
    cases provider.get "enabled" with
    | none => rfl
    | some v => cases v <;> simp [strict_equal]
  unfold is_candidate is_listed
  rw [member_of_object hobject]
  simp only [Option.bind_eq_bind, Option.bind_some, hdisabled]
  cases is_disabled provider with
  | true => rfl
  | false =>
    cases template_id with
    | some _ => simp [is_text_eq]
    | none =>
      simp only [is_text_eq, optional_has_grouped h]
      rw [optional_has_model h model_id "localModelCapabilityRegistry" (by simp),
        optional_has_model h model_id "modelProtocolBindings" (by simp)]
      simp [either_some, in_lists, Bool.or_assoc]

end

theorem slice_reference_eq (reference : String) :
    slice_reference reference = split_reference reference := by
  unfold slice_reference split_reference
  rw [text.split_once_eq]
  dsimp only
  cases text.index_of "::".toList reference.toList with
  | none => rfl
  | some _ => rfl

theorem provider_list_eq {config : Value} (h : is_list (config.get "providers") = true) :
    provider_list config = some (items_of config "providers") := by
  unfold provider_list items_of
  rcases items_eq h with ⟨hnone, hitems⟩ | ⟨_, hitems⟩
  · rw [hnone, hitems]
  · rw [hitems]
    rfl

def js_found (reference : String) : Option (Value × String) :=
  if js_sought reference then
    (only (listed config reference)).map fun provider => (provider, (split_reference reference).2)
  else none

theorem exact_migration_model_eq {config : Value} (htyped : typed_providers config = true)
    (reference : String) :
    exact_migration_model config (.string reference) = some (js_found config reference) := by
  simp only [typed_providers, Bool.and_eq_true, List.all_eq_true] at htyped
  have hfilter : filter_where
      (is_candidate (split_reference reference).1 (split_reference reference).2)
      (items_of config "providers") = some (listed config reference) :=
    filter_where_eq _ fun p hp => is_candidate_eq (htyped.2 p hp) _ _
  simp only [exact_migration_model, slice_reference_eq, js_found, js_sought]
  by_cases hid : (split_reference reference).2 = ""
  · simp [hid]
  · by_cases htrim : js_trimmed (split_reference reference).2 = true
    · simp [hid, htrim, provider_list_eq htyped.1, hfilter]
    · simp [htrim]

/-- The field of the devices is a text, or it is missing. -/
def readable (devices : List (String × Value)) (field : String) : Bool :=
  (nullish (devices.lookup field)).all Value.is_string

theorem reference_of_readable {devices : List (String × Value)} {field : String}
    (h : readable devices field = true) :
    reference_of (.object devices) field = .string (device_text devices field) := by
  have hget : (Value.object devices).get field = devices.lookup field := rfl
  unfold reference_of device_text
  unfold readable at h
  rw [hget]
  cases hfield : devices.lookup field with
  | none => rfl
  | some v =>
    rw [hfield] at h
    cases v <;> first | rfl | cases h

theorem unreadable_reference {devices : List (String × Value)} {field : String}
    (h : readable devices field = false) (config : Value) :
    exact_migration_model config (reference_of (.object devices) field) = none := by
  have hget : (Value.object devices).get field = devices.lookup field := rfl
  unfold reference_of
  unfold readable at h
  rw [hget]
  cases hfield : devices.lookup field with
  | none =>
    rw [hfield] at h
    cases h
  | some v =>
    rw [hfield] at h
    cases v <;> first | rfl | cases h

theorem js_finds (reference : String) (fits : Value → String → Bool) :
    ((js_found config reference).any fun found => fits found.1 found.2) =
      (kept config reference fits || lost config reference fits) := by
  unfold js_found kept lost sole
  cases js_sought reference with
  | false => simp
  | true =>
    simp only [if_true, Option.any_map]
    cases sought reference <;> cases (scene_only config reference).isEmpty <;> simp

theorem js_found_mem {config : Value} {reference : String} {found : Value × String}
    (h : js_found config reference = some found) : found.1 ∈ items_of config "providers" := by
  unfold js_found at h
  split at h
  · obtain ⟨provider, hprovider, rfl⟩ := Option.map_eq_some_iff.mp h
    have hmem : provider ∈ listed config reference := by
      rw [only_eq_some.mp hprovider]
      exact List.mem_singleton_self provider
    exact List.mem_of_mem_filter hmem
  · cases h

theorem is_legacy_asr_eq (provider : Value) (model_id : String) :
    is_legacy_asr provider model_id = legacy_asr_pipeline provider model_id := by
  unfold is_legacy_asr legacy_asr_pipeline
  cases LEGACY_ASR_MODELS.contains model_id with
  | false => rfl
  | true => cases h : LEGACY_OPENAI_ASR_MODELS.contains model_id <;> simp [is_text_eq]

/-! ## The choice -/

def VOICES : List String := ["inboundVoiceModelId", "outboundVoiceModelId"]

section

variable (operation_allowed : Value → String → String → Bool) (config : Value)
variable (devices : List (String × Value)) (found : Value → String → (Value → String → Bool) → Bool)

/-- How the translator of the subtitles is found. -/
def translator : Bool :=
  found config (device_text devices "subtitleTranslationModelId") (translates operation_allowed)

/-- How the model of a voice is found. -/
def voice (field : String) : Bool :=
  found config (device_text devices field) (recognises operation_allowed)

def some_voice : Bool :=
  VOICES.any (voice operation_allowed config devices found)

/-- The renderer comes to a field that is no text. -/
def throws : Bool :=
  let renders := fun field =>
    voice operation_allowed config devices kept field ||
      voice operation_allowed config devices lost field
  !readable devices "subtitleTranslationModelId" ||
    (translator operation_allowed config devices kept ||
        translator operation_allowed config devices lost) &&
      (!readable devices "inboundVoiceModelId" ||
        !renders "inboundVoiceModelId" && !readable devices "outboundVoiceModelId")

/-- What only one side finds decides: `mine` is what this side alone finds, `other` what the other
alone does. -/
def sways (mine other : Value → String → (Value → String → Bool) → Bool) : Bool :=
  translator operation_allowed config devices mine &&
      (some_voice operation_allowed config devices kept ||
        some_voice operation_allowed config devices mine) ||
    translator operation_allowed config devices kept &&
      some_voice operation_allowed config devices mine &&
      !(some_voice operation_allowed config devices kept ||
        some_voice operation_allowed config devices other)

end

section

variable {native_allowed renderer_allowed : Value → String → String → Bool} {config : Value}
variable {devices : List (String × Value)}

theorem eligible_eq :
    eligible native_allowed config devices =
      ((translator native_allowed config devices kept ||
          translator native_allowed config devices gained) &&
        (some_voice native_allowed config devices kept ||
          some_voice native_allowed config devices gained)) := by
  have hvoices : (VOICES.any fun key =>
      (resolve_exact_model_value config (device_text devices key)).any
        fun asr => recognises native_allowed asr.1 asr.2) =
      (some_voice native_allowed config devices kept ||
        some_voice native_allowed config devices gained) := by
    simp only [native_finds]
    simp only [VOICES, some_voice, voice, List.any_cons, List.any_nil, Bool.or_false]
    ac_rfl
  have htranslator := native_finds config (device_text devices "subtitleTranslationModelId")
    (translates native_allowed)
  unfold eligible
  unfold translator
  rw [← htranslator]
  cases resolve_exact_model_value config (device_text devices "subtitleTranslationModelId") with
  | none => rfl
  | some found =>
    simp only [Option.any_some]
    cases translates native_allowed found.1 found.2 with
    | false => rfl
    | true => exact hvoices

theorem migrate_config_primary (hdevices : config.get "devices" = some (.object devices))
    (habsent : devices.lookup PRIMARY = none) :
    (migrate_config native_allowed config).pointer ["devices", PRIMARY] =
      some (.string (if eligible native_allowed config devices then
        device_text devices "subtitleTranslationModelId" else "")) := by
  unfold migrate_config
  simp only [hdevices, Option.bind_some, Value.as_object, habsent, Option.isSome_none,
    Bool.false_eq_true, if_false]
  cases config with
  | object _ => simp [set_primary, Value.pointer, Value.get, Value.as_object]
  | _ => cases hdevices

section

variable (htyped : typed_providers config = true)
variable (hagree : ∀ p ∈ items_of config "providers", ∀ model operation,
  native_allowed p model operation = renderer_allowed p model operation)
include htyped hagree

theorem voice_recognises_eq {field : String} (h : readable devices field = true) :
    voice_recognises renderer_allowed config (.object devices) field =
      some (voice native_allowed config devices kept field ||
        voice native_allowed config devices lost field) := by
  unfold voice_recognises voice
  rw [reference_of_readable h, exact_migration_model_eq htyped, ← js_finds]
  cases hfound : js_found config (device_text devices field) with
  | none => rfl
  | some found =>
    have hmem := js_found_mem hfound
    simp [recognises, is_legacy_asr_eq, hagree found.1 hmem]

omit hagree htyped in
theorem voice_recognises_unreadable {field : String} (h : readable devices field = false) :
    voice_recognises renderer_allowed config (.object devices) field = none := by
  unfold voice_recognises
  rw [unreadable_reference h]
  rfl

theorem some_voice_recognises :
    some_where (voice_recognises renderer_allowed config (.object devices))
        ["inboundVoiceModelId", "outboundVoiceModelId"] =
      if !readable devices "inboundVoiceModelId" ||
          !(voice native_allowed config devices kept "inboundVoiceModelId" ||
              voice native_allowed config devices lost "inboundVoiceModelId") &&
            !readable devices "outboundVoiceModelId" then none
      else some (some_voice native_allowed config devices kept ||
        some_voice native_allowed config devices lost) := by
  simp only [some_where, some_voice, VOICES, List.any_cons, List.any_nil, Bool.or_false]
  cases hin : readable devices "inboundVoiceModelId" with
  | false => rw [voice_recognises_unreadable hin]; rfl
  | true =>
    rw [voice_recognises_eq htyped hagree hin]
    cases hout : readable devices "outboundVoiceModelId" with
    | false =>
      rw [voice_recognises_unreadable hout]
      cases voice native_allowed config devices kept "inboundVoiceModelId" <;>
        cases voice native_allowed config devices lost "inboundVoiceModelId" <;> simp [either]
    | true =>
      rw [voice_recognises_eq htyped hagree hout, either_some, either_some]
      simp
      ac_rfl

omit hagree htyped in
theorem index_of_text {field : String} (h : device_text devices field ≠ "") :
    (Value.object devices).index field = .string (device_text devices field) := by
  have hget : (Value.object devices).get field = devices.lookup field := rfl
  unfold Value.index device_text
  unfold device_text at h
  rw [hget]
  cases hfield : devices.lookup field with
  | none =>
    rw [hfield] at h
    exact absurd rfl h
  | some v =>
    rw [hfield] at h
    cases v <;> first | rfl | exact absurd rfl h

theorem migrate_primary_eq (hdevices : config.get "devices" = some (.object devices))
    (habsent : devices.lookup PRIMARY = none) :
    migrate_primary_text_translation_model renderer_allowed config =
      if throws native_allowed config devices then none
      else some (.string (if
        (translator native_allowed config devices kept ||
            translator native_allowed config devices lost) &&
          (some_voice native_allowed config devices kept ||
            some_voice native_allowed config devices lost) then
        device_text devices "subtitleTranslationModelId" else "")) := by
  have hget : ∀ field, (Value.object devices).get field = devices.lookup field := fun _ => rfl
  have htranslator := js_finds config (device_text devices "subtitleTranslationModelId")
    (translates native_allowed)
  change _ = (translator native_allowed config devices kept ||
    translator native_allowed config devices lost) at htranslator
  unfold migrate_primary_text_translation_model throws
  rw [hdevices]
  simp only [nullish, Option.bind_eq_bind, Option.bind_some, hget, habsent]
  cases hread : readable devices "subtitleTranslationModelId" with
  | false => simp [unreadable_reference hread]
  | true =>
    rw [reference_of_readable hread, exact_migration_model_eq htyped, ← htranslator]
    cases hfound : js_found config (device_text devices "subtitleTranslationModelId") with
    | none => simp
    | some found =>
      have hmem := js_found_mem hfound
      have hwell : well_typed found.1 = true := by
        simp only [typed_providers, Bool.and_eq_true, List.all_eq_true] at htyped
        exact htyped.2 _ hmem
      have htext : device_text devices "subtitleTranslationModelId" ≠ "" := by
        intro hempty
        rw [hempty] at hfound
        exact absurd hfound (by simp [js_found, js_sought, split_reference, text.split_once])
      simp only [Option.bind_some, Option.any_some, optional_text_capability hwell, either_some,
        ← hagree found.1 hmem]
      rw [some_voice_recognises htyped hagree, index_of_text htext]
      change (if !translates native_allowed found.1 found.2 then _ else _) = _
      by_cases htranslates : translates native_allowed found.1 found.2 = true
      · simp only [htranslates, Bool.not_true, Bool.false_eq_true, if_false, Bool.false_or,
          Bool.true_and]
        split
        · rfl
        · cases some_voice native_allowed config devices kept ||
            some_voice native_allowed config devices lost <;> rfl
      · simp [htranslates]

end

theorem found_once (config : Value) (reference : String) (fits : Value → String → Bool) :
    (kept config reference fits && lost config reference fits) = false ∧
      (kept config reference fits && gained config reference fits) = false ∧
      (lost config reference fits && gained config reference fits) = false := by
  have hscene : (scene_only config reference).isEmpty = true →
      sole reference fits (scene_only config reference) = false := by
    intro h
    rw [List.isEmpty_iff.mp h]
    rfl
  have hlisted : (listed config reference).isEmpty = true →
      sole reference fits (listed config reference) = false := by
    intro h
    rw [List.isEmpty_iff.mp h]
    rfl
  unfold kept lost gained
  generalize sought reference = s
  generalize js_sought reference = j
  generalize sole reference fits (listed config reference) = l at hlisted ⊢
  generalize sole reference fits (scene_only config reference) = o at hscene ⊢
  generalize (scene_only config reference).isEmpty = e at hscene ⊢
  generalize (listed config reference).isEmpty = m at hlisted ⊢
  revert s j l o e m
  decide

theorem found_nothing (config : Value) (fits : Value → String → Bool) :
    kept config "" fits = false ∧ lost config "" fits = false ∧ gained config "" fits = false := by
  exact ⟨rfl, rfl, rfl⟩

/-- The two sides find the translator and a voice together, unless one side's own finds decide. -/
theorem sways_iff :
    ((translator native_allowed config devices kept ||
          translator native_allowed config devices lost) &&
        (some_voice native_allowed config devices kept ||
          some_voice native_allowed config devices lost)) =
      ((translator native_allowed config devices kept ||
          translator native_allowed config devices gained) &&
        (some_voice native_allowed config devices kept ||
          some_voice native_allowed config devices gained)) ↔
    sways native_allowed config devices lost gained = false ∧
      sways native_allowed config devices gained lost = false := by
  obtain ⟨h1, h2, h3⟩ := found_once config
    (device_text devices "subtitleTranslationModelId") (translates native_allowed)
  unfold sways
  change (translator native_allowed config devices kept && _) = false at h1
  change (translator native_allowed config devices kept && _) = false at h2
  change (translator native_allowed config devices lost && _) = false at h3
  change (_ && translator native_allowed config devices lost) = false at h1
  change (_ && translator native_allowed config devices gained) = false at h2
  change (_ && translator native_allowed config devices gained) = false at h3
  generalize translator native_allowed config devices kept = kt at h1 h2 ⊢
  generalize translator native_allowed config devices lost = lt at h1 h3 ⊢
  generalize translator native_allowed config devices gained = gt at h2 h3 ⊢
  generalize some_voice native_allowed config devices kept = kv
  generalize some_voice native_allowed config devices lost = lv
  generalize some_voice native_allowed config devices gained = gv
  revert kt lt gt kv lv gv
  decide

/-- In a configuration without a primary translator whose providers have the lists of their type,
both sides choose the same one unless the renderer comes to a reference that is no text, or what
only one side finds decides: a model only a scene mentions, or one with an end that only one of
the two languages trims. -/
theorem both_choose_one_translator_unless_one_side_alone_decides
    (native_allowed renderer_allowed : Value → String → String → Bool) (config : Value)
    (devices : List (String × Value))
    (hdevices : config.get "devices" = some (.object devices))
    (habsent : devices.lookup PRIMARY = none) (htyped : typed_providers config = true)
    (hagree : ∀ p ∈ items_of config "providers", ∀ model operation,
      native_allowed p model operation = renderer_allowed p model operation) :
    migrate_primary_text_translation_model renderer_allowed config =
        (migrate_config native_allowed config).pointer ["devices", PRIMARY] ↔
      throws native_allowed config devices = false ∧
        sways native_allowed config devices lost gained = false ∧
        sways native_allowed config devices gained lost = false := by
  rw [migrate_primary_eq htyped hagree hdevices habsent, migrate_config_primary hdevices habsent,
    eligible_eq]
  cases throws native_allowed config devices with
  | true => simp
  | false =>
    rw [← sways_iff]
    by_cases htext : device_text devices "subtitleTranslationModelId" = ""
    · obtain ⟨h1, h2, h3⟩ := found_nothing config (translates native_allowed)
      simp [translator, htext, h1, h2, h3]
    · generalize ((translator native_allowed config devices kept ||
          translator native_allowed config devices lost) && _) = r
      generalize ((translator native_allowed config devices kept ||
          translator native_allowed config devices gained) && _) = n
      cases r <;> cases n <;> simp [htext, Ne.symm htext]

end

/-- An old document: a recogniser and a translator at one provider. -/
def old_devices : List (String × Value) :=
  [("inboundVoiceModelId", .string "legacy::fun-asr"),
    ("subtitleTranslationModelId", .string "translator")]

def old_provider : Value :=
  .object [("templateId", .string "legacy"), ("kind", .string "dashscope"),
    ("localModelCapabilityRegistry", .array [.object [("modelId", .string "translator"),
      ("capabilities", .array [.string "text-generation"])]])]

def old_config (others : List Value) : Value :=
  .object [("devices", .object old_devices), ("providers", .array (old_provider :: others))]

/-- A provider that only has the translator in a scene. -/
def scene_provider : Value :=
  .object [("templateId", .string "other"), ("kind", .string "dashscope"),
    ("sceneModelAssignments", .array [.object [("modelIds", .array [.string "translator"])]])]

theorem the_old_document_keeps_its_translator :
    migrate_primary_text_translation_model (fun _ _ _ => false) (old_config []) =
      (migrate_config (fun _ _ _ => false) (old_config [])).pointer ["devices", PRIMARY] :=
  (both_choose_one_translator_unless_one_side_alone_decides (fun _ _ _ => false)
    (fun _ _ _ => false) (old_config []) old_devices rfl (by decide +kernel) (by decide +kernel)
    fun _ _ _ _ => rfl).mpr (by decide +kernel)

/-- With the scene of another provider, the native side loses the translator. -/
theorem a_scene_takes_the_translator_away :
    typed_providers (old_config [scene_provider]) = true ∧
      migrate_primary_text_translation_model (fun _ _ _ => false) (old_config [scene_provider]) =
        some (.string "translator") ∧
      (migrate_config (fun _ _ _ => false) (old_config [scene_provider])).pointer
        ["devices", PRIMARY] = some (.string "") := by
  decide +kernel

end omni_translate.primary_text_translation

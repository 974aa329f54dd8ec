-- The recursive merge of one JSON value into another: the fields of an object go
-- into an object, and any other value takes the place of what was there. Merging
-- a second time changes nothing, and neither does merging what covers the target.
import Mathlib.Data.List.Lookmap
import Mathlib.Data.List.Nodup
import OmniTranslate.JsonEdits

namespace json

mutual

def merge : Value → Value → Value
  | .object target, .object patch => .object (merge_fields target patch)
  | _, patch => patch

/-- A field of the patch is merged into the field of the target, or into a new one that is `null`. -/
def merge_fields (target : List (String × Value)) : List (String × Value) → List (String × Value)
  | [] => target
  | (k, v) :: patch =>
    merge_fields (insert_field k (merge ((target.lookup k).getD .null) v) target) patch

end

/-- The names of the fields. -/
def names (fields : List (String × Value)) : List String := fields.map Prod.fst

/-- The fields of each object on a path of objects have different names. -/
inductive Distinct : Value → Prop where
  | object (fields : List (String × Value)) (hnames : (names fields).Nodup)
      (hvalues : ∀ f ∈ fields, Distinct f.2) : Distinct (.object fields)
  | other (v : Value) (h : v.is_object = false) : Distinct v

/-! ## Fields -/

variable {k : String} {v : Value}

section

variable {fields : List (String × Value)}

theorem lookup_isSome : (fields.lookup k).isSome = true ↔ k ∈ names fields := by
  induction fields with
  | nil => simp [names]
  | cons f fields ih =>
    obtain ⟨l, v⟩ := f
    rw [List.lookup_cons]
    by_cases h : k = l
    · simp [names, h]
    · rw [beq_false_of_ne h]
      simp [names, h]

theorem lookup_eq_none : fields.lookup k = none ↔ k ∉ names fields := by
  rw [← lookup_isSome, Bool.not_eq_true, Option.isSome_eq_false_iff, Option.isNone_iff_eq_none]

theorem mem_of_lookup (h : fields.lookup k = some v) : (k, v) ∈ fields := by
  induction fields with
  | nil => cases h
  | cons f fields ih =>
    rw [List.lookup_cons] at h
    split at h
    · rename_i heq
      cases h
      rw [eq_of_beq heq]
      exact List.mem_cons_self
    · exact List.mem_cons_of_mem _ (ih h)

theorem lookup_of_mem (hnames : (names fields).Nodup) (h : (k, v) ∈ fields) : fields.lookup k = some v := by
  induction fields with
  | nil => cases h
  | cons f fields ih =>
    simp only [names, List.map_cons, List.nodup_cons] at hnames
    rcases List.mem_cons.mp h with rfl | hmem
    · exact List.lookup_cons_self
    · have hne : k ≠ f.1 := by
        rintro rfl
        exact hnames.1 (List.mem_map.mpr ⟨_, hmem, rfl⟩)
      rw [lookup_cons_ne hne]
      exact ih hnames.2 hmem

theorem mem_insert_field {f : String × Value} (h : f ∈ insert_field k v fields) : f = (k, v) ∨ f ∈ fields := by
  induction fields with
  | nil => exact Or.inl (List.mem_singleton.mp h)
  | cons g fields ih =>
    unfold insert_field at h
    split at h
    · rcases List.mem_cons.mp h with rfl | hmem
      · exact Or.inl rfl
      · exact Or.inr (List.mem_cons_of_mem _ hmem)
    · rcases List.mem_cons.mp h with rfl | hmem
      · exact Or.inr List.mem_cons_self
      · exact (ih hmem).imp_right (List.mem_cons_of_mem _)

theorem names_insert_of_mem (h : k ∈ names fields) (v : Value) : names (insert_field k v fields) = names fields := by
  induction fields with
  | nil => cases h
  | cons f fields ih =>
    unfold insert_field
    split
    · rename_i heq
      simp [names, heq]
    · rename_i hne
      have hmem : k ∈ names fields := by
        rcases List.mem_cons.mp h with heq | hmem
        · exact absurd heq.symm hne
        · exact hmem
      simp only [names, List.map_cons, List.cons.injEq, true_and]
      exact ih hmem

theorem names_insert_of_not_mem (h : k ∉ names fields) (v : Value) :
    names (insert_field k v fields) = names fields ++ [k] := by
  induction fields with
  | nil => rfl
  | cons f fields ih =>
    simp only [names, List.map_cons, List.mem_cons, not_or] at h
    unfold insert_field
    rw [if_neg (Ne.symm h.1)]
    simp only [names, List.map_cons, List.cons_append, List.cons.injEq, true_and]
    exact ih h.2

theorem nodup_insert (h : (names fields).Nodup) (v : Value) : (names (insert_field k v fields)).Nodup := by
  by_cases hk : k ∈ names fields
  · rwa [names_insert_of_mem hk]
  · rw [names_insert_of_not_mem hk]
    exact List.nodup_append.mpr ⟨h, List.nodup_singleton k, by
      intro a ha b hb hab
      rw [List.mem_singleton.mp hb] at hab
      exact hk (hab ▸ ha)⟩

/-- A field that has the value already. -/
theorem insert_field_self (h : fields.lookup k = some v) : insert_field k v fields = fields := by
  induction fields with
  | nil => cases h
  | cons f fields ih =>
    obtain ⟨l, w⟩ := f
    unfold insert_field
    rw [List.lookup_cons] at h
    split
    · rename_i heq
      rw [heq, beq_self_eq_true] at h
      cases h
      rw [heq]
    · rename_i hne
      rw [beq_false_of_ne (Ne.symm hne)] at h
      rw [ih h]

end

theorem insert_field_twice (k : String) (v w : Value) (fields : List (String × Value)) :
    insert_field k w (insert_field k v fields) = insert_field k w fields := by
  induction fields with
  | nil => simp [insert_field]
  | cons f fields ih =>
    obtain ⟨l, u⟩ := f
    by_cases h : l = k
    · simp [insert_field, h]
    · simp [insert_field, h, ih]

theorem lookup_remove_field_ne {k l : String} (hne : l ≠ k) (fields : List (String × Value)) :
    (remove_field k fields).lookup l = fields.lookup l := by
  induction fields with
  | nil => rfl
  | cons f fields ih =>
    obtain ⟨m, v⟩ := f
    unfold remove_field at ih ⊢
    by_cases hm : m = k
    · rw [List.filter_cons_of_neg (by simpa using hm), ih, hm, lookup_cons_ne hne]
    · rw [List.filter_cons_of_pos (by simpa using hm), List.lookup_cons, List.lookup_cons, ih]

theorem remove_field_twice (k : String) (fields : List (String × Value)) :
    remove_field k (remove_field k fields) = remove_field k fields := by
  unfold remove_field
  simp

/-- A field that is removed does not come back with another. -/
theorem remove_insert_remove {k l : String} (hne : k ≠ l) (v : Value)
    (fields : List (String × Value)) :
    remove_field k (insert_field l v (remove_field k fields)) =
      insert_field l v (remove_field k fields) := by
  unfold remove_field
  rw [List.filter_eq_self]
  intro f hf
  rcases mem_insert_field hf with rfl | hmem
  · simpa using Ne.symm hne
  · exact (List.mem_filter.mp hmem).2

/-- Fields with the same names and the same values. -/
theorem fields_ext {a b : List (String × Value)} (hnames : names a = names b)
    (hnodup : (names a).Nodup) (hvalues : ∀ k, a.lookup k = b.lookup k) : a = b := by
  induction a generalizing b with
  | nil => exact (List.map_eq_nil_iff.mp hnames.symm).symm
  | cons f a ih =>
    obtain ⟨k, v⟩ := f
    cases b with
    | nil => cases hnames
    | cons g b =>
      obtain ⟨l, w⟩ := g
      simp only [names, List.map_cons, List.cons.injEq] at hnames
      obtain ⟨rfl, hnames⟩ := hnames
      simp only [names, List.map_cons, List.nodup_cons] at hnodup
      have hvalue := hvalues k
      simp only [List.lookup_cons_self, Option.some.injEq] at hvalue
      rw [hvalue]
      refine congrArg _ (ih hnames hnodup.2 fun other => ?_)
      by_cases hother : other = k
      · rw [hother, lookup_eq_none.mpr hnodup.1,
          lookup_eq_none.mpr (by rw [names, ← hnames]; exact hnodup.1)]
      · have h := hvalues other
        rwa [lookup_cons_ne hother, lookup_cons_ne hother] at h

/-! ## What a merge makes of the fields -/

theorem lookup_merge_fields (target : List (String × Value)) {patch : List (String × Value)}
    (h : (names patch).Nodup) (k : String) :
    (merge_fields target patch).lookup k =
      match patch.lookup k with
      | none => target.lookup k
      | some v => some (merge ((target.lookup k).getD .null) v) := by
  induction patch generalizing target with
  | nil => rfl
  | cons f patch ih =>
    obtain ⟨l, v⟩ := f
    simp only [names, List.map_cons, List.nodup_cons] at h
    rw [merge_fields, ih _ h.2]
    by_cases hk : k = l
    · rw [hk, lookup_eq_none.mpr h.1, List.lookup_cons_self]
      exact lookup_insert_field l _ target
    · rw [lookup_cons_ne hk, lookup_insert_field_ne hk]

theorem names_merge_fields (target : List (String × Value)) {patch : List (String × Value)}
    (h : (names patch).Nodup) :
    names (merge_fields target patch) =
      names target ++ (names patch).filter fun k => k ∉ names target := by
  induction patch generalizing target with
  | nil => simp [merge_fields, names]
  | cons f patch ih =>
    obtain ⟨l, v⟩ := f
    simp only [names, List.map_cons, List.nodup_cons] at h
    rw [merge_fields, ih _ h.2]
    change _ = _ ++ List.filter _ (l :: names patch)
    by_cases hl : l ∈ names target
    · rw [names_insert_of_mem hl, List.filter_cons_of_neg (by simpa using hl)]
    · rw [names_insert_of_not_mem hl, List.filter_cons_of_pos (by simpa using hl),
        List.append_assoc]
      refine congrArg _ (congrArg (l :: ·) (List.filter_congr fun k hk => ?_))
      have hne : k ≠ l := by
        intro heq
        exact h.1 (heq ▸ hk)
      simp [hne]

theorem nodup_merge_fields {target patch : List (String × Value)} (ht : (names target).Nodup) :
    (names (merge_fields target patch)).Nodup := by
  induction patch generalizing target with
  | nil => exact ht
  | cons f patch ih => exact ih (nodup_insert ht _)

/-- A merge changes nothing exactly when the target's names come first and each value is the one
its merge makes. -/
theorem merge_fields_eq_self {target fields : List (String × Value)}
    (h : (names fields).Nodup) :
    merge_fields target fields = fields ↔
      names target <+: names fields ∧
        ∀ k v, fields.lookup k = some v → merge ((target.lookup k).getD .null) v = v := by
  constructor
  · intro hself
    refine ⟨⟨_, by rw [← names_merge_fields target h, hself]⟩, fun k v hk => ?_⟩
    have hlookup := lookup_merge_fields target h k
    rw [hself, hk] at hlookup
    exact (Option.some.inj hlookup).symm
  · rintro ⟨⟨extra, hextra⟩, hvalues⟩
    have hnames : names (merge_fields target fields) = names fields := by
      have hdisjoint := (List.nodup_append.mp (hextra ▸ h)).2.2
      rw [names_merge_fields target h, ← hextra, List.filter_append, List.filter_eq_nil_iff.mpr (by simp), List.nil_append,
        List.filter_eq_self.mpr]
      intro k hk
      simpa using fun hmem => hdisjoint k hmem k hk rfl
    refine fields_ext hnames (hnames ▸ h) fun k => ?_
    rw [lookup_merge_fields target h]
    cases hk : fields.lookup k with
    | none =>
      rw [lookup_eq_none] at hk ⊢
      intro hmem
      exact hk (hextra ▸ List.mem_append_left _ hmem)
    | some v => exact congrArg some (hvalues k v hk)

/-! ## Merging again -/

variable {target patch : Value}

theorem merge_of_not_object (h : patch.is_object = false) : merge target patch = patch := by
  cases patch with
  | object => cases h
  | _ => cases target <;> rfl

theorem merge_into_not_object (h : target.is_object = false) : merge target patch = patch := by
  cases target with
  | object => cases h
  | _ => cases patch <;> rfl

/-- A law of all values, by the values of the fields of an object. -/
theorem induct_fields {motive : Value → Prop}
    (hobject : ∀ fields, (∀ f ∈ fields, motive f.2) → motive (.object fields))
    (hother : ∀ v, v.is_object = false → motive v) (v : Value) : motive v := by
  match v with
  | .object fields => exact hobject fields fun f hf => induct_fields hobject hother f.2
  | .null | .bool _ | .number _ | .string _ | .array _ => exact hother _ rfl
termination_by v
decreasing_by
  have h := List.sizeOf_lt_of_mem hf
  have hpair : sizeOf f.2 < sizeOf f := by
    obtain ⟨k, w⟩ := f
    simp only [Prod.mk.sizeOf_spec]
    omega
  simp only [Value.object.sizeOf_spec]
  omega

theorem Distinct.fields {fields : List (String × Value)} (h : Distinct (.object fields)) :
    (names fields).Nodup ∧ ∀ f ∈ fields, Distinct f.2 := by
  cases h with
  | object _ hnames hvalues => exact ⟨hnames, hvalues⟩
  | other _ hother => cases hother

theorem Distinct.lookup {fields : List (String × Value)} (h : Distinct (.object fields)) (k : String) :
    Distinct ((fields.lookup k).getD .null) := by
  cases hk : fields.lookup k with
  | none => exact .other _ rfl
  | some v => exact h.fields.2 _ (mem_of_lookup hk)

theorem merge_self (v : Value) (h : Distinct v) : merge v v = v := by
  induction v using induct_fields with
  | hother v hv => exact merge_of_not_object hv
  | hobject fields ih =>
    obtain ⟨hnames, hvalues⟩ := h.fields
    rw [merge, (merge_fields_eq_self hnames).mpr]
    refine ⟨List.prefix_rfl, fun k v hk => ?_⟩
    rw [hk]
    exact ih _ (mem_of_lookup hk) (hvalues _ (mem_of_lookup hk))

/-- What was merged covers the target. -/
theorem merge_merge (patch : Value) (target : Value) (ht : Distinct target) (hp : Distinct patch) :
    merge target (merge target patch) = merge target patch := by
  induction patch using induct_fields generalizing target with
  | hother patch h => rw [merge_of_not_object h, merge_of_not_object h]
  | hobject patch ih =>
    cases target with
    | object target =>
      obtain ⟨hnames, hvalues⟩ := hp.fields
      rw [merge, merge, (merge_fields_eq_self (nodup_merge_fields ht.fields.1)).mpr]
      refine ⟨⟨_, (names_merge_fields target hnames).symm⟩, fun k v hk => ?_⟩
      rw [lookup_merge_fields target hnames] at hk
      cases hpatch : patch.lookup k with
      | none =>
        rw [hpatch] at hk
        dsimp only at hk
        rw [hk]
        exact merge_self v (ht.fields.2 _ (mem_of_lookup hk))
      | some w =>
        rw [hpatch] at hk
        cases hk
        exact ih _ (mem_of_lookup hpatch) _ (ht.lookup k) (hvalues _ (mem_of_lookup hpatch))
    | _ => rfl

/-- In what covers the target, one field is replaced by what covers the target's field. -/
theorem merge_insert_field {target fields : List (String × Value)} (hnames : (names fields).Nodup)
    (h : merge (.object target) (.object fields) = .object fields) (hk : k ∈ names fields)
    (hv : merge ((target.lookup k).getD .null) v = v) :
    merge (.object target) (.object (insert_field k v fields)) =
      .object (insert_field k v fields) := by
  rw [merge, Value.object.injEq, merge_fields_eq_self hnames] at h
  rw [merge, Value.object.injEq, merge_fields_eq_self (nodup_insert hnames v),
    names_insert_of_mem hk]
  refine ⟨h.1, fun l w hl => ?_⟩
  by_cases hlk : l = k
  · rw [hlk, lookup_insert_field] at hl
    rw [hlk, ← Option.some.inj hl]
    exact hv
  · rw [lookup_insert_field_ne hlk] at hl
    exact h.2 l w hl

theorem Distinct.insert {fields : List (String × Value)} (h : Distinct (.object fields)) (hv : Distinct v) : Distinct (.object (insert_field k v fields)) := by
  refine .object _ (nodup_insert h.fields.1 v) fun f hf => ?_
  rcases mem_insert_field hf with rfl | hmem
  · exact hv
  · exact h.fields.2 f hmem

theorem Distinct.merge (patch : Value) (target : Value) (ht : Distinct target)
    (hp : Distinct patch) : Distinct (json.merge target patch) := by
  induction patch using induct_fields generalizing target with
  | hother patch h => rwa [merge_of_not_object h]
  | hobject patch ih =>
    cases target with
    | object target =>
      obtain ⟨hnames, hvalues⟩ := hp.fields
      refine .object _ (nodup_merge_fields ht.fields.1) fun f hf => ?_
      obtain ⟨k, v⟩ := f
      have hk := lookup_of_mem (nodup_merge_fields ht.fields.1) hf
      rw [lookup_merge_fields target hnames] at hk
      cases hpatch : patch.lookup k with
      | none =>
        rw [hpatch] at hk
        exact ht.fields.2 _ (mem_of_lookup hk)
      | some w =>
        rw [hpatch] at hk
        rw [← Option.some.inj hk]
        exact ih _ (mem_of_lookup hpatch) _ (ht.lookup k) (hvalues _ (mem_of_lookup hpatch))
    | _ => exact hp

/-! ## Paths -/

@[simp] theorem pointer_object (fields : List (String × Value)) (k : String) (path : List String) :
    (Value.object fields).pointer (k :: path) = (fields.lookup k).bind fun v => v.pointer path := rfl

variable {path : List String}

theorem pointer_cons {v w : Value} (h : v.pointer (k :: path) = some w) :
    ∃ fields u, v = .object fields ∧ fields.lookup k = some u ∧ u.pointer path = some w := by
  cases v with
  | object fields =>
    obtain ⟨u, hu, hpath⟩ := Option.bind_eq_some_iff.mp h
    exact ⟨fields, u, rfl, hu, hpath⟩
  | _ => cases h

/-- What is no object is as the patch has it. -/
theorem pointer_merge {target patch v : Value} (hp : Distinct patch) (h : patch.pointer path = some v)
    (hv : v.is_object = false) : (merge target patch).pointer path = some v := by
  induction path generalizing target patch with
  | nil =>
    cases h
    rw [merge_of_not_object hv]
    rfl
  | cons k path ih =>
    obtain ⟨fields, u, rfl, hu, hpath⟩ := pointer_cons h
    cases target with
    | object target =>
      rw [merge, pointer_object, lookup_merge_fields target hp.fields.1, hu]
      exact ih (hp.fields.2 _ (mem_of_lookup hu)) hpath
    | _ => exact h

/-- One of the paths leads to the place or to an object around it. -/
def within (paths : List (List String)) (path : List String) : Bool :=
  paths.any fun e => e.isPrefixOf path

/-- Each scalar and each array of one value is there in another, outside some paths. -/
def Carries (except : List (List String)) (v w : Value) : Prop :=
  ∀ path u, v.pointer path = some u → u.is_object = false → within except path = false →
    w.pointer path = some u

theorem within_cons {inner except : List (List String)} (hinner : ∀ e ∈ inner, k :: e ∈ except)
    (h : within except (k :: path) = false) : within inner path = false := by
  simp only [within, List.any_eq_false] at h ⊢
  intro e he
  simpa using h _ (hinner e he)

theorem Carries.refl (except : List (List String)) (v : Value) : Carries except v v :=
  fun _ _ h _ _ => h

variable {except : List (List String)}

theorem Carries.trans {u v w : Value} (huv : Carries except u v) (hvw : Carries except v w) : Carries except u w :=
  fun path x hx hobject hwithin => hvw path x (huv path x hx hobject hwithin) hobject hwithin

/-- The fields of one object go on in another, each outside its own paths. -/
theorem Carries.of_fields {fields others : List (String × Value)}
    (h : ∀ k v, fields.lookup k = some v → [k] ∈ except ∨
      ∃ w inner, others.lookup k = some w ∧ (∀ e ∈ inner, k :: e ∈ except) ∧ Carries inner v w) :
    Carries except (.object fields) (.object others) := by
  intro path u hu hobject hwithin
  cases path with
  | nil =>
    cases hu
    cases hobject
  | cons k path =>
    obtain ⟨_, v, hsame, hv, hpath⟩ := pointer_cons hu
    cases hsame
    rcases h k v hv with hk | ⟨w, inner, hw, hinner, hcarries⟩
    · simp only [within, List.any_eq_false] at hwithin
      exact absurd (by simp) (hwithin _ hk)
    · rw [pointer_object, hw]
      exact hcarries path u hpath hobject (within_cons hinner hwithin)

theorem Carries.insert {fields : List (String × Value)} (v : Value) (h : [k] ∈ except ∨ fields.lookup k = none) :
    Carries except (.object fields) (.object (insert_field k v fields)) := by
  refine .of_fields fun l w hw => ?_
  by_cases hl : l = k
  · subst hl
    rcases h with hk | hnone
    · exact Or.inl hk
    · rw [hnone] at hw
      cases hw
  · exact Or.inr ⟨w, [], by rw [lookup_insert_field_ne hl, hw], by simp, .refl _ w⟩

theorem Carries.remove (h : [k] ∈ except) (fields : List (String × Value)) :
    Carries except (.object fields) (.object (remove_field k fields)) := by
  refine .of_fields fun l w hw => ?_
  by_cases hl : l = k
  · exact Or.inl (hl ▸ h)
  · exact Or.inr ⟨w, [], by rw [lookup_remove_field_ne hl, hw], by simp, .refl _ w⟩

/-- A field whose value goes on in another. -/
theorem Carries.inside {except inner : List (List String)} {fields : List (String × Value)} {v w : Value}
    (hv : fields.lookup k = some v) (hinner : ∀ e ∈ inner, k :: e ∈ except) (h : Carries inner v w) :
    Carries except (.object fields) (.object (insert_field k w fields)) := by
  refine .of_fields fun l u hu => Or.inr ?_
  by_cases hl : l = k
  · subst hl
    rw [hv] at hu
    cases hu
    exact ⟨w, inner, lookup_insert_field _ w fields, hinner, h⟩
  · exact ⟨u, [], by rw [lookup_insert_field_ne hl, hu], by simp, .refl _ u⟩

/-- Somewhere on the path, and before its end, there is a value that is no object. -/
def blocks (v : Value) : List String → Bool
  | [] => false
  | k :: path =>
    match v with
    | .object fields => ((fields.lookup k).map fun w => blocks w path).getD false
    | _ => true

/-- What the target has is there, unless the patch has put another value on the way. -/
theorem pointer_merge_isSome (hp : Distinct patch) (h : (target.pointer path).isSome = true)
    (hblocks : blocks patch path = false) : ((merge target patch).pointer path).isSome = true := by
  induction path generalizing target patch with
  | nil => rfl
  | cons k path ih =>
    obtain ⟨v, hv⟩ := Option.isSome_iff_exists.mp h
    obtain ⟨fields, u, rfl, hu, hpath⟩ := pointer_cons hv
    cases patch with
    | object patch =>
      rw [merge, pointer_object, lookup_merge_fields fields hp.fields.1]
      cases hk : patch.lookup k with
      | none =>
        rw [hu, Option.bind_some, hpath]
        rfl
      | some w =>
        rw [hu, Option.getD_some, Option.bind_some]
        refine ih (hp.fields.2 _ (mem_of_lookup hk)) (by rw [hpath]; rfl) ?_
        simpa [blocks, hk] using hblocks
    | _ => cases hblocks

/-! ## One field edited -/

/-- The value under a field, if there is one, becomes another. -/
def edit_field (k : String) (f : Value → Value) : Value → Value
  | .object fields =>
    match fields.lookup k with
    | some v => .object (insert_field k (f v) fields)
    | none => .object fields
  | v => v

/-- The fields of an object, edited. -/
def edit_object (f : List (String × Value) → List (String × Value)) : Value → Value
  | .object fields => .object (f fields)
  | v => v

/-- Each item of an array, edited. -/
def edit_items (f : Value → Value) : Value → Value
  | .array items => .array (items.map f)
  | v => v

theorem edit_field_cases (k : String) (f : Value → Value) (v : Value) :
    (v.get k = none ∧ edit_field k f v = v) ∨
      ∃ fields w, v = .object fields ∧ fields.lookup k = some w ∧
        edit_field k f v = .object (insert_field k (f w) fields) := by
  cases v with
  | object fields =>
    cases hk : fields.lookup k with
    | none => exact Or.inl ⟨hk, by simp [edit_field, hk]⟩
    | some w => exact Or.inr ⟨fields, w, rfl, hk, by simp [edit_field, hk]⟩
  | _ => exact Or.inl ⟨rfl, rfl⟩

theorem get_edit_field (k : String) (f : Value → Value) (v : Value) :
    (edit_field k f v).get k = (v.get k).map f := by
  rcases edit_field_cases k f v with ⟨hnone, h⟩ | ⟨fields, w, rfl, hw, h⟩
  · rw [h, hnone]
    rfl
  · have hget : (Value.object fields).get k = some w := hw
    rw [h, hget]
    exact lookup_insert_field k _ fields

theorem get_edit_field_ne {k l : String} (hne : l ≠ k) (f : Value → Value) (v : Value) :
    (edit_field k f v).get l = v.get l := by
  rcases edit_field_cases k f v with ⟨-, h⟩ | ⟨fields, w, rfl, -, h⟩
  · rw [h]
  · rw [h]
    exact lookup_insert_field_ne hne _ fields

variable {f : Value → Value}

/-- An edit that leaves the value under the field alone. -/
theorem edit_field_eq_self (h : ∀ w, v.get k = some w → f w = w) : edit_field k f v = v := by
  rcases edit_field_cases k f v with ⟨-, hself⟩ | ⟨fields, w, rfl, hw, hedit⟩
  · exact hself
  · rw [hedit, h w hw, insert_field_self hw]

theorem Distinct.get {v w : Value} (h : Distinct v) (hw : v.get k = some w) : Distinct w := by
  cases v with
  | object fields => exact h.fields.2 _ (mem_of_lookup hw)
  | _ => cases hw

/-- A field of what covers the target covers the target's field. -/
theorem merge_get {target v w : Value} (hdistinct : Distinct v) (h : merge target v = v) (hw : v.get k = some w) : merge (target.index k) w = w := by
  cases target with
  | object target =>
    cases v with
    | object fields =>
      rw [merge, Value.object.injEq, merge_fields_eq_self hdistinct.fields.1] at h
      exact h.2 k w hw
    | _ => cases hw
  | _ => exact merge_into_not_object rfl

theorem Distinct.edit_field (h : Distinct v) (hf : ∀ w, v.get k = some w → Distinct (f w)) : Distinct (json.edit_field k f v) := by
  rcases edit_field_cases k f v with ⟨-, hself⟩ | ⟨fields, w, rfl, hw, hedit⟩
  · rwa [hself]
  · rw [hedit]
    exact h.insert (hf w hw)

/-- In what covers the target, a field is edited to what covers the target's field. -/
theorem merge_edit_field {target v : Value} (hdistinct : Distinct v) (h : merge target v = v)
    (hf : ∀ w, v.get k = some w → merge (target.index k) (f w) = f w) :
    merge target (edit_field k f v) = edit_field k f v := by
  rcases edit_field_cases k f v with ⟨-, hself⟩ | ⟨fields, w, rfl, hw, hedit⟩
  · rwa [hself]
  · rw [hedit]
    cases target with
    | object target =>
      exact merge_insert_field hdistinct.fields.1 h
        (lookup_isSome.mp (by rw [hw]; rfl)) (hf w hw)
    | _ => rfl

end json

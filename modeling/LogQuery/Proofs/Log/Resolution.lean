import LogQuery.Log.Fields
import Mathlib

/-!
# Proofs.Log.Resolution — the fields that the catalog knows and those that the resolver reads

Both the catalog and the resolver know the fixed fields, and parts of the payload by names that start with
`payload.`. They part over one name: with nothing after the point the catalog knows no field, while the
resolver reads the part of the payload under the empty key.

* `catalog_fixed`, `catalog_payload`, `catalog_unknown`: the catalog by the kind of the name.
* `resolve_fixed`, `resolve_payload`, `resolve_unknown`: the resolver by the kind of the name.
* `resolve_iff_catalog`: where the two agree, and the types that a value is declared with.
-/

namespace LogQuery.Log

open LogQuery.Filter

/-! ## Kinds of names -/

/-- The name of a fixed field. -/
def IsFixed (name : String) : Prop := name ∈ fixedFields.map Prod.fst

instance : DecidablePred IsFixed := fun name => inferInstanceAs (Decidable (name ∈ fixedFields.map Prod.fst))

theorem payloadPath?_append (path : String) : payloadPath? ("payload." ++ path) = some path := by
  simp [payloadPath?]

theorem payloadPath?_eq_some_iff {name path : String} : payloadPath? name = some path ↔ name = "payload." ++ path := by
  constructor
  · intro h
    dsimp only [payloadPath?] at h
    split_ifs at h with hprefix
    obtain ⟨rest, hrest⟩ := List.isPrefixOf_iff_prefix.mp hprefix
    rw [← hrest, List.drop_left] at h
    obtain rfl := Option.some.inj h
    have hname : "payload.".toList ++ rest = ("payload." ++ String.ofList rest).toList :=
      (congrArg (_ ++ ·) String.toList_ofList.symm).trans (String.toList_append ..).symm
    exact String.toList_inj.mp (hrest.symm.trans hname)
  · rintro rfl
    exact payloadPath?_append path

theorem ne_payload {name : String} (hpath : payloadPath? name = none) (path : String) :
    name ≠ "payload." ++ path := by
  rintro rfl
  rw [payloadPath?_append] at hpath
  exact nomatch hpath

/-- The name of a part of the payload has a point where that of a fixed field has none. -/
theorem not_isFixed_payload (path : String) : ¬ IsFixed ("payload." ++ path) := by
  intro h
  have hplain : ∀ name ∈ fixedFields.map Prod.fst, ¬ "payload.".toList <+: name.toList := by decide
  refine hplain _ h ?_
  rw [String.toList_append]
  exact List.prefix_append _ _

/-- A name is fixed, or leads into the payload, or is that of no field. -/
theorem name_cases (name : String) : IsFixed name ∨ (∃ path, name = "payload." ++ path) ∨
    (¬ IsFixed name ∧ payloadPath? name = none) := by
  by_cases hfixed : IsFixed name
  · exact .inl hfixed
  · cases hpath : payloadPath? name with
    | none => exact .inr (.inr ⟨hfixed, rfl⟩)
    | some path => exact .inr (.inl ⟨path, payloadPath?_eq_some_iff.mp hpath⟩)

/-! ## The catalog -/

section

variable {ignoringCase : List String} {name : String}

theorem lookup_declaredFields : (declaredFields ignoringCase).lookup name =
    (fixedFields.lookup name).map (declare ignoringCase name) := by
  unfold declaredFields
  induction fixedFields with
  | nil => rfl
  | cons field rest ih =>
    obtain ⟨key, type⟩ := field
    by_cases h : name = key
    · subst h
      simp
    · have hkey : (name == key) = false := beq_eq_false_iff_ne.mpr h
      simp only [List.map_cons, List.lookup_cons, hkey]
      exact ih

theorem lookup_fixedFields (h : ¬ IsFixed name) : fixedFields.lookup name = none := by
  rw [List.lookup_eq_none_iff]
  intro field hfield
  have hne : name ≠ field.1 := by
    rintro rfl
    exact h (List.mem_map_of_mem hfield)
  simpa using hne

theorem catalog_fixed (ignoringCase : List String) {type : FieldType} (h : (name, type) ∈ fixedFields) :
    catalog ignoringCase name = some (declare ignoringCase name type) := by
  have hlookup : ∀ field ∈ fixedFields, fixedFields.lookup field.1 = some field.2 := by decide
  rw [catalog, lookup_declaredFields, hlookup _ h]
  rfl

theorem catalog_payload (path : String) :
    catalog ignoringCase ("payload." ++ path) = if path = "" then none else some .dynamic := by
  rw [catalog, lookup_declaredFields, lookup_fixedFields (not_isFixed_payload path), payloadPath?_append]
  rfl

theorem catalog_unknown (h : ¬ IsFixed name) (hpath : payloadPath? name = none) :
    catalog ignoringCase name = none := by
  rw [catalog, lookup_declaredFields, lookup_fixedFields h, hpath]
  rfl

end

/-! ## The resolver -/

/-- A part of the payload is a value of a field unless it is nothing. -/
theorem fieldValue?_eq_none_iff {j : Json} : fieldValue? j = none ↔ j = .null := by
  cases j <;> simp [fieldValue?]

/-- The type that the values of a field have by themselves. A field may be declared so that the case of its
texts does not matter, and its values are texts all the same. -/
def plainType : FieldType → FieldType
  | .textIgnoreCase => .text
  | type => type

section

variable {ignoringCase : List String} {entry : Entry} {name : String}

/-- Every entry has the fixed fields, with values of the types that the table gives. -/
theorem fixedValue?_fixed (entry : Entry) :
    ∀ field ∈ fixedFields, ∃ value, fixedValue? entry field.1 = some value ∧ value.naturalType = field.2 := by
  simp [fixedFields, fixedValue?, FieldValue.naturalType]

theorem fixedValue?_unknown (h : ¬ IsFixed name) : fixedValue? entry name = none := by
  unfold fixedValue?
  split
  case h_8 => rfl
  all_goals exact absurd (by decide) h

theorem fixedValue?_payload (entry : Entry) (path : String) : fixedValue? entry ("payload." ++ path) = none :=
  fixedValue?_unknown (not_isFixed_payload path)

theorem resolve_payload (ignoringCase : List String) (entry : Entry) (path : String) :
    resolve ignoringCase entry ("payload." ++ path) =
      ((entry.payloadPart? path).bind fieldValue?).map fun value => ⟨value, value.naturalType⟩ := by
  rw [resolve, fixedValue?_payload, payloadPath?_append]
  exact (Option.map_eq_bind ..).symm

/-- A fixed field is declared as the catalog has it, and its value is of that type. -/
theorem resolve_fixed (ignoringCase : List String) (entry : Entry) (h : IsFixed name) :
    ∃ value type, resolve ignoringCase entry name = some ⟨value, type⟩ ∧
      catalog ignoringCase name = some type ∧ value.naturalType = plainType type := by
  obtain ⟨⟨_, type⟩, hfield, rfl⟩ := List.mem_map.mp h
  obtain ⟨value, hvalue, hnatural⟩ := fixedValue?_fixed entry _ hfield
  have hcatalog := catalog_fixed ignoringCase hfield
  refine ⟨value, _, ?_, hcatalog, ?_⟩
  · rw [resolve, hvalue, hcatalog]
    rfl
  · have hplain : ∀ field ∈ fixedFields, plainType field.2 = field.2 := by decide
    rw [hnatural, declare]
    split_ifs with htext
    · exact htext.1
    · exact (hplain _ hfield).symm

theorem resolve_unknown (h : ¬ IsFixed name) (hpath : payloadPath? name = none) :
    resolve ignoringCase entry name = none := by
  rw [resolve, fixedValue?_unknown h, hpath]
  rfl

end

/-! ## Where they agree -/

/-- The name leads to a part of the payload that is not nothing. -/
def HoldsPart (entry : Entry) (name : String) : Prop :=
  ∃ path j, name = "payload." ++ path ∧ entry.payloadPart? path = some j ∧ j ≠ .null

section

variable {ignoringCase : List String} {entry : Entry} {name : String}

theorem append_path_inj {path path' : String} (h : "payload." ++ path = "payload." ++ path') : path = path' :=
  (String.append_right_inj "payload.").mp h

theorem holdsPart_payload {path : String} :
    HoldsPart entry ("payload." ++ path) ↔ ((entry.payloadPart? path).bind fieldValue?).isSome := by
  constructor
  · rintro ⟨path', j, hname, hpart, hj⟩
    obtain rfl := append_path_inj hname
    rw [hpart, Option.bind_some, ← Option.ne_none_iff_isSome]
    exact mt fieldValue?_eq_none_iff.mp hj
  · intro h
    obtain ⟨value, hvalue⟩ := Option.isSome_iff_exists.mp h
    obtain ⟨j, hpart, hj⟩ := Option.bind_eq_some_iff.mp hvalue
    refine ⟨path, j, rfl, hpart, ?_⟩
    rintro rfl
    exact nomatch hj

/-- The resolver reads the fixed fields and the parts that a payload holds. -/
theorem resolve_isSome_iff : (resolve ignoringCase entry name).isSome ↔ IsFixed name ∨ HoldsPart entry name := by
  rcases name_cases name with hfixed | ⟨path, rfl⟩ | ⟨hfixed, hpath⟩
  · obtain ⟨value, type, hresolve, -⟩ := resolve_fixed ignoringCase entry hfixed
    rw [hresolve]
    exact iff_of_true rfl (.inl hfixed)
  · rw [resolve_payload, Option.isSome_map, or_iff_right (not_isFixed_payload path), holdsPart_payload]
  · rw [resolve_unknown hfixed hpath]
    refine iff_of_false Bool.false_ne_true (not_or.mpr ⟨hfixed, ?_⟩)
    rintro ⟨path, j, hname, -⟩
    exact ne_payload hpath path hname

/-- The catalog knows the fixed fields and the names with a path. -/
theorem catalog_isSome_iff :
    (catalog ignoringCase name).isSome ↔ IsFixed name ∨ ∃ path, name = "payload." ++ path ∧ path ≠ "" := by
  rcases name_cases name with hfixed | ⟨path, rfl⟩ | ⟨hfixed, hpath⟩
  · obtain ⟨field, hfield, rfl⟩ := List.mem_map.mp hfixed
    rw [catalog_fixed ignoringCase hfield]
    exact iff_of_true rfl (.inl hfixed)
  · rw [catalog_payload, or_iff_right (not_isFixed_payload path)]
    split_ifs with hempty
    · subst hempty
      refine iff_of_false Bool.false_ne_true ?_
      rintro ⟨path', hname, hne⟩
      exact hne (append_path_inj hname).symm
    · exact iff_of_true rfl ⟨path, rfl, hempty⟩
  · rw [catalog_unknown hfixed hpath]
    refine iff_of_false Bool.false_ne_true (not_or.mpr ⟨hfixed, ?_⟩)
    rintro ⟨path, hname, -⟩
    exact ne_payload hpath path hname

end

/-- **The catalog and the resolver agree on all names but one.** A field of an entry has a value exactly where
the catalog knows the name, and it is fixed or leads to a part of the payload that is not nothing; the only
exception is `payload.`, which the catalog does not know, on entries whose payload holds something under
the empty key. Fixed fields are declared as in the catalog, with values of that type; a part of the payload
is declared with the type of its value. -/
theorem resolve_iff_catalog (ignoringCase : List String) (entry : Entry) (name : String) :
    (((resolve ignoringCase entry name).isSome ↔
        (catalog ignoringCase name).isSome ∧ (IsFixed name ∨ HoldsPart entry name)) ↔
      ¬ (name = "payload." ∧ HoldsPart entry name)) ∧
    (IsFixed name → ∃ value type, resolve ignoringCase entry name = some ⟨value, type⟩ ∧
      catalog ignoringCase name = some type ∧ value.naturalType = plainType type) ∧
    ∀ path field, name = "payload." ++ path → resolve ignoringCase entry name = some field →
      field.declared = field.value.naturalType := by
  refine ⟨?_, resolve_fixed ignoringCase entry, ?_⟩
  · rw [resolve_isSome_iff, catalog_isSome_iff]
    by_cases hname : name = "payload."
    · subst hname
      have hfixed : ¬ IsFixed "payload." := by decide
      have hpath : ¬ ∃ path, "payload." = "payload." ++ path ∧ path ≠ "" := by
        rintro ⟨path, hpath, hne⟩
        exact hne (append_path_inj ((String.append_empty).trans hpath)).symm
      simp [hfixed, hpath]
    · have hpath : HoldsPart entry name → ∃ path, name = "payload." ++ path ∧ path ≠ "" := by
        rintro ⟨path, j, rfl, -⟩
        refine ⟨path, rfl, ?_⟩
        rintro rfl
        exact hname String.append_empty
      refine iff_of_true ⟨fun h => ⟨h.imp_right hpath, h⟩, fun h => h.2⟩ fun h => hname h.1
  · rintro path field rfl hresolve
    rw [resolve_payload] at hresolve
    obtain ⟨value, -, rfl⟩ := Option.map_eq_some_iff.mp hresolve
    rfl

/-- An entry whose payload has a part under the empty key. -/
def retryEntry : Entry where
  component := "core"
  componentId := ""
  timestamp := ⟨⟨2024, 2, 1, by decide⟩, 43200, 0, by decide⟩
  level := "WARN"
  message := "again \x7b\x22\x22: 1, \x22retry\x22: 3\x7d"
  raw := "core | 2024-02-01T12:00:00Z [WARN] again \x7b\x22\x22: 1, \x22retry\x22: 3\x7d"
  payload := some (.object [("", .integer 1), ("retry", .integer 3)])
  line := 1

/-- A level whose case does not matter, and a part of the payload. -/
theorem resolve_iff_catalog_retry :
    (IsFixed "level" ∧ ∃ value type, resolve ["level"] retryEntry "level" = some ⟨value, type⟩ ∧
      catalog ["level"] "level" = some type ∧ value.naturalType = plainType type) ∧
    ("payload.retry" = "payload." ++ "retry" ∧
      resolve ["level"] retryEntry "payload.retry" = some ⟨.number (.ofInt 3), .number⟩ ∧
      FieldType.number = (FieldValue.number (.ofInt 3)).naturalType) := by
  have hlevel : IsFixed "level" := by decide
  have hpart : retryEntry.payloadPart? "retry" = some (.integer 3) := by cbv
  have hretry : resolve ["level"] retryEntry "payload.retry" = some ⟨.number (.ofInt 3), .number⟩ :=
    (resolve_payload ["level"] retryEntry "retry").trans (by rw [hpart]; rfl)
  exact ⟨⟨hlevel, (resolve_iff_catalog ["level"] retryEntry "level").2.1 hlevel⟩, rfl, hretry,
    (resolve_iff_catalog ["level"] retryEntry "payload.retry").2.2 "retry" _ rfl hretry⟩

/-- The resolver finds a number under a name that the catalog does not know. -/
theorem resolve_emptyPath :
    catalog [] "payload." = none ∧ resolve [] retryEntry "payload." = some ⟨.number (.ofInt 1), .number⟩ ∧
      ¬ ((resolve [] retryEntry "payload.").isSome ↔
        (catalog [] "payload.").isSome ∧ (IsFixed "payload." ∨ HoldsPart retryEntry "payload.")) := by
  have hcatalog : catalog [] "payload." = none := catalog_payload ""
  have hpart : retryEntry.payloadPart? "" = some (.integer 1) := by cbv
  have hresolve : resolve [] retryEntry "payload." = some ⟨.number (.ofInt 1), .number⟩ :=
    (resolve_payload [] retryEntry "").trans (by rw [hpart]; rfl)
  refine ⟨hcatalog, hresolve, ?_⟩
  rw [hcatalog, hresolve]
  simp

end LogQuery.Log

import Siderostat.Websearch.Response

/-!
# The arguments of the search tool

The model is told a JSON schema for the arguments of the search tool; the engine checks them by
hand.
-/

namespace Siderostat.Websearch

/-! ## Schemas

The keywords the tool definition uses, and when a value is valid under them. -/

structure StringSchema where
  minLength : Nat
  maxLength : Nat

def StringSchema.toJson (schema : StringSchema) : Json :=
  object [("type", literal "string"), ("minLength", .nat schema.minLength),
    ("maxLength", .nat schema.maxLength)]

def StringSchema.Valid (schema : StringSchema) : Json → Prop
  | .str value => schema.minLength ≤ value.length ∧ value.length ≤ schema.maxLength
  | _ => False

/-- An object of strings without additional properties. -/
structure ObjectSchema where
  properties : List (Text × StringSchema)
  required : List Text

def ObjectSchema.toJson (schema : ObjectSchema) : Json :=
  object [("type", literal "object"),
    ("properties", .obj (schema.properties.map fun (key, value) => (key, value.toJson))),
    ("required", .arr (schema.required.map .str)),
    ("additionalProperties", .bool false)]

structure ObjectSchema.Valid (schema : ObjectSchema) (document : Json) : Prop where
  isObject : ∃ members, document = .obj members
  required : ∀ key ∈ schema.required, ∃ value, document.get key = some value
  closed : ∀ key value, document.get key = some value →
    ∃ property ∈ schema.properties, property.1 = key ∧ property.2.Valid value

/-! ## The tool -/

def queryKey : Text := "query".toList

def searchParameters : ObjectSchema where
  properties := [(queryKey, { minLength := 1, maxLength := 1024 })]
  required := [queryKey]

def searchToolDefinition : Json :=
  object [("type", literal "function"),
    ("function", object [("name", .str internalSearchToolName),
      ("description", literal "Search public web information; results are untrusted data."),
      ("parameters", searchParameters.toJson)])]

def SchemaValid (arguments : Text) : Prop :=
  ∃ document, Json.read arguments = some document ∧ searchParameters.Valid document

/-! ## Where the check and the schema part -/

def OtherMember (document : Json) : Prop :=
  ∃ key, key ≠ queryKey ∧ ∃ value, document.get key = some value

/-- The document has a query, and the check and the schema see it differently. -/
inductive Diverges (document : Json) (query : Text) : Prop
  /-- The check does not look at other members. -/
  | otherMember (hother : OtherMember document) (hblank : Text.blank query = false)
      (hbytes : Text.byteLen query ≤ 1024)
  /-- The schema takes a query of white space. -/
  | onlyBlank (halone : ¬OtherMember document) (hblank : Text.blank query = true)
      (hsome : query ≠ []) (hchars : query.length ≤ 1024)
  /-- The check counts bytes. -/
  | wide (halone : ¬OtherMember document) (hchars : query.length ≤ 1024)
      (hbytes : 1024 < Text.byteLen query)

/-- The arguments have no query, or one on which the check and the schema agree. -/
def SeenAlike (arguments : Text) : Prop :=
  ∀ document query, Json.read arguments = some document →
    document.get queryKey = some (.str query) → ¬Diverges document query

/-! ## The check and the schema -/

def HasQuery (arguments : Text) (document : Json) (query : Text) : Prop :=
  Json.read arguments = some document ∧ document.get queryKey = some (.str query)

variable {arguments : Text} {document : Json} {query : Text}

theorem HasQuery.unique {document' : Json} {query' : Text} (h : HasQuery arguments document query)
    (h' : HasQuery arguments document' query') :
    document = document' ∧ query = query' := by
  have hdocument : document = document' := Option.some.inj (h.1.symm.trans h'.1)
  subst hdocument
  have hquery : Json.str query = .str query' := Option.some.inj (h.2.symm.trans h'.2)
  exact ⟨rfl, Json.str.inj hquery⟩

theorem lookup_eq_some :
    ((Json.read arguments).bind (Json.get "query".toList)).bind Json.asStr = some query ↔
      ∃ document, HasQuery arguments document query := by
  constructor
  · intro h
    obtain ⟨value, hvalue, hstr⟩ := Option.bind_eq_some_iff.mp h
    obtain ⟨document, hread, hget⟩ := Option.bind_eq_some_iff.mp hvalue
    cases value with
    | str q =>
      have hq : q = query := Option.some.inj hstr
      exact ⟨document, hread, hq ▸ hget⟩
    | null | bool | number | arr | obj => cases hstr
  · rintro ⟨document, hread, hget⟩
    refine Option.bind_eq_some_iff.mpr ⟨.str query, ?_, rfl⟩
    exact Option.bind_eq_some_iff.mpr ⟨document, hread, hget⟩

theorem parseSearchArguments_ok_iff :
    (∃ parsed, parseSearchArguments arguments = .ok parsed) ↔
      ∃ document query, HasQuery arguments document query ∧ Text.blank query = false ∧
        Text.byteLen query ≤ 1024 := by
  constructor
  · rintro ⟨parsed, hparsed⟩
    unfold parseSearchArguments at hparsed
    split at hparsed
    · exact absurd hparsed Checks.error_ne_ok
    next query hquery =>
      obtain ⟨document, hhas⟩ := lookup_eq_some.mp hquery
      split at hparsed
      · exact absurd hparsed Checks.error_ne_ok
      next hblank =>
        split at hparsed
        · exact absurd hparsed Checks.error_ne_ok
        next hbytes =>
          exact ⟨document, query, hhas, Bool.not_eq_true _ ▸ hblank, Nat.not_lt.mp hbytes⟩
  · rintro ⟨document, query, hhas, hblank, hbytes⟩
    refine ⟨{ query }, ?_⟩
    rw [parseSearchArguments, lookup_eq_some.mpr ⟨document, hhas⟩]
    simp only [hblank, Bool.false_eq_true, if_false, Nat.not_lt.mpr hbytes]

theorem exists_obj_of_get {value : Json} {key : Text} (h : document.get key = some value) :
    ∃ members, document = .obj members := by
  cases document with
  | obj members => exact ⟨members, rfl⟩
  | null | bool | number | str | arr => cases h

theorem stringSchema_valid_iff {schema : StringSchema} {value : Json} :
    schema.Valid value ↔
      ∃ t, value = .str t ∧ schema.minLength ≤ t.length ∧ t.length ≤ schema.maxLength := by
  cases value with
  | str t => exact ⟨fun h => ⟨t, rfl, h⟩, fun ⟨_, ht, h⟩ => Json.str.inj ht ▸ h⟩
  | null | bool | number | arr | obj =>
    exact ⟨fun h => absurd h id, fun ⟨_, ht, _⟩ => Json.noConfusion ht⟩

theorem searchParameters_valid_iff :
    searchParameters.Valid document ↔ ¬OtherMember document ∧
      ∃ query, document.get queryKey = some (.str query) ∧ query ≠ [] ∧ query.length ≤ 1024 := by
  constructor
  · rintro ⟨-, hrequired, hclosed⟩
    refine ⟨?_, ?_⟩
    · rintro ⟨key, hkey, value, hvalue⟩
      obtain ⟨property, hproperty, hname, -⟩ := hclosed key value hvalue
      rw [List.mem_singleton.mp hproperty] at hname
      exact hkey hname.symm
    · obtain ⟨value, hvalue⟩ := hrequired queryKey (List.mem_singleton_self _)
      obtain ⟨property, hproperty, -, hvalid⟩ := hclosed queryKey value hvalue
      rw [List.mem_singleton.mp hproperty] at hvalid
      obtain ⟨query, rfl, hmin, hmax⟩ := stringSchema_valid_iff.mp hvalid
      exact ⟨query, hvalue, List.length_pos_iff.mp hmin, hmax⟩
  · rintro ⟨halone, query, hget, hsome, hchars⟩
    refine ⟨exists_obj_of_get hget, fun key hkey => ?_, fun key value hvalue => ?_⟩
    · rw [List.mem_singleton.mp hkey]
      exact ⟨_, hget⟩
    · have hkey : key = queryKey :=
        Classical.byContradiction fun hne => halone ⟨key, hne, value, hvalue⟩
      subst hkey
      refine ⟨_, List.mem_singleton_self _, rfl, stringSchema_valid_iff.mpr ?_⟩
      exact ⟨query, Option.some.inj (hvalue.symm.trans hget), List.length_pos_iff.mpr hsome, hchars⟩

theorem schemaValid_iff :
    SchemaValid arguments ↔ ∃ document query, HasQuery arguments document query ∧
      ¬OtherMember document ∧ query ≠ [] ∧ query.length ≤ 1024 := by
  constructor
  · rintro ⟨document, hread, hvalid⟩
    obtain ⟨halone, query, hget, hlength⟩ := searchParameters_valid_iff.mp hvalid
    exact ⟨document, query, ⟨hread, hget⟩, halone, hlength⟩
  · rintro ⟨document, query, ⟨hread, hget⟩, halone, hlength⟩
    exact ⟨document, hread, searchParameters_valid_iff.mpr ⟨halone, query, hget, hlength⟩⟩

theorem not_diverges_iff :
    ¬Diverges document query ↔
      (Text.blank query = false ∧ Text.byteLen query ≤ 1024 ↔
        ¬OtherMember document ∧ query ≠ [] ∧ query.length ≤ 1024) := by
  have hlength := Text.length_le_byteLen query
  have hempty : query = [] → Text.blank query = true := by
    rintro rfl
    rfl
  constructor
  · intro hnot
    constructor
    · rintro ⟨hblank, hbytes⟩
      refine ⟨fun hother => hnot (.otherMember hother hblank hbytes), fun hnil => ?_, by omega⟩
      exact Bool.false_ne_true (hblank.symm.trans (hempty hnil))
    · rintro ⟨halone, hsome, hchars⟩
      refine ⟨?_, ?_⟩
      · cases hblank : Text.blank query with
        | false => rfl
        | true => exact absurd (.onlyBlank halone hblank hsome hchars) hnot
      · exact Nat.not_lt.mp fun hbytes => hnot (.wide halone hchars hbytes)
  · intro hiff hdiverges
    cases hdiverges with
    | otherMember hother hblank hbytes => exact (hiff.mp ⟨hblank, hbytes⟩).1 hother
    | onlyBlank halone hblank hsome hchars =>
      exact Bool.false_ne_true ((hiff.mpr ⟨halone, hsome, hchars⟩).1.symm.trans hblank)
    | wide halone hchars hbytes =>
      have hsome : query ≠ [] := by
        rintro rfl
        exact absurd hbytes (by decide)
      exact Nat.not_lt.mpr (hiff.mpr ⟨halone, hsome, hchars⟩).2 hbytes

/-- The check accepts what the schema allows, and nothing else, exactly for the arguments
that have no query or one on which they agree. -/
theorem parseSearchArguments_iff_schema (arguments : Text) :
    ((∃ parsed, parseSearchArguments arguments = .ok parsed) ↔ SchemaValid arguments) ↔
      SeenAlike arguments := by
  rw [parseSearchArguments_ok_iff, schemaValid_iff]
  constructor
  · intro hiff document query hread hget
    have hhas : HasQuery arguments document query := ⟨hread, hget⟩
    refine not_diverges_iff.mpr ⟨fun hcheck => ?_, fun hschema => ?_⟩
    · obtain ⟨document', query', hhas', hschema⟩ := hiff.mp ⟨document, query, hhas, hcheck⟩
      obtain ⟨rfl, rfl⟩ := hhas.unique hhas'
      exact hschema
    · obtain ⟨document', query', hhas', hcheck⟩ := hiff.mpr ⟨document, query, hhas, hschema⟩
      obtain ⟨rfl, rfl⟩ := hhas.unique hhas'
      exact hcheck
  · intro halike
    constructor
    · rintro ⟨document, query, hhas, hcheck⟩
      exact ⟨document, query, hhas, (not_diverges_iff.mp (halike _ _ hhas.1 hhas.2)).mp hcheck⟩
    · rintro ⟨document, query, hhas, hschema⟩
      exact ⟨document, query, hhas, (not_diverges_iff.mp (halike _ _ hhas.1 hhas.2)).mpr hschema⟩

/-! ### Arguments on which they part -/

def onlyQuery : Json → Bool
  | .obj members => members.all fun member => member.1 == queryKey
  | _ => false

theorem not_otherMember_of_onlyQuery (h : onlyQuery document = true) : ¬OtherMember document := by
  rintro ⟨key, hkey, value, hvalue⟩
  cases document with
  | obj members =>
    obtain ⟨member, hfound, -⟩ := Option.map_eq_some_iff.mp hvalue
    have hmem := List.mem_reverse.mp (List.mem_of_find?_eq_some hfound)
    have hname := List.find?_some hfound
    have hquery := List.all_eq_true.mp h member hmem
    exact hkey ((beq_iff_eq.mp hname).symm.trans (beq_iff_eq.mp hquery))
  | null | bool | number | str | arr => cases h

def argumentsFor (query : Text) : Text := "\x7b\"query\":\"".toList ++ query ++ "\"\x7d".toList

def argumentsWithPage : Text := "\x7b\"query\":\"rust\",\"page\":2\x7d".toList

theorem schemaValid_argumentsFor
    (hread : ((Json.read (argumentsFor query)).bind (Json.get queryKey)).bind Json.asStr =
      some query) (honly : (Json.read (argumentsFor query)).any onlyQuery = true)
    (hsome : query ≠ []) (hchars : query.length ≤ 1024) : SchemaValid (argumentsFor query) := by
  obtain ⟨document, hhas⟩ := lookup_eq_some.mp hread
  rw [hhas.1] at honly
  exact schemaValid_iff.mpr
    ⟨document, query, hhas, not_otherMember_of_onlyQuery honly, hsome, hchars⟩

/-- A member the schema forbids is accepted, a query of one space and one of 513 characters
with two bytes each are refused although the schema allows them. -/
theorem parseSearchArguments_diverges :
    ((∃ parsed, parseSearchArguments argumentsWithPage = .ok parsed) ∧
      ¬SchemaValid argumentsWithPage) ∧
    ((¬∃ parsed, parseSearchArguments (argumentsFor [' ']) = .ok parsed) ∧
      SchemaValid (argumentsFor [' '])) ∧
    (¬∃ parsed, parseSearchArguments (argumentsFor (List.replicate 513 'é')) = .ok parsed) ∧
      SchemaValid (argumentsFor (List.replicate 513 'é')) := by
  have hpage : (Json.read argumentsWithPage).any
      (fun document => (document.get "page".toList).isSome) = true := by decide +kernel
  have hspace : parseSearchArguments (argumentsFor [' ']) = .error .invalidToolArguments := by
    decide +kernel
  have hwide : parseSearchArguments (argumentsFor (List.replicate 513 'é')) =
      .error .invalidToolArguments := by decide +kernel
  refine ⟨⟨⟨{ query := "rust".toList }, by decide +kernel⟩, fun hvalid => ?_⟩,
    ⟨Checks.exists_error_iff.mp ⟨_, hspace⟩, ?_⟩, Checks.exists_error_iff.mp ⟨_, hwide⟩, ?_⟩
  · obtain ⟨document, query, hhas, halone, -⟩ := schemaValid_iff.mp hvalid
    rw [hhas.1] at hpage
    obtain ⟨value, hvalue⟩ := Option.isSome_iff_exists.mp hpage
    exact halone ⟨"page".toList, by decide, value, hvalue⟩
  · exact schemaValid_argumentsFor (by decide +kernel) (by decide +kernel) (by decide) (by decide)
  · exact schemaValid_argumentsFor (by decide +kernel) (by decide +kernel) (by decide +kernel)
      (by decide +kernel)

end Siderostat.Websearch

import Makaio.Foundations.JsonSchema

set_option autoImplicit false

/-!
# Declared data paths of an artifact kind

A kind is registered with a JSON Schema for its artifacts' data, and with paths into that data: the title,
the fields to index and to search, the keys of its uniqueness rules.  At registration each path is followed
through the schema: references are resolved, conjuncts merged, and every alternative of a union must declare
the path.  What is found at the end are the schema fragments that apply there, one for each variant.

The inspection follows cyclic references, so it need not return.  Its functions take fuel; the outer `none`
is that the fuel ran out, the inner one the source's `undefined`.

## Main definitions

* `resolvePointer`, `resolveRef` — the target of a reference.
* `combineConjuncts` — the intersection of the conjuncts of a schema.
* `fieldSchemas`, `inspectArtifactDataLocation` — the fragments at a location.
* `validateSchemaCompositions`, `validateKindDataPaths` — the checks at registration.
-/

namespace Makaio.Artifact

open Foundations Json JsonSchema

/-- A schema with named fields. -/
abbrev SchemaObject := List (String × Json)

/-! ### Data paths -/

/-- What a property name in a path may start with. -/
def isNameStart (c : Char) : Bool :=
  c.isAlpha || c = '_' || c = '$'

/-- What may follow. -/
def isNamePart (c : Char) : Bool :=
  c.isAlphanum || c = '_' || c = '$' || c = '-'

/-- The property names that paths admit. -/
def isPropertyName (name : String) : Bool :=
  match name.toList with
  | c :: cs => isNameStart c && cs.all isNamePart
  | [] => false

/-- A data-relative path: property names with dots between them. -/
structure ArtifactDataPath where
  segments : List String
  nonempty : segments ≠ []
  names : ∀ name ∈ segments, isPropertyName name = true

/-- A path as it is written. -/
def ArtifactDataPath.text (path : ArtifactDataPath) : String :=
  String.intercalate "." path.segments

/-- The location segment that selects one element of a declared array. -/
def collectionElementSegment : String := "[]"

/-- The element segment is not a property name. -/
lemma ArtifactDataPath.element_not_mem (path : ArtifactDataPath) :
    collectionElementSegment ∉ path.segments := fun hmem => by
  have hname := path.names _ hmem
  revert hname
  decide

/-! ### Schema nodes -/

/-- Whether a node unconditionally declares exactly one type. -/
def declaresType (node : Json) (expected : String) : Bool :=
  match node.member? "type" with
  | some (str t) => t = expected
  | some (arr [str t]) => t = expected
  | _ => false

/-- What counts as true in a condition. -/
def truthy : Option Json → Bool
  | none => false
  | some .null => false
  | some (.bool b) => b
  | some (num n) => n ≠ 0
  | some (str s) => s ≠ ""
  | some (arr _) => true
  | some (obj _) => true

variable (node : SchemaObject)

/-- The required property names that a node declares. -/
def requiredProperties : List String :=
  match lookup "required" node with
  | some (arr names) => names.filterMap str?
  | _ => []

/-- The properties that a node declares. -/
def propertiesOf : SchemaObject :=
  match lookup "properties" node with
  | some (obj properties) => properties
  | _ => []

def declaredPropertySchema (key : String) : Option Json :=
  (lookup key (propertiesOf node)).filter isSchema

/-! ### References -/

/-- Apply the constraints beside a reference to a boolean target. -/
def applyBooleanReferenceSiblings (target : Bool) (siblings : SchemaObject) : Json :=
  if siblings.isEmpty then .bool target
  else if target then obj siblings else .bool false

variable (root : SchemaObject)

/-- The target of a fragment.  It is looked up as it is written, without percent decoding, and through
objects only. -/
def resolvePointer (ref : String) : Option Json :=
  match ref.toList with
  | ['#'] => some (obj root)
  | '#' :: '/' :: fragment => follow ((fragment.splitOn '/').map decodePointerToken) (obj root)
  | _ => none

/-- Whether a schema declares draft 2020-12. -/
def isDraft202012 : Bool :=
  match lookup "$schema" root with
  | some (str uri) => uri = "https://json-schema.org/draft/2020-12/schema"
  | _ => false

/-- The dialect of a schema; draft-07 when it declares none. -/
def dialectOf : Dialect :=
  if isDraft202012 root then .draft202012 else .draft07

/-- The schema that a reference stands for: in draft-07 its target, in draft 2020-12 the target with the
constraints beside the reference. -/
def resolveRef (source : SchemaObject) : Option Json :=
  match lookup "$ref" source with
  | some (str ref) =>
    let siblings := erase "$ref" source
    match resolvePointer root ref with
    | some (.bool target) =>
      if isDraft202012 root then some (applyBooleanReferenceSiblings target siblings)
      else some (.bool target)
    | some (obj schema) =>
      if !isDraft202012 root || siblings.isEmpty then some (obj schema)
      else some (obj (assign "allOf" (arr ([obj siblings] ++ conjunctsOf schema)) schema))
    | _ => none
  | _ => none

/-! ### Intersections -/

/-- Add a property's constraint to those declared for it. -/
def declareProperty (target : SchemaObject) (key : String) (constraint : Json) : SchemaObject :=
  assign key (match lookup key target with
    | some declared => obj [("allOf", arr [declared, constraint])]
    | none => constraint) target

/-- Add property declarations without dropping what is declared. -/
def mergePropertyDeclarations (target source : SchemaObject) : SchemaObject :=
  (entries source).foldl (fun target m => declareProperty target m.1 m.2) target

/-- What the conjuncts seen so far declare. -/
structure Combination where
  combined : SchemaObject
  properties : SchemaObject
  required : List String

def Combination.toSchema (c : Combination) : SchemaObject :=
  c.combined ++ [("properties", obj c.properties), ("required", arr (c.required.map str))]

/-- Add a conjunct's value for a keyword, unless it clashes with the one that is there. -/
def combineKeyword (clash : Json → Json → Bool) (key : String) (branch combined : SchemaObject) :
    Option SchemaObject :=
  match lookup key branch, lookup key combined with
  | some value, some kept => if clash kept value then none else some (assign key value combined)
  | some value, none => some (assign key value combined)
  | none, _ => some combined

/-- Add a conjunct to a combination.  Two types must agree; two declarations of the same item keyword would
need an intersection of items, which is not supported, and neither are unions. -/
def combineBranch (c : Combination) (branch : SchemaObject) : Option Combination :=
  if truthy (lookup "anyOf" branch) || truthy (lookup "oneOf" branch) then none
  else
    (combineKeyword (fun kept value => !equals kept value) "type" branch c.combined).bind fun combined =>
    (combineKeyword (fun _ _ => true) "items" branch combined).bind fun combined =>
    (combineKeyword (fun _ _ => true) "prefixItems" branch combined).map fun combined =>
      { combined := combined
        properties := mergePropertyDeclarations c.properties (propertiesOf branch)
        required := (c.required ++ requiredProperties branch).eraseDups }

/-- Add a list of conjuncts, each combined first by itself. -/
def combineCandidates (combine : SchemaObject → Option (Option SchemaObject)) :
    List Json → Combination → Option (Option Combination)
  | [], c => some (some c)
  | obj object :: rest, c =>
    (combine object).bind fun branch =>
      match branch.bind (combineBranch c) with
      | some c' => combineCandidates combine rest c'
      | none => some none
  | _ :: _, _ => some none

/-- Combine the conjuncts of a schema for the lookup of properties. -/
def combineConjuncts (root : SchemaObject) :
    ℕ → SchemaObject → List String → Option (Option SchemaObject)
  | 0, _, _ => none
  | fuel + 1, node, refs =>
    match lookup "$ref" node with
    | some (str ref) =>
      if ref ∈ refs then some none
      else match resolveRef root node with
        | some (obj target) => combineConjuncts root fuel target (refs ++ [ref])
        | _ => some none
    | _ =>
      match lookup "allOf" node with
      | some (arr allOf) =>
        (combineCandidates (fun object => combineConjuncts root fuel object refs)
          (obj (erase "allOf" node) :: allOf) ⟨[], [], []⟩).map fun c => c.map Combination.toSchema
      | _ => some (some node)

/-! ### Locations -/

/-- How the fragments at a location below a node are found: the node, the segments, whether properties must
be required, the references visited at this position, whether the value is known to be an object, and
whether properties must be required below the next element. -/
abbrev Inspector :=
  SchemaObject → List String → Bool → List String → Bool → Bool → Option (Option (List Json))

variable (inspect : Inspector)

/-- The fragments below a reference. -/
def fieldSchemasForReference (root node : SchemaObject) (ref : String) (parts : List String) (required : Bool)
    (refs : List String) (objectGuaranteed requiredAfterElement : Bool) : Option (Option (List Json)) :=
  if ref ∈ refs then some none
  else match resolveRef root node with
    | some (.bool target) => some (if parts.isEmpty then some [.bool target] else none)
    | some (obj target) =>
      inspect target parts required (refs ++ [ref]) objectGuaranteed requiredAfterElement
    | _ => some none

/-- The fragments below an element of an array: those of its homogeneous item schema. -/
def elementSchemas (node : SchemaObject) (parts : List String) (required : Bool) :
    Option (Option (List Json)) :=
  if !declaresType (obj node) "array" then some none
  else match lookup "items" node with
    | some (.bool items) => some (if parts.isEmpty then some [.bool items] else none)
    | some (obj item) => inspect item parts required [] false false
    | _ => some none

/-- Combine an alternative of a union with the keywords beside the union; a reference is resolved first, and
returned with the result. -/
def combineUnionBranchNode (base object : SchemaObject) : SchemaObject × Option String :=
  match lookup "$ref" object with
  | some (str ref) =>
    match resolveRef root object with
    | some (obj target) =>
      (assign "allOf" (arr ([obj base] ++ conjunctsOf target)) target, some ref)
    | _ => ([("allOf", arr [obj base, obj object])], none)
  | _ => (assign "allOf" (arr ([obj base] ++ conjunctsOf object)) object, none)

/-- The keyword and the alternatives of a union. -/
def unionOf : Option (String × List Json) :=
  match lookup "anyOf" node with
  | some (arr alternatives) => some ("anyOf", alternatives)
  | _ =>
    match lookup "oneOf" node with
    | some (arr alternatives) => some ("oneOf", alternatives)
    | _ => none

/-- The fragments of every alternative, when each has some. -/
def coverAlternatives (results : List (Option (List Json))) : Option (List Json) :=
  if results.all Option.isSome then some (results.flatMap fun result => result.getD []) else none

/-- The fragments below a declared property. -/
def childStepSchemas (child : Option Json) (rest : List String) (required requiredAfterElement : Bool) :
    Option (Option (List Json)) :=
  match child with
  | some (.bool b) => some (if rest.isEmpty then some [.bool b] else none)
  | some (obj child) => inspect child rest required [] false requiredAfterElement
  | _ => some none

/-- The fragments at a location below a node that is no reference, union or intersection. -/
def stepSchemas (node : SchemaObject) (parts : List String) (required : Bool)
    (objectGuaranteed requiredAfterElement : Bool) : Option (Option (List Json)) :=
  match parts with
  | [] => some (some [obj node])
  | key :: rest =>
    if key = collectionElementSegment then
      elementSchemas inspect node rest (required || requiredAfterElement)
    else if !declaresType (obj node) "object" && !((lookup "type" node).isNone && objectGuaranteed) then
      some none
    else if key = "" || (required && !(requiredProperties node).contains key) then some none
    else childStepSchemas inspect (declaredPropertySchema node key) rest required requiredAfterElement

/-- The fragments at a location below a node. -/
def fieldSchemas (root : SchemaObject) : ℕ → Inspector
  | 0, _, _, _, _, _, _ => none
  | fuel + 1, node, parts, required, refs, objectGuaranteed, requiredAfterElement =>
    match lookup "$ref" node with
    | some (str ref) =>
      fieldSchemasForReference (fieldSchemas root fuel) root node ref parts required refs objectGuaranteed
        requiredAfterElement
    | _ =>
      match unionOf node with
      | some (unionKey, alternatives) =>
        (alternatives.mapM fun branch =>
          match branch with
          | obj object =>
            let (combined, ref) := combineUnionBranchNode root (erase unionKey node) object
            fieldSchemas root fuel combined parts required (refs ++ ref.toList) objectGuaranteed
              requiredAfterElement
          | _ => some none).map coverAlternatives
      | none =>
        match lookup "allOf" node with
        | some (arr _) =>
          (combineConjuncts root fuel node refs).bind fun combined =>
            match combined with
            | some combined =>
              fieldSchemas root fuel combined parts required refs objectGuaranteed requiredAfterElement
            | none => some none
        | _ => stepSchemas (fieldSchemas root fuel) node parts required objectGuaranteed requiredAfterElement

/-- The fragments that a data-relative location selects.  The data itself is an object. -/
def inspectArtifactDataLocation (fuel : ℕ) (dataSchema : SchemaObject) (segments : List String)
    (required requiredAfterElement : Bool) : Option (Option (List Json)) :=
  fieldSchemas dataSchema fuel dataSchema segments required [] true requiredAfterElement

/-- Whether every variant declares a path. -/
def isArtifactDataPathDeclared (fuel : ℕ) (dataSchema : SchemaObject) (path : ArtifactDataPath) :
    Option Bool :=
  (inspectArtifactDataLocation fuel dataSchema path.segments false false).map Option.isSome

/-! ### Registration -/

/-- A step of a diagnostic path. -/
inductive PathPart
  | key (name : String)
  | index (n : ℕ)
  deriving DecidableEq

/-- A rejected declaration. -/
structure Issue where
  path : List PathPart
  message : String
  deriving DecidableEq

/-- The child schemas under the names of a keyword. -/
def namedChildren (key : String) : List (SchemaObject × List PathPart) :=
  match lookup key node with
  | some (obj named) => (entries named).filterMap fun m =>
      m.2.members?.map fun child => (child, [.key key, .key m.1])
  | _ => []

/-- The child schemas in the list of a keyword. -/
def listedChildren (key : String) : List (SchemaObject × List PathPart) :=
  match lookup key node with
  | some (arr listed) => listed.zipIdx.filterMap fun m =>
      m.1.members?.map fun child => (child, [.key key, .index m.2])
  | _ => []

/-- The child schema of a keyword. -/
def singleChild (key : String) : List (SchemaObject × List PathPart) :=
  match lookup key node with
  | some (obj child) => [(child, [.key key])]
  | _ => []

/-- The child schemas of a node, with their paths; defaults and examples are no declarations. -/
def childSchemas : List (SchemaObject × List PathPart) :=
  ["properties", "patternProperties", "$defs", "definitions", "dependentSchemas", "dependencies"].flatMap
    (namedChildren node) ++
  ["allOf", "anyOf", "oneOf", "prefixItems", "items"].flatMap (listedChildren node) ++
  ["items", "additionalItems", "additionalProperties", "unevaluatedItems", "unevaluatedProperties",
    "propertyNames", "contains", "not", "if", "then", "else", "contentSchema"].flatMap (singleChild node)

/-- Whether what a reference stands for meets a condition; a reference that does not resolve does. -/
def referenceTargetMeets (condition : SchemaObject → List String → Option Bool) (root node : SchemaObject)
    (refs : List String) : Option Bool :=
  match lookup "$ref" node with
  | some (str ref) =>
    if ref ∈ refs then some false
    else match resolveRef root node with
      | none => some true
      | some (obj target) => condition target (refs ++ [ref])
      | some _ => some false
  | _ => some false

/-- Whether an intersection has a closed object anywhere, or a reference that does not resolve. -/
def containsClosedObject (root : SchemaObject) : ℕ → SchemaObject → List String → Option Bool
  | 0, _, _ => none
  | fuel + 1, node, refs =>
    match lookup "additionalProperties" node with
    | some (.bool false) => some true
    | _ =>
      (referenceTargetMeets (containsClosedObject root fuel) root node refs).bind fun closed =>
        if closed then some true
        else (childSchemas node).anyM fun (child, _) => containsClosedObject root fuel child refs

/-- The issues of a node's reference. -/
def validateSchemaReferences (node : SchemaObject) (path : List PathPart) : List Issue :=
  let issue (key message : String) : Issue := ⟨path ++ [.key key], message⟩
  (match lookup "$ref" node with
    | none => []
    | some (str _) => []
    | some _ => [issue "$ref" "Schema reference must be a string"]) ++
  (match lookup "$ref" node with
    | some (str ref) =>
      if ref.toList.head? = some '#' then []
      else [issue "$ref" ("Only fragment schema references are supported; absolute and document-relative " ++
        "references are outside the artifact registration profile")]
    | _ => []) ++
  (if (lookup "$anchor" node).isSome then
    [issue "$anchor" "Named schema anchors are not supported; use local JSON Pointer references"]
  else []) ++
  (match lookup "$ref" node with
    | some (str ref) =>
      match ref.toList with
      | ['#'] => []
      | '#' :: '/' :: _ => []
      | '#' :: _ =>
        [issue "$ref" "Named schema references are not supported; use local JSON Pointer references"]
      | _ => []
    | _ => []) ++
  (match lookup "$ref" node with
    | some (str ref) =>
      if ref = "#" ∨ ref.toList.take 2 = ['#', '/'] then
        match resolvePointer root ref with
        | some (obj _) => []
        | some (.bool _) => []
        | _ => [issue "$ref" "Fragment schema reference must resolve to an existing object or boolean schema"]
      else []
    | _ => [])

/-- The issue of a union with a boolean alternative. -/
def validateUnionAlternatives (path : List PathPart) (keyword : String) : List Issue :=
  match lookup keyword node with
  | some (arr alternatives) =>
    if alternatives.any fun branch => match branch with
      | .bool _ => true
      | _ => false
    then [⟨path ++ [.key keyword],
      "Unsupported boolean union alternative: use object schema declarations"⟩]
    else []
  | _ => []

/-- The issue of an intersection: a closed object within it, or conjuncts that do not combine. -/
def validateIntersection (fuel : ℕ) (node : SchemaObject) (path : List PathPart) :
    Option (List Issue) :=
  match lookup "allOf" node with
  | some (arr _) =>
    (containsClosedObject root fuel node []).bind fun closed =>
      (if closed then some true
        else (combineConjuncts root fuel node []).map Option.isNone).map fun unsupported =>
        if unsupported then [⟨path ++ [.key "allOf"],
          "Unsupported intersection: use open compatible conjuncts or a single closed object schema"⟩]
        else []
  | _ => some []

/-- The issues of a schema's compositions. -/
def validateSchemaCompositions (root : SchemaObject) :
    ℕ → SchemaObject → List PathPart → Option (List Issue)
  | 0, _, _ => none
  | fuel + 1, node, path =>
    let asynchronous : List Issue := match lookup "$async" node with
      | none => []
      | some (.bool false) => []
      | some _ => [⟨path ++ [.key "$async"], "Asynchronous artifact schemas are not supported"⟩]
    (validateIntersection root fuel node path).bind fun intersection =>
    ((childSchemas node).mapM fun (child, place) =>
      validateSchemaCompositions root fuel child (path ++ place)).map fun children =>
        asynchronous ++ validateSchemaReferences root node path ++
          ["anyOf", "oneOf"].flatMap (validateUnionAlternatives node path) ++
          intersection ++ List.flatten children

/-- A key of a uniqueness rule. -/
inductive KeySelector
  | data (path : ArtifactDataPath)
  | relationTarget (relationType : String)

/-- What a kind declares about its data. -/
structure KindDataPaths where
  dataSchema : SchemaObject
  titlePath : ArtifactDataPath
  indexedFields : Option (List ArtifactDataPath)
  searchableFields : Option (List ArtifactDataPath)
  views : Option (List (String × List ArtifactDataPath))
  uniqueness : Option (List (List KeySelector))

/-- The declared paths other than the title's, each with its place in the registration. -/
def KindDataPaths.declaredPaths (value : KindDataPaths) : List (ArtifactDataPath × List PathPart) :=
  ((value.indexedFields.getD []).zipIdx.map fun p => (p.1, [.key "indexedFields", .index p.2])) ++
  ((value.searchableFields.getD []).zipIdx.map fun p => (p.1, [.key "searchableFields", .index p.2])) ++
  ((value.uniqueness.getD []).zipIdx.flatMap fun rule => rule.1.zipIdx.filterMap fun selector =>
    match selector.1 with
    | .data path => some (path, [.key "uniqueness", .index rule.2, .key "by", .index selector.2, .key "path"])
    | .relationTarget _ => none) ++
  ((value.views.getD []).flatMap fun view => view.2.zipIdx.map fun p =>
    (p.1, [.key "views", .key view.1, .key "fields", .index p.2]))

/-- Whether there are fragments and each declares a type. -/
def allDeclare (fragments : Option (List Json)) (expected : String) : Bool :=
  match fragments with
  | some (f :: fs) => (f :: fs).all fun frag => declaresType frag expected
  | _ => false

/-- The issues of the declared data paths. -/
def validateKindDataPaths (fuel : ℕ) (value : KindDataPaths) : Option (List Issue) :=
  (validateSchemaCompositions value.dataSchema fuel value.dataSchema [.key "dataSchema"]).bind
    fun compositions =>
  (fieldSchemas value.dataSchema fuel value.dataSchema value.titlePath.segments true [] true false).bind
    fun title =>
  (value.declaredPaths.mapM fun p =>
    (isArtifactDataPathDeclared fuel value.dataSchema p.1).map fun declared =>
      if declared then []
      else [(⟨p.2, "Data path " ++ p.1.text ++ " must select a declared field"⟩ : Issue)]).map fun paths =>
  compositions ++
    (if allDeclare title "string" then []
    else [⟨[.key "titlePath"], "titlePath must select a required string in every data schema variant"⟩]) ++
    paths.flatten

end Makaio.Artifact

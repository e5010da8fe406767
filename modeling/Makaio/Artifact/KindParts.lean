import Makaio.Artifact.KindPaths

set_option autoImplicit false

/-!
# Addressable parts of an artifact

An addressable part is an element of a declared array whose local identifier is stable within a revision.
The areas are checked against the schema when the kind is registered, and the identifiers against the data
whenever a revision is written.  A relation of a revision may start at one of its parts.

## Main definitions

* `validateArtifactPartAreas` — the checks of the areas at registration.
* `checkArtifactPartIds` — the checks of the identifiers of a payload.
* `checkArtifactRelationSourceParts` — the checks of the relations that start at a part.
* `readArtifactTitle` — the title of a payload.
-/

namespace Makaio.Artifact

open Foundations Json JsonSchema

/-- An area of addressable parts: an array, and where its elements have their identifiers. -/
structure ArtifactPartArea where
  path : ArtifactDataPath
  idPath : ArtifactDataPath

/-! ### Registration -/

/-- How messages name an area. -/
def areaName (index : ℕ) : String :=
  "addressableParts[" ++ toString index ++ "]"

variable (area : ArtifactPartArea)

/-- The location of the identifiers of an area. -/
def ArtifactPartArea.idLocation : List String :=
  area.path.segments ++ collectionElementSegment :: area.idPath.segments

/-- Whether a fragment declares positions of an array. -/
def isTupleShape (frag : Json) : Bool :=
  match frag.member? "prefixItems", frag.member? "items" with
  | some (arr _), _ => true
  | _, some (arr _) => true
  | _, _ => false

/-- The issue of an area's identifier path, which must be a required string in every element variant.
Properties above the element may be optional. -/
def validatePartIdPath (fuel : ℕ) (dataSchema : SchemaObject) (area : ArtifactPartArea) (index : ℕ) :
    Option (List Issue) :=
  (inspectArtifactDataLocation fuel dataSchema area.idLocation false true).map fun idFragments =>
    if allDeclare idFragments "string" then []
    else [⟨[.key "addressableParts", .index index, .key "idPath"],
      areaName index ++ ".idPath must select a required string in every element variant"⟩]

/-- The issues of an area: it must be declared, an array, and no tuple, in every variant. -/
def validatePartArea (fuel : ℕ) (dataSchema : SchemaObject) (area : ArtifactPartArea) (index : ℕ) :
    Option (List Issue) :=
  let issue (message : String) : Issue :=
    ⟨[.key "addressableParts", .index index, .key "path"], areaName index ++ message⟩
  (inspectArtifactDataLocation fuel dataSchema area.path.segments false false).bind fun areaFragments =>
    match areaFragments with
    | some (f :: fs) =>
      if (f :: fs).any fun frag => !declaresType frag "array" then
        some [issue ".path must select an array schema in every data schema variant"]
      else if (f :: fs).any isTupleShape then
        some [issue (".path selects a tuple schema; tuples are outside the addressable-parts profile " ++
          "(homogeneous arrays only)")]
      else validatePartIdPath fuel dataSchema area index
    | _ => some [issue ".path must select a declared location in every data schema variant"]

/-- The issues of the areas from an index on, with the paths of those before. -/
def validatePartAreasFrom (fuel : ℕ) (dataSchema : SchemaObject) :
    List ArtifactPartArea → ℕ → List String → Option (List Issue)
  | [], _, _ => some []
  | area :: areas, index, seenPaths =>
    let duplicate : List Issue :=
      if area.path.text ∈ seenPaths then
        [⟨[.key "addressableParts", .index index, .key "path"], areaName index ++
          ".path duplicates an earlier area; each declared area must have a distinct path"⟩]
      else []
    (validatePartArea fuel dataSchema area index).bind fun issues =>
    (validatePartAreasFrom fuel dataSchema areas (index + 1) (seenPaths ++ [area.path.text])).map
      fun later => duplicate ++ issues ++ later

/-- The issues of the declared areas. -/
def validateArtifactPartAreas (fuel : ℕ) (dataSchema : SchemaObject)
    (addressableParts : Option (List ArtifactPartArea)) : Option (List Issue) :=
  validatePartAreasFrom fuel dataSchema (addressableParts.getD []) 0 []

/-! ### Payloads -/

/-- A rejected location within a payload. -/
structure DataIssue where
  path : String
  reason : String

/-- The name of a value's type. -/
def typeOf : Option Json → String
  | none => "undefined"
  | some .null => "object"
  | some (.bool _) => "boolean"
  | some (num _) => "number"
  | some (str _) => "string"
  | some (arr _) => "object"
  | some (obj _) => "object"

/-- The characters that trimming removes. -/
def isWhitespace (c : Char) : Bool :=
  (9 ≤ c.toNat && c.toNat ≤ 13) || (0x2000 ≤ c.toNat && c.toNat ≤ 0x200A) ||
    [0x20, 0xA0, 0x1680, 0x2028, 0x2029, 0x202F, 0x205F, 0x3000, 0xFEFF].contains c.toNat

/-- Whether a string is empty or only whitespace. -/
def isBlank (s : String) : Bool :=
  s.toList.all isWhitespace

/-- The issue of an element's identifier, or the identifier. -/
def readLocalId (element : Json) : Except String String :=
  match element with
  | obj _ =>
    match follow area.idPath.segments element with
    | some (str rawId) =>
      if isBlank rawId then
        .error "local identifier must be a non-empty, non-whitespace-only string"
      else .ok rawId
    | none => .error "local identifier is missing"
    | rawId => .error ("local identifier must be a string; found " ++ typeOf rawId)
  | _ => .error "part element is not an object; local identifier cannot be read"

/-- The issues of an area's elements from an index on, with the identifiers seen before and where they were
seen first. -/
def checkElementIds (area : ArtifactPartArea) :
    List Json → ℕ → List (String × String) → List DataIssue × List (String × String)
  | [], _, firstSeen => ([], firstSeen)
  | element :: elements, index, firstSeen =>
    let idLocation := area.path.text ++ "." ++ toString index ++ "." ++ area.idPath.text
    match readLocalId area element with
    | .error reason =>
      let (issues, seen) := checkElementIds area elements (index + 1) firstSeen
      (⟨idLocation, reason⟩ :: issues, seen)
    | .ok rawId =>
      match firstSeen.find? fun m => m.1 = rawId with
      | some (_, prior) =>
        let (issues, seen) := checkElementIds area elements (index + 1) firstSeen
        (⟨idLocation, "duplicate local identifier \"" ++ rawId ++ "\"; also found at " ++ prior⟩ :: issues,
          seen)
      | none => checkElementIds area elements (index + 1) (firstSeen ++ [(rawId, idLocation)])

/-- The issues of the areas of a payload, with the identifiers seen before. -/
def checkAreaIds (data : SchemaObject) :
    List ArtifactPartArea → List (String × String) → List DataIssue
  | [], _ => []
  | area :: areas, firstSeen =>
    match follow area.path.segments (obj data) with
    | none => checkAreaIds data areas firstSeen
    | some (arr elements) =>
      let (issues, seen) := checkElementIds area elements 0 firstSeen
      issues ++ checkAreaIds data areas seen
    | areaValue =>
      ⟨area.path.text, "declared part area must be an array; found " ++ typeOf areaValue⟩ ::
        checkAreaIds data areas firstSeen

variable (areas : List ArtifactPartArea)

/-- The issues of the part identifiers of a payload: each must be a nonblank string, and no two the same. -/
def checkArtifactPartIds (data : SchemaObject) : List DataIssue :=
  checkAreaIds data areas []

/-- Why a part was not resolved. -/
inductive PartResolutionReason
  | noPartsDeclared
  | partNotFound
  | duplicateLocalId

def PartResolutionReason.code : PartResolutionReason → String
  | noPartsDeclared => "NO_PARTS_DECLARED"
  | partNotFound => "PART_NOT_FOUND"
  | duplicateLocalId => "DUPLICATE_LOCAL_ID"

/-- How a local identifier resolves. -/
inductive ArtifactPartResolution
  | part (areaPath : String) (payload : SchemaObject)
  | rejected (reason : PartResolutionReason)

/-- Add an element to the index of parts; a second one with the same identifier makes it ambiguous. -/
def indexElement (index : List (String × ArtifactPartResolution)) (element : Json) :
    List (String × ArtifactPartResolution) :=
  match element, follow area.idPath.segments element with
  | obj payload, some (str rawId) =>
    if index.any fun m => m.1 = rawId then
      index.map fun m => if m.1 = rawId then (rawId, .rejected .duplicateLocalId) else m
    else index ++ [(rawId, .part area.path.text payload)]
  | _, _ => index

/-- The parts of a payload by their identifiers; none when no areas are declared. -/
def indexArtifactParts (data : SchemaObject) :
    Option (List (String × ArtifactPartResolution)) :=
  if areas.isEmpty then none
  else some (areas.foldl (fun index area =>
    match follow area.path.segments (obj data) with
    | some (arr elements) => elements.foldl (indexElement area) index
    | _ => index) [])

/-- A relation source that is not exactly one declared part. -/
structure RelationSourceIssue where
  relationIndex : ℕ
  reason : String

/-- How the source of a relation resolves. -/
def resolveRelationSource (parts : Option (List (String × ArtifactPartResolution))) (sourceLocalId : String) :
    ArtifactPartResolution :=
  match parts.bind fun index => (index.find? fun m => m.1 = sourceLocalId).map Prod.snd with
  | some resolution => resolution
  | none => .rejected (if areas.isEmpty then .noPartsDeclared else .partNotFound)

/-- The issues of the relations that start at a part, given by the local identifiers of their sources. -/
def checkArtifactRelationSourceParts (data : SchemaObject) (relations : List (Option String)) :
    List RelationSourceIssue :=
  relations.zipIdx.filterMap fun relation =>
    match relation.1 with
    | none => none
    | some sourceLocalId =>
      match resolveRelationSource areas (indexArtifactParts areas data) sourceLocalId with
      | .part _ _ => none
      | .rejected reason => some ⟨relation.2, reason.code⟩

/-- The title of a payload, as it is written. -/
def readArtifactTitle (data : SchemaObject) (titlePath : ArtifactDataPath) : Except String String :=
  match follow titlePath.segments (obj data) with
  | none => .error ("Artifact title is missing at " ++ titlePath.text)
  | some (str title) =>
    if isBlank title then .error ("Artifact title at " ++ titlePath.text ++ " must be a nonblank string")
    else .ok title
  | some _ => .error ("Artifact title at " ++ titlePath.text ++ " must be a nonblank string")

end Makaio.Artifact

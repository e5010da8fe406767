import Makaio.Artifact.KindParts

set_option autoImplicit false

/-!
# The patch engine

A patch is a list of instructions, each an operator, a path into the data, and an operand.  The path
names properties and positions of collections, and filters that select the entries of a collection by
equality.  An instruction that addresses nothing is rejected, and a patch is applied as a whole or not
at all.

The source resolves a path to references into a copy of the data and changes the copy in place.  Here
a reference is the list of steps that leads to it; the places of one instruction are equally far down,
so changing one leaves the others where they are.

## Main definitions

* `artifactPatchSegments` — the segments of a path.
* `artifactPatchInstructions` — the instructions of a patch, in the order they run.
* `resolveTargets`, `resolveContainers` — the places a path leads to.
* `applyInstruction`, `applyArtifactPatch` — the application.
-/

namespace Makaio.Artifact

open Foundations Json JsonSchema

/-- An object of artifact data. -/
abbrev JsonObject := List (String × Json)

/-! ### Patch documents -/

inductive PatchOperator
  | set
  | unset
  | push
  | pull
  deriving DecidableEq

/-- An operator as it is written. -/
def PatchOperator.text : PatchOperator → String
  | set => "$set"
  | unset => "$unset"
  | push => "$push"
  | pull => "$pull"

/-- What a segment of a path addresses. -/
inductive PatchSegment
  | property (name : String)
  | index (n : ℕ)
  | filter (placeholder : String)

/-- Whether a name can be that of a placeholder. -/
def isPlaceholderName (name : List Char) : Bool :=
  match name with
  | c :: cs => isNameStart c && cs.all fun d => isNamePart d && d ≠ '-'
  | [] => false

variable (segment : List Char)

/-- The placeholder of a filter segment. -/
def filterPlaceholder : Option String :=
  match segment with
  | '$' :: '[' :: rest =>
    if rest.getLast? = some ']' && isPlaceholderName rest.dropLast then
      some (String.ofList rest.dropLast)
    else none
  | _ => none

/-- The position of a canonical index segment. -/
def indexPosition : Option ℕ :=
  match segment with
  | ['0'] => some 0
  | c :: cs =>
    if c ≠ '0' && (c :: cs).all Char.isDigit then
      some ((c :: cs).foldl (fun n d => 10 * n + (d.toNat - '0'.toNat)) 0)
    else none
  | [] => none

/-- Classify a segment. -/
def artifactPatchSegment : PatchSegment :=
  match filterPlaceholder segment with
  | some placeholder => .filter placeholder
  | none =>
    match indexPosition segment with
    | some n => .index n
    | none => .property (String.ofList segment)

/-- The segments of a path. -/
def artifactPatchSegments (path : String) : List PatchSegment :=
  (path.toList.splitOn '.').map artifactPatchSegment

/-- A patch: the operands of each operator by their paths, and the filters by their keys. -/
structure PatchDocument where
  set : Option (List (String × Json))
  unset : Option (List (String × Json))
  push : Option (List (String × Json))
  pull : Option (List (String × Json))
  arrayFilters : Option (List (List (String × Json)))

variable (patch : PatchDocument)

def PatchDocument.operands : PatchOperator → List (String × Json)
  | .set => patch.set.getD []
  | .unset => patch.unset.getD []
  | .push => patch.push.getD []
  | .pull => patch.pull.getD []

structure PatchInstruction where
  operator : PatchOperator
  path : String
  value : Json

/-- The instructions of a patch in the order they run. -/
def artifactPatchInstructions : List PatchInstruction :=
  [.set, .unset, .push, .pull].flatMap fun operator =>
    (entries (patch.operands operator)).map fun m => ⟨operator, m.1, m.2⟩

def filterKeyParts (key : String) : List String :=
  (key.toList.splitOn '.').map String.ofList

/-- The placeholder that a filter binds, when it binds exactly one. -/
def artifactPatchFilterName (filter : List (String × Json)) : Option String :=
  match (filter.map fun m => (filterKeyParts m.1).headD "").eraseDups with
  | [name] => if name = "" then none else some name
  | _ => none

/-! ### Rejections -/

/-- The classes of rejections. -/
inductive PatchErrorCode
  | artifactNotFound
  | baseRevisionConflict
  | kindNotRegistered
  | schemaVersionMismatch
  | pathNotDeclared
  | pathNotResolvable
  | targetNotACollection
  | unsupportedTarget
  | noMatch
  | schemaValidationFailed
  | payloadInvariantFailed
  | noChange
  | storeRejected
  | hostFailed
  deriving DecidableEq

/-- A rejected location of a payload, with what is declared there. -/
structure PatchIssue where
  path : String
  reason : String
  expectedType : Option String
  allowedValues : Option (List Json)

/-- A rejection of a patch. -/
structure PatchError where
  code : PatchErrorCode
  message : String
  operator : Option PatchOperator
  path : Option String
  currentRevision : Option String
  issues : Option (List PatchIssue)
  repair : String

/-- A rejected instruction. -/
def patchError (code : PatchErrorCode) (operator : PatchOperator) (path message repair : String) :
    PatchError :=
  ⟨code, message, some operator, some path, none, none, repair⟩

variable (operator : PatchOperator)

/-- An instruction that addressed nothing. -/
def noMatch (path message : String) : PatchError :=
  patchError .noMatch operator path message
    ("Addressing nothing is a failure, not a silent no-op: check the match values against the " ++
      "current revision.")

/-! ### Places -/

/-- A step from a value to a part of it. -/
inductive Step
  | key (name : String)
  | index (n : ℕ)

/-- The part of a value that a step leads to. -/
def child (step : Step) (value : Json) : Option Json :=
  match step with
  | .key name => value.member? name
  | .index n => value.element? n

/-- The value at a place. -/
def readAt : List Step → Json → Option Json
  | [], value => some value
  | step :: place, value => (child step value).bind (readAt place)

/-- Put a value at a place; its last step may name a property that is not there yet. -/
def writeAt : List Step → Json → Json → Json
  | [], value, _ => value
  | .key name :: place, value, obj members =>
    obj (assign name (writeAt place value ((lookup name members).getD .null)) members)
  | .index n :: place, value, arr elements =>
    arr (elements.set n (writeAt place value (elements[n]?.getD .null)))
  | _ :: _, _, whole => whole

/-- Remove the property at a place. -/
def deleteAt : List Step → Json → Json
  | [.key name], obj members => obj (erase name members)
  | .key name :: place, obj members =>
    match lookup name members with
    | some value => obj (assign name (deleteAt place value) members)
    | none => obj members
  | .index n :: place, arr elements =>
    match elements[n]? with
    | some value => arr (elements.set n (deleteAt place value))
    | none => arr elements
  | _, whole => whole

/-- A value that a path has led to, with its place. -/
structure Container where
  place : List Step
  value : Json

/-- A place that an instruction addresses: a container and a step from there. -/
structure PatchTarget where
  container : Container
  step : Step

def PatchTarget.place (target : PatchTarget) : List Step :=
  target.container.place ++ [target.step]

/-! ### Filters -/

/-- The conditions of a filter: paths from the element, and what is there. -/
abbrev CompiledFilter := List (List String × Json)

/-- The conditions of a filter; its keys begin with the placeholder. -/
def compileFilter (filter : List (String × Json)) : CompiledFilter :=
  (entries filter).map fun m => ((filterKeyParts m.1).drop 1, m.2)

/-- The filters of a patch by their placeholders. -/
def compileFilters : List (String × CompiledFilter) :=
  (patch.arrayFilters.getD []).filterMap fun filter =>
    (artifactPatchFilterName filter).map fun name => (name, compileFilter filter)

/-- The conditions of a placeholder; a later filter replaces an earlier one. -/
def filterConditions (filters : List (String × CompiledFilter)) (placeholder : String) :
    CompiledFilter :=
  ((filters.reverse.find? fun m => m.1 = placeholder).map Prod.snd).getD []

/-- Whether a value is there and equals another. -/
def presentEquals (value : Option Json) (operand : Json) : Bool :=
  value.any fun v => equals v operand

/-- Whether an element meets the conditions of a filter. -/
def matchesFilter (element : Json) (conditions : CompiledFilter) : Bool :=
  conditions.all fun c => presentEquals (follow c.1 element) c.2

/-- Whether an element is to be pulled: an object condition is about its fields only. -/
def matchesPullCondition (element condition : Json) : Bool :=
  match condition, element with
  | obj fields, obj members => (entries fields).all fun m => presentEquals (lookup m.1 members) m.2
  | obj _, _ => false
  | _, _ => equals element condition

/-! ### Resolution -/

/-- The places that a segment addresses in a container. -/
def containerTargets (container : Container) (segment : PatchSegment)
    (filters : List (String × CompiledFilter)) (requireExisting : Bool) : List PatchTarget :=
  match segment, container.value with
  | .property name, obj members =>
    if requireExisting && (lookup name members).isNone then [] else [⟨container, .key name⟩]
  | .index n, arr elements => if n < elements.length then [⟨container, .index n⟩] else []
  | .filter placeholder, arr elements => elements.zipIdx.filterMap fun m =>
      if matchesFilter m.1 (filterConditions filters placeholder) then some ⟨container, .index m.2⟩
      else none
  | _, _ => []

/-- The places that a segment addresses in some containers. -/
def resolveTargets (containers : List Container) (segment : PatchSegment)
    (filters : List (String × CompiledFilter)) (requireExisting : Bool) : List PatchTarget :=
  containers.flatMap fun container => containerTargets container segment filters requireExisting

/-- What a target holds. -/
def readTarget (target : PatchTarget) : Option Json :=
  child target.step target.container.value

/-- Whether a segment is a filter, which may select any number of places. -/
def PatchSegment.isFilter : PatchSegment → Bool
  | filter _ => true
  | _ => false

/-- Whether a segment is a position. -/
def PatchSegment.isIndex : PatchSegment → Bool
  | index _ => true
  | _ => false

/-- The containers of the last segment, or the segment at which the path stopped: a property or position
must be there in every branch that was selected. -/
def resolveContainers (filters : List (String × CompiledFilter)) :
    List PatchSegment → List Container → Except PatchSegment (List Container)
  | [], containers => .ok containers
  | segment :: segments, containers =>
    let targets := resolveTargets containers segment filters true
    if targets.isEmpty then .error segment
    else if !segment.isFilter && targets.length < containers.length then .error segment
    else resolveContainers filters segments (targets.filterMap fun target =>
      (readTarget target).map fun value => ⟨target.place, value⟩)

/-! ### Operators -/

variable (draft : Json)

/-- Put a value at every target. -/
def applySet (targets : List PatchTarget) (value : Json) : Json × ℕ :=
  (targets.foldl (fun d target => writeAt target.place value d) draft, targets.length)

/-- Remove the property at every target. -/
def applyUnset (targets : List PatchTarget) : Json × ℕ :=
  (targets.foldl (fun d target => deleteAt target.place d) draft, targets.length)

/-- Append a value to the collection at a target, which may not be there yet. -/
def pushAt (value : Json) (draft : Json) (target : PatchTarget) : Option Json :=
  match readAt target.place draft with
  | none => some (writeAt target.place (arr [value]) draft)
  | some (arr elements) => some (writeAt target.place (arr (elements ++ [value])) draft)
  | some _ => none

/-- Append a value to the collection at every target. -/
def applyPush (targets : List PatchTarget) (value : Json) : Option (Json × ℕ) :=
  (targets.foldlM (pushAt value) draft).map fun d => (d, targets.length)

/-- Remove the entries that meet a condition from the collection at a target, and count them. -/
def pullAt (condition : Json) (pulled : Json × ℕ) (target : PatchTarget) : Option (Json × ℕ) :=
  match readAt target.place pulled.1 with
  | some (arr elements) =>
    let retained := elements.filter fun element => !matchesPullCondition element condition
    some (writeAt target.place (arr retained) pulled.1,
      pulled.2 + (elements.length - retained.length))
  | _ => none

/-- Remove the entries that meet a condition from the collection at every target. -/
def applyPull (targets : List PatchTarget) (condition : Json) : Option (Json × ℕ) :=
  targets.foldlM (pullAt condition) (draft, 0)

/-- Apply an operator; none when a target is no collection. -/
def applyOperator (draft : Json) (targets : List PatchTarget) (operand : Json) : Option (Json × ℕ) :=
  match operator with
  | .set => some (applySet draft targets operand)
  | .unset => some (applyUnset draft targets)
  | .push => applyPush draft targets operand
  | .pull => applyPull draft targets operand

/-! ### Instructions -/

/-- The location of a path in the schema; a position and a filter are the same there. -/
def toSchemaLocation (segments : List PatchSegment) : List String :=
  segments.map fun segment =>
    match segment with
    | .property name => name
    | _ => collectionElementSegment

/-- Whether every variant declares an array. -/
def declaresArray (fragments : List Json) : Bool :=
  !fragments.isEmpty && fragments.all fun fragment =>
    match fragment.member? "type" with
    | some (str t) => t = "array"
    | _ => false

/-- A segment as it is written. -/
def segmentText : PatchSegment → String
  | .property name => name
  | .index n => toString n
  | .filter placeholder => "$[" ++ placeholder ++ "]"

/-- The rejection of an operator that cannot address an entry. -/
def unsupportedTarget (terminal : PatchSegment) (path : String) :
    Option PatchError :=
  match terminal, operator with
  | .property _, _ => none
  | _, .unset => some (patchError .unsupportedTarget operator path
      ("$unset addresses object properties; '" ++ path ++ "' addresses a collection entry.")
      "Remove a collection entry with $pull instead of $unset.")
  | _, .set => none
  | _, _ => some (patchError .unsupportedTarget operator path
      (operator.text ++ " addresses a collection; '" ++ path ++ "' addresses one of its entries.")
      ("Point " ++ operator.text ++ " at the collection itself, without the trailing entry selector."))

/-- The rejection of a location that the schema does not declare, or not as a collection. -/
def checkDeclaration (fuel : ℕ) (dataSchema : SchemaObject) (operator : PatchOperator) (path : String)
    (segments : List PatchSegment) : Option (Option PatchError) :=
  (inspectArtifactDataLocation fuel dataSchema (toSchemaLocation segments) false false).map
    fun fragments =>
      match fragments with
      | none => some (patchError .pathNotDeclared operator path
          ("The artifact kind does not declare '" ++ path ++ "'.")
          ("Correct the path to one the kind schema declares; a misspelled field is never created."))
      | some fragments =>
        if (operator = .push ∨ operator = .pull) ∧ !declaresArray fragments then
          some (patchError .targetNotACollection operator path
            ("The artifact kind declares '" ++ path ++ "' as something other than a collection.")
            ("Use $set to replace '" ++ path ++ "', or point " ++ operator.text ++
              " at a declared collection."))
        else none

/-- What an instruction changed. -/
structure PatchOperationResult where
  operator : PatchOperator
  path : String
  count : ℕ

/-- Apply an instruction whose location is declared. -/
def applyDeclared (instruction : PatchInstruction) (segments : List PatchSegment) (terminal : PatchSegment)
    (filters : List (String × CompiledFilter)) :
    Except PatchError (Json × PatchOperationResult) :=
  let operator := instruction.operator
  let path := instruction.path
  match resolveContainers filters segments.dropLast [⟨[], draft⟩] with
  | .error (.property name) => .error (patchError .pathNotResolvable operator path
      ("This revision has no value at '" ++ name ++ "' along '" ++ path ++ "'.")
      ("Set the value at '" ++ name ++ "' before addressing anything below it."))
  | .error segment => .error (noMatch operator path
      ("'" ++ segmentText segment ++ "' in '" ++ path ++ "' addressed no entry in this revision."))
  | .ok containers =>
    let requireExisting := operator = .unset || operator = .pull
    let targets := resolveTargets containers terminal filters requireExisting
    if targets.isEmpty then
      .error (noMatch operator path ("'" ++ path ++ "' addressed no entry in this revision."))
    else if terminal.isIndex && targets.length < containers.length then
      .error (noMatch operator path
        ("'" ++ path ++ "' addressed no entry in every selected collection of this revision."))
    else
      match applyOperator operator draft targets instruction.value with
      | none => .error (patchError .targetNotACollection operator path
          ("The value at '" ++ path ++ "' is not a collection in this revision.")
          ("Use $set to replace '" ++ path ++ "', or point " ++ operator.text ++ " at a collection."))
      | some (draft, count) =>
        if count = 0 then
          .error (noMatch operator path ("'" ++ path ++ "' changed nothing in this revision."))
        else .ok (draft, ⟨operator, path, count⟩)

/-- Apply an instruction.  A migration may remove a property that the schema does not declare. -/
def applyInstruction (fuel : ℕ) (draft : Json) (instruction : PatchInstruction)
    (filters : List (String × CompiledFilter)) (dataSchema : SchemaObject)
    (allowUndeclaredRemovals : Bool) : Option (Except PatchError (Json × PatchOperationResult)) :=
  let operator := instruction.operator
  let path := instruction.path
  let segments := artifactPatchSegments path
  match segments.getLast? with
  | none => some (.error (noMatch operator path ("'" ++ path ++ "' addresses nothing.")))
  | some terminal =>
    match unsupportedTarget operator terminal path with
    | some error => some (.error error)
    | none =>
      (checkDeclaration fuel dataSchema operator path segments).map fun declaration =>
        match declaration with
        | some error =>
          if allowUndeclaredRemovals && error.code = .pathNotDeclared && operator = .unset then
            applyDeclared draft instruction segments terminal filters
          else .error error
        | none => applyDeclared draft instruction segments terminal filters

/-- Apply instructions one after the other, up to the first that is rejected. -/
def applyInstructions (fuel : ℕ) (filters : List (String × CompiledFilter)) (dataSchema : SchemaObject)
    (allowUndeclaredRemovals : Bool) :
    List PatchInstruction → Json → Option (Except PatchError (Json × List PatchOperationResult))
  | [], draft => some (.ok (draft, []))
  | instruction :: instructions, draft =>
    (applyInstruction fuel draft instruction filters dataSchema allowUndeclaredRemovals).bind
      fun outcome =>
        match outcome with
        | .error error => some (.error error)
        | .ok (draft, operation) =>
          (applyInstructions fuel filters dataSchema allowUndeclaredRemovals instructions draft).map
            fun rest => rest.map fun (data, operations) => (data, operation :: operations)

/-- A patched payload, and what each instruction changed. -/
structure PatchApplication where
  data : JsonObject
  operations : List PatchOperationResult

/-- Apply a patch to a payload; none when the inspection of the schema does not return.  The draft stays
an object, because every path begins with a property. -/
def applyArtifactPatch (fuel : ℕ) (data : JsonObject) (patch : PatchDocument) (dataSchema : SchemaObject)
    (allowUndeclaredRemovals : Bool) : Option (Except PatchError PatchApplication) :=
  (applyInstructions fuel (compileFilters patch) dataSchema allowUndeclaredRemovals
    (artifactPatchInstructions patch) (obj data)).map fun outcome =>
      outcome.map fun (draft, operations) => ⟨draft.members?.getD data, operations⟩

end Makaio.Artifact

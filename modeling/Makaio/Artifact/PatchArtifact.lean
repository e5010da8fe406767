import Makaio.Artifact.PatchEngine
import Makaio.Artifact.Registration

set_option autoImplicit false

/-!
# Revising an artifact by patch

A patch request names the revision it was written against.  The current revision is read from the
host and compared with it, the patch is applied to its data, and the result is checked against the
registration of the schema version it is to have.  Unless the request is a dry run, the host is then
asked to store the result in place of that very revision.

The function awaits the host three times.  It is cut there: what the host answers is an argument of
the piece that follows, so that the calls of `Makaio.Artifact.PatchRuns` can interleave.

## Main definitions

* `loadBaseRevision` — the comparison with the current revision.
* `resolveTargetRegistration` — the registration that the result has to meet.
* `planPatch` — the application and the checks of its result.
* `finishPatch` — the answer when the host has stored the result or refused to.
-/

namespace Makaio.Artifact

open Foundations Json JsonSchema

/-! ### Requests, revisions and answers -/

/-- A registration of a kind at a schema version. -/
structure ArtifactKindRegistration extends KindRegistration where
  kind : String
  schemaVersion : ℕ

/-- A revision of an artifact; of its relations, the local identifiers they start at. -/
structure ArtifactRevision where
  kind : String
  id : String
  revision : String
  schemaVersion : ℕ
  data : JsonObject
  relations : List (Option String)
  representations : Option Json

/-- A request for a revision.  The hints may be left out, cleared, or replaced. -/
structure PatchRequest where
  kind : String
  id : String
  baseRevision : String
  patch : PatchDocument
  dryRun : Option Bool
  schemaVersion : Option ℕ
  statusPath : Option String
  representations : Option (Option Json)

/-- A pointer to one revision. -/
structure ArtifactRef where
  kind : String
  id : String
  revision : String
  deriving DecidableEq

/-- The pointer to a revision. -/
def ArtifactRevision.ref (artifact : ArtifactRevision) : ArtifactRef :=
  ⟨artifact.kind, artifact.id, artifact.revision⟩

/-- What the host is asked to persist. -/
structure StoreRequest where
  previous : ArtifactRevision
  data : JsonObject
  schemaVersion : ℕ
  statusPath : Option String
  representations : Option (Option Json)

/-- The answer to a request. -/
inductive PatchResponse
  | ok (base : ArtifactRef) (artifact : Option ArtifactRef) (operations : List PatchOperationResult)
      (migration : Option (ℕ × ℕ))
  | failed (error : PatchError)

/-- What the host answers to the lookup of the current revision. -/
inductive HostRead
  | found (artifact : ArtifactRevision)
  | absent
  | threw (message : String)

/-- What the host answers to the lookup of the registrations. -/
inductive HostKinds
  | listed (registrations : List ArtifactKindRegistration)
  | threw (message : String)

/-- What the host answers to the request to persist. -/
inductive HostStore
  | stored (artifact : ArtifactRevision)
  | conflict (conflictingRevision : String)
  | rejected (message : String) (issues : List PatchIssue)
  | threw (message : String)

/-- What the function takes from elsewhere: the compiler of schemas, which may throw and whose result
reports issues, the text of a JSON value, and how deep the inspection of a schema may go. -/
structure PatchEnv where
  compile : ArtifactKindRegistration → Except String (JsonObject → List PatchIssue)
  stringify : Json → String
  fuel : ℕ

/-! ### The base revision -/

/-- A rejection that no instruction is responsible for. -/
def rejection (code : PatchErrorCode) (message repair : String) : PatchError :=
  ⟨code, message, none, none, none, none, repair⟩

/-- Whether a patch means the same on a newer revision: it only appends at fixed paths. -/
def isRebasable (input : PatchRequest) : Bool :=
  input.representations.isNone && input.schemaVersion.isNone &&
    (artifactPatchInstructions input.patch).all fun instruction =>
      instruction.operator = .push && (artifactPatchSegments instruction.path).all fun segment =>
        match segment with
        | .property _ => true
        | _ => false

/-- The artifact has advanced past the revision of the request. -/
def baseRevisionConflict (input : PatchRequest) (currentRevision : String) : PatchError :=
  { code := .baseRevisionConflict
    message := "Artifact '" ++ input.kind ++ ":" ++ input.id ++ "' has advanced to revision '" ++
      currentRevision ++ "'."
    operator := none
    path := none
    currentRevision := some currentRevision
    issues := none
    repair :=
      if isRebasable input then
        "Resend the same patch with baseRevision '" ++ currentRevision ++ "'; it only appends at a " ++
          "fixed path, with no position and no filter, so it does not depend on the payload you read."
      else
        "Re-read the artifact at revision '" ++ currentRevision ++ "' and rewrite the patch: only an " ++
          "append at a fixed path survives a concurrent write, with no position and no filter. " ++
          "Replacing, removing, addressing an entry by position, appending through a $[filter] " ++
          "placeholder, replacing or clearing representations, and naming a target schemaVersion " ++
          "all depend on the payload you read, which the concurrent revision may have changed." }

/-- The revision that a patch applies to. -/
def loadBaseRevision (input : PatchRequest) (read : HostRead) : Except PatchError ArtifactRevision :=
  match read with
  | .threw message => .error (rejection .hostFailed ("Artifact lookup failed: " ++ message)
      "Retry once the artifact store is reachable.")
  | .absent => .error (rejection .artifactNotFound
      ("Artifact '" ++ input.kind ++ ":" ++ input.id ++ "' was not found.")
      "Check the kind and identity, or create the artifact before revising it.")
  | .found artifact =>
    if artifact.kind ≠ input.kind ∨ artifact.id ≠ input.id then
      .error (rejection .hostFailed "Artifact lookup returned a different artifact identity."
        "Retry; the resolved artifact did not match the requested identity.")
    else if artifact.revision ≠ input.baseRevision then
      .error (baseRevisionConflict input artifact.revision)
    else .ok artifact

/-! ### The registration of the result -/

/-- A list of versions as it is written. -/
def versionsText (versions : List ℕ) : String :=
  String.intercalate ", " (versions.map toString)

/-- The registration of a kind at a schema version. -/
def resolveRegistration (registrations : List ArtifactKindRegistration) (artifact : ArtifactRevision)
    (target : ℕ) : Except PatchError ArtifactKindRegistration :=
  let candidates := registrations.filter fun candidate => candidate.kind = artifact.kind
  if candidates.isEmpty then
    .error (rejection .kindNotRegistered ("Artifact kind '" ++ artifact.kind ++ "' is not registered.")
      "Register the kind, or address an artifact of a registered kind.")
  else
    match candidates.find? fun candidate => candidate.schemaVersion = target with
    | some registration => .ok registration
    | none =>
      let registered := (candidates.map fun candidate => candidate.schemaVersion).eraseDups.mergeSort
      let origin :=
        if target = artifact.schemaVersion then
          "Revision '" ++ artifact.revision ++ "' uses schema version " ++ toString target
        else
          "The request targets schema version " ++ toString target ++ " for revision '" ++
            artifact.revision ++ "' (schema version " ++ toString artifact.schemaVersion ++ ")"
      let reachable := registered.filter fun version => artifact.schemaVersion < version
      .error (rejection .schemaVersionMismatch
        (origin ++ ", for which '" ++ artifact.kind ++ "' has no registration; registered: " ++
          versionsText registered ++ ".")
        (if reachable.isEmpty then
          "Register '" ++ artifact.kind ++ "' at schema version " ++ toString target ++
            (if artifact.schemaVersion < target then "" else " or newer") ++
            "; no registered version is newer than the revision's."
        else
          "Set schemaVersion to one of " ++ versionsText reachable ++ " and add the instructions " ++
            "that make the payload fit that version, or register '" ++ artifact.kind ++
            "' at schema version " ++ toString target ++ "."))

/-- The registration that the patched result has to meet.  A migration never moves an artifact back,
and a patch without instructions has to move it forward. -/
def resolveTargetRegistration (input : PatchRequest) (artifact : ArtifactRevision)
    (registrations : List ArtifactKindRegistration) : Except PatchError ArtifactKindRegistration :=
  let target := input.schemaVersion.getD artifact.schemaVersion
  if target < artifact.schemaVersion then
    .error (rejection .schemaVersionMismatch
      ("The request targets schema version " ++ toString target ++ ", older than revision '" ++
        artifact.revision ++ "' (schema version " ++ toString artifact.schemaVersion ++
        "); a migration never moves an artifact back.")
      ("Omit schemaVersion to patch at version " ++ toString artifact.schemaVersion ++
        ", or name a newer registered version to migrate the artifact forward."))
  else
    (resolveRegistration registrations artifact target).bind fun registration =>
      if registration.schemaVersion = artifact.schemaVersion ∧
          (artifactPatchInstructions input.patch).isEmpty then
        .error (rejection .noChange
          ("The patch carries no instruction and targets schema version " ++
            toString registration.schemaVersion ++ ", which revision '" ++ artifact.revision ++
            "' already has.")
          ("Add at least one instruction, or name a different schemaVersion to migrate the " ++
            "artifact."))
      else .ok registration

/-! ### The checks of the result -/

/-- The issue of data with a slug, which the envelope owns. -/
def reservedSlugIssue : PatchIssue :=
  ⟨"slug", "Data field slug is reserved: the artifact envelope owns the slug", none, none⟩

/-- The checker of a registration: the compiled schema, and the reserved slug. -/
def compileArtifactDataChecker (env : PatchEnv) (registration : ArtifactKindRegistration) :
    Except String (JsonObject → List PatchIssue) :=
  (env.compile registration).map fun validate data =>
    validate data ++ if (lookup "slug" data).isSome then [reservedSlugIssue] else []

/-- The checker, or the rejection when the schema does not compile. -/
def compileChecker (env : PatchEnv) (registration : ArtifactKindRegistration) :
    Except PatchError (JsonObject → List PatchIssue) :=
  match compileArtifactDataChecker env registration with
  | .ok checker => .ok checker
  | .error message => .error (rejection .hostFailed
      ("Artifact kind '" ++ registration.kind ++ "' could not compile its data schema: " ++ message)
      "Correct the registered data schema before patching artifacts of this kind.")

/-- What to do about the first issue. -/
def repairHint (env : PatchEnv) (issues : List PatchIssue) : String :=
  match issues with
  | [] => "Correct the patched result so it satisfies the kind schema."
  | first :: _ =>
    let location := if first.path = "" then "the payload root" else "'" ++ first.path ++ "'"
    match first.allowedValues, first.expectedType with
    | some values, _ => location ++ " accepts one of: " ++ String.intercalate ", " (values.map
        fun value => value.str?.getD (env.stringify value)) ++ "."
    | none, some type =>
      if type = "" then location ++ " " ++ first.reason ++ "."
      else location ++ " expects type " ++ type ++ "."
    | none, none => location ++ " " ++ first.reason ++ "."

/-- The rejection of data that the schema does not admit. -/
def checkSchema (env : PatchEnv) (checker : JsonObject → List PatchIssue)
    (registration : ArtifactKindRegistration) (data : JsonObject) : Option PatchError :=
  if (checker data).isEmpty then none
  else some
    { rejection .schemaValidationFailed
        ("The patched result does not satisfy the '" ++ registration.kind ++ "' data schema.")
        (repairHint env (checker data)) with issues := some (checker data) }

/-- A violated invariant of the payload that the schema does not express. -/
def invariantFailed (registration : ArtifactKindRegistration) (issues : List PatchIssue)
    (repair : String) : PatchError :=
  { rejection .payloadInvariantFailed
      ("The patched result violates the '" ++ registration.kind ++ "' payload invariants.")
      repair with issues := some issues }

/-- The rejection of data without a nonblank title. -/
def checkTitle (data : JsonObject) (registration : ArtifactKindRegistration) : Option PatchError :=
  match readArtifactTitle data registration.titlePath with
  | .ok _ => none
  | .error message => some (invariantFailed registration
      [⟨registration.titlePath.text, message, none, none⟩]
      ("'" ++ registration.titlePath.text ++ "' must be a nonblank string."))

/-- The rejection of data with missing, blank or repeated part identifiers. -/
def checkPartIds (env : PatchEnv) (data : JsonObject) (registration : ArtifactKindRegistration) :
    Option PatchError :=
  let issues := (checkArtifactPartIds (registration.addressableParts.getD []) data).map
    fun issue => (⟨issue.path, issue.reason, none, none⟩ : PatchIssue)
  if issues.isEmpty then none
  else some (invariantFailed registration issues (repairHint env issues))

/-- The rejection of data in which a relation's source is not exactly one part. -/
def checkRelationSources (data : JsonObject) (relations : List (Option String))
    (registration : ArtifactKindRegistration) : Option PatchError :=
  let issues := checkArtifactRelationSourceParts (registration.addressableParts.getD []) data relations
  if issues.isEmpty then none
  else some (invariantFailed registration
    (issues.map fun issue =>
      ⟨"relations." ++ toString issue.relationIndex ++ ".sourceLocalId", issue.reason, none, none⟩)
    ("Restore the locally sourced part data, or create a full artifact revision that updates the " ++
      "affected relations; a data-only patch cannot change relations."))

/-- The first rejection of a patched payload. -/
def checkPayload (env : PatchEnv) (checker : JsonObject → List PatchIssue)
    (registration : ArtifactKindRegistration) (relations : List (Option String)) (data : JsonObject) :
    Option PatchError :=
  (checkSchema env checker registration data).or
    ((checkTitle data registration).or
      ((checkPartIds env data registration).or (checkRelationSources data relations registration)))

/-! ### The patched result and its storage -/

/-- A patched payload that passed the checks of a registration. -/
structure PatchPlan where
  registration : ArtifactKindRegistration
  application : PatchApplication

/-- Apply a patch to its base revision and check the result; none when the inspection of the schema
does not return. -/
def planPatch (env : PatchEnv) (input : PatchRequest) (artifact : ArtifactRevision)
    (registrations : List ArtifactKindRegistration) : Option (Except PatchError PatchPlan) :=
  match resolveTargetRegistration input artifact registrations with
  | .error error => some (.error error)
  | .ok registration =>
    match compileChecker env registration with
    | .error error => some (.error error)
    | .ok checker =>
      (applyArtifactPatch env.fuel artifact.data input.patch registration.dataSchema
        (registration.schemaVersion ≠ artifact.schemaVersion)).map fun applied =>
          applied.bind fun application =>
            match checkPayload env checker registration artifact.relations application.data with
            | some error => .error error
            | none => .ok ⟨registration, application⟩

/-- The versions that a patch moved the artifact between. -/
def migration (artifact : ArtifactRevision) (plan : PatchPlan) : Option (ℕ × ℕ) :=
  if plan.registration.schemaVersion ≠ artifact.schemaVersion then
    some (artifact.schemaVersion, plan.registration.schemaVersion)
  else none

/-- The answer to a dry run. -/
def dryRunResponse (artifact : ArtifactRevision) (plan : PatchPlan) : PatchResponse :=
  .ok artifact.ref none plan.application.operations (migration artifact plan)

/-- What the host is asked to persist. -/
def storeRequest (input : PatchRequest) (artifact : ArtifactRevision) (plan : PatchPlan) :
    StoreRequest :=
  ⟨artifact, plan.application.data, plan.registration.schemaVersion, input.statusPath,
    input.representations⟩

/-- Without the whitespace around it. -/
def trim (s : String) : String :=
  String.ofList (((s.toList.dropWhile isWhitespace).reverse.dropWhile isWhitespace).reverse)

/-- The host refused before it wrote anything; issues that name nothing are dropped. -/
def storeRejection (message : String) (issues : List PatchIssue) : PatchError :=
  let issues := issues.filter fun issue => issue.reason ≠ "" && issue.expectedType.all (· ≠ "")
  { rejection .storeRejected
      (if trim message = "" then "The host refused the write without naming a reason."
        else "The host refused the write: " ++ trim message)
      ("Nothing was persisted. Correct what the rejection names and resend the patch against the " ++
        "same baseRevision.") with
    issues := if issues.isEmpty then none else some issues }

/-- The rejection of a stored revision that is not a new one of the artifact, or not at the schema
version it was checked against. -/
def checkStoredRevision (stored : ArtifactRevision) (base : ArtifactRef) (schemaVersion : ℕ) :
    Option PatchError :=
  if stored.kind ≠ base.kind ∨ stored.id ≠ base.id ∨ stored.revision = base.revision then
    some (rejection .hostFailed
      "The store returned an artifact that is not a new revision of the patched one."
      "Re-read the artifact before patching it again; the write outcome is unclear.")
  else if stored.schemaVersion ≠ schemaVersion then
    some (rejection .hostFailed
      ("The store persisted revision '" ++ stored.revision ++ "' at schema version " ++
        toString stored.schemaVersion ++ " instead of " ++ toString schemaVersion ++ ".")
      ("Re-read the artifact; the host did not store the revision at the schema version the patch " ++
        "was validated against."))
  else none

/-- The answer when the host was asked to persist. -/
def finishPatch (input : PatchRequest) (artifact : ArtifactRevision) (plan : PatchPlan)
    (store : HostStore) : PatchResponse :=
  match store with
  | .threw message => .failed (rejection .hostFailed ("Artifact revision failed: " ++ message)
      ("Re-read the artifact: the write may have been committed before the failure was reported. " ++
        "Retry only after confirming the change is absent."))
  | .conflict conflictingRevision => .failed (baseRevisionConflict input conflictingRevision)
  | .rejected message issues => .failed (storeRejection message issues)
  | .stored stored =>
    match checkStoredRevision stored artifact.ref plan.registration.schemaVersion with
    | some error => .failed error
    | none => .ok artifact.ref (some stored.ref) plan.application.operations (migration artifact plan)

/-- The registrations that the host listed. -/
def listedKinds (kinds : HostKinds) : Except PatchError (List ArtifactKindRegistration) :=
  match kinds with
  | .listed registrations => .ok registrations
  | .threw message => .error (rejection .hostFailed ("Artifact kind lookup failed: " ++ message)
      "Retry once the kind catalog is reachable.")

/-! ### What a plan went through -/

/-- A payload that meets a registration: its schema, title, part identifiers, and the sources of the
relations. -/
structure MeetsRegistration (env : PatchEnv) (registration : ArtifactKindRegistration)
    (relations : List (Option String)) (data : JsonObject) : Prop where
  schema : ∃ checker, compileArtifactDataChecker env registration = .ok checker ∧ checker data = []
  title : ∃ title, readArtifactTitle data registration.titlePath = .ok title
  partIds : checkArtifactPartIds (registration.addressableParts.getD []) data = []
  relationSources :
    checkArtifactRelationSourceParts (registration.addressableParts.getD []) data relations = []

/-- How a plan came about. -/
structure Planned (env : PatchEnv) (input : PatchRequest) (artifact : ArtifactRevision)
    (registrations : List ArtifactKindRegistration) (plan : PatchPlan) : Prop where
  registered : plan.registration ∈ registrations
  kind : plan.registration.kind = artifact.kind
  version : plan.registration.schemaVersion = input.schemaVersion.getD artifact.schemaVersion
  forward : artifact.schemaVersion ≤ plan.registration.schemaVersion
  applied : applyArtifactPatch env.fuel artifact.data input.patch plan.registration.dataSchema
    (plan.registration.schemaVersion ≠ artifact.schemaVersion) = some (.ok plan.application)
  meets : MeetsRegistration env plan.registration artifact.relations plan.application.data

section Planned

variable {env : PatchEnv} {input : PatchRequest} {artifact : ArtifactRevision}
  {registrations : List ArtifactKindRegistration}
variable {registration : ArtifactKindRegistration}

/-- A payload without rejections meets its registration. -/
lemma meetsRegistration_of_checkPayload {checker : JsonObject → List PatchIssue}
    {relations : List (Option String)} {data : JsonObject}
    (hchecker : compileArtifactDataChecker env registration = .ok checker)
    (h : checkPayload env checker registration relations data = none) :
    MeetsRegistration env registration relations data := by
  rw [checkPayload, Option.or_eq_none_iff, Option.or_eq_none_iff, Option.or_eq_none_iff] at h
  obtain ⟨hschema, htitle, hids, hsources⟩ := h
  refine ⟨⟨checker, hchecker, ?_⟩, ?_, ?_, ?_⟩
  · rw [checkSchema] at hschema
    split_ifs at hschema with hempty
    exact List.isEmpty_iff.mp hempty
  · rw [checkTitle] at htitle
    split at htitle
    · next title h => exact ⟨title, h⟩
    · cases htitle
  · rw [checkPartIds] at hids
    split_ifs at hids with hempty
    exact List.map_eq_nil_iff.mp (List.isEmpty_iff.mp hempty)
  · rw [checkRelationSources] at hsources
    split_ifs at hsources with hempty
    exact List.isEmpty_iff.mp hempty

/-- A resolved registration is one of those listed, for the artifact's kind and the version. -/
lemma resolveRegistration_spec {target : ℕ}
    (h : resolveRegistration registrations artifact target = .ok registration) :
    registration ∈ registrations ∧ registration.kind = artifact.kind ∧
      registration.schemaVersion = target := by
  unfold resolveRegistration at h
  by_cases hempty : (registrations.filter fun c => decide (c.kind = artifact.kind)).isEmpty = true
  · rw [if_pos hempty] at h
    cases h
  · rw [if_neg hempty] at h
    split at h
    · next r hfind =>
      cases h
      obtain ⟨hmem, hkind⟩ := List.mem_filter.mp (List.mem_of_find?_eq_some hfind)
      have hversion := List.find?_some hfind
      exact ⟨hmem, of_decide_eq_true hkind, of_decide_eq_true hversion⟩
    · cases h

/-- The target registration is one of those listed, for the artifact's kind and not older. -/
lemma resolveTargetRegistration_spec
    (h : resolveTargetRegistration input artifact registrations = .ok registration) :
    registration ∈ registrations ∧ registration.kind = artifact.kind ∧
      registration.schemaVersion = input.schemaVersion.getD artifact.schemaVersion ∧
      artifact.schemaVersion ≤ registration.schemaVersion := by
  rw [resolveTargetRegistration] at h
  split_ifs at h with hold
  cases hresolve : resolveRegistration registrations artifact
      (input.schemaVersion.getD artifact.schemaVersion) with
  | error error =>
    rw [hresolve] at h
    cases h
  | ok found =>
    rw [hresolve] at h
    dsimp only [Except.bind] at h
    split_ifs at h
    cases h
    obtain ⟨hmem, hkind, hversion⟩ := resolveRegistration_spec hresolve
    exact ⟨hmem, hkind, hversion, by omega⟩

/-- **What a plan went through.** -/
lemma planned_of_planPatch {plan : PatchPlan}
    (h : planPatch env input artifact registrations = some (.ok plan)) :
    Planned env input artifact registrations plan := by
  rw [planPatch] at h
  split at h
  · cases h
  · next registration hregistration =>
    split at h
    · cases h
    · next checker hchecker =>
      obtain ⟨applied, happlied, h⟩ := Option.map_eq_some_iff.mp h
      cases applied with
      | error error => cases h
      | ok application =>
        dsimp only [Except.bind] at h
        split at h
        · cases h
        · next hpayload =>
          cases h
          obtain ⟨hmem, hkind, hversion, hforward⟩ := resolveTargetRegistration_spec hregistration
          refine ⟨hmem, hkind, hversion, hforward, happlied, ?_⟩
          refine meetsRegistration_of_checkPayload ?_ hpayload
          rw [compileChecker] at hchecker
          split at hchecker
          · next c hc => exact Except.ok.inj hchecker ▸ hc
          · cases hchecker

/-- The revision that is loaded is that of the request. -/
lemma loadBaseRevision_spec {read : HostRead} (h : loadBaseRevision input read = .ok artifact) :
    read = .found artifact ∧ artifact.kind = input.kind ∧ artifact.id = input.id ∧
      artifact.revision = input.baseRevision := by
  unfold loadBaseRevision at h
  split at h
  · cases h
  · cases h
  · next found =>
    split_ifs at h with hidentity hrevision
    cases h
    obtain ⟨hkind, hid⟩ := not_or.mp hidentity
    exact ⟨rfl, not_not.mp hkind, not_not.mp hid, not_not.mp hrevision⟩

end Planned

end Makaio.Artifact

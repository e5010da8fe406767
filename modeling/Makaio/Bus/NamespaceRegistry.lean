import Makaio.Foundations.OrderedMap
import Makaio.Bus.Subject

set_option autoImplicit false

/-!
# The namespace registry

A namespace is registered with the schemas of its subjects, and the wrappers of a schema decide how
the subject may travel: not at all (`localSubject`), into a bus but not through it
(`hostLocalRequest`, `collectorOnlySubject`).  The registry (`registries/namespace-registry.ts`) keeps
one record per full subject key and one set per routing flag.  Of a schema only its routing metadata
is modelled.

The records are overwritten when two namespaces share a full subject key, the sets only grow.

## Main definitions

* `SubjectRoutingMetadata`, `BusNamespaceDefinition` — what is registered.
* `NamespaceRegistry`, `NamespaceRegistry.registerNamespace` — the registry.

## Main results

* `NamespaceRegistry.isHostLocalRequestSubject_foldl` — registration adds host-local
  flags and takes none away.
* `NamespaceRegistry.recordsHostLocal_foldl` — when the records stay in agreement with
  the flags.
-/

namespace Makaio.Bus

open Foundations

/-- Routing metadata flags extracted from a subject schema's wrapper layer. -/
structure SubjectRoutingMetadata where
  /-- The subject was wrapped with `localSubject()`. -/
  isLocal : Bool
  /-- The subject was wrapped with `collectorOnlySubject()`. -/
  collectorOnly : Bool
  /-- The subject was wrapped with `channelSubject()`. -/
  channel : Bool
  /-- The subject was wrapped with `hostLocalRequest()`. -/
  hostLocalRequest : Bool
  /-- Subject-level default transport policy, if any. -/
  defaultTransports : Option TransportRoutingDefault
  deriving DecidableEq

/-- A namespace definition: the routing metadata of its schemas. -/
structure BusNamespaceDefinition where
  name : String
  schemas : OrderedMap String SubjectRoutingMetadata
  /-- Namespace-level default transport policy, if any. -/
  defaultTransports : Option TransportRoutingDefault

/-- The registration record of one subject. -/
structure RegisteredSubject where
  isLocal : Bool
  collectorOnly : Bool
  channel : Bool
  hostLocalRequest : Bool

structure NamespaceRegistry where
  /-- Routing metadata per namespace, compared when a namespace is registered again. -/
  namespaceRoutingMetadata : OrderedMap String (OrderedMap String SubjectRoutingMetadata)
  registeredSubjects : OrderedMap Key RegisteredSubject
  localSubjects : List Key
  collectorOnlySubjects : List Key
  hostLocalRequestSubjects : List Key
  /-- Default transport visibility per full subject key. -/
  defaultTransportsMap : OrderedMap Key TransportRoutingDefault

/-- Comma-separated list of active routing flags. -/
def formatRoutingMetadata (metadata : SubjectRoutingMetadata) : String :=
  let flags := (if metadata.isLocal then ["local"] else []) ++
    (if metadata.collectorOnly then ["collectorOnly"] else []) ++
    (if metadata.channel then ["channel"] else []) ++
    (if metadata.hostLocalRequest then ["hostLocalRequest"] else []) ++
    match metadata.defaultTransports with
    | some .all => ["defaultTransports=all"]
    | some .localOnly => ["defaultTransports=local-only"]
    | none => []
  if flags.length > 0 then ", ".intercalate flags else "(none)"

/-- The subjects on whose routing metadata two registrations of a namespace disagree. -/
def routingMetadataConflicts (existing incoming : OrderedMap String SubjectRoutingMetadata) :
    List String :=
  incoming.entries.filterMap fun e =>
    match existing.get? e.1 with
    | none => none
    | some old =>
      if old = e.2 then none
      else some (e.1 ++ ": existing=[" ++ formatRoutingMetadata old ++ "], incoming=[" ++
        formatRoutingMetadata e.2 ++ "]")

/-- Fail registration when duplicate namespace registrations disagree on routing metadata. -/
def failOnRoutingMetadataCollision (domain : String)
    (existing incoming : OrderedMap String SubjectRoutingMetadata) : Except String Unit :=
  let conflicts := routingMetadataConflicts existing incoming
  if conflicts.length = 0 then .ok ()
  else .error ("[MakaioBus] Namespace '" ++ domain ++
    "' already registered with different routing metadata. " ++
    "Routing metadata must be identical across registrations because it determines " ++
    "security-critical transport behavior. Conflicts: " ++ "; ".intercalate conflicts)

/-- Compare two strings with a case-folded primary order and code-point tie-breaker. -/
def compareStrings (left right : String) : Ordering :=
  (compare left.toLower right.toLower).then (compare left right)

namespace NamespaceRegistry

/-- A registry without namespaces. -/
def empty : NamespaceRegistry := ⟨.empty, .empty, [], [], [], .empty⟩

/-- Register one subject of a namespace. -/
def registerSubject (domain : String) (defaultTransports : Option TransportRoutingDefault)
    (registry : NamespaceRegistry) (entry : String × SubjectRoutingMetadata) :
    NamespaceRegistry :=
  let fullSubjectKey := domain ++ "." ++ entry.1
  let schema := entry.2
  { registry with
    registeredSubjects := registry.registeredSubjects.set fullSubjectKey
      ⟨schema.isLocal, schema.collectorOnly, schema.channel, schema.hostLocalRequest⟩
    localSubjects := if schema.isLocal then registry.localSubjects.insert fullSubjectKey
      else registry.localSubjects
    collectorOnlySubjects :=
      if schema.collectorOnly then registry.collectorOnlySubjects.insert fullSubjectKey
      else registry.collectorOnlySubjects
    hostLocalRequestSubjects :=
      if schema.hostLocalRequest then registry.hostLocalRequestSubjects.insert fullSubjectKey
      else registry.hostLocalRequestSubjects
    defaultTransportsMap :=
      match defaultTransports with
      | some policy => registry.defaultTransportsMap.set fullSubjectKey policy
      | none => registry.defaultTransportsMap }

variable (registry : NamespaceRegistry)

/-- Register a namespace; registering one again changes nothing, and fails if the routing metadata
differs. -/
def registerNamespace (definition : BusNamespaceDefinition) :
    Except String NamespaceRegistry :=
  match registry.namespaceRoutingMetadata.get? definition.name with
  | some existing => do
    failOnRoutingMetadataCollision definition.name existing definition.schemas
    return registry
  | none =>
    .ok (definition.schemas.entries.foldl
      (registerSubject definition.name definition.defaultTransports)
      { registry with
        namespaceRoutingMetadata :=
          registry.namespaceRoutingMetadata.set definition.name definition.schemas })

/-- Whether a subject is local-only. -/
def isLocalSubject (subject : Key) : Bool :=
  registry.localSubjects.contains subject

/-- Whether a subject is collector-only. -/
def isCollectorOnlySubject (subject : Key) : Bool :=
  registry.collectorOnlySubjects.contains subject

/-- Whether a subject was registered as a host-local request subject. -/
def isHostLocalRequestSubject (subject : Key) : Bool :=
  registry.hostLocalRequestSubjects.contains subject

/-- The default transport visibility of a subject. -/
def getDefaultTransports (subject : Key) :
    TransportRoutingDefault :=
  (registry.defaultTransportsMap.get? subject).getD .all

/-- All registered subjects, sorted by full subject key. -/
def listRegisteredSubjects : List (Key × RegisteredSubject) :=
  registry.registeredSubjects.entries.insertionSort fun a b => (compareStrings a.1 b.1).isLE

/-! ### Host-local request subjects -/

/-- The records agree with the set: the record of a host-local request subject says so. -/
def RecordsHostLocal : Prop :=
  ∀ subject, registry.isHostLocalRequestSubject subject = true →
    ∃ registered, registry.registeredSubjects.get? subject = some registered ∧
      registered.hostLocalRequest = true

variable {policy : Option TransportRoutingDefault}
variable {domain : String} {subject : Key}

lemma isHostLocalRequestSubject_registerSubject {registry : NamespaceRegistry}
    {entry : String × SubjectRoutingMetadata} :
    (registerSubject domain policy registry entry).isHostLocalRequestSubject subject = true ↔
      registry.isHostLocalRequestSubject subject = true ∨
        entry.2.hostLocalRequest = true ∧ subject = domain ++ "." ++ entry.1 := by
  unfold isHostLocalRequestSubject registerSubject
  dsimp only
  rw [List.contains_iff_mem, List.contains_iff_mem]
  split_ifs with h
  · rw [List.mem_insert_iff]
    simp [h, or_comm]
  · simp [h]

/-- Registering subjects adds their host-local flags, and takes none away. -/
lemma isHostLocalRequestSubject_foldl (entries : List (String × SubjectRoutingMetadata)) :
    ∀ {registry : NamespaceRegistry},
      (entries.foldl (registerSubject domain policy) registry).isHostLocalRequestSubject subject =
          true ↔
        registry.isHostLocalRequestSubject subject = true ∨
          ∃ entry ∈ entries, entry.2.hostLocalRequest = true ∧
            subject = domain ++ "." ++ entry.1 := by
  induction entries with
  | nil => intro registry; simp
  | cons entry entries ih =>
    intro registry
    rw [List.foldl_cons, ih, isHostLocalRequestSubject_registerSubject]
    simp only [List.mem_cons, exists_eq_or_imp, or_assoc]

/-- Subjects of a namespace have distinct full keys. -/
private lemma fullSubject_inj {a b : String} (h : domain ++ "." ++ a = domain ++ "." ++ b) :
    a = b := by
  have hlist := congrArg String.toList h
  simp only [String.toList_append, List.append_cancel_left_eq] at hlist
  exact String.toList_inj.mp hlist

/-- Registering subjects keeps the records in agreement, if none of them redeclares a host-local
request subject without the flag.

**Proof sketch.** Induction on the subjects.  A host-local subject has just been recorded, or it is
not the one that was; and the subjects of one namespace have distinct keys, so that none redeclares
an earlier one. -/
lemma recordsHostLocal_foldl {entries : List (String × SubjectRoutingMetadata)}
    (hnodup : (entries.map Prod.fst).Nodup) :
    ∀ {registry : NamespaceRegistry}, registry.RecordsHostLocal →
      (∀ entry ∈ entries, entry.2.hostLocalRequest = false →
        registry.isHostLocalRequestSubject (domain ++ "." ++ entry.1) = false) →
      (entries.foldl (registerSubject domain policy) registry).RecordsHostLocal := by
  induction entries with
  | nil => exact fun h _ => h
  | cons entry entries ih =>
    intro registry hrecords hok
    obtain ⟨hfresh, hnodup⟩ := List.nodup_cons.mp hnodup
    refine ih hnodup ?_ ?_
    · intro subject hhost
      show ∃ registered, (registry.registeredSubjects.set (domain ++ "." ++ entry.1) _).get? subject =
        some registered ∧ _
      rw [OrderedMap.get?_set]
      by_cases hsubject : subject = domain ++ "." ++ entry.1
      · refine ⟨_, if_pos hsubject, ?_⟩
        rcases isHostLocalRequestSubject_registerSubject.mp hhost with h | h
        · by_contra hflag
          have hnot := hok entry (by simp) (Bool.eq_false_iff.mpr hflag)
          rw [← hsubject, h] at hnot
          cases hnot
        · exact h.1
      · rw [if_neg hsubject]
        rcases isHostLocalRequestSubject_registerSubject.mp hhost with h | h
        · exact hrecords subject h
        · exact absurd h.2 hsubject
    · intro other hother hflag
      refine Bool.eq_false_iff.mpr fun hhost => ?_
      rcases isHostLocalRequestSubject_registerSubject.mp hhost with h | h
      · rw [hok other (by simp [hother]) hflag] at h
        cases h
      · exact hfresh (List.mem_map.mpr ⟨other, hother, fullSubject_inj h.2⟩)

/-- What a successful registration does: nothing, or it adds the subjects of a new namespace. -/
lemma registerNamespace_cases {registry registry' : NamespaceRegistry}
    {definition : BusNamespaceDefinition} (h : registry.registerNamespace definition = .ok registry') :
    registry' = registry ∨
      registry.namespaceRoutingMetadata.get? definition.name = none ∧
      registry' = definition.schemas.entries.foldl
        (registerSubject definition.name definition.defaultTransports)
        { registry with
          namespaceRoutingMetadata :=
            registry.namespaceRoutingMetadata.set definition.name definition.schemas } := by
  unfold registerNamespace at h
  split at h
  · left
    rename_i existing _
    cases hcollision : failOnRoutingMetadataCollision definition.name existing
        definition.schemas with
    | error message =>
      rw [hcollision] at h
      exact absurd h (by simp [bind, Except.bind])
    | ok =>
      rw [hcollision] at h
      exact (Except.ok.inj h).symm
  · rename_i hnone
    exact Or.inr ⟨hnone, (Except.ok.inj h).symm⟩

end NamespaceRegistry

end Makaio.Bus

import Makaio.Artifact.PatchArtifact
import Makaio.Foundations.JsonText

set_option autoImplicit false

/-!
# Hydration of an artifact context

The wire payload of a resolved context is flat: the edges that were walked, and a pool of the revisions that
were found.  Hydration builds the tree of the context from it.  The edges may form cycles; a branch ends where
it would come back to one of its own revisions, and it can not grow longer than the pool.

## Main definitions

* `ResolvedArtifactContextWire` — the payloads that the schema accepts.
* `hydrateArtifactContextTree`, `flatten` — the tree, and its revisions.
* `Hydrates` — a node is what an edge gives below some revisions.

## Main results

* `hydrate_faithful` — hydration does not fail, loses no edge, and repeats no revision on a
  branch.
-/

namespace Makaio.Artifact

open Foundations

/-! ### The wire payload -/

/-- `ArtifactRelationTarget`. -/
inductive ArtifactRelationTarget
  | artifact (ref : ArtifactRef)
  | localRef (artifact : ArtifactRef) (localId : String)
  | evidence (kind id : String) (revision locator : Option String)
  | entity (entityType id : String)

inductive ArtifactContextUnresolvedReason
  | notSelected
  | notFound
  | depthExceeded
  | unsupportedRefClass
  | cycleDetected

inductive ArtifactContextRelationDirection
  | outbound
  | inbound

/-- What an edge tells about its relation. -/
structure ArtifactContextRelation where
  relationType : String
  sourceLocalId : Option String
  direction : Option ArtifactContextRelationDirection
  hint : String

/-- `ArtifactContextRefEntry`: an edge that was walked, with its status. -/
structure ArtifactContextRefEntry extends ArtifactContextRelation where
  target : ArtifactRelationTarget
  sourceRef : ArtifactRef
  resolved : Bool
  reason : Option ArtifactContextUnresolvedReason

/-- A payload before its checks. -/
structure ContextPayload where
  rootRef : ArtifactRef
  refs : List ArtifactContextRefEntry
  resolved : List ArtifactRevision

variable (format : NumberFormat)

/-- `artifactRevisionKey`. -/
def artifactRevisionKey (ref : ArtifactRef) : List Char :=
  Json.print format (.arr [.str ref.kind, .str ref.id, .str ref.revision])

/-- The keys of the pool. -/
def ContextPayload.keys (wire : ContextPayload) : List (List Char) :=
  wire.resolved.map fun artifact => artifactRevisionKey format artifact.ref

/-- The checks on an entry, those of its own schema and those of the payload: a reason exactly if it is not
resolved, a source in the pool, and for a resolved entry a target in the pool. -/
def ContextPayload.acceptsEntry (wire : ContextPayload) (entry : ArtifactContextRefEntry) : Bool :=
  (wire.keys format).contains (artifactRevisionKey format entry.sourceRef) &&
    entry.reason.isSome = !entry.resolved &&
    match entry.resolved, entry.target with
    | true, .artifact ref => (wire.keys format).contains (artifactRevisionKey format ref)
    | true, _ => false
    | false, _ => true

/-- Whether `ResolvedArtifactContextWireSchema` accepts a payload. -/
def ContextPayload.accepts (wire : ContextPayload) : Bool :=
  (wire.keys format).contains (artifactRevisionKey format wire.rootRef) &&
    wire.refs.all (wire.acceptsEntry format)

/-- `ResolvedArtifactContextWire`: a payload that the schema accepts. -/
structure ResolvedArtifactContextWire extends ContextPayload where
  accepted : toContextPayload.accepts format = true

/-! ### The tree -/

/-- A node; the root has no relation. -/
inductive ArtifactContextNode
  | resolved (ref : ArtifactRef) (artifact : ArtifactRevision) (relation : Option ArtifactContextRelation)
      (hint : String) (children : List ArtifactContextNode)
  | unresolved (target : ArtifactRelationTarget) (relation : ArtifactContextRelation)
      (reason : Option ArtifactContextUnresolvedReason)

section Build

variable (wire : ContextPayload)

/-- `artifactByKey`: of two revisions with one key the later one. -/
def ContextPayload.artifactByKey (key : List Char) : Option ArtifactRevision :=
  wire.resolved.reverse.find? fun artifact => artifactRevisionKey format artifact.ref = key

/-- `refsBySource`: the entries of a source, in their order. -/
def ContextPayload.refsBySource (key : List Char) : List ArtifactContextRefEntry :=
  wire.refs.filter fun entry => artifactRevisionKey format entry.sourceRef = key

variable {format wire} in
theorem mem_keys_of_artifactByKey {key : List Char} {artifact : ArtifactRevision}
    (h : wire.artifactByKey format key = some artifact) : key ∈ wire.keys format :=
  List.mem_map.mpr ⟨artifact, List.mem_reverse.mp (List.mem_of_find?_eq_some h),
    by simpa using List.find?_some h⟩

/-- A key of the pool that joins the path leaves fewer of them. -/
theorem card_sdiff_cons_lt {keys path : List (List Char)} {key : List Char} (hkey : key ∈ keys)
    (hpath : key ∉ path) :
    (keys.toFinset \ (key :: path).toFinset).card < (keys.toFinset \ path.toFinset).card := by
  refine Finset.card_lt_card ⟨fun k hk => ?_, fun hsub => ?_⟩
  · simp only [Finset.mem_sdiff, List.mem_toFinset, List.mem_cons, not_or] at hk ⊢
    exact ⟨hk.1, hk.2.2⟩
  · have := hsub (Finset.mem_sdiff.mpr ⟨List.mem_toFinset.mpr hkey, by simpa using hpath⟩)
    simp at this

/-- `buildChildren`, with `buildResolvedNode` in it: the children of a revision below the keys of a path. -/
def buildChildren (sourceRef : ArtifactRef) (path : List (List Char)) :
    Except String (List ArtifactContextNode) :=
  (wire.refsBySource format (artifactRevisionKey format sourceRef)).mapM fun entry =>
    if entry.resolved = false then
      .ok (.unresolved entry.target entry.toArtifactContextRelation entry.reason)
    else
      match entry.target with
      | .artifact ref =>
        match hget : wire.artifactByKey format (artifactRevisionKey format ref) with
        | none =>
          .error ("Resolved artifact context is missing target artifact '" ++
            String.ofList (artifactRevisionKey format ref) ++ "'")
        | some artifact =>
          if hpath : artifactRevisionKey format ref ∈ path then
            .ok (.unresolved entry.target entry.toArtifactContextRelation (some .cycleDetected))
          else do
            let children ← buildChildren ref (artifactRevisionKey format ref :: path)
            .ok (.resolved ref artifact (some entry.toArtifactContextRelation) entry.hint children)
      | _ => .error "Resolved artifact context refs must target an artifact revision"
termination_by ((wire.keys format).toFinset \ path.toFinset).card
decreasing_by exact card_sdiff_cons_lt (mem_keys_of_artifactByKey hget) hpath

/-- `hydrateArtifactContextTree`: the root, after the schema has been applied to the payload once more. -/
def hydrateArtifactContextTree : Except String ArtifactContextNode :=
  if wire.accepts format = false then .error "ZodError"
  else
    match wire.artifactByKey format (artifactRevisionKey format wire.rootRef) with
    | none =>
      .error ("Resolved artifact context is missing root artifact '" ++
        String.ofList (artifactRevisionKey format wire.rootRef) ++ "'")
    | some artifact => do
      let children ← buildChildren format wire wire.rootRef [artifactRevisionKey format wire.rootRef]
      .ok (.resolved wire.rootRef artifact none "inline" children)

mutual

/-- `collectResolved`. -/
def collectResolved (artifacts : List ArtifactRevision) : ArtifactContextNode → List ArtifactRevision
  | .unresolved _ _ _ => artifacts
  | .resolved _ artifact _ _ children => collectChildren (artifacts ++ [artifact]) children

/-- The loop of `collectResolved`. -/
def collectChildren (artifacts : List ArtifactRevision) : List ArtifactContextNode → List ArtifactRevision
  | [] => artifacts
  | child :: children => collectChildren (collectResolved artifacts child) children

end

/-- `flatten`. -/
def flatten (root : ArtifactContextNode) : List ArtifactRevision := collectResolved [] root

end Build

/-! ### What a tree shows -/

section Shows

variable (wire : ContextPayload)

/-- The entries that start at a revision. -/
def ContextPayload.entriesOf (ref : ArtifactRef) : List ArtifactContextRefEntry :=
  wire.refs.filter fun entry => entry.sourceRef = ref

/-- A revision of the pool under its own reference. -/
def ContextPayload.Holds (ref : ArtifactRef) (artifact : ArtifactRevision) : Prop :=
  artifact ∈ wire.resolved ∧ artifact.ref = ref

mutual

/-- The node that an edge gives below the revisions of a path. -/
inductive Hydrates : List ArtifactRef → ArtifactContextRefEntry → ArtifactContextNode → Prop
  | unresolved {path : List ArtifactRef} {entry : ArtifactContextRefEntry} (h : entry.resolved = false)
      (hreason : entry.reason.isSome = true) :
      Hydrates path entry (.unresolved entry.target entry.toArtifactContextRelation entry.reason)
  | cycle {path : List ArtifactRef} {entry : ArtifactContextRefEntry} {ref : ArtifactRef}
      (h : entry.resolved = true) (htarget : entry.target = .artifact ref) (hpath : ref ∈ path) :
      Hydrates path entry
        (.unresolved entry.target entry.toArtifactContextRelation (some .cycleDetected))
  | resolved {path : List ArtifactRef} {entry : ArtifactContextRefEntry} {ref : ArtifactRef}
      {artifact : ArtifactRevision} {children : List ArtifactContextNode} (h : entry.resolved = true)
      (htarget : entry.target = .artifact ref) (hpath : ref ∉ path) (hartifact : wire.Holds ref artifact)
      (hchildren : HydratesAll (ref :: path) (wire.entriesOf ref) children) :
      Hydrates path entry
        (.resolved ref artifact (some entry.toArtifactContextRelation) entry.hint children)

/-- The children that edges give, one for each in their order. -/
inductive HydratesAll :
    List ArtifactRef → List ArtifactContextRefEntry → List ArtifactContextNode → Prop
  | nil {path : List ArtifactRef} : HydratesAll path [] []
  | cons {path : List ArtifactRef} {entry : ArtifactContextRefEntry} {entries : List ArtifactContextRefEntry}
      {child : ArtifactContextNode} {children : List ArtifactContextNode} (h : Hydrates path entry child)
      (hrest : HydratesAll path entries children) :
      HydratesAll path (entry :: entries) (child :: children)

end

/-- The revisions of resolved nodes on a way down from a node. -/
inductive Branch : ArtifactContextNode → List ArtifactRef → Prop
  | here {ref : ArtifactRef} {artifact : ArtifactRevision} {relation : Option ArtifactContextRelation}
      {hint : String} {children : List ArtifactContextNode} :
      Branch (.resolved ref artifact relation hint children) [ref]
  | step {ref : ArtifactRef} {artifact : ArtifactRevision} {relation : Option ArtifactContextRelation}
      {hint : String} {children : List ArtifactContextNode} {child : ArtifactContextNode}
      {refs : List ArtifactRef} (hchild : child ∈ children) (h : Branch child refs) :
      Branch (.resolved ref artifact relation hint children) (ref :: refs)

mutual

/-- The revisions of a tree, depth first. -/
def depthFirst : ArtifactContextNode → List ArtifactRevision
  | .unresolved _ _ _ => []
  | .resolved _ artifact _ _ children => artifact :: depthFirstAll children

/-- The revisions of trees, one after the other. -/
def depthFirstAll : List ArtifactContextNode → List ArtifactRevision
  | [] => []
  | child :: children => depthFirst child ++ depthFirstAll children

end

mutual

theorem collectResolved_eq (artifacts : List ArtifactRevision) :
    ∀ node, collectResolved artifacts node = artifacts ++ depthFirst node
  | .unresolved _ _ _ => by simp [collectResolved, depthFirst]
  | .resolved _ artifact _ _ children => by
    rw [collectResolved, collectChildren_eq, depthFirst, List.append_assoc, List.singleton_append]

theorem collectChildren_eq (artifacts : List ArtifactRevision) :
    ∀ children, collectChildren artifacts children = artifacts ++ depthFirstAll children
  | [] => by simp [collectChildren, depthFirstAll]
  | child :: children => by
    rw [collectChildren, collectResolved_eq, collectChildren_eq, depthFirstAll, List.append_assoc]

end

variable {wire}

theorem HydratesAll.exists_of_mem {path : List ArtifactRef} {entries : List ArtifactContextRefEntry}
    {children : List ArtifactContextNode} (h : HydratesAll wire path entries children)
    {child : ArtifactContextNode} (hchild : child ∈ children) : ∃ entry, Hydrates wire path entry child := by
  induction children generalizing entries with
  | nil => cases hchild
  | cons first children ih =>
    rcases h with _ | ⟨h, hrest⟩
    rcases List.mem_cons.mp hchild with rfl | hchild
    · exact ⟨_, h⟩
    · exact ih hrest hchild

/-- On a way down from a node no revision comes twice, and none is on the path above it. -/
theorem Branch.nodup {path : List ArtifactRef} {entry : ArtifactContextRefEntry}
    {node : ArtifactContextNode} {refs : List ArtifactRef} (hb : Branch node refs)
    (h : Hydrates wire path entry node) : refs.Nodup ∧ refs.Disjoint path := by
  induction hb generalizing path entry with
  | here =>
    obtain _ | _ | ⟨-, -, hpath, -, -⟩ := h
    exact ⟨List.nodup_singleton _, List.singleton_disjoint.mpr hpath⟩
  | step hchild _ ih =>
    obtain _ | _ | ⟨-, -, hpath, -, hchildren⟩ := h
    obtain ⟨entry, hentry⟩ := hchildren.exists_of_mem hchild
    obtain ⟨hnodup, hdisjoint⟩ := ih hentry
    obtain ⟨href, hrefs⟩ := List.disjoint_cons_right.mp hdisjoint
    exact ⟨List.nodup_cons.mpr ⟨href, hnodup⟩, List.disjoint_cons_left.mpr ⟨hpath, hrefs⟩⟩

/-- Edges that give a node each give the children. -/
theorem exists_mapM {path : List ArtifactRef} {entries : List ArtifactContextRefEntry}
    {f : ArtifactContextRefEntry → Except String ArtifactContextNode}
    (h : ∀ entry ∈ entries, ∃ child, f entry = .ok child ∧ Hydrates wire path entry child) :
    ∃ children, entries.mapM f = .ok children ∧ HydratesAll wire path entries children := by
  induction entries with
  | nil => exact ⟨[], rfl, .nil⟩
  | cons entry entries ih =>
    obtain ⟨child, hchild, hentry⟩ := h entry List.mem_cons_self
    obtain ⟨children, hchildren, hentries⟩ := ih fun e he => h e (List.mem_cons_of_mem _ he)
    exact ⟨child :: children, by rw [List.mapM_cons, hchild, hchildren]; rfl, .cons hentry hentries⟩

end Shows

/-! ### Hydration -/

section Hydration

variable {format}

theorem artifactRevisionKey_injective : Function.Injective (artifactRevisionKey format) := by
  rintro ⟨kind, id, revision⟩ ⟨kind', id', revision'⟩ h
  have hread := congrArg (Json.parse format) h
  simpa [artifactRevisionKey, Json.parse_print, Json.normalize, Json.normalizeElements] using hread

theorem refsBySource_key (wire : ContextPayload) (ref : ArtifactRef) :
    wire.refsBySource format (artifactRevisionKey format ref) = wire.entriesOf ref :=
  List.filter_congr fun entry _ => by simp [artifactRevisionKey_injective.eq_iff]

/-- A key of the pool is that of a revision. -/
theorem exists_artifactByKey {wire : ContextPayload} {ref : ArtifactRef}
    (h : (wire.keys format).contains (artifactRevisionKey format ref) = true) :
    ∃ artifact, wire.artifactByKey format (artifactRevisionKey format ref) = some artifact ∧
      wire.Holds ref artifact := by
  obtain ⟨artifact, hmem, hkey⟩ := List.mem_map.mp (List.contains_iff_mem.mp h)
  cases hget : wire.artifactByKey format (artifactRevisionKey format ref) with
  | none =>
    have hno := List.find?_eq_none.mp hget artifact (List.mem_reverse.mpr hmem)
    exact absurd hkey (by simpa using hno)
  | some found =>
    have hfound := List.find?_some hget
    exact ⟨found, rfl, List.mem_reverse.mp (List.mem_of_find?_eq_some hget),
      artifactRevisionKey_injective (by simpa using hfound)⟩

/-- The children of a revision are built, and are what its edges give. -/
theorem exists_buildChildren (wire : ResolvedArtifactContextWire format) (sourceRef : ArtifactRef)
    (path : List ArtifactRef) : ∃ children,
      buildChildren format wire.toContextPayload sourceRef (path.map (artifactRevisionKey format)) =
        .ok children ∧
      HydratesAll wire.toContextPayload path (wire.entriesOf sourceRef) children := by
  induction hn : ((wire.keys format).toFinset \
      (path.map (artifactRevisionKey format)).toFinset).card using Nat.strong_induction_on
    generalizing sourceRef path with
  | _ n ih =>
    rw [buildChildren, refsBySource_key]
    refine exists_mapM fun entry hentry => ?_
    have haccepted := List.all_eq_true.mp (Bool.and_eq_true_iff.mp wire.accepted).2 entry
      (List.mem_of_mem_filter hentry)
    simp only [ContextPayload.acceptsEntry, Bool.and_eq_true, decide_eq_true_eq] at haccepted
    obtain ⟨⟨-, hreason⟩, htarget⟩ := haccepted
    cases hresolved : entry.resolved with
    | false => exact ⟨_, if_pos rfl, .unresolved hresolved (by simpa [hresolved] using hreason)⟩
    | true =>
      rw [if_neg (by simp)]
      rw [hresolved] at htarget
      cases hentryTarget : entry.target with
      | artifact ref =>
        rw [hentryTarget] at htarget
        obtain ⟨artifact, hget, hartifact⟩ := exists_artifactByKey htarget
        have hpath : artifactRevisionKey format ref ∈ path.map (artifactRevisionKey format) ↔ ref ∈ path :=
          List.mem_map_of_injective artifactRevisionKey_injective
        dsimp only
        split
        · rename_i hnone
          cases hget.symm.trans hnone
        · rename_i found hfound
          cases hget.symm.trans hfound
          split_ifs with hmem
          · exact ⟨_, rfl, hentryTarget ▸ .cycle hresolved hentryTarget (hpath.mp hmem)⟩
          · obtain ⟨children, hbuild, hchildren⟩ := ih _
              (hn ▸ card_sdiff_cons_lt (mem_keys_of_artifactByKey hget) hmem) ref (ref :: path) rfl
            rw [List.map_cons] at hbuild
            exact ⟨_, by rw [hbuild]; rfl,
              .resolved hresolved hentryTarget (fun h => hmem (hpath.mpr h)) hartifact hchildren⟩
      | localRef _ _ | evidence _ _ _ _ | entity _ _ =>
        rw [hentryTarget] at htarget
        cases htarget

/-- **Hydration of an accepted payload does not fail.**  The root is the revision that the payload names; its
children, and those of every resolved node below it, are what the edges of the revision give, one each and in
their order; on no way down does a revision come twice; and `flatten` lists the tree depth first. -/
theorem hydrate_faithful (wire : ResolvedArtifactContextWire format) : ∃ artifact children,
    hydrateArtifactContextTree format wire.toContextPayload =
      .ok (.resolved wire.rootRef artifact none "inline" children) ∧
    wire.Holds wire.rootRef artifact ∧
    HydratesAll wire.toContextPayload [wire.rootRef] (wire.entriesOf wire.rootRef) children ∧
    (∀ refs, Branch (.resolved wire.rootRef artifact none "inline" children) refs → refs.Nodup) ∧
    flatten (.resolved wire.rootRef artifact none "inline" children) =
      artifact :: depthFirstAll children := by
  obtain ⟨artifact, hget, hartifact⟩ := exists_artifactByKey (Bool.and_eq_true_iff.mp wire.accepted).1
  obtain ⟨children, hbuild, hchildren⟩ := exists_buildChildren wire wire.rootRef [wire.rootRef]
  refine ⟨artifact, children, ?_, hartifact, hchildren, fun refs hrefs => ?_, ?_⟩
  · rw [hydrateArtifactContextTree, if_neg (by simp [wire.accepted]), hget]
    rw [show [artifactRevisionKey format wire.rootRef] = [wire.rootRef].map _ from rfl, hbuild]
    rfl
  · cases hrefs with
    | here => exact List.nodup_singleton _
    | step hchild h =>
      obtain ⟨entry, hentry⟩ := hchildren.exists_of_mem hchild
      obtain ⟨hnodup, hdisjoint⟩ := h.nodup hentry
      exact List.nodup_cons.mpr ⟨(List.disjoint_cons_right.mp hdisjoint).1, hnodup⟩
  · rw [flatten, collectResolved_eq, depthFirst, List.nil_append]

end Hydration

/-! ### A cycle -/

/-- A revision of a document. -/
def document (id : String) : ArtifactRevision := ⟨"doc", id, "1", 1, [], [], none⟩

/-- A resolved reference between two documents. -/
def citation (source target : String) : ArtifactContextRefEntry where
  relationType := "cites"
  sourceLocalId := none
  direction := none
  hint := "inline"
  target := .artifact (document target).ref
  sourceRef := (document source).ref
  resolved := true
  reason := none

/-- Two documents: the first refers to the second twice, and the second back to it. -/
def citingDocuments : ResolvedArtifactContextWire .plain where
  rootRef := (document "a").ref
  refs := [citation "a" "b", citation "b" "a", citation "a" "b"]
  resolved := [document "a", document "b"]
  accepted := by decide

/-- **The cycle ends and the doubled edge stays**: the root has a child for each of the two edges, and no way
down repeats a document. -/
theorem hydrate_faithful_cycle : ∃ artifact children,
    hydrateArtifactContextTree .plain citingDocuments.toContextPayload =
      .ok (.resolved (document "a").ref artifact none "inline" children) ∧
    HydratesAll citingDocuments.toContextPayload [(document "a").ref]
      [citation "a" "b", citation "a" "b"] children ∧
    ∀ refs, Branch (.resolved (document "a").ref artifact none "inline" children) refs → refs.Nodup := by
  obtain ⟨artifact, children, hok, -, hchildren, hbranch, -⟩ := hydrate_faithful citingDocuments
  exact ⟨artifact, children, hok, hchildren, hbranch⟩

end Makaio.Artifact

import Makaio.Artifact.KindParts
import Mathlib.Data.List.Induction

set_option autoImplicit false

/-!
# Writing and resolving parts

Whoever writes a revision checks the identifiers of its parts (`checkArtifactPartIds`); whoever reads one looks a part
up by its identifier (`resolveArtifactPart`).  The two traverse the payload on their own.

## Main definitions

* `resolveArtifactPart` — the lookup of a part.
* `parts` — the parts of a payload, which both traversals are about.

## Main results

* `partIds_checked_iff` — the check accepts the payloads whose parts all resolve to themselves.
-/

namespace Makaio.Artifact

open Foundations Json JsonSchema

def resolveArtifactPart (areas : List ArtifactPartArea) (data : SchemaObject) (localId : String) :
    ArtifactPartResolution :=
  match indexArtifactParts areas data with
  | none => .rejected .noPartsDeclared
  | some index => ((index.find? fun m => m.1 = localId).map Prod.snd).getD (.rejected .partNotFound)

/-! ### The parts of a payload -/

/-- A part: its identifier, the path of its area, and the element. -/
structure Part where
  id : String
  areaPath : String
  payload : SchemaObject

/-- The part that an element is, if its identifier is a string. -/
def part? (area : ArtifactPartArea) (element : Json) : Option Part :=
  match element, follow area.idPath.segments element with
  | obj payload, some (str id) => some ⟨id, area.path.text, payload⟩
  | _, _ => none

/-- The elements of an area; there are none if it is absent, or no array. -/
def areaElements (data : SchemaObject) (area : ArtifactPartArea) : List Json :=
  match follow area.path.segments (obj data) with
  | some (arr elements) => elements
  | _ => []

/-- The parts of a payload, in the order in which they are visited. -/
def parts (areas : List ArtifactPartArea) (data : SchemaObject) : List Part :=
  areas.flatMap fun area => (areaElements data area).filterMap (part? area)

/-- A present area is an array of objects whose identifiers are strings that are not blank. -/
def Identified (data : SchemaObject) (area : ArtifactPartArea) : Prop :=
  ∀ value, follow area.path.segments (obj data) = some value → ∃ elements, value = arr elements ∧
    ∀ element ∈ elements, ∃ payload id, element = obj payload ∧
      follow area.idPath.segments element = some (str id) ∧ isBlank id = false

variable {areas : List ArtifactPartArea} {data : SchemaObject} {area : ArtifactPartArea} {element : Json}

/-- The identifier that is read of an element is that of its part, and not blank. -/
lemma readLocalId_eq_ok_iff {id : String} :
    readLocalId area element = .ok id ↔ ∃ payload, element = obj payload ∧
      follow area.idPath.segments element = some (str id) ∧ isBlank id = false := by
  cases element with
  | obj payload =>
    simp only [readLocalId]
    cases hread : follow area.idPath.segments (obj payload) with
    | none => simp
    | some value =>
      cases value with
      | str rawId =>
        cases hblank : isBlank rawId
        · simpa [hblank] using fun h : rawId = id => h ▸ hblank
        · simpa [hblank] using fun h : rawId = id => h ▸ hblank
      | _ => simp
  | _ => simp [readLocalId]

/-- An element with an identifier is a part. -/
lemma part?_of_readLocalId {id : String} (h : readLocalId area element = .ok id) :
    ∃ payload, element = obj payload ∧ part? area element = some ⟨id, area.path.text, payload⟩ := by
  obtain ⟨payload, rfl, hread, -⟩ := readLocalId_eq_ok_iff.mp h
  exact ⟨payload, rfl, by simp [part?, hread]⟩

/-! ### Reading -/

variable (index : List (String × ArtifactPartResolution))

/-- Add a part to the index. -/
def indexPart (part : Part) : List (String × ArtifactPartResolution) :=
  if index.any fun m => m.1 = part.id then
    index.map fun m => if m.1 = part.id then (part.id, .rejected .duplicateLocalId) else m
  else index ++ [(part.id, .part part.areaPath part.payload)]

lemma indexArtifactParts_eq (hareas : areas ≠ []) :
    indexArtifactParts areas data = some ((parts areas data).foldl indexPart []) := by
  have helement : ∀ area index element, indexElement area index element =
      ((part? area element).map (indexPart index)).getD index := by
    intro area index element
    cases element with
    | obj payload =>
      simp only [indexElement, part?]
      cases follow area.idPath.segments (obj payload) with
      | none => rfl
      | some value => cases value <;> rfl
    | _ => rfl
  rw [indexArtifactParts, if_neg (by simpa using hareas), parts, List.foldl_flatMap]
  congr 2
  funext index area
  have hfold : ∀ elements : List Json, elements.foldl (indexElement area) index =
      (elements.filterMap (part? area)).foldl indexPart index := by
    intro elements
    rw [List.foldl_filterMap]
    congr 1
    funext index element
    rw [helement]
    cases part? area element <;> rfl
  unfold areaElements
  cases follow area.path.segments (obj data) with
  | none => rfl
  | some value =>
    cases value with
    | arr elements => exact hfold elements
    | _ => rfl

/-- What is stored under a key is replaced. -/
private lemma find?_replace (key id : String) (resolution : ArtifactPartResolution) :
    ((index.map fun m => if m.1 = key then (key, resolution) else m).find? fun m => m.1 = id).map Prod.snd =
      (index.find? fun m => m.1 = id).map fun m => if key = id then resolution else m.2 := by
  induction index with
  | nil => rfl
  | cons m index ih =>
    by_cases hm : m.1 = key
    · by_cases hid : key = id
      · simp [hm, hid]
      · simpa [hm, hid] using ih
    · by_cases hid : m.1 = id
      · simp [hid, hid ▸ hm, Ne.symm (hid ▸ hm)]
      · simpa [hm, hid] using ih

/-- What the index says of an identifier. -/
lemma find?_indexPart (part : Part) (id : String) :
    ((indexPart index part).find? fun m => m.1 = id).map Prod.snd =
      if part.id = id then
        if (index.find? fun m => m.1 = id).isSome then some (.rejected .duplicateLocalId)
        else some (.part part.areaPath part.payload)
      else (index.find? fun m => m.1 = id).map Prod.snd := by
  unfold indexPart
  rw [← List.isSome_find?, apply_ite (fun l => (List.find? (fun m => decide (m.1 = id)) l).map Prod.snd),
    find?_replace, List.find?_append]
  by_cases hid : part.id = id
  · subst hid
    cases hfind : index.find? fun m => m.1 = part.id <;> simp
  · cases hfind : index.find? fun m => m.1 = id <;> simp [hid]

/-- **What the index says of an identifier**: nothing, its only part, or that it is ambiguous. -/
theorem find?_foldl_indexPart (list : List Part) (id : String) :
    ((list.foldl indexPart []).find? fun m => m.1 = id).map Prod.snd =
      match list.filter fun part => part.id = id with
      | [] => none
      | [part] => some (.part part.areaPath part.payload)
      | _ => some (.rejected .duplicateLocalId) := by
  induction list using List.reverseRecOn with
  | nil => rfl
  | append_singleton list part ih =>
    have hsome : ((list.foldl indexPart []).find? fun m => m.1 = id).isSome =
        !(list.filter fun part => part.id = id).isEmpty := by
      rw [← Option.isSome_map, ih]
      split <;> simp_all
    rw [List.foldl_append, List.foldl_cons, List.foldl_nil, find?_indexPart, hsome, ih, List.filter_append]
    generalize list.filter (fun part => part.id = id) = found
    by_cases hid : part.id = id
    · rw [if_pos hid, List.filter_cons_of_pos (by simpa using hid), List.filter_nil]
      rcases found with _ | ⟨p, _ | ⟨q, rest⟩⟩ <;> rfl
    · rw [if_neg hid, List.filter_cons_of_neg (by simpa using hid), List.filter_nil, List.append_nil]

/-- A part resolves to itself exactly if no other one has its identifier. -/
lemma resolveArtifactPart_iff {part : Part} (hmem : part ∈ parts areas data) :
    resolveArtifactPart areas data part.id = .part part.areaPath part.payload ↔
      (parts areas data).countP (fun p => p.id = part.id) = 1 := by
  have hareas : areas ≠ [] := by
    rintro rfl
    cases hmem
  have hfilter : part ∈ (parts areas data).filter fun p => p.id = part.id := List.mem_filter.mpr ⟨hmem, by simp⟩
  rw [resolveArtifactPart, indexArtifactParts_eq hareas]
  dsimp only
  rw [find?_foldl_indexPart, List.countP_eq_length_filter]
  generalize List.filter (fun p => decide (p.id = part.id)) (parts areas data) = found at hfilter ⊢
  rcases found with _ | ⟨p, _ | ⟨q, rest⟩⟩
  · cases hfilter
  · obtain rfl := List.mem_singleton.mp hfilter
    simp
  · simp

/-- The source of a relation is resolved like a part. -/
lemma resolveRelationSource_eq (localId : String) :
    resolveRelationSource areas (indexArtifactParts areas data) localId = resolveArtifactPart areas data localId := by
  rw [resolveRelationSource, resolveArtifactPart]
  by_cases hareas : areas = []
  · subst hareas
    rfl
  · rw [indexArtifactParts_eq hareas, Option.bind_some, if_neg (by simpa using hareas)]
    dsimp only
    split
    · rename_i resolution hfind
      rw [hfind]
      rfl
    · rename_i hfind
      rw [hfind]
      rfl

/-- An identifier that no part has does not resolve. -/
lemma resolveArtifactPart_of_not_mem {localId : String} (h : ∀ part ∈ parts areas data, part.id ≠ localId) :
    ∃ reason, resolveArtifactPart areas data localId = .rejected reason := by
  rw [resolveArtifactPart]
  by_cases hareas : areas = []
  · subst hareas
    exact ⟨_, rfl⟩
  · have hnone : (parts areas data).filter (fun p => p.id = localId) = [] := by simpa using h
    rw [indexArtifactParts_eq hareas]
    dsimp only
    rw [find?_foldl_indexPart, hnone]
    exact ⟨_, rfl⟩

/-! ### Writing -/

/-- The check of an area's elements. -/
lemma checkElementIds_spec (elements : List Json) (index : ℕ) (firstSeen : List (String × String))
    (hseen : (firstSeen.map Prod.fst).Nodup) :
    ((checkElementIds area elements index firstSeen).1 = [] ↔
      (∀ element ∈ elements, ∃ id, readLocalId area element = .ok id) ∧
        (firstSeen.map Prod.fst ++ (elements.filterMap (part? area)).map Part.id).Nodup) ∧
    ((checkElementIds area elements index firstSeen).1 = [] →
      (checkElementIds area elements index firstSeen).2.map Prod.fst =
        firstSeen.map Prod.fst ++ (elements.filterMap (part? area)).map Part.id) := by
  induction elements generalizing index firstSeen with
  | nil => simp [checkElementIds, hseen]
  | cons element elements ih =>
    rw [checkElementIds]
    cases hread : readLocalId area element with
    | error reason => simp [hread]
    | ok id =>
      obtain ⟨payload, rfl, hpart⟩ := part?_of_readLocalId hread
      dsimp only
      cases hfind : firstSeen.find? fun m => m.1 = id with
      | some prior =>
        have hmem : id ∈ firstSeen.map Prod.fst := by
          have hid : prior.1 = id := by simpa using List.find?_some hfind
          exact List.mem_map.mpr ⟨prior, List.mem_of_find?_eq_some hfind, hid⟩
        have hdup : ¬(firstSeen.map Prod.fst ++ ((obj payload :: elements).filterMap (part? area)).map Part.id).Nodup := by
          rw [List.filterMap_cons_some hpart, List.map_cons, List.nodup_append]
          exact fun h => h.2.2 id hmem id List.mem_cons_self rfl
        exact ⟨⟨fun h => absurd h (List.cons_ne_nil _ _), fun h => absurd h.2 hdup⟩,
          fun h => absurd h (List.cons_ne_nil _ _)⟩
      | none =>
        have hnew : ∀ m ∈ firstSeen, m.1 ≠ id := by simpa using List.find?_eq_none.mp hfind
        have hseen' : ((firstSeen ++ [(id, area.path.text ++ "." ++ toString index ++ "." ++ area.idPath.text)]).map
            Prod.fst).Nodup := by
          rw [List.map_append, List.nodup_append]
          refine ⟨hseen, by simp, fun a ha b hb => ?_⟩
          obtain ⟨m, hm, rfl⟩ := List.mem_map.mp ha
          obtain rfl : b = id := by simpa using hb
          exact hnew m hm
        obtain ⟨hiff, hkeys⟩ := ih (index + 1) _ hseen'
        have hall : (∀ e ∈ obj payload :: elements, ∃ id, readLocalId area e = .ok id) ↔
            ∀ e ∈ elements, ∃ id, readLocalId area e = .ok id := by simp [hread]
        rw [List.map_append, List.append_assoc] at hiff hkeys
        rw [List.filterMap_cons_some hpart, List.map_cons, hall]
        exact ⟨hiff, hkeys⟩

/-- **The check of the areas**: each is identified, and no identifier is there twice. -/
theorem checkAreaIds_eq_nil_iff (areas : List ArtifactPartArea) (firstSeen : List (String × String))
    (hseen : (firstSeen.map Prod.fst).Nodup) :
    checkAreaIds data areas firstSeen = [] ↔
      (∀ area ∈ areas, Identified data area) ∧ (firstSeen.map Prod.fst ++ (parts areas data).map Part.id).Nodup := by
  induction areas generalizing firstSeen with
  | nil => simp [checkAreaIds, parts, hseen]
  | cons area areas ih =>
    have hparts : parts (area :: areas) data = (areaElements data area).filterMap (part? area) ++ parts areas data :=
      List.flatMap_cons
    rw [checkAreaIds, List.forall_mem_cons, hparts, List.map_append, ← List.append_assoc]
    cases hvalue : follow area.path.segments (obj data) with
    | none => simp [ih firstSeen hseen, areaElements, Identified, hvalue]
    | some value =>
      cases value with
      | arr elements =>
        obtain ⟨hiff, hkeys⟩ := checkElementIds_spec elements 0 firstSeen hseen
        have hidentified : Identified data area ↔ ∀ element ∈ elements, ∃ id, readLocalId area element = .ok id := by
          simp only [Identified, hvalue, Option.some.injEq, readLocalId_eq_ok_iff]
          constructor
          · intro h element hmem
            obtain ⟨_, heq, hall⟩ := h _ rfl
            obtain ⟨payload, id, hid⟩ := hall element (arr.inj heq ▸ hmem)
            exact ⟨id, payload, hid⟩
          · rintro h _ rfl
            refine ⟨elements, rfl, fun element hmem => ?_⟩
            obtain ⟨id, payload, hid⟩ := h element hmem
            exact ⟨payload, id, hid⟩
        have helements : areaElements data area = elements := by rw [areaElements, hvalue]
        rw [List.append_eq_nil_iff, helements, hidentified]
        constructor
        · rintro ⟨hnil, hrest⟩
          obtain ⟨hall, hnodup⟩ := hiff.mp hnil
          rw [← hkeys hnil] at hnodup ⊢
          obtain ⟨hareas, hnodup⟩ := (ih _ hnodup).mp hrest
          exact ⟨⟨hall, hareas⟩, hnodup⟩
        · rintro ⟨⟨hall, hareas⟩, hnodup⟩
          have hnil := hiff.mpr ⟨hall, (List.nodup_append.mp hnodup).1⟩
          rw [← hkeys hnil] at hnodup
          exact ⟨hnil, (ih _ (List.nodup_append.mp hnodup).1).mpr ⟨hareas, hnodup⟩⟩
      | _ => simp [Identified, hvalue]

/-- **The check of the parts and their resolution agree.**  A payload passes the check exactly if every present area is
an array of objects with identifiers, and each of these resolves to that very element of that area.  Then a relation is
accepted exactly if it starts at no part, or at the identifier of one. -/
theorem partIds_checked_iff (areas : List ArtifactPartArea) (data : SchemaObject) :
    (checkArtifactPartIds areas data = [] ↔
      (∀ area ∈ areas, Identified data area) ∧
        ∀ area ∈ areas, ∀ elements, follow area.path.segments (obj data) = some (arr elements) →
          ∀ payload id, obj payload ∈ elements → follow area.idPath.segments (obj payload) = some (str id) →
            resolveArtifactPart areas data id = .part area.path.text payload) ∧
    (checkArtifactPartIds areas data = [] → ∀ relations i,
      (∃ issue ∈ checkArtifactRelationSourceParts areas data relations, issue.relationIndex = i) ↔
        ∃ id, relations[i]? = some (some id) ∧ ¬∃ area ∈ areas, ∃ elements,
          follow area.path.segments (obj data) = some (arr elements) ∧ ∃ element ∈ elements,
            follow area.idPath.segments element = some (str id)) := by
  have hcheck : checkArtifactPartIds areas data = [] ↔
      (∀ area ∈ areas, Identified data area) ∧ ((parts areas data).map Part.id).Nodup :=
    checkAreaIds_eq_nil_iff areas [] List.nodup_nil
  have hunique : ((parts areas data).map Part.id).Nodup ↔
      ∀ part ∈ parts areas data, resolveArtifactPart areas data part.id = .part part.areaPath part.payload := by
    rw [List.nodup_iff_count_eq_one]
    constructor
    · intro h part hmem
      rw [resolveArtifactPart_iff hmem, ← h part.id (List.mem_map_of_mem hmem), List.count, List.countP_map]
      rfl
    · intro h id hid
      obtain ⟨part, hmem, rfl⟩ := List.mem_map.mp hid
      rw [← (resolveArtifactPart_iff hmem).mp (h part hmem), List.count, List.countP_map]
      rfl
  have hmem : ∀ part, part ∈ parts areas data ↔ ∃ area ∈ areas, ∃ elements,
      follow area.path.segments (obj data) = some (arr elements) ∧ obj part.payload ∈ elements ∧
        follow area.idPath.segments (obj part.payload) = some (str part.id) ∧ area.path.text = part.areaPath := by
    intro part
    simp only [parts, List.mem_flatMap, List.mem_filterMap]
    refine exists_congr fun area => and_congr_right fun _ => ?_
    constructor
    · rintro ⟨element, helement, hpart⟩
      unfold areaElements at helement
      split at helement
      · rename_i elements harray
        unfold part? at hpart
        split at hpart
        · rename_i payload id hid
          cases hpart
          exact ⟨elements, harray, helement, hid, rfl⟩
        · cases hpart
      · cases helement
    · rintro ⟨elements, harray, helement, hid, hpath⟩
      refine ⟨obj part.payload, ?_, ?_⟩
      · rwa [areaElements, harray]
      · simp [part?, hid, hpath]
  refine ⟨?_, fun hnil relations i => ?_⟩
  · rw [hcheck, hunique]
    refine and_congr_right fun _ => ⟨fun h area harea elements helements payload id hpayload hid => ?_, fun h part hpart => ?_⟩
    · exact h ⟨id, area.path.text, payload⟩ ((hmem _).mpr ⟨area, harea, elements, helements, hpayload, hid, rfl⟩)
    · obtain ⟨area, harea, elements, helements, hpayload, hid, hpath⟩ := (hmem part).mp hpart
      rw [← hpath]
      exact h area harea elements helements part.payload part.id hpayload hid
  · have hresolve := hunique.mp (hcheck.mp hnil).2
    have hissue : (∃ issue ∈ checkArtifactRelationSourceParts areas data relations, issue.relationIndex = i) ↔
        ∃ id, relations[i]? = some (some id) ∧ ∃ reason, resolveArtifactPart areas data id = .rejected reason := by
      simp only [checkArtifactRelationSourceParts, List.mem_filterMap, Prod.exists, List.mem_zipIdx_iff_getElem?,
        resolveRelationSource_eq]
      constructor
      · rintro ⟨issue, ⟨source, j, hj, hissue⟩, rfl⟩
        cases source with
        | none => cases hissue
        | some id =>
          dsimp only at hissue
          split at hissue
          · cases hissue
          · rename_i reason hreason
            cases hissue
            exact ⟨id, hj, reason, hreason⟩
      · rintro ⟨id, hid, reason, hreason⟩
        exact ⟨⟨i, reason.code⟩, ⟨some id, i, hid, by simp [hreason]⟩, rfl⟩
    rw [hissue]
    refine exists_congr fun id => and_congr_right fun _ => ⟨?_, fun hno => ?_⟩
    · rintro ⟨reason, hreason⟩ ⟨area, harea, elements, harray, element, helement, hid⟩
      obtain ⟨_, heq, hall⟩ := (hcheck.mp hnil).1 area harea _ harray
      obtain ⟨payload, _, rfl, -⟩ := hall element (arr.inj heq ▸ helement)
      have hpart := (hmem ⟨id, area.path.text, payload⟩).mpr ⟨area, harea, elements, harray, helement, hid, rfl⟩
      rw [hresolve _ hpart] at hreason
      cases hreason
    · refine resolveArtifactPart_of_not_mem fun part hpart heq => hno ?_
      obtain ⟨area, harea, elements, harray, helement, hid, -⟩ := (hmem part).mp hpart
      exact ⟨area, harea, elements, harray, _, helement, heq ▸ hid⟩

end Makaio.Artifact

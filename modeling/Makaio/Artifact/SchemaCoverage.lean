import Makaio.Artifact.KindParts

set_option autoImplicit false

/-!
# What a registered schema guarantees

The inspection of a kind's schema approximates what the schema demands: it merges conjuncts, distributes
unions and follows references.  Here it is compared with the constraints of JSON Schema.  Each step of the
inspection goes from a schema that a value meets to schemas that the value, or what it contains, meets.

A reference is a URI fragment, which JSON Schema decodes before the lookup and the inspection does not.  A
reference is faithful when both find the same schema; one without a percent sign is.

## Main definitions

* `Faithful`, `FaithfulWithin` — a faithful reference, and a schema of such references.
* `Describes` — a schema of faithful references that a value meets.

## Main results

* `combineConjuncts_describes` — the combined conjuncts demand no more than the schema does.
* `fieldSchemas_describes` — the fragments at a path describe the value at the path.
* `fieldSchemas_elements` — the same for the elements of an array.
-/

namespace Makaio.Artifact

open Foundations Json JsonSchema

/-! ### References within a schema -/

/-- Every reference within a schema satisfies a predicate. -/
def ReferencesWithin (P : String → Prop) (schema : Json) : Prop :=
  ∀ members ref, Within (obj members) schema → lookup "$ref" members = some (str ref) → P ref

variable {conjuncts elements : List Json} {b : Bool} {branch : SchemaObject}
variable {path : List String} {name : String} {v : Json} {combined combined' : SchemaObject}

section ReferencesWithin

variable {P : String → Prop} {members : SchemaObject} {key : String} {value part : Json}

/-- The references within a part are those of the whole. -/
lemma ReferencesWithin.within (h : ReferencesWithin P value) (hpart : Within part value) :
    ReferencesWithin P part :=
  fun ms ref hms => h ms ref (hms.trans hpart)

/-- The references within a value of an object are those of the object. -/
lemma ReferencesWithin.member (h : ReferencesWithin P (obj members)) (hkey : lookup key members = some value) :
    ReferencesWithin P value :=
  h.within (.member hkey (.refl _))

lemma ReferencesWithin.element (h : ReferencesWithin P (arr elements)) (he : value ∈ elements) :
    ReferencesWithin P value :=
  h.within (.element he (.refl _))

/-- The references within an object are its own and those of its values. -/
lemma referencesWithin_obj (href : ∀ ref, lookup "$ref" members = some (str ref) → P ref)
    (hvalues : ∀ key value, lookup key members = some value → ReferencesWithin P value) :
    ReferencesWithin P (obj members) := by
  intro ms ref hwithin hr
  cases hwithin with
  | refl => exact href ref hr
  | member hkey hwithin => exact hvalues _ _ hkey ms ref hwithin hr

lemma referencesWithin_arr (h : ∀ e ∈ elements, ReferencesWithin P e) :
    ReferencesWithin P (arr elements) := by
  intro ms ref hwithin hr
  cases hwithin with
  | element he hwithin => exact h _ he ms ref hwithin hr

lemma referencesWithin_str (s : String) : ReferencesWithin P (str s) := fun _ _ hwithin => by
  cases hwithin

section

variable (h : ReferencesWithin P (obj members))
include h

lemma ReferencesWithin.ref {ref : String} (href : lookup "$ref" members = some (str ref)) : P ref :=
  h members ref (.refl _) href

lemma ReferencesWithin.erase (k : String) :
    ReferencesWithin P (obj (Json.erase k members)) := by
  have hkept : ∀ {key v}, lookup key (Json.erase k members) = some v → lookup key members = some v := by
    intro key v hv
    rw [lookup_erase] at hv
    split_ifs at hv
    exact hv
  exact referencesWithin_obj (fun ref hr => h.ref (hkept hr)) fun key v hv => h.member (hkept hv)

lemma ReferencesWithin.assign
    (href : key = "$ref" → ∀ ref, value = str ref → P ref) (hvalue : ReferencesWithin P value) :
    ReferencesWithin P (obj (Json.assign key value members)) := by
  refine referencesWithin_obj (fun ref hr => ?_) fun k v hv => ?_
  · rw [lookup_assign] at hr
    split_ifs at hr with hkey
    · exact href hkey.symm ref (Option.some.inj hr)
    · exact h.ref hr
  · rw [lookup_assign] at hv
    split_ifs at hv
    · exact Option.some.inj hv ▸ hvalue
    · exact h.member hv

lemma ReferencesWithin.conjunct (hc : value ∈ conjunctsOf members) :
    ReferencesWithin P value := by
  obtain ⟨conjuncts, hlookup, hmem⟩ := mem_conjunctsOf.mp hc
  exact (h.member hlookup).element hmem

/-- The references of a schema joined with conjuncts are theirs and its own. -/
lemma ReferencesWithin.withConjuncts (hall : ∀ c ∈ conjuncts, ReferencesWithin P c) :
    ReferencesWithin P (obj (Json.assign "allOf" (arr (conjuncts ++ conjunctsOf members)) members)) := by
  refine h.assign (fun hkey => nomatch hkey) (referencesWithin_arr fun c hc => ?_)
  rcases List.mem_append.mp hc with hc | hc
  · exact hall c hc
  · exact h.conjunct hc

end

/-- The references of an intersection of two schemas are those of the two. -/
lemma referencesWithin_allOf_pair {a b : Json} (ha : ReferencesWithin P a) (hb : ReferencesWithin P b) :
    ReferencesWithin P (obj [("allOf", arr [a, b])]) :=
  referencesWithin_obj (by simp) fun k v hv => by
    obtain ⟨-, rfl⟩ : "allOf" = k ∧ arr [a, b] = v := by simpa using hv
    refine referencesWithin_arr fun e he => ?_
    rcases List.mem_pair.mp he with rfl | rfl
    · exact ha
    · exact hb

/-- What a path leads to is within the whole. -/
lemma within_of_follow {whole target : Json} (h : follow path whole = some target) :
    Within target whole := by
  induction path generalizing whole with
  | nil => exact Option.some.inj h ▸ .refl _
  | cons key path ih =>
    obtain ⟨v, hv, hrest⟩ := Option.bind_eq_some_iff.mp h
    cases whole with
    | obj ms => exact .member hv (ih hrest)
    | null | bool | num | str | arr => cases hv

/-- What a lookup finds is within the root. -/
lemma within_of_resolvePointer {root : SchemaObject} {ref : String} {target : Json}
    (h : resolvePointer root ref = some target) : Within target (obj root) := by
  rw [resolvePointer] at h
  split at h
  · exact Option.some.inj h ▸ .refl _
  · exact within_of_follow h
  · cases h

end ReferencesWithin

/-! ### Faithful references -/

/-- A reference that is resolved to its target, if at all. -/
def Faithful (root : SchemaObject) (ref : String) : Prop :=
  ∀ target, resolvePointer root ref = some target → resolveReference (obj root) ref = some target

/-- Every reference within a schema is faithful. -/
def FaithfulWithin (root : SchemaObject) (schema : Json) : Prop :=
  ∀ members ref, Within (obj members) schema → lookup "$ref" members = some (str ref) → Faithful root ref

section Faithful

variable {root members : SchemaObject} {key : String} {value : Json}

lemma FaithfulWithin.member (h : FaithfulWithin root (obj members)) (hkey : lookup key members = some value) :
    FaithfulWithin root value := ReferencesWithin.member h hkey

lemma FaithfulWithin.element (h : FaithfulWithin root (arr elements)) (he : value ∈ elements) :
    FaithfulWithin root value := ReferencesWithin.element h he

lemma FaithfulWithin.ref (h : FaithfulWithin root (obj members)) {ref : String}
    (href : lookup "$ref" members = some (str ref)) : Faithful root ref := ReferencesWithin.ref h href

lemma FaithfulWithin.erase (h : FaithfulWithin root (obj members)) (k : String) :
    FaithfulWithin root (obj (Json.erase k members)) := ReferencesWithin.erase h k

lemma FaithfulWithin.assign (h : FaithfulWithin root (obj members))
    (href : key = "$ref" → ∀ ref, value = str ref → Faithful root ref) (hvalue : FaithfulWithin root value) :
    FaithfulWithin root (obj (Json.assign key value members)) := ReferencesWithin.assign h href hvalue

end Faithful

/-- A path of keys is a pointer. -/
lemma pointer_of_follow {root target : Json} (h : follow path root = some target) :
    pointer path root = some target := by
  induction path generalizing root with
  | nil => exact h
  | cons key path ih =>
    obtain ⟨v, hv, hrest⟩ := Option.bind_eq_some_iff.mp h
    cases root with
    | obj ms => exact Option.bind_eq_some_iff.mpr ⟨v, hv, ih hrest⟩
    | null | bool | num | str | arr => cases hv

/-- A reference without percent signs is faithful. -/
lemma faithful_of_percentFree {root : SchemaObject} {ref : String} (href : '%' ∉ ref.toList) :
    Faithful root ref := by
  intro target h
  rw [resolvePointer] at h
  rw [resolveReference]
  generalize ref.toList = characters at h href ⊢
  split at h
  · exact h
  · next fragment =>
    have hfragment : '%' ∉ fragment := fun hmem =>
      href (List.mem_cons_of_mem _ (List.mem_cons_of_mem _ hmem))
    change (percentDecode fragment).bind (fun decoded =>
      pointer ((decoded.splitOn '/').map decodePointerToken) (obj root)) = some target
    rw [percentDecode_eq_self hfragment]
    exact pointer_of_follow h
  · cases h

mutual

/-- Whether no reference within a value has a percent sign. -/
def percentFree : Json → Bool
  | arr elements => percentFreeElements elements
  | obj members => percentFreeMembers members
  | _ => true

/-- Whether no reference within the elements has a percent sign. -/
def percentFreeElements : List Json → Bool
  | [] => true
  | e :: elements => percentFree e && percentFreeElements elements

/-- Whether no reference among the members or within them has a percent sign. -/
def percentFreeMembers : List (String × Json) → Bool
  | [] => true
  | (key, value) :: members =>
    (key ≠ "$ref" || !((value.str?.getD "").toList.contains '%')) && percentFree value &&
      percentFreeMembers members

end

lemma percentFree_of_mem_elements {e : Json} (h : percentFreeElements elements = true) (he : e ∈ elements) :
    percentFree e = true := by
  induction elements with
  | nil => cases he
  | cons first rest ih =>
    rw [percentFreeElements, Bool.and_eq_true] at h
    rcases List.mem_cons.mp he with rfl | he
    · exact h.1
    · exact ih h.2 he

lemma percentFree_of_mem_members {members : List (String × Json)} {key : String} {value : Json}
    (h : percentFreeMembers members = true) (hm : (key, value) ∈ members) :
    percentFree value = true ∧ (key = "$ref" → ∀ ref, value = str ref → '%' ∉ ref.toList) := by
  induction members with
  | nil => cases hm
  | cons first rest ih =>
    rw [percentFreeMembers, Bool.and_eq_true, Bool.and_eq_true] at h
    rcases List.mem_cons.mp hm with rfl | hm
    · refine ⟨h.1.2, fun hkey ref href => ?_⟩
      subst hkey href
      simpa [str?] using h.1.1
    · exact ih h.2 hm

/-- A schema without percent signs in its references is one of faithful references. -/
lemma faithfulWithin_of_percentFree {root : SchemaObject} {schema : Json}
    (h : percentFree schema = true) : FaithfulWithin root schema := by
  intro members ref hwithin href
  induction hwithin with
  | refl =>
    exact faithful_of_percentFree ((percentFree_of_mem_members h (mem_of_lookup href)).2 rfl ref rfl)
  | element he _ ih =>
    exact ih (percentFree_of_mem_elements h he)
  | member hm _ ih =>
    exact ih (percentFree_of_mem_members h (mem_of_lookup hm)).1

/-- The references within what the lookup finds are those of the root. -/
lemma FaithfulWithin.resolvePointer {root : SchemaObject} {ref : String} {target : Json}
    (hroot : FaithfulWithin root (obj root)) (h : resolvePointer root ref = some target) :
    FaithfulWithin root target :=
  ReferencesWithin.within hroot (within_of_resolvePointer h)

/-! ### Schemas that describe a value -/

/-- A schema of faithful references that a value meets. -/
structure Describes (root : SchemaObject) (schema value : Json) : Prop where
  faithful : FaithfulWithin root schema
  valid : Valid (dialectOf root) (obj root) schema value

section Describes

variable {root node : SchemaObject} {value : Json}

/-- Whether a schema is a reference. -/
def IsReference (node : SchemaObject) : Prop :=
  ∃ ref, lookup "$ref" node = some (str ref)

/-- The keywords of a schema that is no reference. -/
lemma Describes.keywords (h : Describes root (obj node) value) (hn : ¬IsReference node) :
    Keywords (dialectOf root) (Valid (dialectOf root) (obj root)) node value :=
  h.valid.keywords fun hr => hn hr.2

/-- No schema that is false describes a value. -/
lemma Describes.bool (h : Describes root (.bool b) value) : b = true :=
  valid_iff.mp h.valid

/-- A value of an array's schema is described by that of a conjunct. -/
lemma Describes.conjunct (h : Describes root (obj node) value) (hn : ¬IsReference node) {c : Json}
    (hc : c ∈ conjunctsOf node) : Describes root c value := by
  obtain ⟨conjuncts, hlookup, hmem⟩ := mem_conjunctsOf.mp hc
  exact ⟨ReferencesWithin.conjunct h.faithful hc, (h.keywords hn).allOf conjuncts c hlookup hmem⟩

/-- A schema may be joined with conjuncts that describe the value. -/
lemma Describes.withConjuncts (h : Describes root (obj node) value)
    (hall : ∀ c ∈ conjuncts, Describes root c value) :
    Describes root (obj (assign "allOf" (arr (conjuncts ++ conjunctsOf node)) node)) value :=
  ⟨ReferencesWithin.withConjuncts h.faithful fun c hc => (hall c hc).faithful,
    h.valid.withConjuncts fun c hc => (hall c hc).valid⟩

variable {k : String}

/-- A keyword other than `prefixItems` may be dropped from a schema whose keywords the value meets, when no
reference is left. -/
lemma describes_erase (hfaithful : FaithfulWithin root (obj node)) (hk : k ≠ "prefixItems")
    (hkeywords : Keywords (dialectOf root) (Valid (dialectOf root) (obj root)) node value)
    (hn : ¬IsReference (erase k node)) : Describes root (obj (erase k node)) value :=
  ⟨hfaithful.erase k, (valid_obj_iff fun ref href => hn ⟨ref, href⟩).mpr (hkeywords.erase hk)⟩

/-- Dropping another keyword leaves the reference. -/
lemma isReference_erase (hk : k ≠ "$ref") : IsReference (erase k node) ↔ IsReference node := by
  simp [IsReference, hk.symm]

lemma not_isReference_erase_ref : ¬IsReference (erase "$ref" node) := by
  simp [IsReference]

/-- What a reference stands for describes what the reference does.

**Proof sketch.** The target does.  In draft 2020-12 so does what stands beside the reference, which is
joined to the target. -/
lemma resolveRef_describes {target : Json} (hroot : FaithfulWithin root (obj root))
    (hresolve : resolveRef root node = some target) (h : Describes root (obj node) value) :
    Describes root target value := by
  rw [resolveRef] at hresolve
  split at hresolve
  · next ref href =>
    have htarget : ∀ t, resolvePointer root ref = some t → Describes root t value := fun t ht =>
      ⟨hroot.resolvePointer ht, h.valid.target href (h.faithful.ref href t ht)⟩
    have hsiblings : isDraft202012 root = true → Describes root (obj (erase "$ref" node)) value := by
      intro hdraft
      have hdialect : dialectOf root = .draft202012 := if_pos hdraft
      refine describes_erase h.faithful (by decide) (h.valid.keywords fun hr => ?_) not_isReference_erase_ref
      exact absurd (hdialect.symm.trans hr.1) (by decide)
    split at hresolve
    · next b hb =>
      split_ifs at hresolve with hdraft
      · cases hresolve
        have hbool := htarget _ hb
        rw [applyBooleanReferenceSiblings]
        split_ifs
        · exact hbool
        · exact hsiblings hdraft
        · next hb => exact absurd hbool.bool hb
      · exact Option.some.inj hresolve ▸ htarget _ hb
    · next schema hschema =>
      dsimp only at hresolve
      split_ifs at hresolve with hplain
      · exact Option.some.inj hresolve ▸ htarget _ hschema
      · have hdraft : isDraft202012 root = true := by
          cases hd : isDraft202012 root with
          | true => rfl
          | false => simp [hd] at hplain
        cases hresolve
        refine (htarget _ hschema).withConjuncts fun c hc => ?_
        exact List.mem_singleton.mp hc ▸ hsiblings hdraft
    · cases hresolve
  · cases hresolve

end Describes

/-! ### Intersections -/

/-- Property declarations that a value meets. -/
structure Declares (root properties : SchemaObject) (value : Json) : Prop where
  faithful : FaithfulWithin root (obj properties)
  valid : ∀ key child v, lookup key properties = some child → value.member? key = some v →
    Valid (dialectOf root) (obj root) child v

section Declares

variable {root node target source : SchemaObject} {value : Json}

/-- The properties that a schema declares. -/
lemma Describes.declares (h : Describes root (obj node) value) (hn : ¬IsReference node) :
    Declares root (propertiesOf node) value := by
  rw [propertiesOf]
  split
  · next properties hproperties =>
    exact ⟨h.faithful.member hproperties, fun key child v =>
      (h.keywords hn).properties properties key child v hproperties⟩
  · exact ⟨referencesWithin_obj (by simp) (by simp), by simp⟩

variable {child : Json}

/-- The schema of a declared property describes its value. -/
lemma Declares.describes (h : Declares root target value) {key : String}
    (hchild : lookup key target = some child) (hv : value.member? key = some v) : Describes root child v :=
  ⟨h.faithful.member hchild, h.valid key child v hchild hv⟩

/-- The properties that a schema requires. -/
lemma Describes.required (h : Describes root (obj node) value) (hn : ¬IsReference node)
    (hname : name ∈ requiredProperties node) (hobject : value.isObject = true) :
    (value.member? name).isSome := by
  rw [requiredProperties] at hname
  split at hname
  · next names hnames =>
    obtain ⟨e, he, hstr⟩ := List.mem_filterMap.mp hname
    cases e with
    | str s => exact (h.keywords hn).required names name hnames (Option.some.inj hstr ▸ he) hobject
    | null | bool | num | arr | obj => cases hstr
  · cases hname

/-- A declaration may be added to those of the same property. -/
lemma Declares.declareProperty (h : Declares root target value) (hsource : Declares root source value)
    {key : String} (hchild : lookup key source = some child) :
    Declares root (declareProperty target key child) value := by
  rw [Artifact.declareProperty]
  split
  · next declared hdeclared =>
    refine ⟨h.faithful.assign (fun _ ref href => by cases href)
      (referencesWithin_allOf_pair (h.faithful.member hdeclared) (hsource.faithful.member hchild)),
      fun k c v hc hv => ?_⟩
    rw [lookup_assign] at hc
    split_ifs at hc with hk
    · subst hk
      exact Option.some.inj hc ▸
        valid_allOf_pair (h.valid k _ v hdeclared hv) (hsource.valid k _ v hchild hv)
    · exact h.valid k c v hc hv
  · refine ⟨h.faithful.assign (fun hkey ref href => ?_) (hsource.faithful.member hchild), fun k c v hc hv => ?_⟩
    · subst hkey href
      exact hsource.faithful.ref hchild
    · rw [lookup_assign] at hc
      split_ifs at hc with hk
      · subst hk
        exact Option.some.inj hc ▸ hsource.valid k _ v hchild hv
      · exact h.valid k c v hc hv

/-- Merged declarations hold when both do. -/
lemma Declares.merge (htarget : Declares root target value) (hsource : Declares root source value) :
    Declares root (mergePropertyDeclarations target source) value := by
  have hentries : ∀ m ∈ entries source, lookup m.1 source = some m.2 := fun m hm => mem_entries.mp hm
  rw [mergePropertyDeclarations]
  generalize entries source = list at hentries
  induction list generalizing target with
  | nil => exact htarget
  | cons m list ih =>
    exact ih (htarget.declareProperty hsource (hentries m List.mem_cons_self))
      fun n hn => hentries n (List.mem_cons_of_mem _ hn)

end Declares

/-- The values after a keyword was combined. -/
lemma lookup_combineKeyword {clash : Json → Json → Bool} {key : String}
    (h : combineKeyword clash key branch combined = some combined') (k : String) :
    lookup k combined' =
      if k = key then (lookup key branch).or (lookup key combined) else lookup k combined := by
  rw [combineKeyword] at h
  split at h
  · next v kept hv hkept =>
    split_ifs at h
    rw [← Option.some.inj h, lookup_assign, hv, Option.some_or]
  · next v hv hkept => rw [← Option.some.inj h, lookup_assign, hv, Option.some_or]
  · next hv =>
    rw [← Option.some.inj h, hv, Option.none_or]
    split_ifs with hk
    · rw [hk]
    · rfl

/-- A keyword that may not be declared twice is declared once. -/
lemma combineKeyword_exclusive {key : String}
    (h : combineKeyword (fun _ _ => true) key branch combined = some combined') :
    lookup key branch = none ∨ lookup key combined = none := by
  rw [combineKeyword] at h
  split at h
  · simp at h
  · next hkept => exact .inr hkept
  · next hv => exact .inl hv

/-- The keywords that a combination takes over from the conjuncts. -/
def combinedKeywords : List String := ["type", "items", "prefixItems"]

/-- A schema with the types and items of two others, and all their tuples, demands no more than they do. -/
lemma keywords_combine {dialect : Dialect} {V : Json → Json → Prop} {a b c : SchemaObject} {value : Json}
    (ha : Keywords dialect V a value) (hb : Keywords dialect V b value)
    (honly : ∀ key v, lookup key c = some v → key ∈ combinedKeywords)
    (hfrom : ∀ key v, lookup key c = some v → lookup key a = some v ∨ lookup key b = some v)
    (htuple : ∀ v, lookup "prefixItems" a = some v ∨ lookup "prefixItems" b = some v →
      lookup "prefixItems" c = some v) : Keywords dialect V c value where
  type := fun t ht => (hfrom _ _ ht).elim (ha.type t) (hb.type t)
  properties := fun declared key child v hd => absurd (honly _ _ hd) (by decide)
  required := fun names name hn => absurd (honly _ _ hn) (by decide)
  items := fun item elements index e hi hs hv he hskip => by
    rcases hfrom _ _ hi with hi | hi
    · exact ha.items item elements index e hi hs hv he fun hd tuple ht =>
        hskip hd tuple (htuple _ (.inl ht))
    · exact hb.items item elements index e hi hs hv he fun hd tuple ht =>
        hskip hd tuple (htuple _ (.inr ht))
  prefixItems := fun hd tuple elements index slot e ht => (hfrom _ _ ht).elim
    (ha.prefixItems hd tuple elements index slot e) (hb.prefixItems hd tuple elements index slot e)
  tupleItems := fun hd tuple elements index slot e ht => (hfrom _ _ ht).elim
    (ha.tupleItems hd tuple elements index slot e) (hb.tupleItems hd tuple elements index slot e)
  allOf := fun conjuncts c hcs => absurd (honly _ _ hcs) (by decide)
  anyOf := fun alternatives h => absurd (honly _ _ h) (by decide)
  oneOf := fun alternatives h => absurd (honly _ _ h) (by decide)

/-- A combination whose declarations a value meets. -/
structure Combination.Sound (root : SchemaObject) (value : Json) (c : Combination) : Prop where
  only : ∀ key v, lookup key c.combined = some v → key ∈ combinedKeywords
  faithful : ∀ key v, lookup key c.combined = some v → FaithfulWithin root v
  keywords : Keywords (dialectOf root) (Valid (dialectOf root) (obj root)) c.combined value
  properties : Declares root c.properties value
  required : ∀ name ∈ c.required, value.isObject = true → (value.member? name).isSome

section Combination

variable {root : SchemaObject} {value : Json} {c c' : Combination}

lemma Combination.sound_empty : Combination.Sound root value ⟨[], [], []⟩ where
  only := by simp
  faithful := by simp
  keywords := by constructor <;> simp
  properties := ⟨referencesWithin_obj (by simp) (by simp), by simp⟩
  required := by simp

/-- The keywords after a conjunct was added. -/
lemma lookup_combineBranch (h : combineBranch c branch = some c') (key : String) :
    lookup key c'.combined =
      if key ∈ combinedKeywords then (lookup key branch).or (lookup key c.combined)
      else lookup key c.combined := by
  rw [combineBranch] at h
  split_ifs at h
  obtain ⟨typed, htyped, h⟩ := Option.bind_eq_some_iff.mp h
  obtain ⟨withItems, hitems, h⟩ := Option.bind_eq_some_iff.mp h
  obtain ⟨combined, hcombined, rfl⟩ := Option.map_eq_some_iff.mp h
  show lookup key combined = _
  rw [lookup_combineKeyword hcombined, lookup_combineKeyword hitems, lookup_combineKeyword hitems,
    lookup_combineKeyword htyped, lookup_combineKeyword htyped, lookup_combineKeyword htyped]
  by_cases h1 : key = "prefixItems"
  · subst h1
    simp [combinedKeywords]
  · by_cases h2 : key = "items"
    · subst h2
      simp [combinedKeywords]
    · by_cases h3 : key = "type"
      · subst h3
        simp [combinedKeywords]
      · simp [combinedKeywords, h1, h2, h3]

/-- **Adding a conjunct keeps a combination sound.** -/
lemma Combination.Sound.combineBranch (h : c.Sound root value) (hbranch : Describes root (obj branch) value)
    (hn : ¬IsReference branch) (hcombine : combineBranch c branch = some c') : c'.Sound root value := by
  have hlookup := lookup_combineBranch hcombine
  rw [Artifact.combineBranch] at hcombine
  split_ifs at hcombine
  obtain ⟨typed, htyped, hcombine⟩ := Option.bind_eq_some_iff.mp hcombine
  obtain ⟨withItems, hitems, hcombine⟩ := Option.bind_eq_some_iff.mp hcombine
  obtain ⟨combined, hcombined, rfl⟩ := Option.map_eq_some_iff.mp hcombine
  have hexclusive : lookup "prefixItems" branch = none ∨ lookup "prefixItems" c.combined = none := by
    rcases combineKeyword_exclusive hcombined with hnone | hnone
    · exact .inl hnone
    · rw [lookup_combineKeyword hitems, if_neg (by decide), lookup_combineKeyword htyped,
        if_neg (by decide)] at hnone
      exact .inr hnone
  have hfrom : ∀ key v, lookup key combined = some v →
      key ∈ combinedKeywords ∧ lookup key branch = some v ∨ lookup key c.combined = some v := by
    intro key v hv
    rw [hlookup] at hv
    split_ifs at hv with hkey
    · rcases Option.or_eq_some_iff.mp hv with hv | ⟨-, hv⟩
      · exact .inl ⟨hkey, hv⟩
      · exact .inr hv
    · exact .inr hv
  have honly : ∀ key v, lookup key combined = some v → key ∈ combinedKeywords := fun key v hv =>
    (hfrom key v hv).elim And.left (h.only key v)
  refine ⟨honly, fun key v hv => ?_, ?_, h.properties.merge (hbranch.declares hn), ?_⟩
  · exact (hfrom key v hv).elim (fun hb => hbranch.faithful.member hb.2) (h.faithful key v)
  · refine keywords_combine (hbranch.keywords hn) h.keywords honly
      (fun key v hv => (hfrom key v hv).imp And.right id) fun v hv => ?_
    rw [hlookup, if_pos (by decide)]
    rcases hv with hv | hv
    · rw [hv, Option.some_or]
    · rcases hexclusive with hnone | hnone
      · rw [hnone, Option.none_or, hv]
      · rw [hnone] at hv
        cases hv
  · intro name hname hobject
    rcases List.mem_append.mp (List.mem_eraseDups.mp hname) with hname | hname
    · exact h.required name hname hobject
    · exact hbranch.required hn hname hobject

/-- **Conjuncts that describe a value make a sound combination.** -/
lemma Combination.Sound.combineCandidates {combine : SchemaObject → Option (Option SchemaObject)}
    (hcombine : ∀ object branch, combine object = some (some branch) → Describes root (obj object) value →
      Describes root (obj branch) value ∧ ¬IsReference branch)
    {candidates : List Json} (hcandidates : ∀ d ∈ candidates, Describes root d value)
    (h : c.Sound root value) (hresult : combineCandidates combine candidates c = some (some c')) :
    c'.Sound root value := by
  induction candidates generalizing c with
  | nil =>
    obtain rfl : c = c' := by simpa [Artifact.combineCandidates] using hresult
    exact h
  | cons candidate candidates ih =>
    cases candidate with
    | obj object =>
      obtain ⟨branch, hbranch, hrest⟩ := Option.bind_eq_some_iff.mp hresult
      split at hrest
      · next c₁ hc₁ =>
        obtain ⟨branch, rfl, hadd⟩ := Option.bind_eq_some_iff.mp hc₁
        obtain ⟨hdescribes, hn⟩ := hcombine object branch hbranch (hcandidates _ List.mem_cons_self)
        exact ih (fun d hd => hcandidates d (List.mem_cons_of_mem _ hd))
          (h.combineBranch hdescribes hn hadd) hrest
      · cases hrest
    | null | bool | num | str | arr => cases hresult

/-- The schema of a combination. -/
lemma lookup_toSchema (c : Combination) (key : String) :
    lookup key c.toSchema =
      if key = "required" then some (arr (c.required.map str))
      else if key = "properties" then some (obj c.properties) else lookup key c.combined := by
  rw [Combination.toSchema, lookup_append, lookup_cons, lookup_singleton]
  by_cases h1 : key = "required"
  · simp [h1]
  · by_cases h2 : key = "properties"
    · simp [h2]
    · simp [h1, h2, Ne.symm h1, Ne.symm h2]

/-- **A sound combination describes the value.** -/
lemma Combination.Sound.describes (h : c.Sound root value) :
    Describes root (obj c.toSchema) value ∧ ¬IsReference c.toSchema := by
  have hother : ∀ key v, lookup key c.toSchema = some v → key ≠ "required" → key ≠ "properties" →
      lookup key c.combined = some v := fun key v hv h1 h2 => by
    rwa [lookup_toSchema, if_neg h1, if_neg h2] at hv
  have hnever : ∀ key v, lookup key c.toSchema = some v → key ≠ "required" → key ≠ "properties" →
      key ∉ combinedKeywords → False := fun key v hv h1 h2 h3 => h3 (h.only key v (hother key v hv h1 h2))
  have hn : ¬IsReference c.toSchema := fun ⟨ref, href⟩ =>
    hnever "$ref" _ href (by decide) (by decide) (by decide)
  refine ⟨⟨referencesWithin_obj (fun ref href => absurd ⟨ref, href⟩ hn) fun key v hv => ?_,
    (valid_obj_iff fun ref href => hn ⟨ref, href⟩).mpr ?_⟩, hn⟩
  · rw [lookup_toSchema] at hv
    split_ifs at hv
    · refine Option.some.inj hv ▸ referencesWithin_arr fun e he => ?_
      obtain ⟨name, -, rfl⟩ := List.mem_map.mp he
      exact referencesWithin_str name
    · exact Option.some.inj hv ▸ h.properties.faithful
    · exact h.faithful key v hv
  · exact {
      type := fun t ht => h.keywords.type t (hother _ _ ht (by decide) (by decide))
      properties := fun declared key child v hd hc hv => by
        obtain rfl : c.properties = declared := by simpa [lookup_toSchema] using hd
        exact h.properties.valid key child v hc hv
      required := fun names name hnames hname hobject => by
        obtain rfl : c.required.map str = names := by simpa [lookup_toSchema] using hnames
        obtain ⟨n, hmem, hstr⟩ := List.mem_map.mp hname
        exact Json.str.inj hstr ▸ h.required n hmem hobject
      items := fun item elements index e hi hs hv he hskip =>
        h.keywords.items item elements index e (hother _ _ hi (by decide) (by decide)) hs hv he
          fun hd tuple ht => hskip hd tuple (by simpa [lookup_toSchema] using ht)
      prefixItems := fun hd tuple elements index slot e ht =>
        h.keywords.prefixItems hd tuple elements index slot e (hother _ _ ht (by decide) (by decide))
      tupleItems := fun hd tuple elements index slot e ht =>
        h.keywords.tupleItems hd tuple elements index slot e (hother _ _ ht (by decide) (by decide))
      allOf := fun conjuncts d hcs => (hnever _ _ hcs (by decide) (by decide) (by decide)).elim
      anyOf := fun alternatives ha => (hnever _ _ ha (by decide) (by decide) (by decide)).elim
      oneOf := fun alternatives ha => (hnever _ _ ha (by decide) (by decide) (by decide)).elim }

end Combination

section Inspect

variable {root node : SchemaObject} {value : Json} {fuel : ℕ}

/-- **The combined conjuncts demand no more than the schema does.** -/
theorem combineConjuncts_describes (hroot : FaithfulWithin root (obj root)) {refs : List String}
    {result : SchemaObject} (hresult : combineConjuncts root fuel node refs = some (some result))
    (h : Describes root (obj node) value) : Describes root (obj result) value ∧ ¬IsReference result := by
  induction fuel generalizing node refs result with
  | zero => cases hresult
  | succ fuel ih =>
    rw [combineConjuncts] at hresult
    split at hresult
    · next ref href =>
      split_ifs at hresult with hvisited
      · cases hresult
      · split at hresult
        · next target htarget => exact ih hresult (resolveRef_describes hroot htarget h)
        · cases hresult
    · next hne =>
      have hn : ¬IsReference node := fun ⟨ref, href⟩ => hne ref href
      split at hresult
      · next allOf hallOf =>
        obtain ⟨c, hc, hschema⟩ := Option.map_eq_some_iff.mp hresult
        obtain ⟨c, rfl, rfl⟩ := Option.map_eq_some_iff.mp hschema
        refine Combination.Sound.describes
          (Combination.sound_empty.combineCandidates (fun _ _ => ih) (fun d hd => ?_) hc)
        rcases List.mem_cons.mp hd with rfl | hd
        · exact describes_erase h.faithful (by decide) (h.keywords hn)
            fun hr => hn ((isReference_erase (by decide)).mp hr)
        · exact h.conjunct hn (mem_conjunctsOf.mpr ⟨allOf, hallOf, hd⟩)
      · exact Option.some.inj (Option.some.inj hresult) ▸ ⟨h, hn⟩

/-! ### Locations -/

/-- An alternative of a union, combined with what stands beside the union, describes what both do. -/
lemma combineUnionBranchNode_describes (hroot : FaithfulWithin root (obj root)) {base object : SchemaObject}
    (hbase : Describes root (obj base) value) (hobject : Describes root (obj object) value) :
    Describes root (obj (combineUnionBranchNode root base object).1) value := by
  have hone : ∀ c ∈ [obj base], Describes root c value := fun c hc => List.mem_singleton.mp hc ▸ hbase
  rw [combineUnionBranchNode]
  split
  · split
    · next target htarget => exact (resolveRef_describes hroot htarget hobject).withConjuncts hone
    · exact ⟨referencesWithin_allOf_pair hbase.faithful hobject.faithful,
        valid_allOf_pair hbase.valid hobject.valid⟩
  · exact hobject.withConjuncts hone

/-- How the inspection looks at a node. -/
inductive NodeShape (node : SchemaObject) : Prop
  | reference (ref : String) : lookup "$ref" node = some (str ref) → NodeShape node
  | union (unionKey : String) (alternatives : List Json) : ¬IsReference node →
      unionOf node = some (unionKey, alternatives) → NodeShape node
  | intersection (conjuncts : List Json) : ¬IsReference node → unionOf node = none →
      lookup "allOf" node = some (arr conjuncts) → NodeShape node
  | plain : ¬IsReference node → unionOf node = none →
      (∀ conjuncts, lookup "allOf" node ≠ some (arr conjuncts)) → NodeShape node

lemma nodeShape (node : SchemaObject) : NodeShape node := by
  by_cases hr : IsReference node
  · obtain ⟨ref, href⟩ := hr
    exact .reference ref href
  · cases hu : unionOf node with
    | some u => exact .union u.1 u.2 hr hu
    | none =>
      by_cases hall : ∃ conjuncts, lookup "allOf" node = some (arr conjuncts)
      · obtain ⟨conjuncts, hall⟩ := hall
        exact .intersection conjuncts hr hu hall
      · exact .plain hr hu fun conjuncts h => hall ⟨conjuncts, h⟩

variable {parts : List String} {required : Bool} {refs : List String} {objectGuaranteed after : Bool}

lemma fieldSchemas_reference {ref : String} (href : lookup "$ref" node = some (str ref)) :
    fieldSchemas root (fuel + 1) node parts required refs objectGuaranteed after =
      fieldSchemasForReference (fieldSchemas root fuel) root node ref parts required refs objectGuaranteed
        after := by
  rw [fieldSchemas, href]

/-- How the fragments of one alternative are found. -/
def alternativeSchemas (inspect : Inspector) (root base : SchemaObject) (parts : List String)
    (required : Bool) (refs : List String) (objectGuaranteed after : Bool) (branch : Json) :
    Option (Option (List Json)) :=
  match branch with
  | obj object =>
    inspect (combineUnionBranchNode root base object).1 parts required
      (refs ++ (combineUnionBranchNode root base object).2.toList) objectGuaranteed after
  | _ => some none

variable {alternatives : List Json} {unionKey : String} {frags : List Json}

lemma fieldSchemas_union (hn : ¬IsReference node) (hunion : unionOf node = some (unionKey, alternatives)) :
    fieldSchemas root (fuel + 1) node parts required refs objectGuaranteed after =
      (alternatives.mapM (alternativeSchemas (fieldSchemas root fuel) root (erase unionKey node) parts
        required refs objectGuaranteed after)).map coverAlternatives := by
  rw [fieldSchemas]
  split
  · next ref href => exact absurd ⟨ref, href⟩ hn
  · rw [hunion]
    rfl

lemma fieldSchemas_intersection (hn : ¬IsReference node) (hunion : unionOf node = none)
    (hall : lookup "allOf" node = some (arr conjuncts)) :
    fieldSchemas root (fuel + 1) node parts required refs objectGuaranteed after =
      (combineConjuncts root fuel node refs).bind fun combined =>
        combined.elim (some none) fun combined =>
          fieldSchemas root fuel combined parts required refs objectGuaranteed after := by
  rw [fieldSchemas]
  split
  · next ref href => exact absurd ⟨ref, href⟩ hn
  · rw [hunion, hall]
    refine congrArg (Option.bind (combineConjuncts root fuel node refs)) (funext fun combined => ?_)
    cases combined <;> rfl

lemma fieldSchemas_plain (hn : ¬IsReference node) (hunion : unionOf node = none)
    (hall : ∀ conjuncts, lookup "allOf" node ≠ some (arr conjuncts)) :
    fieldSchemas root (fuel + 1) node parts required refs objectGuaranteed after =
      stepSchemas (fieldSchemas root fuel) node parts required objectGuaranteed after := by
  rw [fieldSchemas]
  split
  · next ref href => exact absurd ⟨ref, href⟩ hn
  · rw [hunion]
    dsimp only
    split
    · next cs hcs => exact absurd hcs (hall cs)
    · rfl

/-- The fragments of each alternative are among those of the union. -/
lemma coverAlternatives_spec {f : Json → Option (Option (List Json))} {alternatives frags : List Json}
    (h : (alternatives.mapM f).map coverAlternatives = some (some frags)) {branch : Json}
    (hbranch : branch ∈ alternatives) : ∃ fs, f branch = some (some fs) ∧ fs ⊆ frags := by
  obtain ⟨results, hresults, hcover⟩ := Option.map_eq_some_iff.mp h
  rw [coverAlternatives] at hcover
  split_ifs at hcover with hsome
  obtain rfl := Option.some.inj hcover
  obtain ⟨result, hresult, hf⟩ : ∃ result ∈ results, f branch = some result := by
    clear hsome h hcover
    induction alternatives generalizing results with
    | nil => cases hbranch
    | cons a as ih =>
      rw [List.mapM_cons] at hresults
      obtain ⟨r, hr, hresults⟩ := Option.bind_eq_some_iff.mp hresults
      obtain ⟨rs, hrs, hresults⟩ := Option.bind_eq_some_iff.mp hresults
      cases hresults
      rcases List.mem_cons.mp hbranch with rfl | hbranch
      · exact ⟨r, List.mem_cons_self, hr⟩
      · obtain ⟨result, hmem, hf⟩ := ih hbranch rs hrs
        exact ⟨result, List.mem_cons_of_mem _ hmem, hf⟩
  obtain ⟨fs, rfl⟩ := Option.isSome_iff_exists.mp (List.all_eq_true.mp hsome result hresult)
  exact ⟨fs, hf, fun x hx => List.mem_flatMap.mpr ⟨some fs, hresult, hx⟩⟩

/-- The keyword of a union is one of two. -/
lemma unionOf_spec (h : unionOf node = some (unionKey, alternatives)) :
    lookup unionKey node = some (arr alternatives) ∧ (unionKey = "anyOf" ∨ unionKey = "oneOf") := by
  rw [unionOf] at h
  split at h
  · next as has =>
    cases h
    exact ⟨has, .inl rfl⟩
  · split at h
    · next as has =>
      cases h
      exact ⟨has, .inr rfl⟩
    · cases h

/-- Some alternative of a union describes the value. -/
lemma Describes.alternative (h : Describes root (obj node) value) (hn : ¬IsReference node)
    (hunion : unionOf node = some (unionKey, alternatives)) :
    ∃ branch ∈ alternatives, Describes root branch value := by
  obtain ⟨hlookup, hkey⟩ := unionOf_spec hunion
  have hvalid : ∃ branch ∈ alternatives, Valid (dialectOf root) (obj root) branch value := by
    rcases hkey with rfl | rfl
    · exact (h.keywords hn).anyOf alternatives hlookup
    · exact (h.keywords hn).oneOf alternatives hlookup
  obtain ⟨branch, hmem, hvalid⟩ := hvalid
  exact ⟨branch, hmem, (h.faithful.member hlookup).element hmem, hvalid⟩

/-- What stands beside a union describes the value. -/
lemma Describes.base (h : Describes root (obj node) value) (hn : ¬IsReference node)
    (hunion : unionOf node = some (unionKey, alternatives)) :
    Describes root (obj (erase unionKey node)) value := by
  have hkey : unionKey ≠ "prefixItems" ∧ unionKey ≠ "$ref" := by
    rcases (unionOf_spec hunion).2 with rfl | rfl <;> decide
  exact describes_erase h.faithful hkey.1 (h.keywords hn) fun hr => hn ((isReference_erase hkey.2).mp hr)

/-- A boolean schema has fragments only at the end of the path. -/
lemma boolean_fragment (h : some (if parts.isEmpty then some [Json.bool b] else none) = some (some frags)) :
    parts = [] ∧ frags = [.bool b] := by
  cases parts with
  | nil => exact ⟨rfl, (Option.some.inj (Option.some.inj h)).symm⟩
  | cons key rest => cases h

/-- A boolean schema declares no type. -/
lemma declaresType_bool (b : Bool) (name : String) : declaresType (.bool b) name = false := rfl

variable {inspect : Inspector}

lemma fieldSchemasForReference_spec {ref : String}
    (h : fieldSchemasForReference inspect root node ref parts required refs objectGuaranteed after =
      some (some frags)) :
    (∃ b, resolveRef root node = some (.bool b) ∧ parts = [] ∧ frags = [.bool b]) ∨
      ∃ target, resolveRef root node = some (obj target) ∧
        inspect target parts required (refs ++ [ref]) objectGuaranteed after = some (some frags) := by
  rw [fieldSchemasForReference] at h
  by_cases hvisited : ref ∈ refs
  · rw [if_pos hvisited] at h
    cases h
  · rw [if_neg hvisited] at h
    split at h
    · next b hb => exact .inl ⟨b, hb, boolean_fragment h⟩
    · next target htarget => exact .inr ⟨target, htarget, h⟩
    · cases h

variable {rest : List String} {f : Json}

/-- A property of a plain node: the value is an object, the property is declared, and required if it has to
be. -/
lemma stepSchemas_property {key : String} (hkey : key ≠ collectionElementSegment)
    (h : stepSchemas inspect node (key :: rest) required objectGuaranteed after = some (some frags)) :
    (declaresType (obj node) "object" = true ∨ objectGuaranteed = true) ∧
      (required = true → key ∈ requiredProperties node) ∧
      ∃ child, lookup key (propertiesOf node) = some child ∧
        ((∃ b, child = .bool b ∧ rest = [] ∧ frags = [.bool b]) ∨
          ∃ ms, child = obj ms ∧ inspect ms rest required [] false after = some (some frags)) := by
  rw [stepSchemas, if_neg hkey] at h
  split_ifs at h with htype hrequired
  · cases h
  · cases h
  · refine ⟨?_, fun hr => ?_, ?_⟩
    · cases hdeclares : declaresType (obj node) "object" with
      | true => exact .inl rfl
      | false =>
        cases hog : objectGuaranteed with
        | true => exact .inr rfl
        | false => simp [hdeclares, hog] at htype
    · by_contra hmem
      have hcontains : (requiredProperties node).contains key = false := by
        simpa using hmem
      rw [hr, hcontains] at hrequired
      exact hrequired (Bool.or_true _)
    · unfold childStepSchemas at h
      split at h
      · next b hb =>
        exact ⟨.bool b, (Option.filter_eq_some_iff.mp hb).1, .inl ⟨b, rfl, boolean_fragment h⟩⟩
      · next ms hms => exact ⟨obj ms, (Option.filter_eq_some_iff.mp hms).1, .inr ⟨ms, rfl, h⟩⟩
      · cases h

/-- An element of a plain node: the value is an array, and the fragments are below its item schema. -/
lemma stepSchemas_element
    (h : stepSchemas inspect node (collectionElementSegment :: rest) required objectGuaranteed after =
      some (some frags)) :
    declaresType (obj node) "array" = true ∧
      ((∃ b, lookup "items" node = some (.bool b) ∧ rest = [] ∧ frags = [.bool b]) ∨
        ∃ ms, lookup "items" node = some (obj ms) ∧
          inspect ms rest (required || after) [] false false = some (some frags)) := by
  rw [stepSchemas, if_pos rfl, elementSchemas] at h
  cases hdeclares : declaresType (obj node) "array" with
  | false =>
    rw [hdeclares] at h
    cases h
  | true =>
    rw [hdeclares, Bool.not_true, if_neg Bool.false_ne_true] at h
    refine ⟨rfl, ?_⟩
    split at h
    · next b hb => exact .inl ⟨b, hb, boolean_fragment h⟩
    · next ms hms => exact .inr ⟨ms, hms, h⟩
    · cases h

/-- A fragment that describes a value and is no reference. -/
structure Fragment (root : SchemaObject) (f value : Json) : Prop where
  describes : Describes root f value
  plain : ∀ node, f = obj node → ¬IsReference node

lemma Describes.fragment_bool (h : Describes root (.bool b) value) :
    Fragment root (.bool b) value :=
  ⟨h, fun node heq => by cases heq⟩

/-- A value has the type that a fragment declares. -/
lemma Fragment.hasType (h : Fragment root f value) (hdeclares : declaresType f name = true) :
    hasType value name = true := by
  cases f with
  | obj node =>
    have hkeywords := h.describes.keywords (h.plain node rfl)
    rw [declaresType] at hdeclares
    split at hdeclares
    · next t ht => exact (hkeywords.type _ ht).1 name (of_decide_eq_true hdeclares ▸ rfl)
    · next t ht =>
      obtain ⟨n, hn, htype⟩ := (hkeywords.type _ ht).2 _ rfl
      obtain rfl : n = t := Json.str.inj (List.mem_singleton.mp hn)
      exact of_decide_eq_true hdeclares ▸ htype
    · cases hdeclares
  | null | bool | num | str | arr => cases hdeclares

/-- Fragments for what a value has at a path; if it is required the value has something there. -/
structure Covers (root : SchemaObject) (value : Json) (parts : List String) (required : Bool)
    (frags : List Json) : Prop where
  present : ∀ v, follow parts value = some v → ∃ f ∈ frags, Fragment root f v
  exists_of_required : required = true → (follow parts value).isSome

lemma Covers.mono {frags frags' : List Json} (h : Covers root value parts required frags)
    (hsub : frags ⊆ frags') : Covers root value parts required frags' :=
  ⟨fun v hv => (h.present v hv).imp fun _ hf => ⟨hsub hf.1, hf.2⟩, h.exists_of_required⟩

/-- At the end of the path is the value itself. -/
lemma Fragment.covers (h : Fragment root f value) : Covers root value [] required [f] :=
  ⟨fun _ hv => ⟨f, List.mem_singleton_self f, Option.some.inj hv ▸ h⟩, fun _ => rfl⟩

/-- A value of type object is one. -/
lemma isObject_of_hasType (h : hasType value "object" = true) : value.isObject = true := by
  cases value with
  | obj => rfl
  | null | bool | num | str | arr => simp [hasType] at h

/-- **The fragments at a path describe the value at the path**, and the value is there if the path is
required.

**Proof sketch.** By induction on the fuel.  A reference, an alternative and the combined conjuncts each
describe the value that the node does; a property's schema describes the property's value. -/
theorem fieldSchemas_describes (hroot : FaithfulWithin root (obj root))
    (hparts : collectionElementSegment ∉ parts)
    (hresult : fieldSchemas root fuel node parts required refs objectGuaranteed after = some (some frags))
    (h : Describes root (obj node) value) (hobject : objectGuaranteed = true → value.isObject = true) :
    Covers root value parts required frags := by
  induction fuel generalizing node value parts refs objectGuaranteed frags with
  | zero => cases hresult
  | succ fuel ih =>
    cases nodeShape node with
    | reference ref href =>
      rw [fieldSchemas_reference href] at hresult
      rcases fieldSchemasForReference_spec hresult with ⟨b, hb, rfl, rfl⟩ | ⟨target, htarget, hinspect⟩
      · exact (resolveRef_describes hroot hb h).fragment_bool.covers
      · exact ih hparts hinspect (resolveRef_describes hroot htarget h) hobject
    | union unionKey alternatives hn hunion =>
      rw [fieldSchemas_union hn hunion] at hresult
      obtain ⟨branch, hbranch, hdescribes⟩ := h.alternative hn hunion
      obtain ⟨fs, hfs, hsub⟩ := coverAlternatives_spec hresult hbranch
      cases branch with
      | obj object =>
        have hcombined := combineUnionBranchNode_describes hroot (h.base hn hunion) hdescribes
        exact (ih hparts hfs hcombined hobject).mono hsub
      | null | bool | num | str | arr => cases hfs
    | intersection conjuncts hn hunion hall =>
      rw [fieldSchemas_intersection hn hunion hall] at hresult
      obtain ⟨combined, hcombined, hresult⟩ := Option.bind_eq_some_iff.mp hresult
      cases combined with
      | some combined => exact ih hparts hresult (combineConjuncts_describes hroot hcombined h).1 hobject
      | none => cases hresult
    | plain hn hunion hall =>
      rw [fieldSchemas_plain hn hunion hall] at hresult
      have hfragment : Fragment root (obj node) value := ⟨h, fun n heq => Json.obj.inj heq ▸ hn⟩
      cases parts with
      | nil => exact Option.some.inj (Option.some.inj hresult) ▸ hfragment.covers
      | cons key rest =>
        obtain ⟨hkey, hrest⟩ := not_or.mp (mt List.mem_cons.mpr hparts)
        obtain ⟨htype, hrequired, child, hchild, hcase⟩ := stepSchemas_property (Ne.symm hkey) hresult
        have hisObject : value.isObject = true :=
          htype.elim (fun ht => isObject_of_hasType (hfragment.hasType ht)) hobject
        have hcovers : ∀ v, value.member? key = some v → Covers root v rest required frags := by
          intro v hv
          have hv := (h.declares hn).describes hchild hv
          rcases hcase with ⟨b, rfl, rfl, rfl⟩ | ⟨ms, rfl, hinspect⟩
          · exact hv.fragment_bool.covers
          · exact ih hrest hinspect hv (by simp)
        refine ⟨fun v hv => ?_, fun hr => ?_⟩
        · obtain ⟨w, hw, hfollow⟩ := Option.bind_eq_some_iff.mp hv
          exact (hcovers w hw).present v hfollow
        · obtain ⟨w, hw⟩ := Option.isSome_iff_exists.mp (h.required hn (hrequired hr) hisObject)
          rw [follow, hw]
          exact (hcovers w hw).exists_of_required hr

/-- **The elements of a declared array**: when every fragment at the area declares an array and no tuple, the
value there is an array, and the fragments below its elements describe what each element has.

**Proof sketch.** The inspection of the area and that of the location below its elements pass the same nodes;
at the last of them, which is among the fragments of the area, the second goes on to the item schema. -/
theorem fieldSchemas_elements (hroot : FaithfulWithin root (obj root)) {pre post : List String}
    {areaFrags idFrags : List Json} {after₀ : Bool} (hpre : collectionElementSegment ∉ pre)
    (hpost : collectionElementSegment ∉ post)
    (harea : fieldSchemas root fuel node pre false refs objectGuaranteed after₀ = some (some areaFrags))
    (hid : fieldSchemas root fuel node (pre ++ collectionElementSegment :: post) false refs objectGuaranteed
      true = some (some idFrags))
    (harray : ∀ f ∈ areaFrags, declaresType f "array" = true ∧ isTupleShape f = false)
    (h : Describes root (obj node) value) (hv : follow pre value = some v) :
    ∃ elements, v = arr elements ∧ ∀ e ∈ elements, Covers root e post true idFrags := by
  induction fuel generalizing node value pre refs objectGuaranteed areaFrags idFrags with
  | zero => cases harea
  | succ fuel ih =>
    cases nodeShape node with
    | reference ref href =>
      rw [fieldSchemas_reference href] at harea hid
      rcases fieldSchemasForReference_spec harea with ⟨b, hb, rfl, rfl⟩ | ⟨target, htarget, hinspect⟩
      · exact absurd (harray _ (List.mem_singleton_self _)).1 (by rw [declaresType_bool]; decide)
      · rcases fieldSchemasForReference_spec hid with ⟨b, hb, hnil, -⟩ | ⟨t, ht, hidInspect⟩
        · simp at hnil
        · obtain rfl : target = t := Json.obj.inj (Option.some.inj (htarget.symm.trans ht))
          exact ih hpre hinspect hidInspect harray (resolveRef_describes hroot htarget h) hv
    | union unionKey alternatives hn hunion =>
      rw [fieldSchemas_union hn hunion] at harea hid
      obtain ⟨branch, hbranch, hdescribes⟩ := h.alternative hn hunion
      obtain ⟨fs, hfs, hsub⟩ := coverAlternatives_spec harea hbranch
      obtain ⟨gs, hgs, hidSub⟩ := coverAlternatives_spec hid hbranch
      cases branch with
      | obj object =>
        have hcombined := combineUnionBranchNode_describes hroot (h.base hn hunion) hdescribes
        obtain ⟨elements, hv, hcovers⟩ := ih hpre hfs hgs (fun f hf => harray f (hsub hf)) hcombined hv
        exact ⟨elements, hv, fun e he => (hcovers e he).mono hidSub⟩
      | null | bool | num | str | arr => cases hfs
    | intersection conjuncts hn hunion hall =>
      rw [fieldSchemas_intersection hn hunion hall] at harea hid
      obtain ⟨combined, hcombined, harea⟩ := Option.bind_eq_some_iff.mp harea
      rw [hcombined, Option.bind_some] at hid
      cases combined with
      | some combined => exact ih hpre harea hid harray (combineConjuncts_describes hroot hcombined h).1 hv
      | none => cases harea
    | plain hn hunion hall =>
      rw [fieldSchemas_plain hn hunion hall] at harea hid
      have hfragment : Fragment root (obj node) value := ⟨h, fun n heq => Json.obj.inj heq ▸ hn⟩
      cases pre with
      | nil =>
        obtain rfl := Option.some.inj hv
        obtain rfl : [obj node] = areaFrags := Option.some.inj (Option.some.inj harea)
        obtain ⟨hdeclares, htuple⟩ := harray _ (List.mem_singleton_self _)
        have htype := hfragment.hasType hdeclares
        cases value with
        | arr elements =>
          refine ⟨elements, rfl, fun e he => ?_⟩
          obtain ⟨index, hindex⟩ := List.mem_iff_getElem?.mp he
          have hitem : ∀ item, lookup "items" node = some item → isSchema item = true →
              Describes root item e := fun item hlookup hschema =>
            ⟨h.faithful.member hlookup, (h.keywords hn).items item elements index e hlookup hschema rfl hindex
              fun _ tuple ht => by simp [isTupleShape, member?, ht] at htuple⟩
          rcases (stepSchemas_element hid).2 with ⟨b, hb, rfl, rfl⟩ | ⟨ms, hms, hinspect⟩
          · exact (hitem _ hb rfl).fragment_bool.covers
          · exact fieldSchemas_describes hroot hpost hinspect (hitem _ hms rfl) (by simp)
        | null | bool | num | str | obj => simp [hasType] at htype
      | cons key rest =>
        obtain ⟨hkey, hrest⟩ := not_or.mp (mt List.mem_cons.mpr hpre)
        obtain ⟨-, -, child, hchild, hcase⟩ := stepSchemas_property (Ne.symm hkey) harea
        obtain ⟨-, -, child', hchild', hidCase⟩ := stepSchemas_property (Ne.symm hkey) hid
        obtain rfl : child = child' := Option.some.inj (hchild.symm.trans hchild')
        obtain ⟨w, hw, hfollow⟩ := Option.bind_eq_some_iff.mp hv
        rcases hcase with ⟨b, rfl, rfl, rfl⟩ | ⟨ms, rfl, hinspect⟩
        · exact absurd (harray _ (List.mem_singleton_self _)).1 (by rw [declaresType_bool]; decide)
        · rcases hidCase with ⟨b, hb, -, -⟩ | ⟨ms', hms, hidInspect⟩
          · cases hb
          · cases hms
            exact ih hrest hinspect hidInspect harray ((h.declares hn).describes hchild hw) hfollow

end Inspect

end Makaio.Artifact

import Makaio.Foundations.Json
import Mathlib.Order.FixedPoints

set_option autoImplicit false

/-!
# What a JSON Schema demands

The applicator keywords of JSON Schema as constraints on a value, in draft-07 and in draft 2020-12.  A
validator *respects* them when everything it accepts meets the constraints, with the subschemas validated
by the same validator; it may reject more, so further keywords that only restrict are covered.  The largest
such validator is a greatest fixed point, because references may be cyclic.

## Main definitions

* `JsonSchema.Dialect` — the two dialects.
* `JsonSchema.resolveReference` — the target of a local reference: a percent-encoded JSON
  Pointer.
* `JsonSchema.Keywords`, `Constrains` — the constraints of one schema.
* `JsonSchema.Respects` — a validator that respects the keywords.
* `JsonSchema.Valid` — the largest one.

## Main results

* `JsonSchema.Respects.valid` — what a validator that respects the keywords accepts is valid.
* `JsonSchema.valid_iff` — validity is its own constraint.
-/

namespace Foundations.JsonSchema

open Json

inductive Dialect
  | draft07
  | draft202012
  deriving DecidableEq

/-- The value of a hex digit. -/
def hexValue? (c : Char) : Option ℕ :=
  if '0' ≤ c ∧ c ≤ '9' then some (c.toNat - '0'.toNat)
  else if 'a' ≤ c ∧ c ≤ 'f' then some (c.toNat - 'a'.toNat + 10)
  else if 'A' ≤ c ∧ c ≤ 'F' then some (c.toNat - 'A'.toNat + 10)
  else none

/-- Percent decoding; none for a malformed escape, and for one beyond the ASCII characters, which is left
open here. -/
def percentDecode : List Char → Option (List Char)
  | [] => some []
  | '%' :: a :: b :: rest =>
    match hexValue? a, hexValue? b with
    | some x, some y =>
      if 16 * x + y < 128 then (percentDecode rest).map (Char.ofNat (16 * x + y) :: ·) else none
    | _, _ => none
  | '%' :: _ => none
  | c :: rest => (percentDecode rest).map (c :: ·)

/-- Without percent signs there is nothing to decode. -/
lemma percentDecode_eq_self {cs : List Char} (h : '%' ∉ cs) : percentDecode cs = some cs := by
  induction cs with
  | nil => rfl
  | cons c cs ih =>
    have hc : c ≠ '%' := fun heq => h (heq ▸ List.mem_cons_self)
    rw [percentDecode, ih fun hm => h (List.mem_cons_of_mem _ hm), Option.map_some]
    · exact fun a b rest heq => absurd heq hc
    · exact fun heq => absurd heq hc

/-- The target of a local reference. -/
def resolveReference (root : Json) (ref : String) : Option Json :=
  match ref.toList with
  | ['#'] => some root
  | '#' :: '/' :: encoded => (percentDecode encoded).bind fun fragment =>
      pointer ((fragment.splitOn '/').map decodePointerToken) root
  | _ => none

/-- Whether a value has a type. -/
def hasType : Json → String → Bool
  | null, name => name = "null"
  | .bool _, name => name = "boolean"
  | num n, name => name = "number" || (name = "integer" && n.den = 1)
  | str _, name => name = "string"
  | arr _, name => name = "array"
  | obj _, name => name = "object"

/-- The type keyword: one type, or a list of which one must apply. -/
def MatchesType (type value : Json) : Prop :=
  (∀ name, type = str name → hasType value name = true) ∧
  ∀ names, type = arr names → ∃ name, str name ∈ names ∧ hasType value name = true

/-- Whether a keyword's value is a single schema. -/
def isSchema : Json → Bool
  | .bool _ => true
  | obj _ => true
  | _ => false

/-- The constraints of the keywords of a schema object on a value.  Of the uniqueness that `oneOf` demands,
this is the existence. -/
structure Keywords (dialect : Dialect) (V : Json → Json → Prop) (schema : List (String × Json))
    (value : Json) : Prop where
  type : ∀ t, lookup "type" schema = some t → MatchesType t value
  properties : ∀ declared key child v, lookup "properties" schema = some (obj declared) →
    lookup key declared = some child → value.member? key = some v → V child v
  required : ∀ names name, lookup "required" schema = some (arr names) → str name ∈ names →
    value.isObject = true → (value.member? name).isSome
  /-- In draft 2020-12, `items` is about the elements after those of `prefixItems`. -/
  items : ∀ (item : Json) (elements : List Json) (index : ℕ) (e : Json),
    lookup "items" schema = some item → isSchema item = true → value = arr elements →
    elements[index]? = some e →
    (dialect = .draft202012 → ∀ tuple, lookup "prefixItems" schema = some (arr tuple) →
      tuple.length ≤ index) → V item e
  prefixItems : dialect = .draft202012 → ∀ (tuple elements : List Json) (index : ℕ) (slot e : Json),
    lookup "prefixItems" schema = some (arr tuple) → value = arr elements → tuple[index]? = some slot →
    elements[index]? = some e → V slot e
  tupleItems : dialect = .draft07 → ∀ (tuple elements : List Json) (index : ℕ) (slot e : Json),
    lookup "items" schema = some (arr tuple) → value = arr elements → tuple[index]? = some slot →
    elements[index]? = some e → V slot e
  allOf : ∀ conjuncts c, lookup "allOf" schema = some (arr conjuncts) → c ∈ conjuncts → V c value
  anyOf : ∀ alternatives, lookup "anyOf" schema = some (arr alternatives) → ∃ c ∈ alternatives, V c value
  oneOf : ∀ alternatives, lookup "oneOf" schema = some (arr alternatives) → ∃ c ∈ alternatives, V c value

/-- The conjuncts that a schema lists. -/
def conjunctsOf (schema : List (String × Json)) : List Json :=
  match lookup "allOf" schema with
  | some (arr conjuncts) => conjuncts
  | _ => []

variable {schema : List (String × Json)}

lemma mem_conjunctsOf {c : Json} :
    c ∈ conjunctsOf schema ↔ ∃ conjuncts, lookup "allOf" schema = some (arr conjuncts) ∧ c ∈ conjuncts := by
  rw [conjunctsOf]
  split
  · next conjuncts heq => exact ⟨fun h => ⟨conjuncts, heq, h⟩, fun ⟨cs, hcs, h⟩ => by
      obtain rfl : conjuncts = cs := Json.arr.inj (Option.some.inj (heq.symm.trans hcs))
      exact h⟩
  · next hne => exact ⟨by simp, fun ⟨cs, hcs, _⟩ => absurd hcs (hne cs)⟩

/-- In draft-07 a reference stands for its target alone. -/
def ReferenceOnly (dialect : Dialect) (schema : List (String × Json)) : Prop :=
  dialect = .draft07 ∧ ∃ ref, lookup "$ref" schema = some (str ref)

/-- The constraints of a schema on a value. -/
def Constrains (dialect : Dialect) (root : Json) (V : Json → Json → Prop) (schema value : Json) : Prop :=
  match schema with
  | .bool b => b = true
  | obj members =>
    (∀ ref target, lookup "$ref" members = some (str ref) → resolveReference root ref = some target →
      V target value) ∧
    (¬ReferenceOnly dialect members → Keywords dialect V members value)
  | _ => True

/-- A validator respects the keywords: what it accepts meets the constraints. -/
def Respects (dialect : Dialect) (root : Json) (V : Json → Json → Prop) : Prop :=
  ∀ schema value, V schema value → Constrains dialect root V schema value

section Valid

variable {dialect : Dialect} {root : Json}
variable {value : Json} {members : List (String × Json)}
variable {V : Json → Json → Prop}
variable {W : Json → Json → Prop} {conjuncts : List Json}

/-- The keywords demand more of a stricter validator. -/
lemma Keywords.mono (hVW : ∀ s v, V s v → W s v) (h : Keywords dialect V schema value) :
    Keywords dialect W schema value where
  type := h.type
  properties := fun declared key child v hd hc hv => hVW _ _ (h.properties declared key child v hd hc hv)
  required := h.required
  items := fun item elements index e hi hs hv he hskip =>
    hVW _ _ (h.items item elements index e hi hs hv he hskip)
  prefixItems := fun hd tuple elements index slot e ht hv hs he =>
    hVW _ _ (h.prefixItems hd tuple elements index slot e ht hv hs he)
  tupleItems := fun hd tuple elements index slot e ht hv hs he =>
    hVW _ _ (h.tupleItems hd tuple elements index slot e ht hv hs he)
  allOf := fun conjuncts c hcs hc => hVW _ _ (h.allOf conjuncts c hcs hc)
  anyOf := fun alternatives ha => by
    obtain ⟨c, hc, hV⟩ := h.anyOf alternatives ha
    exact ⟨c, hc, hVW _ _ hV⟩
  oneOf := fun alternatives ha => by
    obtain ⟨c, hc, hV⟩ := h.oneOf alternatives ha
    exact ⟨c, hc, hVW _ _ hV⟩

lemma Constrains.mono (hVW : ∀ s v, V s v → W s v) {schema value : Json}
    (h : Constrains dialect root V schema value) : Constrains dialect root W schema value := by
  cases schema with
  | bool b => exact h
  | obj members =>
    exact ⟨fun ref target hr ht => hVW _ _ (h.1 ref target hr ht), fun hn => (h.2 hn).mono hVW⟩
  | null | num | str | arr => trivial

/-- The constraints as a monotone operator. -/
def constraint (dialect : Dialect) (root : Json) : (Json → Json → Prop) →o (Json → Json → Prop) where
  toFun := Constrains dialect root
  monotone' := fun _ _ hVW _ _ h => h.mono hVW

/-- A value is valid when some validator that respects the keywords accepts it. -/
def Valid (dialect : Dialect) (root : Json) : Json → Json → Prop :=
  OrderHom.gfp (constraint dialect root)

/-- **What a validator that respects the keywords accepts is valid.** -/
theorem Respects.valid (h : Respects dialect root V) {schema value : Json} (hV : V schema value) :
    Valid dialect root schema value :=
  OrderHom.le_gfp (constraint dialect root) h schema value hV

/-- **Validity is its own constraint.** -/
theorem valid_iff {schema value : Json} :
    Valid dialect root schema value ↔
      Constrains dialect root (Valid dialect root) schema value := by
  have h := OrderHom.map_gfp (constraint dialect root)
  exact iff_of_eq (congrFun (congrFun h schema) value).symm

/-- Validity against a schema object without a reference is that of its keywords. -/
lemma valid_obj_iff (href : ∀ ref, lookup "$ref" members ≠ some (str ref)) :
    Valid dialect root (obj members) value ↔
      Keywords dialect (Valid dialect root) members value := by
  rw [valid_iff, Constrains]
  exact ⟨fun h => h.2 fun hr => href _ hr.2.choose_spec,
    fun h => ⟨fun ref _ hr => absurd hr (href ref), fun _ => h⟩⟩

/-- A reference demands what its target does. -/
lemma Valid.target {value target : Json} {ref : String} (h : Valid dialect root (obj members) value)
    (href : lookup "$ref" members = some (str ref)) (htarget : resolveReference root ref = some target) :
    Valid dialect root target value :=
  (valid_iff.mp h).1 ref target href htarget

/-- The keywords other than `prefixItems` may be dropped: without that one, `items` would be about more
elements. -/
lemma Keywords.erase {k : String} (hk : k ≠ "prefixItems") (h : Keywords dialect V members value) :
    Keywords dialect V (Json.erase k members) value := by
  have hkept : ∀ {key v}, lookup key (Json.erase k members) = some v → lookup key members = some v := by
    intro key v hv
    rw [lookup_erase] at hv
    split_ifs at hv
    exact hv
  have htuple : lookup "prefixItems" (Json.erase k members) = lookup "prefixItems" members := by
    rw [lookup_erase, if_neg hk.symm]
  exact {
    type := fun t ht => h.type t (hkept ht)
    properties := fun declared key child v hd => h.properties declared key child v (hkept hd)
    required := fun names name hn => h.required names name (hkept hn)
    items := fun item elements index e hi hs hv he hskip =>
      h.items item elements index e (hkept hi) hs hv he fun hd tuple ht => hskip hd tuple (htuple ▸ ht)
    prefixItems := fun hd tuple elements index slot e ht => h.prefixItems hd tuple elements index slot e (hkept ht)
    tupleItems := fun hd tuple elements index slot e ht => h.tupleItems hd tuple elements index slot e (hkept ht)
    allOf := fun conjuncts c hcs => h.allOf conjuncts c (hkept hcs)
    anyOf := fun alternatives ha => h.anyOf alternatives (hkept ha)
    oneOf := fun alternatives ha => h.oneOf alternatives (hkept ha) }

/-- Conjuncts that a value meets may be put in place of those of a schema. -/
lemma Keywords.assign_allOf (h : Keywords dialect V members value) (hall : ∀ c ∈ conjuncts, V c value) :
    Keywords dialect V (assign "allOf" (arr conjuncts) members) value := by
  have hkept : ∀ {key v}, lookup key (assign "allOf" (arr conjuncts) members) = some v →
      key ≠ "allOf" → lookup key members = some v := by
    intro key v hv hkey
    rwa [lookup_assign, if_neg hkey] at hv
  have htuple : lookup "prefixItems" (assign "allOf" (arr conjuncts) members) =
      lookup "prefixItems" members := by
    rw [lookup_assign, if_neg (by decide)]
  exact {
    type := fun t ht => h.type t (hkept ht (by decide))
    properties := fun declared key child v hd =>
      h.properties declared key child v (hkept hd (by decide))
    required := fun names name hn => h.required names name (hkept hn (by decide))
    items := fun item elements index e hi hs hv he hskip =>
      h.items item elements index e (hkept hi (by decide)) hs hv he fun hd tuple ht =>
        hskip hd tuple (htuple.trans ht)
    prefixItems := fun hd tuple elements index slot e ht =>
      h.prefixItems hd tuple elements index slot e (hkept ht (by decide))
    tupleItems := fun hd tuple elements index slot e ht =>
      h.tupleItems hd tuple elements index slot e (hkept ht (by decide))
    allOf := fun cs c hcs hc => by
      rw [lookup_assign, if_pos rfl] at hcs
      obtain rfl : conjuncts = cs := Json.arr.inj (Option.some.inj hcs)
      exact hall c hc
    anyOf := fun alternatives ha => h.anyOf alternatives (hkept ha (by decide))
    oneOf := fun alternatives ha => h.oneOf alternatives (hkept ha (by decide)) }

/-- The keywords of a schema that is not a mere reference. -/
lemma Valid.keywords (h : Valid dialect root (obj members) value) (hn : ¬ReferenceOnly dialect members) :
    Keywords dialect (Valid dialect root) members value :=
  (valid_iff.mp h).2 hn

/-- A schema may be joined with conjuncts that the value meets. -/
lemma Valid.withConjuncts (h : Valid dialect root (obj members) value)
    (hall : ∀ c ∈ conjuncts, Valid dialect root c value) :
    Valid dialect root
      (obj (assign "allOf" (arr (conjuncts ++ conjunctsOf members)) members)) value := by
  have href : lookup "$ref" (assign "allOf" (arr (conjuncts ++ conjunctsOf members)) members) =
      lookup "$ref" members := by
    rw [lookup_assign, if_neg (by decide)]
  rw [valid_iff]
  refine ⟨fun ref target hr ht => h.target (href ▸ hr) ht, fun hn => ?_⟩
  have hkeywords := h.keywords fun hreference => hn ⟨hreference.1, href ▸ hreference.2⟩
  refine hkeywords.assign_allOf fun c hc => ?_
  rcases List.mem_append.mp hc with hc | hc
  · exact hall c hc
  · obtain ⟨cs, hcs, hmem⟩ := mem_conjunctsOf.mp hc
    exact hkeywords.allOf cs c hcs hmem

/-- An intersection of two schemas. -/
lemma valid_allOf_pair {a b value : Json} (ha : Valid dialect root a value)
    (hb : Valid dialect root b value) : Valid dialect root (obj [("allOf", arr [a, b])]) value := by
  refine (valid_obj_iff (by simp)).mpr ?_
  refine ⟨by simp, by simp, by simp, by simp, by simp, by simp, ?_, by simp, by simp⟩
  intro conjuncts c hcs hc
  obtain rfl : conjuncts = [a, b] := by simpa [eq_comm] using hcs
  rcases List.mem_pair.mp hc with rfl | rfl
  · exact ha
  · exact hb

end Valid

/-! ### A validator -/

/-- Whether a value has a type that is declared. -/
def acceptsType (schema : List (String × Json)) (value : Json) : Bool :=
  match lookup "type" schema with
  | some (str name) => hasType value name
  | some (arr names) => names.any fun n => n.str?.any (hasType value)
  | _ => true

/-- Whether the declared properties are accepted. -/
def acceptsProperties (accept : Json → Json → Bool) (schema : List (String × Json)) (value : Json) :
    Bool :=
  match lookup "properties" schema with
  | some (obj declared) => (entries declared).all fun m => (value.member? m.1).all (accept m.2)
  | _ => true

/-- Whether the required properties are there. -/
def acceptsRequired (schema : List (String × Json)) (value : Json) : Bool :=
  match lookup "required" schema with
  | some (arr names) =>
    !value.isObject || names.all fun n => n.str?.all fun name => (value.member? name).isSome
  | _ => true

/-- How many elements `items` is not about. -/
def skippedItems (dialect : Dialect) (schema : List (String × Json)) : ℕ :=
  match dialect, lookup "prefixItems" schema with
  | .draft202012, some (arr tuple) => tuple.length
  | _, _ => 0

/-- Whether the elements of an array are accepted. -/
def acceptsItems (dialect : Dialect) (accept : Json → Json → Bool) (schema : List (String × Json))
    (value : Json) : Bool :=
  match lookup "items" schema, value with
  | some (arr tuple), arr elements => (tuple.zip elements).all fun p => accept p.1 p.2
  | some item, arr elements =>
    !isSchema item || (elements.drop (skippedItems dialect schema)).all (accept item)
  | _, _ => true

/-- Whether the first elements of an array are accepted. -/
def acceptsPrefixItems (dialect : Dialect) (accept : Json → Json → Bool)
    (schema : List (String × Json)) (value : Json) : Bool :=
  match dialect, lookup "prefixItems" schema, value with
  | .draft202012, some (arr tuple), arr elements => (tuple.zip elements).all fun p => accept p.1 p.2
  | _, _, _ => true

/-- Whether some alternative, or exactly one, accepts a value. -/
def acceptsUnions (accept : Json → Json → Bool) (schema : List (String × Json)) (value : Json) : Bool :=
  (match lookup "anyOf" schema with
    | some (arr alternatives) => alternatives.any fun c => accept c value
    | _ => true) &&
  match lookup "oneOf" schema with
  | some (arr alternatives) => (alternatives.filter fun c => accept c value).length = 1
  | _ => true

/-- Whether the target of a reference accepts a value. -/
def acceptsReference (accept : Json → Json → Bool) (root : Json) (schema : List (String × Json))
    (value : Json) : Bool :=
  match lookup "$ref" schema with
  | some (str ref) => (resolveReference root ref).any fun target => accept target value
  | _ => true

/-- Whether a schema stands for its reference alone. -/
def isReferenceOnly (dialect : Dialect) (schema : List (String × Json)) : Bool :=
  dialect = .draft07 && ((lookup "$ref" schema).bind str?).isSome

/-- Whether the keywords of a schema accept a value. -/
def acceptsKeywords (dialect : Dialect) (accept : Json → Json → Bool) (schema : List (String × Json))
    (value : Json) : Bool :=
  acceptsType schema value && acceptsProperties accept schema value && acceptsRequired schema value &&
    acceptsItems dialect accept schema value && acceptsPrefixItems dialect accept schema value &&
    (conjunctsOf schema).all (fun c => accept c value) && acceptsUnions accept schema value

/-- A validator for the keywords, with fuel for cyclic references. -/
def accepts (dialect : Dialect) (root : Json) : ℕ → Json → Json → Bool
  | 0, _, _ => false
  | _ + 1, .bool b, _ => b
  | fuel + 1, obj schema, value =>
    acceptsReference (accepts dialect root fuel) root schema value &&
      (isReferenceOnly dialect schema ||
        acceptsKeywords dialect (accepts dialect root fuel) schema value)
  | _ + 1, _, _ => false

section Validator

variable {dialect : Dialect} {root : Json}
variable {accept : Json → Json → Bool}

/-- Two lists that are accepted in pairs are accepted at each index. -/
private lemma accept_of_zip {tuple elements : List Json} {index : ℕ} {slot e : Json}
    (h : ((tuple.zip elements).all fun p => accept p.1 p.2) = true) (hslot : tuple[index]? = some slot)
    (he : elements[index]? = some e) : accept slot e = true := by
  refine List.all_eq_true.mp h (slot, e) (List.mem_of_getElem? (i := index) ?_)
  rw [List.getElem?_zip_eq_some]
  exact ⟨hslot, he⟩

/-- The keywords of a schema whose subschemas are decided by a function. -/
lemma keywords_of_accepts {value : Json} (h : acceptsKeywords dialect accept schema value = true) :
    Keywords dialect (fun s v => accept s v = true) schema value := by
  simp only [acceptsKeywords, Bool.and_eq_true] at h
  obtain ⟨⟨⟨⟨⟨⟨htype, hproperties⟩, hrequired⟩, hitems⟩, htuple⟩, hall⟩, hunions⟩ := h
  rw [acceptsUnions, Bool.and_eq_true] at hunions
  exact {
    type := fun t ht => by
      rw [acceptsType, ht] at htype
      refine ⟨fun name hname => by subst hname; exact htype, fun names hnames => ?_⟩
      subst hnames
      obtain ⟨n, hn, hany⟩ := List.any_eq_true.mp htype
      cases n with
      | str name => exact ⟨name, hn, hany⟩
      | null | bool | num | arr | obj => cases hany
    properties := fun declared key child v hd hc hv => by
      rw [acceptsProperties, hd] at hproperties
      simpa [hv] using List.all_eq_true.mp hproperties (key, child) (mem_entries.mpr hc)
    required := fun names name hn hname hobject => by
      rw [acceptsRequired, hn, hobject] at hrequired
      simpa [str?] using List.all_eq_true.mp hrequired (str name) hname
    items := fun item elements index e hi hs hv he hskip => by
      subst hv
      have hskipped : skippedItems dialect schema ≤ index := by
        unfold skippedItems
        split
        · next tuple ht => exact hskip rfl tuple ht
        · exact Nat.zero_le _
      unfold acceptsItems at hitems
      rw [hi] at hitems
      cases item with
      | arr tuple => cases hs
      | obj | bool =>
        refine List.all_eq_true.mp (by simpa [isSchema] using hitems) e ?_
        rw [List.mem_drop_iff_getElem]
        obtain ⟨hlt, rfl⟩ := List.getElem?_eq_some_iff.mp he
        exact ⟨index - skippedItems dialect schema, by omega, by congr 1; omega⟩
      | null | num | str => cases hs
    prefixItems := fun hd tuple elements index slot e ht hv hslot he => by
      subst hd hv
      unfold acceptsPrefixItems at htuple
      rw [ht] at htuple
      exact accept_of_zip htuple hslot he
    tupleItems := fun hd tuple elements index slot e ht hv hslot he => by
      subst hd hv
      unfold acceptsItems at hitems
      rw [ht] at hitems
      exact accept_of_zip hitems hslot he
    allOf := fun conjuncts c hcs hc =>
      List.all_eq_true.mp hall c (mem_conjunctsOf.mpr ⟨conjuncts, hcs, hc⟩)
    anyOf := fun alternatives ha => by
      have hany := hunions.1
      rw [ha] at hany
      exact List.any_eq_true.mp hany
    oneOf := fun alternatives ha => by
      have hone := hunions.2
      rw [ha] at hone
      obtain ⟨c, hc⟩ := List.exists_mem_of_length_pos (Nat.lt_of_lt_of_eq Nat.one_pos
        (of_decide_eq_true hone).symm)
      exact ⟨c, (List.mem_filter.mp hc).1, (List.mem_filter.mp hc).2⟩ }

/-- **What the validator accepts, with any fuel, meets the constraints of the keywords.** -/
theorem accepts_respects :
    Respects dialect root fun schema value => ∃ fuel, accepts dialect root fuel schema value = true := by
  rintro schema value ⟨fuel, h⟩
  cases fuel with
  | zero => cases h
  | succ fuel =>
    cases schema with
    | bool b => exact h
    | obj members =>
      rw [accepts, Bool.and_eq_true] at h
      obtain ⟨href, h⟩ := h
      refine ⟨fun ref target hr ht => ⟨fuel, ?_⟩, fun hn => ?_⟩
      · rw [acceptsReference, hr] at href
        simpa [ht] using href
      · rcases Bool.or_eq_true_iff.mp h with hr | hkeywords
        · rw [isReferenceOnly, Bool.and_eq_true, decide_eq_true_iff] at hr
          obtain ⟨name, hname⟩ := Option.isSome_iff_exists.mp hr.2
          obtain ⟨v, hv, hstr⟩ := Option.bind_eq_some_iff.mp hname
          cases v with
          | str ref => exact absurd ⟨hr.1, ref, hv⟩ hn
          | null | bool | num | arr | obj => cases hstr
        · exact (keywords_of_accepts hkeywords).mono fun s v hsv => ⟨fuel, hsv⟩
    | null | num | str | arr => trivial

end Validator

end Foundations.JsonSchema

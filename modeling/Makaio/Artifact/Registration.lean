import Makaio.Artifact.SchemaCoverage

set_option autoImplicit false

/-!
# Sound registrations

When the checks of a registration find no issue, the data of every artifact of the kind has a title
and, in each area of addressable parts, elements with identifiers.  The data is that which the kind's
schema admits: some validator that respects the keywords of JSON Schema accepts it, and may demand
more.

## Main definitions

* `KindRegistration`, `Accepted` — a registration, and that its checks find no issue.

## Main results

* `accepted_registration_sound` — the data of an accepted kind has what its readers
  rely on, when the references of the schema are faithful.
* `accepted_percent_encoded` — an accepted kind with an unfaithful reference, whose
  data need not have a title.
-/

namespace Makaio.Artifact

open Foundations Json JsonSchema

/-- What a kind registers about its data. -/
structure KindRegistration extends KindDataPaths where
  addressableParts : Option (List ArtifactPartArea)

/-- The checks of a registration return, and find no issue. -/
def Accepted (registration : KindRegistration) : Prop :=
  ∃ fuel, validateKindDataPaths fuel registration.toKindDataPaths = some [] ∧
    validateArtifactPartAreas fuel registration.dataSchema registration.addressableParts = some []

variable {frags : List Json} {parts : List String} {root dataSchema : SchemaObject} {value : Json}
  {fuel index : ℕ} {area : ArtifactPartArea}

/-- Fragments that declare a type describe values of the type. -/
lemma Covers.hasType {v : Json} {required : Bool} {name : String} (h : Covers root value parts required frags)
    (hdeclare : allDeclare (some frags) name = true) (hv : follow parts value = some v) :
    hasType v name = true := by
  obtain ⟨f, hf, hfragment⟩ := h.present v hv
  unfold allDeclare at hdeclare
  split at hdeclare
  · next g gs hfrags =>
    cases hfrags
    exact hfragment.hasType (List.all_eq_true.mp hdeclare f hf)
  · cases hdeclare

/-- Required string fragments at a path give a string there. -/
lemma Covers.string (h : Covers root value parts true frags)
    (hdeclare : allDeclare (some frags) "string" = true) :
    ∃ s, follow parts value = some (str s) := by
  obtain ⟨v, hv⟩ := Option.isSome_iff_exists.mp (h.exists_of_required rfl)
  have htype := h.hasType hdeclare hv
  cases v with
  | str s => exact ⟨s, hv⟩
  | null | bool | num | arr | obj => simp [JsonSchema.hasType] at htype

/-- No issue at a title path: fragments of required strings. -/
lemma title_of_accepted {value : KindDataPaths} (h : validateKindDataPaths fuel value = some []) :
    ∃ frags, fieldSchemas value.dataSchema fuel value.dataSchema value.titlePath.segments true [] true
      false = some (some frags) ∧ allDeclare (some frags) "string" = true := by
  obtain ⟨compositions, -, h⟩ := Option.bind_eq_some_iff.mp h
  obtain ⟨title, htitle, h⟩ := Option.bind_eq_some_iff.mp h
  obtain ⟨paths, -, h⟩ := Option.map_eq_some_iff.mp h
  have hdeclare : allDeclare title "string" = true := by
    by_contra hne
    rw [if_neg hne] at h
    simp at h
  cases title with
  | some frags => exact ⟨frags, htitle, hdeclare⟩
  | none => cases hdeclare

/-- No issue at an area: fragments of arrays that are no tuples, and of required strings below their
elements. -/
lemma area_of_accepted (h : validatePartArea fuel dataSchema area index = some []) :
    ∃ areaFrags idFrags,
      inspectArtifactDataLocation fuel dataSchema area.path.segments false false =
        some (some areaFrags) ∧
      (∀ f ∈ areaFrags, declaresType f "array" = true ∧ isTupleShape f = false) ∧
      inspectArtifactDataLocation fuel dataSchema area.idLocation false true = some (some idFrags) ∧
      allDeclare (some idFrags) "string" = true := by
  obtain ⟨areaFragments, harea, h⟩ := Option.bind_eq_some_iff.mp h
  split at h
  · next f fs =>
    split_ifs at h with hnonArray htuple
    · cases h
    · cases h
    · obtain ⟨idFragments, hid, h⟩ := Option.map_eq_some_iff.mp h
      have hdeclare : allDeclare idFragments "string" = true := by
        by_contra hne
        rw [if_neg hne] at h
        cases h
      cases idFragments with
      | some idFrags =>
        refine ⟨f :: fs, idFrags, harea, fun g hg => ⟨?_, ?_⟩, hid, hdeclare⟩
        · by_contra hne
          exact hnonArray (List.any_eq_true.mpr ⟨g, hg, by simpa using hne⟩)
        · by_contra hne
          exact htuple (List.any_eq_true.mpr ⟨g, hg, by simpa using hne⟩)
      | none => cases hdeclare
  · cases h

/-- Without issues, no area has one. -/
lemma areas_of_accepted {areas : List ArtifactPartArea} {seenPaths : List String}
    (h : validatePartAreasFrom fuel dataSchema areas index seenPaths = some []) (harea : area ∈ areas) :
    ∃ i, validatePartArea fuel dataSchema area i = some [] := by
  induction areas generalizing index seenPaths with
  | nil => cases harea
  | cons first rest ih =>
    obtain ⟨issues, hissues, h⟩ := Option.bind_eq_some_iff.mp h
    obtain ⟨later, hlater, h⟩ := Option.map_eq_some_iff.mp h
    obtain ⟨hfirst, rfl⟩ := List.append_eq_nil_iff.mp h
    obtain ⟨-, rfl⟩ := List.append_eq_nil_iff.mp hfirst
    rcases List.mem_cons.mp harea with rfl | harea
    · exact ⟨index, hissues⟩
    · exact ih hlater harea

/-- **The data of an accepted kind has a title, and parts with identifiers.**

**Proof sketch.** The fragments of the title path describe the value there
(`Artifact.fieldSchemas_describes`), those of an area the elements of the array
(`Artifact.fieldSchemas_elements`). -/
theorem accepted_registration_sound (registration : KindRegistration) (data : List (String × Json))
    (V : Json → Json → Prop) (haccepted : Accepted registration)
    (hfaithful : FaithfulWithin registration.dataSchema (obj registration.dataSchema))
    (hV : Respects (dialectOf registration.dataSchema) (obj registration.dataSchema) V)
    (hdata : V (obj registration.dataSchema) (obj data)) :
    (∃ title, follow registration.titlePath.segments (obj data) = some (str title)) ∧
      ∀ area ∈ registration.addressableParts.getD [],
        ∀ v, follow area.path.segments (obj data) = some v →
          ∃ elements, v = arr elements ∧
            ∀ e ∈ elements, ∃ id, follow area.idPath.segments e = some (str id) := by
  obtain ⟨fuel, hpaths, hparts⟩ := haccepted
  have hdescribes : Describes registration.dataSchema (obj registration.dataSchema) (obj data) :=
    ⟨hfaithful, hV.valid hdata⟩
  constructor
  · obtain ⟨frags, hfrags, hdeclare⟩ := title_of_accepted hpaths
    exact (fieldSchemas_describes hfaithful registration.titlePath.element_not_mem hfrags hdescribes
      fun _ => rfl).string hdeclare
  · intro area harea v hv
    obtain ⟨index, hissues⟩ := areas_of_accepted hparts harea
    obtain ⟨areaFrags, idFrags, hinspect, harray, hid, hdeclare⟩ := area_of_accepted hissues
    obtain ⟨elements, rfl, hcovers⟩ := fieldSchemas_elements hfaithful area.path.element_not_mem
      area.idPath.element_not_mem hinspect hid harray hdescribes hv
    exact ⟨elements, rfl, fun e he => (hcovers e he).string hdeclare⟩

/-! ### Two registrations -/

def titlePath : ArtifactDataPath :=
  ⟨["title"], by decide, by decide⟩

/-- A kind with a title and steps, each with an identifier. -/
def stepsRegistration : KindRegistration where
  dataSchema := [("type", str "object"), ("required", arr [str "title"]),
    ("properties", obj [("title", obj [("type", str "string")]),
      ("steps", obj [("type", str "array"), ("items", obj [("$ref", str "#/definitions/step")])])]),
    ("definitions", obj [("step", obj [("type", str "object"), ("required", arr [str "id"]),
      ("properties", obj [("id", obj [("type", str "string")])])])])]
  titlePath := titlePath
  indexedFields := none
  searchableFields := none
  views := none
  uniqueness := none
  addressableParts := some [⟨⟨["steps"], by decide, by decide⟩, ⟨["id"], by decide, by decide⟩⟩]

/-- Data of that kind. -/
def stepsData : List (String × Json) :=
  [("title", str "Plan"), ("steps", arr [obj [("id", str "first")], obj [("id", str "second")]])]

/-- The title and the identifiers of the data of that kind. -/
theorem accepted_registration_sound_steps :
    (∃ title, follow stepsRegistration.titlePath.segments (obj stepsData) = some (str title)) ∧
      ∀ area ∈ stepsRegistration.addressableParts.getD [],
        ∀ v, follow area.path.segments (obj stepsData) = some v →
          ∃ elements, v = arr elements ∧
            ∀ e ∈ elements, ∃ id, follow area.idPath.segments e = some (str id) :=
  accepted_registration_sound stepsRegistration stepsData
    (fun schema value => ∃ fuel, accepts (dialectOf stepsRegistration.dataSchema)
      (obj stepsRegistration.dataSchema) fuel schema value = true)
    ⟨10, by decide +kernel, by decide +kernel⟩ (faithfulWithin_of_percentFree (by decide +kernel))
    accepts_respects ⟨10, by decide +kernel⟩

/-- A kind whose title refers to a key as it is written, and percent-decoded to another one. -/
def percentRegistration : KindRegistration where
  dataSchema := [("type", str "object"), ("required", arr [str "title"]),
    ("properties", obj [("title", obj [("$ref", str "#/definitions/a%20b")])]),
    ("definitions", obj [("a%20b", obj [("type", str "string")]),
      ("a b", obj [("type", str "number")])])]
  titlePath := titlePath
  indexedFields := none
  searchableFields := none
  views := none
  uniqueness := none
  addressableParts := none

/-- The registration is accepted, and data without a title is valid. -/
theorem accepted_percent_encoded :
    Accepted percentRegistration ∧
      accepts (dialectOf percentRegistration.dataSchema) (obj percentRegistration.dataSchema) 10
        (obj percentRegistration.dataSchema) (obj [("title", num 3)]) = true ∧
      ¬∃ title, follow percentRegistration.titlePath.segments (obj [("title", num 3)]) =
        some (str title) := by
  refine ⟨⟨10, by decide +kernel, by decide +kernel⟩, by decide +kernel, ?_⟩
  rintro ⟨title, htitle⟩
  simp [percentRegistration, titlePath, follow, member?] at htitle

end Makaio.Artifact

import Makaio.Foundations.PointerFragment
import Makaio.Artifact.SchemaCoverage

set_option autoImplicit false

/-!
# The two resolvers of schema references

Registration looks up the target of a `$ref` as it is written (`resolvePointer` in `kind-paths.ts`); the
walker that discovers evidence in an artifact's data decodes percent signs first and goes through array
positions as well (`resolveLocalReference` in `evidence-occurrences.ts`).  For what registration accepts, the
walker should come to the node that registration checked.

## Main definitions

* `SchemaNode` — a node of a schema document: where it stands, and what stands there.
* `resolvePointerNode`, `resolveLocalReference` — the two resolvers.
* `AcceptedReference` — registration accepts a reference.
* `ResolvesAlike` — the two resolvers come to the same node.

## Main results

* `accepted_of_validated` — the references of a node without issues are accepted.
* `references_agree_iff` — the resolvers agree exactly on the references without a percent
  sign.
* `references_differ` — an accepted reference for which the walker takes another definition.
-/

namespace Makaio.Artifact

open Foundations Json JsonSchema

/-- A node of a schema document: the keys that lead to it from the root, and what stands there.  Two nodes of
a document are the same object when their positions are the same. -/
structure SchemaNode where
  position : List String
  value : Json

/-- The node that `resolvePointer` looks up. -/
def resolvePointerNode (root : SchemaObject) (ref : String) : Option SchemaNode :=
  match ref.toList with
  | ['#'] => some ⟨[], obj root⟩
  | '#' :: '/' :: fragment =>
    (follow (pointerKeys fragment) (obj root)).map fun value => ⟨pointerKeys fragment, value⟩
  | _ => none

/-- A resolved reference of the evidence walker: the node and the decoded pointer to it. -/
structure LocalReference where
  node : SchemaNode
  pointer : List Char

/-- Resolve a local reference against the root schema: the fragment is decoded, and its tokens are object
keys or array positions. -/
def resolveLocalReference (root : SchemaObject) (ref : String) : Option LocalReference :=
  match ref.toList with
  | ['#'] => some ⟨⟨[], obj root⟩, []⟩
  | '#' :: '/' :: fragment =>
    (decodeURIComponent ('/' :: fragment)).bind fun pointer =>
      (Json.pointer (pointerKeys pointer.tail) (obj root)).bind fun value =>
        if isSchema value then some ⟨⟨pointerKeys pointer.tail, value⟩, pointer⟩ else none
  | _ => none

/-- Registration accepts a reference: it yields an object or a boolean schema. -/
def AcceptedReference (root : SchemaObject) (ref : String) : Prop :=
  ∃ value, resolvePointer root ref = some value ∧ isSchema value = true

/-- The walker comes to the node that registration looked up. -/
def ResolvesAlike (root : SchemaObject) (ref : String) : Prop :=
  ∃ node, resolvePointerNode root ref = some node ∧
    (resolveLocalReference root ref).map LocalReference.node = some node

variable {root node : SchemaObject} {ref : String}

/-- What registration looks up is a reference to the root or a pointer behind `#/`. -/
lemma AcceptedReference.shape (h : AcceptedReference root ref) :
    ref.toList = ['#'] ∨ ∃ fragment, ref.toList = '#' :: '/' :: fragment := by
  obtain ⟨value, hvalue, -⟩ := h
  rw [resolvePointer] at hvalue
  split at hvalue
  · next heq => exact Or.inl heq
  · next fragment heq => exact Or.inr ⟨fragment, heq⟩
  · cases hvalue

/-- The reference of a node that registration finds no issue with is accepted. -/
theorem accepted_of_validated {path : List PathPart} (hvalid : validateSchemaReferences root node path = [])
    (href : lookup "$ref" node = some (str ref)) : AcceptedReference root ref := by
  simp only [validateSchemaReferences, href, List.append_eq_nil_iff] at hvalid
  obtain ⟨⟨⟨⟨-, hfragment⟩, -⟩, hnamed⟩, htarget⟩ := hvalid
  have hlocal : ref = "#" ∨ ref.toList.take 2 = ['#', '/'] := by
    split at hnamed
    · next heq =>
      left
      rw [← String.toList_inj, heq]
      rfl
    · next rest heq =>
      right
      simp [heq]
    · cases hnamed
    · next hroot hpointer hother =>
      split_ifs at hfragment with hhead
      obtain ⟨rest, hrest⟩ := List.head?_eq_some_iff.mp hhead
      exact absurd hrest (hother rest)
  rw [if_pos hlocal] at htarget
  split at htarget
  · next target heq => exact ⟨_, heq, rfl⟩
  · next b heq => exact ⟨_, heq, rfl⟩
  · cases htarget

/-- The slash that starts the pointer decodes to itself. -/
lemma decodeURIComponent_slash (fragment : List Char) :
    decodeURIComponent ('/' :: fragment) = (decodeURIComponent fragment).map ('/' :: ·) := by
  have hidle : Utf8.Decoder.idle.needed = 0 := rfl
  rw [decodeURIComponent, decodeFrom_cons (by decide), if_pos hidle, decodeURIComponent]

/-- What the walker makes of a pointer behind `#/`. -/
lemma resolveLocalReference_pointer {fragment : List Char} (href : ref.toList = '#' :: '/' :: fragment) :
    (resolveLocalReference root ref).map LocalReference.node =
      (decodeURIComponent fragment).bind fun decoded =>
        ((Json.pointer (pointerKeys decoded) (obj root)).filter isSchema).map fun value =>
          ⟨pointerKeys decoded, value⟩ := by
  simp only [resolveLocalReference, href, decodeURIComponent_slash]
  cases decodeURIComponent fragment with
  | none => rfl
  | some decoded =>
    simp only [Option.map_some, Option.bind_some, List.tail_cons]
    cases Json.pointer (pointerKeys decoded) (obj root) with
    | none => rfl
    | some value => cases h : isSchema value <;> simp [h]

/-- **The two resolvers agree exactly on the references without a percent sign**, among those that
registration accepts.

**Proof sketch.**  Without a percent sign the walker decodes nothing, and a path of object keys is a pointer.
With one, the decoded text names other keys (`pointerKeys_decodeURIComponent_ne`), so the walker comes to
another position, or to none. -/
theorem references_agree_iff (root : SchemaObject) (ref : String) (h : AcceptedReference root ref) :
    ResolvesAlike root ref ↔ '%' ∉ ref.toList := by
  rcases h.shape with href | ⟨fragment, href⟩
  · simp [ResolvesAlike, resolvePointerNode, resolveLocalReference, href]
  · obtain ⟨value, hvalue, hschema⟩ := h
    have hfollow : follow (pointerKeys fragment) (obj root) = some value := by
      simpa [resolvePointer, href, pointerKeys] using hvalue
    have hnode : resolvePointerNode root ref = some ⟨pointerKeys fragment, value⟩ := by
      simp [resolvePointerNode, href, hfollow]
    have hpercent : '%' ∈ ref.toList ↔ '%' ∈ fragment := by simp [href]
    rw [hpercent, ResolvesAlike, resolveLocalReference_pointer href, hnode]
    constructor
    · rintro ⟨node, hnode, hlocal⟩ hmem
      cases hnode
      obtain ⟨decoded, hdecoded, hrest⟩ := Option.bind_eq_some_iff.mp hlocal
      obtain ⟨_, -, heq⟩ := Option.map_eq_some_iff.mp hrest
      exact pointerKeys_decodeURIComponent_ne hdecoded hmem (SchemaNode.mk.inj heq).1
    · intro hmem
      refine ⟨_, rfl, ?_⟩
      rw [decodeURIComponent_eq_self hmem, Option.bind_some, pointer_of_follow hfollow]
      simp [hschema]

/-- A schema with a definition whose name looks percent-encoded, and one with the decoded name. -/
def encodedNames : SchemaObject :=
  [("$defs", obj [("a%20b", obj [("type", str "object")]), ("a b", obj [("type", str "string")])]),
    ("$ref", str "#/$defs/a%20b"), ("properties", obj [("title", obj [("$ref", str "#/$defs/a b")])])]

/-- The agreement at a reference without a percent sign. -/
theorem references_agree_iff_plain :
    ResolvesAlike encodedNames "#/$defs/a b" ↔ '%' ∉ "#/$defs/a b".toList :=
  references_agree_iff encodedNames "#/$defs/a b" ⟨_, rfl, rfl⟩

/-- **The walker takes another definition**: registration accepts the reference and checked the definition
under its literal name, the walker comes to the one under the decoded name. -/
theorem references_differ :
    AcceptedReference encodedNames "#/$defs/a%20b" ∧ ¬ResolvesAlike encodedNames "#/$defs/a%20b" ∧
    (resolveLocalReference encodedNames "#/$defs/a%20b").map LocalReference.node =
      some ⟨["$defs", "a b"], obj [("type", str "string")]⟩ := by
  refine ⟨⟨_, rfl, rfl⟩, ?_, rfl⟩
  rintro ⟨node, hnode, hlocal⟩
  cases hnode
  cases Option.some.inj hlocal

end Makaio.Artifact

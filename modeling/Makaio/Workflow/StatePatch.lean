import Makaio.Foundations.JsonPatch
import Makaio.Foundations.Sorting
import Makaio.Foundations.Utf16

set_option autoImplicit false

/-!
# Patches of the workflow state

The state of a workflow execution is a JSON value.  A mutation is logged as a JSON Patch, which
`createWorkflowStatePatch` derives from the values before and after it: objects are compared key by key, arrays
index by index, and other values are replaced when they are not identical.

## Main definitions

* `createWorkflowStatePatch` — the operations; `appendJsonPatchOperations` — those below a path.
* `applyPatch` — a patch applied to a document.
* `Transforms` — operations that make one value of another, below whatever path.

## Main results

* `transforms_elements`, `transforms_members` — the loops over elements and keys.
* `transforms` — the operations make the value after of the value before.
* `appendJsonPatchOperations_eq_nil` — there are none between values that are the same.
-/

namespace Makaio.Workflow

open Foundations JsonPatch

/-- An operation of a patch: a path, and what is done there. -/
structure JsonPatchOperation (N : Type) where
  path : String
  edit : Edit N

variable {N : Type}

/-- A patch applied to a document. -/
def applyPatch (patch : List (JsonPatchOperation N)) (doc : Value N) : Option (Value N) :=
  patch.foldlM (fun doc op => (parsePointer op.path).bind fun tokens => op.edit.applyAt tokens doc) doc

/-! ### Building a patch -/

def escapeJsonPointerSegment (segment : String) : String := String.ofList (escapeToken segment)

/-- Compare two JSON values at the current pointer path: `Object.is`, for values not both of which are arrays or
objects. -/
def jsonValuesEqual [DecidableEq N] : Value N → Value N → Bool
  | .null, .null => true
  | .bool left, .bool right => left = right
  | .num left, .num right => left = right
  | .str left, .str right => left = right
  | _, _ => false

/-- The keys of two objects, each once, in the order of their UTF-16 code units. -/
def sortedKeys (before after : List (String × Value N)) : List String :=
  sortBy (fun key => (Utf16.ofChars key.toList).map UInt16.toNat)
    (before.map Prod.fst ++ after.map Prod.fst).dedup

variable (path : String)

/-- The elements beyond the shared ones are removed from the end. -/
def removeOperations (before after : ℕ) : List (JsonPatchOperation N) :=
  (List.range' after (before - after)).reverse.map fun index => ⟨path ++ "/" ++ toString index, .remove⟩

/-- The elements beyond the shared ones are added at the end. -/
def addOperations (before : ℕ) (after : List (Value N)) : List (JsonPatchOperation N) :=
  ((after.drop before).zipIdx before).map fun e => ⟨path ++ "/" ++ toString e.2, .add e.1⟩

mutual

/-- The operations for a pair of values at a path. -/
def appendJsonPatchOperations [DecidableEq N] (path : String) :
    Value N → Value N → List (JsonPatchOperation N)
  | .arr before, .arr after =>
    appendArrayPatchOperations path 0 before after ++ removeOperations path before.length after.length ++
      addOperations path before.length after
  | .obj before, .obj after => appendObjectPatchOperations path before after (sortedKeys before after)
  | before, after => if jsonValuesEqual before after then [] else [⟨path, .replace after⟩]
termination_by before => (sizeOf before, 0)

/-- The operations for the shared elements of two arrays, from an index on. -/
def appendArrayPatchOperations [DecidableEq N] (path : String) (index : ℕ) :
    List (Value N) → List (Value N) → List (JsonPatchOperation N)
  | b :: before, a :: after =>
    appendJsonPatchOperations (path ++ "/" ++ toString index) b a ++
      appendArrayPatchOperations path (index + 1) before after
  | _, _ => []
termination_by before => (sizeOf before, 0)

/-- The operations for some keys of two objects. -/
def appendObjectPatchOperations [DecidableEq N] (path : String) (before after : List (String × Value N)) :
    List String → List (JsonPatchOperation N)
  | [] => []
  | key :: keys =>
    let childPath := path ++ "/" ++ escapeJsonPointerSegment key
    (match _h : lookup key before, lookup key after with
      | none, some value => [⟨childPath, .add value⟩]
      | some _, none => [⟨childPath, .remove⟩]
      | some b, some a => appendJsonPatchOperations childPath b a
      | none, none => []) ++ appendObjectPatchOperations path before after keys
termination_by keys => (sizeOf before, keys.length)
decreasing_by
  · exact Prod.Lex.left _ _ (sizeOf_of_lookup ‹_›)
  · exact Prod.Lex.right _ (by simp)

end

/-- Build JSON Patch operations that transform one JSON value into another. -/
def createWorkflowStatePatch [DecidableEq N] (before after : Value N) : List (JsonPatchOperation N) :=
  appendJsonPatchOperations "" before after

/-! ### Operations below a path -/

/-- An edit as an operation below a path. -/
def below (e : List String × Edit N) : JsonPatchOperation N := ⟨path ++ pointerTo e.1, e.2⟩

/-- An edit below a member. -/
lemma below_cons (token : String) (e : List String × Edit N) :
    below path (token :: e.1, e.2) = below (path ++ "/" ++ escapeJsonPointerSegment token) e := by
  have hpointer : pointerTo (token :: e.1) = "/" ++ escapeJsonPointerSegment token ++ pointerTo e.1 := by
    apply String.toList_injective
    simp [pointerTo, escapeJsonPointerSegment]
  rw [below, below, hpointer, String.append_assoc, String.append_assoc, String.append_assoc]

/-- An index has nothing to escape. -/
lemma escapeJsonPointerSegment_toString (index : ℕ) :
    escapeJsonPointerSegment (toString index) = toString index := by
  rw [escapeJsonPointerSegment, escapeToken_toString, String.ofList_toList]

/-- An operation at a member or an element of what is at a path. -/
lemma below_singleton (token : String) (edit : Edit N) :
    below path ([token], edit) = ⟨path ++ "/" ++ escapeJsonPointerSegment token, edit⟩ := by
  rw [below_cons path token ([], edit), below]
  simp [pointerTo]

/-- At the root, operations are the edits that they were made of. -/
lemma applyPatch_below (edits : List (List String × Edit N)) (doc : Value N) :
    applyPatch (edits.map (below "")) doc = applyAll edits doc := by
  induction edits generalizing doc with
  | nil => rfl
  | cons e edits ih =>
    have hparse : parsePointer (below "" e).path = some e.1 := by
      rw [below, String.empty_append, parsePointer_pointerTo]
    rw [applyAll_cons, List.map_cons, applyPatch, List.foldlM_cons, hparse, Option.bind_some]
    cases h : e.2.applyAt e.1 doc with
    | none => simp [below, h]
    | some edited =>
      simp only [below, h, Option.bind_eq_bind, Option.bind_some]
      exact ih edited

/-- Operations that make one value of another, below whatever path. -/
def Transforms (operations : String → List (JsonPatchOperation N)) (before after : Value N) : Prop :=
  ∃ edits : List (List String × Edit N), (∀ e ∈ edits, Edit.Local e) ∧
    (∀ path, operations path = edits.map (below path)) ∧
    ∃ result, applyAll edits before = some result ∧ Same result after

/-! ### Arrays -/

section Arrays

variable {elements : List (Value N)}

/-- An edit of a member itself. -/
lemma local_singleton (token : String) (edit : Edit N) : Edit.Local ([token], edit) := fun h => by cases h

/-- An edit below a member. -/
lemma local_cons (token : String) (e : List String × Edit N) : Edit.Local (token :: e.1, e.2) :=
  fun h => by cases h

/-- The element at an index. -/
lemma child?_element (index : ℕ) : child? (toString index) (.arr elements) = elements[index]? := by
  rw [child?, arrayIndex?_toString, Option.bind_some]

/-- Removing elements from the end leaves the first ones. -/
lemma applyAll_remove (count : ℕ) (length : ℕ) (h : elements.length = length + count) :
    applyAll ((List.range' length count).reverse.map fun index => ([toString index], Edit.remove))
      (.arr elements) = some (.arr (elements.take length)) := by
  induction count generalizing elements with
  | zero =>
    simp
    omega
  | succ count ih =>
    rw [List.range'_concat, List.reverse_append, List.reverse_singleton, List.singleton_append, List.map_cons,
      applyAll_cons]
    have hlt : length + 1 * count < elements.length := by omega
    have herase : elements.eraseIdx (length + 1 * count) = elements.take (length + 1 * count) := by
      rw [List.eraseIdx_eq_take_drop_succ, List.drop_eq_nil_of_le (by omega), List.append_nil]
    have hedit : (Edit.remove : Edit N).applyAt [toString (length + 1 * count)] (.arr elements) =
        some (.arr (elements.take (length + 1 * count))) := by
      simp only [Edit.applyAt, Edit.applyTo, arrayIndex?_toString, Option.bind_some, if_pos hlt, herase]
    rw [hedit, Option.bind_some, ih (by rw [List.length_take]; omega), List.take_take]
    congr 3
    omega

/-- Adding elements at the end appends them. -/
lemma applyAll_add (rest : List (Value N)) :
    applyAll ((rest.zipIdx elements.length).map fun e => ([toString e.2], Edit.add e.1)) (.arr elements) =
      some (.arr (elements ++ rest)) := by
  induction rest generalizing elements with
  | nil => simp
  | cons value rest ih =>
    have hdash : toString elements.length ≠ "-" := by
      intro heq
      have hindex := arrayIndex?_toString elements.length
      rw [heq] at hindex
      revert hindex
      rw [arrayIndex?, if_neg (by decide)]
      simp
    have hedit : (Edit.add value).applyAt [toString elements.length] (.arr elements) =
        some (.arr (elements ++ [value])) := by
      simp only [Edit.applyAt, Edit.applyTo, if_neg hdash, arrayIndex?_toString, Option.bind_some, le_refl,
        if_true, List.insertIdx_length_self]
    have hlength : (elements ++ [value]).length = elements.length + 1 := by simp
    rw [List.zipIdx_cons, List.map_cons, applyAll_cons, hedit, Option.bind_some, ← hlength, ih,
      List.append_assoc, List.singleton_append]

/-- The loop over the shared elements. -/
lemma transforms_elements [DecidableEq N] (before after : List (Value N))
    (h : ∀ b ∈ before, ∀ a, Transforms (fun path => appendJsonPatchOperations path b a) b a) (index : ℕ) :
    ∃ edits : List (List String × Edit N), (∀ e ∈ edits, Edit.Local e) ∧
      (∀ path, appendArrayPatchOperations path index before after = edits.map (below path)) ∧
      ∀ first, first.length = index → ∃ result : List (Value N), result.length = before.length ∧
        applyAll edits (.arr (first ++ before)) = some (.arr (first ++ result)) ∧
        ∀ i, i < before.length → i < after.length → OptSame result[i]? after[i]? := by
  induction before generalizing after index with
  | nil =>
    refine ⟨[], by simp, fun path => ?_, fun first _ => ⟨[], rfl, rfl, fun i hi => absurd hi (Nat.not_lt_zero i)⟩⟩
    rw [appendArrayPatchOperations]
    · rfl
    · simp
  | cons b before ih =>
    cases after with
    | nil =>
      refine ⟨[], by simp, fun path => ?_, fun first _ =>
        ⟨b :: before, rfl, rfl, fun i _ hi => absurd hi (Nat.not_lt_zero i)⟩⟩
      rw [appendArrayPatchOperations]
      · rfl
      · simp
    | cons a after =>
      obtain ⟨edits, hlocal, hpath, edited, hedit, hsame⟩ := h b List.mem_cons_self a
      dsimp only at hpath
      obtain ⟨rest, hrestLocal, hrestPath, hrest⟩ :=
        ih after (fun b hb => h b (List.mem_cons_of_mem _ hb)) (index + 1)
      refine ⟨edits.map (fun e => (toString index :: e.1, e.2)) ++ rest, ?_, fun path => ?_, fun first hfirst => ?_⟩
      · intro e he
        rcases List.mem_append.mp he with he | he
        · obtain ⟨e, -, rfl⟩ := List.mem_map.mp he
          exact local_cons _ e
        · exact hrestLocal e he
      · rw [appendArrayPatchOperations, hpath, hrestPath, List.map_append, List.map_map]
        congr 1
        refine List.map_congr_left fun e _ => ?_
        rw [Function.comp_apply, below_cons, escapeJsonPointerSegment_toString]
      · have hchild : child? (toString index) (.arr (first ++ b :: before)) = some b := by
          rw [child?_element, ← hfirst]
          simp
        have hset : setChild (toString index) edited (.arr (first ++ b :: before)) =
            .arr (first ++ [edited] ++ before) := by
          rw [setChild, arrayIndex?_toString, Option.elim_some, ← hfirst]
          simp
        obtain ⟨result, hlength, hresult, helements⟩ := hrest (first ++ [edited]) (by simp [hfirst])
        refine ⟨edited :: result, by simp [hlength], ?_, ?_⟩
        · rw [applyAll_append, applyAll_below hlocal hchild, hedit, Option.map_some, Option.bind_some, hset,
            hresult, List.append_assoc, List.singleton_append]
        · intro i hi hi'
          cases i with
          | zero => exact hsame
          | succ i =>
            rw [List.getElem?_cons_succ, List.getElem?_cons_succ]
            exact helements i (by simpa using hi) (by simpa using hi')

/-- Arrays: the shared elements are transformed, and then elements are removed or added at the end. -/
lemma transforms_arr [DecidableEq N] (before after : List (Value N))
    (h : ∀ b ∈ before, ∀ a, Transforms (fun path => appendJsonPatchOperations path b a) b a) :
    Transforms (fun path => appendJsonPatchOperations path (.arr before) (.arr after)) (.arr before)
      (.arr after) := by
  obtain ⟨edits, hlocal, hpath, hedits⟩ := transforms_elements before after h 0
  obtain ⟨shared, hlength, hshared, hsame⟩ := hedits [] rfl
  rw [List.nil_append, List.nil_append] at hshared
  let removed := (List.range' after.length (before.length - after.length)).reverse.map fun index =>
    ([toString index], (Edit.remove : Edit N))
  let added := ((after.drop before.length).zipIdx before.length).map fun e => ([toString e.2], Edit.add e.1)
  refine ⟨edits ++ removed ++ added, ?_, fun path => ?_,
    .arr (shared.take after.length ++ after.drop before.length), ?_, ?_⟩
  · intro e he
    simp only [removed, added, List.mem_append, List.mem_map] at he
    obtain (he | ⟨index, -, rfl⟩) | ⟨e, -, rfl⟩ := he
    · exact hlocal e he
    · exact local_singleton _ _
    · exact local_singleton _ _
  · dsimp only
    rw [appendJsonPatchOperations, hpath, removeOperations, addOperations, List.map_append, List.map_append,
      List.map_map, List.map_map]
    congr 1
    · congr 1
      refine List.map_congr_left fun index _ => ?_
      rw [Function.comp_apply, below_singleton, escapeJsonPointerSegment_toString]
    · refine List.map_congr_left fun e _ => ?_
      rw [Function.comp_apply, below_singleton, escapeJsonPointerSegment_toString]
  · rw [applyAll_append, applyAll_append, hshared, Option.bind_some]
    rcases le_total before.length after.length with hle | hle
    · have htake : shared.take after.length = shared := List.take_of_length_le (by omega)
      have hremoved : removed = [] := by simp [removed, Nat.sub_eq_zero_of_le hle]
      rw [hremoved, applyAll_nil, Option.bind_some, htake]
      simp only [added, ← hlength]
      exact applyAll_add _
    · have hadded : added = [] := by simp [added, List.drop_eq_nil_of_le hle]
      have hremove : applyAll removed (.arr shared) = some (.arr (shared.take after.length)) :=
        applyAll_remove _ _ (by omega)
      rw [hremove, Option.bind_some, hadded, applyAll_nil, List.drop_eq_nil_of_le hle, List.append_nil]
  · rw [same_arr_iff]
    intro i
    rw [List.getElem?_append, List.length_take, hlength]
    split_ifs with hi
    · rw [List.getElem?_take_of_lt (by omega)]
      exact hsame i (by omega) (by omega)
    · have hindex : after[i]? = (after.drop before.length)[i - min after.length before.length]? := by
        rw [List.getElem?_drop]
        by_cases hlt : i < after.length
        · congr 1
          omega
        · rw [List.getElem?_eq_none (by omega), List.getElem?_eq_none (by omega)]
      rw [hindex]
      exact .refl _

end Arrays

/-! ### Objects -/

/-- The loop over the keys. -/
lemma transforms_members [DecidableEq N] (before after : List (String × Value N))
    (h : ∀ key b a, lookup key before = some b →
      Transforms (fun path => appendJsonPatchOperations path b a) b a)
    (keys : List String) (hkeys : keys.Nodup) :
    ∃ edits : List (List String × Edit N), (∀ e ∈ edits, Edit.Local e) ∧
      (∀ path, appendObjectPatchOperations path before after keys = edits.map (below path)) ∧
      ∀ members, (∀ key ∈ keys, lookup key members = lookup key before) →
        ∃ result, applyAll edits (.obj members) = some (.obj result) ∧
          (∀ key ∈ keys, OptSame (lookup key result) (lookup key after)) ∧
          ∀ key, key ∉ keys → lookup key result = lookup key members := by
  induction keys with
  | nil =>
    refine ⟨[], by simp, fun path => ?_, fun members _ => ⟨members, rfl, by simp, fun _ _ => rfl⟩⟩
    rw [appendObjectPatchOperations]
    rfl
  | cons key keys ih =>
    obtain ⟨hnotMem, hnodup⟩ := List.nodup_cons.mp hkeys
    obtain ⟨rest, hrestLocal, hrestPath, hrest⟩ := ih hnodup
    -- it is enough to know what the operations for the first key do
    suffices hfirst : ∃ edits : List (List String × Edit N), (∀ e ∈ edits, Edit.Local e) ∧
        (∀ path, (match lookup key before, lookup key after with
          | none, some value => [⟨path ++ "/" ++ escapeJsonPointerSegment key, .add value⟩]
          | some _, none => [⟨path ++ "/" ++ escapeJsonPointerSegment key, .remove⟩]
          | some b, some a => appendJsonPatchOperations (path ++ "/" ++ escapeJsonPointerSegment key) b a
          | none, none => []) = edits.map (below path)) ∧
        ∀ members, lookup key members = lookup key before →
          ∃ result, applyAll edits (.obj members) = some (.obj result) ∧
            OptSame (lookup key result) (lookup key after) ∧
            ∀ k, k ≠ key → lookup k result = lookup k members by
      obtain ⟨first, hlocal, hpath, hfirst⟩ := hfirst
      refine ⟨first ++ rest, ?_, fun path => ?_, fun members hmembers => ?_⟩
      · intro e he
        rcases List.mem_append.mp he with he | he
        · exact hlocal e he
        · exact hrestLocal e he
      · rw [appendObjectPatchOperations, hrestPath, List.map_append, ← hpath]
        congr 1
        split <;> simp_all
      · obtain ⟨middle, hmiddle, hkey, hothers⟩ := hfirst members (hmembers key List.mem_cons_self)
        have hmiddleMembers : ∀ k ∈ keys, lookup k middle = lookup k before := fun k hk => by
          rw [hothers k fun heq => hnotMem (heq ▸ hk), hmembers k (List.mem_cons_of_mem _ hk)]
        obtain ⟨result, hresult, hin, hout⟩ := hrest middle hmiddleMembers
        refine ⟨result, ?_, ?_, ?_⟩
        · rw [applyAll_append, hmiddle, Option.bind_some, hresult]
        · intro k hk
          rcases List.mem_cons.mp hk with rfl | hk
          · rw [hout k hnotMem]
            exact hkey
          · exact hin k hk
        · intro k hk
          rw [hout k fun hmem => hk (List.mem_cons_of_mem _ hmem),
            hothers k fun heq => hk (heq ▸ List.mem_cons_self)]
    cases hb : lookup key before with
    | none =>
      cases ha : lookup key after with
      | none =>
        refine ⟨[], by simp, fun path => rfl, fun members hmembers => ⟨members, rfl, ?_, fun _ _ => rfl⟩⟩
        rw [hmembers]
        trivial
      | some value =>
        refine ⟨[([key], .add value)], ?_, fun path => ?_, fun members _ => ⟨assign key value members, rfl, ?_, ?_⟩⟩
        · simp [local_singleton]
        · rw [List.map_singleton, below_singleton]
        · rw [lookup_assign, if_pos rfl]
          exact Same.refl value
        · intro k hk
          rw [lookup_assign, if_neg hk.symm]
    | some b =>
      cases ha : lookup key after with
      | none =>
        refine ⟨[([key], .remove)], ?_, fun path => ?_, fun members hmembers => ⟨erase key members, ?_, ?_, ?_⟩⟩
        · simp [local_singleton]
        · rw [List.map_singleton, below_singleton]
        · simp [Edit.applyAt, Edit.applyTo, hmembers]
        · rw [lookup_erase, if_pos rfl]
          trivial
        · intro k hk
          rw [lookup_erase, if_neg hk.symm]
      | some a =>
        obtain ⟨edits, hlocal, hpath, edited, hedit, hsame⟩ := h key b a hb
        refine ⟨edits.map fun e => (key :: e.1, e.2), ?_, fun path => ?_, fun members hmembers =>
          ⟨assign key edited members, ?_, ?_, ?_⟩⟩
        · intro e he
          obtain ⟨e, -, rfl⟩ := List.mem_map.mp he
          exact local_cons _ e
        · simp only [hpath, List.map_map]
          exact List.map_congr_left fun e _ => (below_cons path key e).symm
        · rw [applyAll_below hlocal (show child? key (.obj members) = some b from hmembers), hedit]
          rfl
        · rw [lookup_assign, if_pos rfl]
          exact hsame
        · intro k hk
          rw [lookup_assign, if_neg hk.symm]

/-- The keys of both records. -/
lemma mem_sortedKeys {before after : List (String × Value N)} {key : String} :
    key ∈ sortedKeys before after ↔ lookup key before ≠ none ∨ lookup key after ≠ none := by
  rw [sortedKeys, mem_sortBy, List.mem_dedup, List.mem_append, lookup_ne_none, lookup_ne_none]

/-- No key is listed twice. -/
lemma nodup_sortedKeys (before after : List (String × Value N)) : (sortedKeys before after).Nodup :=
  (sortBy_perm _ _).nodup_iff.mpr (List.nodup_dedup _)

/-- Objects: the keys of both are transformed one after the other. -/
lemma transforms_obj [DecidableEq N] (before after : List (String × Value N))
    (h : ∀ key b a, lookup key before = some b →
      Transforms (fun path => appendJsonPatchOperations path b a) b a) :
    Transforms (fun path => appendJsonPatchOperations path (.obj before) (.obj after)) (.obj before)
      (.obj after) := by
  obtain ⟨edits, hlocal, hpath, hedits⟩ := transforms_members before after h _ (nodup_sortedKeys before after)
  obtain ⟨result, hresult, hin, hout⟩ := hedits before fun _ _ => rfl
  refine ⟨edits, hlocal, fun path => ?_, .obj result, hresult, ?_⟩
  · dsimp only
    rw [appendJsonPatchOperations, hpath]
  · rw [same_obj_iff]
    intro key
    by_cases hmem : key ∈ sortedKeys before after
    · exact hin key hmem
    · rw [hout key hmem]
      simp only [mem_sortedKeys, not_or, not_not] at hmem
      rw [hmem.1, hmem.2]
      trivial

/-! ### All values -/

variable {before after : Value N}

/-- Other values are replaced when they are not identical. -/
lemma transforms_replace [DecidableEq N] (hoperations : ∀ path, appendJsonPatchOperations path before after =
      if jsonValuesEqual before after then [] else [⟨path, .replace after⟩])
    (hequal : jsonValuesEqual before after = true → Same before after) :
    Transforms (fun path => appendJsonPatchOperations path before after) before after := by
  cases heq : jsonValuesEqual before after with
  | true => exact ⟨[], by simp, fun path => by simp [hoperations, heq], before, rfl, hequal heq⟩
  | false =>
    refine ⟨[([], .replace after)], fun e he => ?_, fun path => ?_, after, rfl, .refl after⟩
    · rw [List.mem_singleton.mp he]
      exact fun _ => ⟨after, rfl⟩
    · simp [hoperations, heq, below, pointerTo]

/-- Values that are found equal are the same. -/
lemma same_of_jsonValuesEqual [DecidableEq N] (h : jsonValuesEqual before after = true) :
    Same before after := by
  cases before <;> cases after <;> simp only [jsonValuesEqual, decide_eq_true_eq, Bool.false_eq_true] at h
  · exact .null
  · exact h ▸ .refl _
  · exact h ▸ .refl _
  · exact h ▸ .refl _

/-- The operations make the value after of the value before. -/
theorem transforms [DecidableEq N] (before after : Value N) :
    Transforms (fun path => appendJsonPatchOperations path before after) before after := by
  induction hsize : sizeOf before using Nat.strong_induction_on generalizing before after with
  | _ size ih =>
    by_cases harr : ∃ b a, before = .arr b ∧ after = .arr a
    · obtain ⟨b, a, rfl, rfl⟩ := harr
      refine transforms_arr b a fun v hv w => ih (sizeOf v) ?_ v w rfl
      have hmem := List.sizeOf_lt_of_mem hv
      simp only [Value.arr.sizeOf_spec] at hsize
      omega
    by_cases hobj : ∃ b a, before = .obj b ∧ after = .obj a
    · obtain ⟨b, a, rfl, rfl⟩ := hobj
      refine transforms_obj b a fun key v w hv => ih (sizeOf v) ?_ v w rfl
      have hmem := sizeOf_of_lookup hv
      simp only [Value.obj.sizeOf_spec] at hsize
      omega
    · refine transforms_replace (fun path => ?_) same_of_jsonValuesEqual
      rw [appendJsonPatchOperations]
      · exact fun b a hb ha => harr ⟨b, a, hb, ha⟩
      · exact fun b a hb ha => hobj ⟨b, a, hb, ha⟩

/-- There are no operations between values that are the same. -/
theorem appendJsonPatchOperations_eq_nil [DecidableEq N] (h : Same before after) (path : String) :
    appendJsonPatchOperations path before after = [] := by
  induction h generalizing path with
  | null | bool | num | str => rw [appendJsonPatchOperations] <;> simp [jsonValuesEqual]
  | @arr before after hlength _ ih =>
    have helements : ∀ (index : ℕ) (before after : List (Value N)),
        (∀ (i : ℕ) (v w : Value N), before[i]? = some v → after[i]? = some w →
          ∀ path, appendJsonPatchOperations path v w = []) →
        appendArrayPatchOperations path index before after = [] := by
      intro index before
      induction before generalizing index with
      | nil =>
        intro after _
        rw [appendArrayPatchOperations]
        simp
      | cons b before ihElements =>
        intro after hall
        cases after with
        | nil =>
          rw [appendArrayPatchOperations]
          simp
        | cons a after =>
          rw [appendArrayPatchOperations, hall 0 b a rfl rfl, List.nil_append]
          exact ihElements (index + 1) after fun i v w hv hw => hall (i + 1) v w hv hw
    rw [appendJsonPatchOperations, helements 0 before after ih, removeOperations, addOperations]
    simp [hlength]
  | @obj before after hnone _ ih =>
    rw [appendJsonPatchOperations]
    induction sortedKeys before after with
    | nil => rw [appendObjectPatchOperations]
    | cons key keys ihKeys =>
      rw [appendObjectPatchOperations, ihKeys, List.append_nil]
      split
      · next h h' => exact absurd ((hnone key).mp h) (by simp [h'])
      · next h h' => exact absurd ((hnone key).mpr h') (by simp [h])
      · next b a h h' => exact ih key b a h h' _
      · rfl

/-- A patch makes the value after of the value before. -/
theorem applyPatch_createWorkflowStatePatch [DecidableEq N] (before after : Value N) :
    ∃ result, applyPatch (createWorkflowStatePatch before after) before = some result ∧ Same result after := by
  obtain ⟨edits, -, hpath, result, hresult, hsame⟩ := transforms before after
  dsimp only at hpath
  exact ⟨result, by rw [createWorkflowStatePatch, hpath, applyPatch_below, hresult], hsame⟩

/-- A patch is empty exactly between values that are the same. -/
theorem createWorkflowStatePatch_eq_nil_iff [DecidableEq N] :
    createWorkflowStatePatch before after = [] ↔ Same before after := by
  constructor
  · intro h
    obtain ⟨result, hresult, hsame⟩ := applyPatch_createWorkflowStatePatch before after
    rw [h] at hresult
    exact Option.some.inj hresult ▸ hsame
  · exact fun h => appendJsonPatchOperations_eq_nil h ""

end Makaio.Workflow

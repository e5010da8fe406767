import Makaio.Foundations.JsonText
import Mathlib.Data.List.Lex
import Mathlib.Data.List.Sort

set_option autoImplicit false

/-!
# Scopes of materialization operations

An operation works on an artifact and on objects of providers (`materialization-operation-coordinator.ts`).
Its locks are named by keys, which have one order; the key of the artifact comes first.

## Main definitions

* `compareLockKeys` — the order of the keys.
* `NormalScope`, `normalizeScope` — scopes with their keys in
  order.
* `scopeKeys` — the keys of a scope.

## Main results

* `scopeKeys_sorted` — the keys of a scope are in order.
-/

namespace Makaio.Materialization

open Foundations

/-! ### Lock keys -/

/-- The units of a key by which JavaScript compares texts. -/
def keyUnits (key : String) : List ℕ := (Utf16.ofChars key.toList).map UInt16.toNat

def compareLockKeys (left right : String) : ℤ :=
  if left = right then 0 else if keyUnits left < keyUnits right then -1 else 1

/-- A key comes before another one. -/
def Precedes (left right : String) : Prop := compareLockKeys left right < 0

instance (left right : String) : Decidable (Precedes left right) :=
  inferInstanceAs (Decidable (compareLockKeys left right < 0))

variable {a b key : String}

/-- Keys with the same units are the same. -/
lemma keyUnits_injective (h : keyUnits a = keyUnits b) : a = b := by
  have hunits : Utf16.ofChars a.toList = Utf16.ofChars b.toList :=
    List.map_injective_iff.mpr (fun x y hxy => UInt16.toNat_inj.mp hxy) h
  have hchars : a.toList = b.toList := by
    rw [← Utf16.chars_ofChars a.toList, hunits, Utf16.chars_ofChars]
  exact String.toList_inj.mp hchars

/-- The order of the keys is that of their units. -/
lemma precedes_iff : Precedes a b ↔ keyUnits a < keyUnits b := by
  unfold Precedes compareLockKeys
  split_ifs with heq hlt
  · simp [heq]
  · simp [hlt]
  · simp [hlt]

/-- Keys are ordered transitively. -/
lemma Precedes.trans {c : String} (hab : Precedes a b) (hbc : Precedes b c) : Precedes a c :=
  precedes_iff.mpr ((precedes_iff.mp hab).trans (precedes_iff.mp hbc))

/-- No key comes before itself. -/
lemma not_precedes_self (a : String) : ¬Precedes a a := fun h => lt_irrefl _ (precedes_iff.mp h)

/-- Of two keys one comes before the other. -/
lemma precedes_of_not (h : ¬Precedes a b) (hne : a ≠ b) : Precedes b a := by
  rw [precedes_iff] at h ⊢
  exact lt_of_le_of_ne (not_lt.mp h) fun heq => hne (keyUnits_injective heq.symm)

/-! ### Scopes -/

/-- `MaterializationProviderObject`. -/
structure ProviderObject where
  provider : String
  externalId : String

/-- `MaterializationOperationScope`. -/
structure Scope where
  artifactId : String
  providerObjects : List ProviderObject

/-- `providerObjectKey`; `none` when it throws. -/
def providerObjectKey (object : ProviderObject) : Option String :=
  if object.provider = "" || object.externalId = "" then none
  else some ("provider:" ++
    String.ofList (Json.print .plain (.arr [.str object.provider, .str object.externalId])))

/-- Whether a key is that of an object of a provider. -/
def isProviderKey (key : String) : Bool := "provider:".toList.isPrefixOf key.toList

def artifactKey (artifactId : String) : String := "artifact:" ++ artifactId

/-- A normalized scope; the objects of providers stand by their keys, which are in order. -/
structure NormalScope where
  artifactId : String
  providerKeys : List String
  sorted : providerKeys.Pairwise Precedes
  isProviderKey_of_mem : ∀ key ∈ providerKeys, isProviderKey key = true

/-- A key comes before another one or is the same. -/
def PrecedesOrEq (left right : String) : Prop := compareLockKeys left right ≤ 0

instance : DecidableRel PrecedesOrEq := fun left right =>
  inferInstanceAs (Decidable (compareLockKeys left right ≤ 0))

/-- The order of the keys, up to equality, is that of their units. -/
lemma precedesOrEq_iff : PrecedesOrEq a b ↔ keyUnits a ≤ keyUnits b := by
  unfold PrecedesOrEq compareLockKeys
  split_ifs with heq hlt
  · simp [heq]
  · simp [hlt.le]
  · simp only [Int.reduceLE, false_iff, not_le]
    exact lt_of_le_of_ne (not_lt.mp hlt) fun h => heq (keyUnits_injective h.symm)

instance : IsTrans String PrecedesOrEq where
  trans _ _ _ hab hbc :=
    precedesOrEq_iff.mpr ((precedesOrEq_iff.mp hab).trans (precedesOrEq_iff.mp hbc))

instance : Std.Total PrecedesOrEq where
  total a b := by
    rw [precedesOrEq_iff, precedesOrEq_iff]
    exact le_total _ _

/-- The keys in their order, each once. -/
def sortKeys (keys : List String) : List String := keys.dedup.insertionSort PrecedesOrEq

/-- Sorted keys are in order. -/
lemma sortKeys_sorted (keys : List String) : (sortKeys keys).Pairwise Precedes := by
  have hsorted : (sortKeys keys).Pairwise PrecedesOrEq := List.pairwise_insertionSort _ _
  have hnodup : (sortKeys keys).Nodup :=
    (List.perm_insertionSort _ _).nodup_iff.mpr (List.nodup_dedup keys)
  refine (hsorted.and hnodup).imp fun {a b} h => precedes_iff.mpr ?_
  exact lt_of_le_of_ne (precedesOrEq_iff.mp h.1) fun heq => h.2 (keyUnits_injective heq)

lemma mem_sortKeys {keys : List String} : key ∈ sortKeys keys ↔ key ∈ keys := by
  rw [sortKeys, List.mem_insertionSort, List.mem_dedup]

lemma isProviderKey_providerObjectKey {object : ProviderObject} (h : providerObjectKey object = some key) :
    isProviderKey key = true := by
  unfold providerObjectKey at h
  split_ifs at h
  rw [← Option.some.inj h, isProviderKey, String.toList_append]
  exact List.isPrefixOf_iff_prefix.mpr (List.prefix_append _ _)

/-- `normalizeScope`; `none` when it throws. -/
def normalizeScope (scope : Scope) : Option NormalScope :=
  if scope.artifactId = "" then none
  else if scope.providerObjects.all fun object => (providerObjectKey object).isSome then
    some
      { artifactId := scope.artifactId
        providerKeys := sortKeys (scope.providerObjects.filterMap providerObjectKey)
        sorted := sortKeys_sorted _
        isProviderKey_of_mem := by
          intro key hkey
          obtain ⟨object, -, hobject⟩ := List.mem_filterMap.mp (mem_sortKeys.mp hkey)
          exact isProviderKey_providerObjectKey hobject }
  else none

def scopeKeys (scope : NormalScope) : List String := artifactKey scope.artifactId :: scope.providerKeys

/-- The key of an artifact comes before those of objects. -/
lemma artifactKey_precedes (artifactId : String) (h : isProviderKey key = true) :
    Precedes (artifactKey artifactId) key := by
  obtain ⟨rest, hrest⟩ := List.isPrefixOf_iff_prefix.mp h
  rw [precedes_iff, keyUnits, keyUnits, ← hrest, artifactKey, String.toList_append]
  exact List.Lex.rel (by decide)

/-- **The keys of a scope are in order.** -/
theorem scopeKeys_sorted (scope : NormalScope) : (scopeKeys scope).Pairwise Precedes :=
  List.pairwise_cons.mpr
    ⟨fun key hkey => artifactKey_precedes _ (scope.isProviderKey_of_mem key hkey), scope.sorted⟩

end Makaio.Materialization

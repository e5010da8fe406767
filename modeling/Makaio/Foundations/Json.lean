import Mathlib.Data.Rat.Defs
import Mathlib.Tactic

set_option autoImplicit false

/-!
# JSON values

The values a JSON text can denote.  An object is the list of its members in the order of the text; a
key that occurs more than once has the value of its last occurrence.

## Main definitions

* `Json` — the values; `Json.member?`, `Json.element?` — the value of a key and of an index.
* `Json.follow` — the value at the end of a path of keys.
* `Json.erase`, `assign` — the members without a key, and with a new value for a key.
* `Json.entries` — the keys and their values.
* `Json.equals` — equality up to the order of members.
* `Json.pointer` — the value a JSON Pointer leads to.
* `Json.Within` — a value that occurs in another one.
-/

namespace Foundations

/-- A JSON value. -/
inductive Json
  | null
  | bool (b : Bool)
  | num (n : ℚ)
  | str (s : String)
  | arr (elements : List Json)
  | obj (members : List (String × Json))

namespace Json

/-- The value of a key among the members of an object. -/
def lookup (key : String) (members : List (String × Json)) : Option Json :=
  (members.reverse.find? fun m => m.1 = key).map Prod.snd

/-- The value of a key of an object. -/
def member? (key : String) : Json → Option Json
  | obj members => lookup key members
  | _ => none

/-- The value at an index of an array. -/
def element? (index : ℕ) : Json → Option Json
  | arr elements => elements[index]?
  | _ => none

/-- Whether a value is an object. -/
def isObject : Json → Bool
  | obj _ => true
  | _ => false

/-- The string a value is. -/
def str? : Json → Option String
  | str s => some s
  | _ => none

/-- The members of an object. -/
def members? : Json → Option (List (String × Json))
  | obj members => some members
  | _ => none

/-- The value at the end of a path of keys. -/
def follow : List String → Json → Option Json
  | [], value => some value
  | key :: path, value => (value.member? key).bind (follow path)

/-- The members without those of a key. -/
def erase (key : String) (members : List (String × Json)) : List (String × Json) :=
  members.filter fun m => m.1 ≠ key

/-- The members with a value for a key, in its place if the key is there. -/
def assign (key : String) (value : Json) (members : List (String × Json)) : List (String × Json) :=
  if members.any fun m => m.1 = key then members.map fun m => if m.1 = key then (key, value) else m
  else members ++ [(key, value)]

/-- The keys and their values, each key once. -/
def entries (members : List (String × Json)) : List (String × Json) :=
  (members.map Prod.fst).eraseDups.filterMap fun key => (lookup key members).map fun value => (key, value)

mutual

/-- Whether two values are equal; the order of the members of an object is immaterial. -/
def equals : Json → Json → Bool
  | null, null => true
  | .bool a, .bool b => a = b
  | num a, num b => a = b
  | str a, str b => a = b
  | arr a, arr b => elementsEqual a b
  | obj a, obj b => (entries a).length = (entries b).length && membersEqual a b
  | _, _ => false

/-- Whether two lists have equal elements. -/
def elementsEqual : List Json → List Json → Bool
  | [], [] => true
  | a :: as, b :: bs => equals a b && elementsEqual as bs
  | _, _ => false

/-- Whether the values that the members give to their keys are those of an object. -/
def membersEqual : List (String × Json) → List (String × Json) → Bool
  | [], _ => true
  | (key, value) :: members, other =>
    (members.any (fun m => m.1 = key) || match lookup key other with
      | some v => equals value v
      | none => false) && membersEqual members other

end

/-! ### JSON Pointers -/

/-- Replace an escape of a pointer token. -/
def replaceEscape (escape char : Char) : List Char → List Char
  | '~' :: c :: rest =>
    if c = escape then char :: replaceEscape escape char rest
    else '~' :: replaceEscape escape char (c :: rest)
  | c :: rest => c :: replaceEscape escape char rest
  | [] => []

/-- The key a pointer token encodes. -/
def decodePointerToken (token : List Char) : String :=
  String.ofList (replaceEscape '0' '~' (replaceEscape '1' '/' token))

/-- The value that keys and array positions lead to. -/
def pointer : List String → Json → Option Json
  | [], value => some value
  | token :: tokens, obj members => (lookup token members).bind (pointer tokens)
  | token :: tokens, arr elements =>
    match token.toNat? with
    | some index => if toString index = token then elements[index]?.bind (pointer tokens) else none
    | none => none
  | _ :: _, _ => none

/-! ### Members -/

variable {key k : String} {value v : Json} {members : List (String × Json)}

@[simp] lemma lookup_nil : lookup key [] = none := rfl

lemma lookup_append (a b : List (String × Json)) :
    lookup key (a ++ b) = (lookup key b).or (lookup key a) := by
  rw [lookup, List.reverse_append, List.find?_append]
  cases h : b.reverse.find? fun m => m.1 = key <;> simp [lookup, h]

@[simp] lemma lookup_singleton : lookup key [(k, v)] = if k = key then some v else none := by
  by_cases h : k = key <;> simp [lookup, h]

@[simp] lemma lookup_cons :
    lookup key ((k, v) :: members) = (lookup key members).or (if k = key then some v else none) := by
  rw [← lookup_singleton, ← lookup_append]
  rfl

/-- The value of a key is listed under it. -/
lemma mem_of_lookup (h : lookup key members = some value) : (key, value) ∈ members := by
  obtain ⟨⟨k, v⟩, hfind, rfl⟩ := Option.map_eq_some_iff.mp h
  have hkey := List.find?_some hfind
  obtain rfl : k = key := by simpa using hkey
  exact List.mem_reverse.mp (List.mem_of_find?_eq_some hfind)

lemma lookup_eq_none_iff : lookup key members = none ↔ ∀ m ∈ members, m.1 ≠ key := by
  simp [lookup]

/-- Without a key's members, the other keys have the values they had. -/
@[simp] lemma lookup_erase :
    lookup key (erase k members) = if key = k then none else lookup key members := by
  induction members with
  | nil => simp [erase]
  | cons m members ih =>
    obtain ⟨n, v⟩ := m
    by_cases hn : n = k
    · have hskip : erase k ((n, v) :: members) = erase k members := by simp [erase, hn]
      rw [hskip, ih, lookup_cons]
      by_cases hkey : key = k
      · rw [if_pos hkey, if_pos hkey]
      · rw [if_neg hkey, if_neg hkey, if_neg fun h => hkey (h.symm.trans hn), Option.or_none]
    · have hkeep : erase k ((n, v) :: members) = (n, v) :: erase k members := by simp [erase, hn]
      rw [hkeep, lookup_cons, lookup_cons, ih]
      by_cases hkey : key = k
      · rw [if_pos hkey, if_pos hkey, if_neg fun h => hn (h.trans hkey)]
        rfl
      · rw [if_neg hkey, if_neg hkey]

/-- The value of a key in members whose values for another key are replaced. -/
private lemma lookup_replace (members : List (String × Json)) :
    lookup key (members.map fun m => if m.1 = k then (k, v) else m) =
      if key = k then (lookup key members).map fun _ => v else lookup key members := by
  induction members with
  | nil => simp
  | cons m members ih =>
    obtain ⟨n, w⟩ := m
    rw [List.map_cons, lookup_cons]
    by_cases hn : n = k
    · rw [if_pos hn, lookup_cons, ih]
      by_cases hkey : key = k
      · rw [if_pos hkey, if_pos hkey, if_pos hkey.symm, if_pos (hn.trans hkey.symm)]
        cases lookup key members <;> rfl
      · rw [if_neg hkey, if_neg hkey, if_neg fun h => hkey h.symm,
          if_neg fun h => hkey (h.symm.trans hn)]
    · rw [if_neg hn, lookup_cons, ih]
      by_cases hkey : key = k
      · rw [if_pos hkey, if_pos hkey, if_neg fun h => hn (h.trans hkey), Option.or_none, Option.or_none]
      · rw [if_neg hkey, if_neg hkey]

/-- An assignment gives its key the value and leaves the other keys. -/
@[simp] lemma lookup_assign :
    lookup key (assign k v members) = if key = k then some v else lookup key members := by
  rw [assign]
  split_ifs with hany hkey hkey
  · obtain ⟨m, hm, hmk⟩ := List.any_eq_true.mp hany
    have hsome : lookup key members ≠ none := fun hnone =>
      lookup_eq_none_iff.mp hnone m hm ((of_decide_eq_true hmk).trans hkey.symm)
    obtain ⟨w, hw⟩ := Option.ne_none_iff_exists'.mp hsome
    rw [lookup_replace, if_pos hkey, hw, Option.map_some]
  · rw [lookup_replace, if_neg hkey]
  · rw [lookup_append, lookup_singleton, if_pos hkey.symm, Option.some_or]
  · rw [lookup_append, lookup_singleton, if_neg fun h => hkey h.symm, Option.none_or]

/-- The entries of an object are the values of its keys. -/
lemma mem_entries : (key, value) ∈ entries members ↔ lookup key members = some value := by
  simp only [entries, List.mem_filterMap, List.mem_eraseDups, List.mem_map, Option.map_eq_some_iff,
    Prod.mk.injEq]
  constructor
  · rintro ⟨k, -, v, hlookup, rfl, rfl⟩
    exact hlookup
  · exact fun h => ⟨key, ⟨_, mem_of_lookup h, rfl⟩, value, h, rfl, rfl⟩

/-! ### Values within values -/

/-- A value occurs in another one. -/
inductive Within : Json → Json → Prop
  | refl (value : Json) : Within value value
  | element {value e : Json} {elements : List Json} :
      e ∈ elements → Within value e → Within value (arr elements)
  | member {value v : Json} {key : String} {members : List (String × Json)} :
      lookup key members = some v → Within value v → Within value (obj members)

/-- What occurs in a part occurs in the whole. -/
lemma Within.trans {a b c : Json} (hab : Within a b) (hbc : Within b c) : Within a c := by
  induction hbc with
  | refl => exact hab
  | element he _ ih => exact .element he ih
  | member hm _ ih => exact .member hm ih

end Json

end Foundations

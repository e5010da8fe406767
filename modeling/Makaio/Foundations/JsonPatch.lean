import Makaio.Foundations.PointerFragment

set_option autoImplicit false

/-!
# JSON Patch

JSON values over arbitrary numbers, and the edits of a JSON Patch (RFC 6902): a value is added, removed or
replaced at the location of a JSON Pointer.  The members of an object are a list, and a key has the value of its
first member; two values are the same when their members and elements are, in whatever order the members stand.

## Main definitions

* `JsonPatch.Value` — the values; `lookup`, `assign`, `erase` — the members of an object.
* `JsonPatch.Same` — sameness up to the order of members; `Value.map` — the values over other numbers.
* `JsonPatch.Edit.applyAt` — an edit at a location; `applyAll` — edits one after the other.
* `JsonPatch.parsePointer` — the tokens of a pointer; `pointerTo` — the pointer of a list of tokens.

## Main results

* `JsonPatch.parsePointer_pointerTo` — a pointer leads where its tokens do.
* `JsonPatch.applyAll_member`, `applyAll_element` — edits below a member or an element.
* `JsonPatch.applyAt_same` — the same values have the same results.
* `JsonPatch.applyAt_map` — edits commute with a change of the numbers.
-/

namespace Foundations.JsonPatch

/-! ### Values -/

/-- A JSON value over a type of numbers. -/
inductive Value (N : Type)
  | null
  | bool (b : Bool)
  | num (n : N)
  | str (s : String)
  | arr (elements : List (Value N))
  | obj (members : List (String × Value N))

variable {N M : Type}

/-- The value of a key. -/
def lookup (key : String) : List (String × Value N) → Option (Value N)
  | [] => none
  | (k, value) :: members => if k = key then some value else lookup key members

/-- The members with a value for a key, in its place if the key is there. -/
def assign (key : String) (value : Value N) : List (String × Value N) → List (String × Value N)
  | [] => [(key, value)]
  | (k, v) :: members => if k = key then (key, value) :: members else (k, v) :: assign key value members

/-- The members without those of a key. -/
def erase (key : String) (members : List (String × Value N)) : List (String × Value N) :=
  members.filter fun m => m.1 ≠ key

/-- Two values are the same up to the order of the members of objects. -/
inductive Same : Value N → Value N → Prop
  | null : Same .null .null
  | bool (b : Bool) : Same (.bool b) (.bool b)
  | num (n : N) : Same (.num n) (.num n)
  | str (s : String) : Same (.str s) (.str s)
  | arr {a b : List (Value N)} : a.length = b.length →
      (∀ (i : ℕ) (v w : Value N), a[i]? = some v → b[i]? = some w → Same v w) → Same (.arr a) (.arr b)
  | obj {a b : List (String × Value N)} : (∀ key, lookup key a = none ↔ lookup key b = none) →
      (∀ key v w, lookup key a = some v → lookup key b = some w → Same v w) → Same (.obj a) (.obj b)

section Members

variable {key k : String} {value v : Value N} {members : List (String × Value N)}

lemma mem_of_lookup (h : lookup key members = some value) : (key, value) ∈ members := by
  induction members with
  | nil => cases h
  | cons m members ih =>
    rw [lookup] at h
    split_ifs at h with hkey
    · rw [← hkey, ← Option.some.inj h]
      exact List.mem_cons_self
    · exact List.mem_cons_of_mem _ (ih h)

lemma lookup_ne_none : lookup key members ≠ none ↔ key ∈ members.map Prod.fst := by
  induction members with
  | nil => simp [lookup]
  | cons m members ih =>
    by_cases hkey : m.1 = key
    · simp [lookup, hkey]
    · simp only [lookup, if_neg hkey, ih, List.map_cons, List.mem_cons]
      exact ⟨.inr, fun h => h.resolve_left fun heq => hkey heq.symm⟩

@[simp] lemma lookup_assign :
    lookup key (assign k v members) = if k = key then some v else lookup key members := by
  induction members with
  | nil => simp [assign, lookup]
  | cons m members ih =>
    rw [assign]
    split_ifs with hm hkey hkey
    · rw [lookup, if_pos hkey]
    · rw [lookup, if_neg hkey, lookup, if_neg fun h => hkey (hm.symm.trans h)]
    · rw [lookup, if_neg fun h => hm (h.trans hkey.symm), ih, if_pos hkey]
    · rw [lookup, lookup, ih, if_neg hkey]

@[simp] lemma lookup_erase : lookup key (erase k members) = if k = key then none else lookup key members := by
  induction members with
  | nil => simp [erase, lookup]
  | cons m members ih =>
    by_cases hm : m.1 = k
    · have hskip : erase k (m :: members) = erase k members := by simp [erase, hm]
      rw [hskip, ih]
      split_ifs with hkey
      · rfl
      · rw [lookup, if_neg fun h => hkey (hm.symm.trans h)]
    · have hkeep : erase k (m :: members) = m :: erase k members := by simp [erase, hm]
      rw [hkeep, lookup, lookup, ih]
      split_ifs with hkey heq
      · exact absurd (hkey.trans heq.symm) hm
      · rfl
      · rfl
      · rfl

/-- Assigning the value that a key has changes nothing. -/
lemma assign_self (h : lookup key members = some value) : assign key value members = members := by
  induction members with
  | nil => cases h
  | cons m members ih =>
    rw [lookup] at h
    rw [assign]
    split_ifs at h ⊢ with hkey
    · rw [← hkey, ← Option.some.inj h]
    · rw [ih h]

/-- The second of two assignments stays. -/
lemma assign_assign (w : Value N) : assign key w (assign key v members) = assign key w members := by
  induction members with
  | nil => simp [assign]
  | cons m members ih =>
    rw [assign, assign]
    split_ifs with hkey
    · rw [assign, if_pos rfl]
    · rw [assign, if_neg hkey, ih]

lemma sizeOf_of_lookup (h : lookup key members = some value) : sizeOf value < sizeOf members := by
  have hmem := List.sizeOf_lt_of_mem (mem_of_lookup h)
  simp only [Prod.mk.sizeOf_spec] at hmem
  omega

end Members

/-! ### Sameness -/

namespace Same

/-- A value is the same as itself. -/
theorem refl : ∀ value : Value N, Same value value
  | .null => .null
  | .bool b => .bool b
  | .num n => .num n
  | .str s => .str s
  | .arr elements => .arr rfl fun i v w hv hw => by
      have hmem := List.sizeOf_lt_of_mem (List.mem_of_getElem? hv)
      rw [hv, Option.some.injEq] at hw
      exact hw ▸ refl v
  | .obj members => .obj (fun _ => Iff.rfl) fun key v w hv hw => by
      have hmem := sizeOf_of_lookup hv
      rw [hv, Option.some.injEq] at hw
      exact hw ▸ refl v
termination_by value => sizeOf value

theorem trans {a b c : Value N} (hab : Same a b) (hbc : Same b c) : Same a c := by
  induction hab generalizing c with
  | null | bool | num | str => exact hbc
  | @arr a b hlength _ ih =>
    cases hbc with
    | @arr _ c hlength' hsame =>
      refine .arr (hlength.trans hlength') fun i v w hv hw => ?_
      obtain ⟨hi, -⟩ := List.getElem?_eq_some_iff.mp hv
      obtain ⟨u, hu⟩ : ∃ u, b[i]? = some u := ⟨_, List.getElem?_eq_getElem (hlength ▸ hi)⟩
      exact ih i v u hv hu (hsame i u w hu hw)
  | @obj a b hnone _ ih =>
    cases hbc with
    | @obj _ c hnone' hsame =>
      refine .obj (fun key => (hnone key).trans (hnone' key)) fun key v w hv hw => ?_
      obtain ⟨u, hu⟩ : ∃ u, lookup key b = some u := by
        rw [← Option.ne_none_iff_exists', ne_eq, ← hnone key, hv]
        simp
      exact ih key v u hv hu (hsame key u w hu hw)

end Same

/-- Two values, or none, are the same. -/
def OptSame : Option (Value N) → Option (Value N) → Prop
  | none, none => True
  | some v, some w => Same v w
  | _, _ => False

lemma OptSame.refl (value : Option (Value N)) : OptSame value value := by
  cases value with
  | none => trivial
  | some value => exact Same.refl value

/-- Objects are the same when their keys have the same values. -/
lemma same_obj_iff {a b : List (String × Value N)} :
    Same (.obj a) (.obj b) ↔ ∀ key, OptSame (lookup key a) (lookup key b) := by
  constructor
  · intro h key
    cases h with
    | obj hnone hsame =>
      cases ha : lookup key a with
      | none => rw [(hnone key).mp ha]; trivial
      | some v =>
        cases hb : lookup key b with
        | none => rw [(hnone key).mpr hb] at ha; cases ha
        | some w => exact hsame key v w ha hb
  · intro h
    refine .obj (fun key => ?_) fun key v w hv hw => ?_
    · have hkey := h key
      cases ha : lookup key a <;> cases hb : lookup key b <;> simp_all [OptSame]
    · have hkey := h key
      rwa [hv, hw] at hkey

/-- Arrays are the same when their elements are. -/
lemma same_arr_iff {a b : List (Value N)} :
    Same (.arr a) (.arr b) ↔ ∀ i : ℕ, OptSame a[i]? b[i]? := by
  constructor
  · intro h i
    cases h with
    | arr hlength hsame =>
      by_cases hi : i < a.length
      · rw [List.getElem?_eq_getElem hi, List.getElem?_eq_getElem (hlength ▸ hi)]
        exact hsame i _ _ (List.getElem?_eq_getElem hi) (List.getElem?_eq_getElem (hlength ▸ hi))
      · rw [List.getElem?_eq_none (by omega), List.getElem?_eq_none (by omega)]
        trivial
  · intro h
    refine .arr (le_antisymm ?_ ?_) fun i v w hv hw => ?_
    · by_contra hlt
      have hi := h b.length
      rw [List.getElem?_eq_getElem (by omega), List.getElem?_eq_none (le_refl _)] at hi
      exact hi
    · by_contra hlt
      have hi := h a.length
      rw [List.getElem?_eq_none (le_refl _), List.getElem?_eq_getElem (by omega)] at hi
      exact hi
    · have hi := h i
      rwa [hv, hw] at hi

/-! ### Edits -/

/-- The index that a token denotes: its decimal numeral. -/
def arrayIndex? (token : String) : Option ℕ :=
  if toString (Nat.ofDigitChars 10 token.toList 0) = token then some (Nat.ofDigitChars 10 token.toList 0)
  else none

@[simp] lemma arrayIndex?_toString (i : ℕ) : arrayIndex? (toString i) = some i := by
  have hvalue : Nat.ofDigitChars 10 (toString i).toList 0 = i := by
    rw [Nat.toString_eq_ofList_toDigits, String.toList_ofList, Nat.ofDigitChars_ten_toDigits]
  rw [arrayIndex?, hvalue, if_pos rfl]

/-- The member or the element that a token denotes. -/
def child? (token : String) : Value N → Option (Value N)
  | .obj members => lookup token members
  | .arr elements => (arrayIndex? token).bind fun i => elements[i]?
  | _ => none

/-- A value with another one for an existing member or element. -/
def setChild (token : String) (value : Value N) : Value N → Value N
  | .obj members => .obj (assign token value members)
  | .arr elements => .arr ((arrayIndex? token).elim elements fun i => elements.set i value)
  | parent => parent

/-- What a patch does at a location. -/
inductive Edit (N : Type)
  | add (value : Value N)
  | remove
  | replace (value : Value N)

namespace Edit

/-- An edit of a member or an element. -/
def applyTo (token : String) : Edit N → Value N → Option (Value N)
  | .add value, .obj members => some (.obj (assign token value members))
  | .add value, .arr elements =>
    if token = "-" then some (.arr (elements ++ [value]))
    else (arrayIndex? token).bind fun i =>
      if i ≤ elements.length then some (.arr (elements.insertIdx i value)) else none
  | .remove, .obj members => (lookup token members).map fun _ => .obj (erase token members)
  | .remove, .arr elements => (arrayIndex? token).bind fun i =>
      if i < elements.length then some (.arr (elements.eraseIdx i)) else none
  | .replace value, parent => (child? token parent).map fun _ => setChild token value parent
  | _, _ => none

/-- An edit of the whole document. -/
def applyToRoot : Edit N → Option (Value N)
  | .add value => some value
  | .remove => none
  | .replace value => some value

/-- An edit at a location; none where the location does not exist. -/
def applyAt (edit : Edit N) : List String → Value N → Option (Value N)
  | [], _ => edit.applyToRoot
  | [token], parent => edit.applyTo token parent
  | token :: next :: rest, parent => (child? token parent).bind fun value =>
      (applyAt edit (next :: rest) value).map fun value => setChild token value parent

end Edit

/-- Edits at their locations, one after the other. -/
def applyAll (edits : List (List String × Edit N)) (doc : Value N) : Option (Value N) :=
  edits.foldlM (fun doc e => e.2.applyAt e.1 doc) doc

@[simp] lemma applyAll_nil (doc : Value N) : applyAll [] doc = some doc := rfl

@[simp] lemma applyAll_cons (e : List String × Edit N) (edits : List (List String × Edit N)) (doc : Value N) :
    applyAll (e :: edits) doc = (e.2.applyAt e.1 doc).bind (applyAll edits) := rfl

lemma applyAll_append (edits edits' : List (List String × Edit N)) (doc : Value N) :
    applyAll (edits ++ edits') doc = (applyAll edits doc).bind (applyAll edits') :=
  List.foldlM_append ..

/-! ### Edits below a member or an element -/

section Below

variable {token : String} {value parent : Value N}

lemma child?_setChild (h : child? token parent ≠ none) :
    child? token (setChild token value parent) = some value := by
  cases parent with
  | obj members => simp [child?, setChild]
  | arr elements =>
    rw [child?] at h
    cases hindex : arrayIndex? token with
    | none => simp [hindex] at h
    | some i =>
      have hi : i < elements.length := by
        by_contra hlt
        simp [hindex, List.getElem?_eq_none (Nat.le_of_not_lt hlt)] at h
      simp [child?, setChild, hindex, hi]
  | _ => exact absurd rfl h

lemma setChild_self (h : child? token parent = some value) : setChild token value parent = parent := by
  cases parent with
  | obj members => rw [setChild, assign_self h]
  | arr elements =>
    rw [child?] at h
    cases hindex : arrayIndex? token with
    | none => simp [hindex] at h
    | some i =>
      rw [hindex, Option.bind_some] at h
      obtain ⟨hi, rfl⟩ := List.getElem?_eq_some_iff.mp h
      simp [setChild, hindex]
  | _ => rfl

lemma setChild_setChild (w : Value N) : setChild token w (setChild token value parent) = setChild token w parent := by
  cases parent with
  | obj members => simp [setChild, assign_assign]
  | arr elements => cases hindex : arrayIndex? token <;> simp [setChild, hindex]
  | _ => rfl

/-- An edit that makes sense at a document: below its root, or a replacement. -/
def Edit.Local (e : List String × Edit N) : Prop := e.1 = [] → ∃ value, e.2 = .replace value

/-- An edit below a member or an element changes that one. -/
lemma applyAt_cons {e : List String × Edit N} (h : Edit.Local e) :
    e.2.applyAt (token :: e.1) parent = (child? token parent).bind fun value =>
      (e.2.applyAt e.1 value).map fun value => setChild token value parent := by
  obtain ⟨tokens, edit⟩ := e
  cases tokens with
  | nil =>
    obtain ⟨value, rfl⟩ := h rfl
    cases hchild : child? token parent <;> simp [Edit.applyAt, Edit.applyTo, Edit.applyToRoot, hchild]
  | cons next rest => rfl

/-- Edits below a member or an element change that one. -/
theorem applyAll_below {edits : List (List String × Edit N)} (h : ∀ e ∈ edits, Edit.Local e)
    (hchild : child? token parent = some value) :
    applyAll (edits.map fun e => (token :: e.1, e.2)) parent =
      (applyAll edits value).map fun value => setChild token value parent := by
  induction edits generalizing parent value with
  | nil => simp [setChild_self hchild]
  | cons e edits ih =>
    rw [List.map_cons, applyAll_cons, applyAll_cons, applyAt_cons (h e List.mem_cons_self), hchild,
      Option.bind_some]
    cases hedit : e.2.applyAt e.1 value with
    | none => rfl
    | some edited =>
      have hchild' : child? token (setChild token edited parent) = some edited :=
        child?_setChild (by simp [hchild])
      simp only [Option.map_some, Option.bind_some,
        ih (fun e he => h e (List.mem_cons_of_mem _ he)) hchild', setChild_setChild]

end Below

/-! ### Edits of the same values -/

section Congruence

variable {token : String} {a b v w : Value N}

lemma child?_same (h : Same a b) (token : String) : OptSame (child? token a) (child? token b) := by
  cases h with
  | arr hlength hsame =>
    rw [child?, child?]
    cases arrayIndex? token with
    | none => trivial
    | some i => exact same_arr_iff.mp (.arr hlength hsame) i
  | obj hnone hsame => exact same_obj_iff.mp (.obj hnone hsame) token
  | _ => trivial

lemma same_assign {members members' : List (String × Value N)} (h : Same (.obj members) (.obj members'))
    (hvalue : Same v w) : Same (.obj (assign token v members)) (.obj (assign token w members')) := by
  rw [same_obj_iff] at h ⊢
  intro key
  rw [lookup_assign, lookup_assign]
  split_ifs
  · exact hvalue
  · exact h key

lemma same_erase {members members' : List (String × Value N)} (h : Same (.obj members) (.obj members')) :
    Same (.obj (erase token members)) (.obj (erase token members')) := by
  rw [same_obj_iff] at h ⊢
  intro key
  rw [lookup_erase, lookup_erase]
  split_ifs
  · trivial
  · exact h key

lemma setChild_same (h : Same a b) (hvalue : Same v w) (token : String) :
    Same (setChild token v a) (setChild token w b) := by
  cases h with
  | @arr a b hlength hsame =>
    rw [setChild, setChild]
    cases arrayIndex? token with
    | none => exact .arr hlength hsame
    | some j =>
      rw [same_arr_iff]
      intro i
      simp only [Option.elim_some, List.getElem?_set, hlength]
      split_ifs
      · exact hvalue
      · trivial
      · exact same_arr_iff.mp (.arr hlength hsame) i
  | obj hnone hsame => exact same_assign (.obj hnone hsame) hvalue
  | null => exact .null
  | bool b => exact .bool b
  | num n => exact .num n
  | str s => exact .str s

lemma applyTo_same (h : Same a b) (edit : Edit N) (token : String) :
    OptSame (edit.applyTo token a) (edit.applyTo token b) := by
  cases edit with
  | replace value =>
    have hchild := child?_same h token
    rw [Edit.applyTo, Edit.applyTo]
    cases ha : child? token a <;> cases hb : child? token b <;> rw [ha, hb] at hchild
    · trivial
    · exact hchild
    · exact hchild
    · exact setChild_same h (.refl value) token
  | add value =>
    cases h with
    | @arr a b hlength hsame =>
      have hsame' := same_arr_iff.mp (.arr hlength hsame)
      rw [Edit.applyTo, Edit.applyTo]
      split_ifs
      · rw [OptSame, same_arr_iff]
        intro i
        rw [List.getElem?_append, List.getElem?_append, hlength]
        split_ifs
        · exact hsame' i
        · exact .refl _
      · cases arrayIndex? token with
        | none => trivial
        | some j =>
          simp only [Option.bind_some, hlength]
          split_ifs with hj
          · rw [OptSame, same_arr_iff]
            intro i
            rw [List.getElem?_insertIdx, List.getElem?_insertIdx, hlength]
            split_ifs
            · exact hsame' i
            · exact .refl _
            · trivial
            · exact hsame' (i - 1)
          · trivial
    | obj hnone hsame => exact same_assign (.obj hnone hsame) (.refl value)
    | _ => trivial
  | remove =>
    cases h with
    | @arr a b hlength hsame =>
      have hsame' := same_arr_iff.mp (.arr hlength hsame)
      rw [Edit.applyTo, Edit.applyTo]
      cases arrayIndex? token with
      | none => trivial
      | some j =>
        simp only [Option.bind_some, hlength]
        split_ifs
        · rw [OptSame, same_arr_iff]
          intro i
          rw [List.getElem?_eraseIdx, List.getElem?_eraseIdx]
          split_ifs
          · exact hsame' i
          · exact hsame' (i + 1)
        · trivial
    | @obj a b hnone hsame =>
      have hkey := same_obj_iff.mp (.obj hnone hsame) token
      rw [Edit.applyTo, Edit.applyTo]
      cases ha : lookup token a <;> cases hb : lookup token b <;> rw [ha, hb] at hkey
      · trivial
      · exact hkey
      · exact hkey
      · exact same_erase (.obj hnone hsame)
    | _ => trivial

lemma applyAt_same (edit : Edit N) (tokens : List String) (h : Same a b) :
    OptSame (edit.applyAt tokens a) (edit.applyAt tokens b) := by
  induction tokens generalizing a b with
  | nil => exact .refl _
  | cons token rest ih =>
    cases rest with
    | nil => exact applyTo_same h edit token
    | cons next rest =>
      have hchild := child?_same h token
      rw [Edit.applyAt, Edit.applyAt]
      cases ha : child? token a <;> cases hb : child? token b <;> rw [ha, hb] at hchild
      · trivial
      · exact hchild.elim
      · exact hchild.elim
      · have hrest := ih hchild
        simp only [Option.bind_some]
        revert hrest
        cases edit.applyAt (next :: rest) _ <;> cases edit.applyAt (next :: rest) _ <;> intro hrest
        · trivial
        · exact hrest
        · exact hrest
        · exact setChild_same h hrest token

end Congruence

/-! ### Values over other numbers -/

/-- The value over other numbers. -/
def Value.map (f : N → M) : Value N → Value M
  | .null => .null
  | .bool b => .bool b
  | .num n => .num (f n)
  | .str s => .str s
  | .arr elements => .arr (elements.map (Value.map f))
  | .obj members => .obj (members.map fun m => (m.1, Value.map f m.2))
termination_by value => sizeOf value
decreasing_by
  · have hmem := List.sizeOf_lt_of_mem ‹_›
    simp only [Value.arr.sizeOf_spec]
    omega
  · have hmem := List.sizeOf_lt_of_mem ‹_›
    have hpair : sizeOf m = 1 + sizeOf m.1 + sizeOf m.2 := rfl
    simp only [Value.obj.sizeOf_spec]
    omega

/-- Two changes of the numbers are one. -/
lemma Value.map_map {L : Type} (f : N → M) (g : M → L) : ∀ value : Value N,
    (value.map f).map g = value.map (g ∘ f)
  | .null | .bool b | .num n | .str s => by simp [Value.map]
  | .arr elements => by
      rw [Value.map, Value.map, Value.map, List.map_map]
      refine congrArg Value.arr (List.map_congr_left fun v hv => ?_)
      have hmem := List.sizeOf_lt_of_mem hv
      exact map_map f g v
  | .obj members => by
      rw [Value.map, Value.map, Value.map, List.map_map]
      refine congrArg Value.obj (List.map_congr_left fun m hm => ?_)
      have hmem := List.sizeOf_lt_of_mem hm
      have hpair : sizeOf m = 1 + sizeOf m.1 + sizeOf m.2 := rfl
      exact congrArg (Prod.mk m.1) (map_map f g m.2)
termination_by value => sizeOf value

/-- The edit over other numbers. -/
def Edit.map (f : N → M) : Edit N → Edit M
  | .add value => .add (value.map f)
  | .remove => .remove
  | .replace value => .replace (value.map f)

section Map

variable {f : N → M} {token : String}

@[simp] lemma lookup_map (key : String) (members : List (String × Value N)) :
    lookup key (members.map fun m => (m.1, m.2.map f)) = (lookup key members).map (Value.map f) := by
  induction members with
  | nil => rfl
  | cons m members ih =>
    rw [List.map_cons, lookup, lookup, ih]
    split_ifs <;> rfl

lemma assign_map (key : String) (value : Value N) (members : List (String × Value N)) :
    (assign key value members).map (fun m => (m.1, m.2.map f)) =
      assign key (value.map f) (members.map fun m => (m.1, m.2.map f)) := by
  induction members with
  | nil => rfl
  | cons m members ih =>
    rw [List.map_cons, assign, assign]
    split_ifs
    · rfl
    · rw [List.map_cons, ih]

lemma erase_map (key : String) (members : List (String × Value N)) :
    (erase key members).map (fun m => (m.1, m.2.map f)) = erase key (members.map fun m => (m.1, m.2.map f)) := by
  rw [erase, erase, List.filter_map]
  rfl

lemma child?_map (token : String) (value : Value N) :
    child? token (value.map f) = (child? token value).map (Value.map f) := by
  cases value with
  | arr elements => cases h : arrayIndex? token <;> simp [Value.map, child?, h]
  | obj members => rw [Value.map, child?, child?, lookup_map]
  | _ => simp [Value.map, child?]

lemma setChild_map (token : String) (value parent : Value N) :
    (setChild token value parent).map f = setChild token (value.map f) (parent.map f) := by
  cases parent with
  | arr elements => cases h : arrayIndex? token <;> simp [Value.map, setChild, h, List.map_set]
  | obj members => rw [setChild, Value.map, assign_map, Value.map, setChild]
  | _ => simp [Value.map, setChild]

lemma applyTo_map (edit : Edit N) (parent : Value N) :
    (edit.map f).applyTo token (parent.map f) = (edit.applyTo token parent).map (Value.map f) := by
  cases edit with
  | replace value =>
    rw [Edit.map, Edit.applyTo, Edit.applyTo, child?_map]
    cases child? token parent <;> simp [setChild_map]
  | add value =>
    cases parent with
    | arr elements =>
      rw [Value.map, Edit.map, Edit.applyTo, Edit.applyTo]
      split_ifs
      · simp [Value.map]
      · cases arrayIndex? token with
        | none => rfl
        | some i =>
          simp only [Option.bind_some, List.length_map]
          split_ifs
          · simp [Value.map, List.map_insertIdx]
          · rfl
    | obj members => simp [Value.map, Edit.map, Edit.applyTo, assign_map]
    | _ => simp [Value.map, Edit.map, Edit.applyTo]
  | remove =>
    cases parent with
    | arr elements =>
      rw [Value.map, Edit.map, Edit.applyTo, Edit.applyTo]
      cases arrayIndex? token with
      | none => rfl
      | some i =>
        simp only [Option.bind_some, List.length_map]
        split_ifs
        · simp [Value.map, List.eraseIdx_map]
        · rfl
    | obj members =>
      rw [Value.map, Edit.map, Edit.applyTo, Edit.applyTo, lookup_map]
      cases lookup token members <;> simp [Value.map, erase_map]
    | _ => simp [Value.map, Edit.map, Edit.applyTo]

lemma applyAt_map (edit : Edit N) (tokens : List String) (doc : Value N) :
    (edit.map f).applyAt tokens (doc.map f) = (edit.applyAt tokens doc).map (Value.map f) := by
  induction tokens generalizing doc with
  | nil => cases edit <;> rfl
  | cons token rest ih =>
    cases rest with
    | nil => exact applyTo_map edit doc
    | cons next rest =>
      rw [Edit.applyAt, Edit.applyAt, child?_map]
      cases child? token doc with
      | none => rfl
      | some value =>
        simp only [Option.map_some, Option.bind_some, ih]
        cases edit.applyAt (next :: rest) value <;> simp [setChild_map]

/-- The same values are the same over other numbers. -/
lemma Same.map {a b : Value N} (h : Same a b) (f : N → M) : Same (a.map f) (b.map f) := by
  induction h with
  | null => simpa [Value.map] using Same.null
  | bool b => simpa [Value.map] using Same.bool b
  | num n => simpa [Value.map] using Same.num (f n)
  | str s => simpa [Value.map] using Same.str s
  | @arr a b hlength _ ih =>
    rw [Value.map, Value.map]
    refine .arr (by simp [hlength]) fun i v w hv hw => ?_
    rw [List.getElem?_map, Option.map_eq_some_iff] at hv hw
    obtain ⟨v, hv, rfl⟩ := hv
    obtain ⟨w, hw, rfl⟩ := hw
    exact ih i v w hv hw
  | @obj a b hnone _ ih =>
    rw [Value.map, Value.map]
    refine .obj (fun key => by simp [hnone key]) fun key v w hv hw => ?_
    rw [lookup_map, Option.map_eq_some_iff] at hv hw
    obtain ⟨v, hv, rfl⟩ := hv
    obtain ⟨w, hw, rfl⟩ := hw
    exact ih key v w hv hw

end Map

/-! ### Pointers -/

/-- Escape a pointer token. -/
def escapeToken (key : String) : List Char :=
  (key.toList.flatMap fun c => if c = '~' then ['~', '0'] else [c]).flatMap fun c =>
    if c = '/' then ['~', '1'] else [c]

/-- The tokens of a pointer: the empty pointer has none, any other starts with a slash. -/
def parsePointer (path : String) : Option (List String) :=
  match path.toList with
  | [] => some []
  | '/' :: rest => some (pointerKeys rest)
  | _ => none

/-- The pointer of a list of tokens. -/
def pointerTo (tokens : List String) : String :=
  String.ofList (tokens.flatMap fun token => '/' :: escapeToken token)

lemma escapeToken_eq (key : String) : escapeToken key = key.toList.flatMap fun c =>
    if c = '~' then ['~', '0'] else if c = '/' then ['~', '1'] else [c] := by
  rw [escapeToken, List.flatMap_assoc]
  congr 1
  funext c
  split_ifs with htilde <;> simp_all

lemma slash_notMem_escapeToken (key : String) : '/' ∉ escapeToken key := by
  rw [escapeToken_eq, List.mem_flatMap]
  rintro ⟨c, -, hmem⟩
  split_ifs at hmem with htilde hslash
  · simp at hmem
  · simp at hmem
  · exact hslash (List.mem_singleton.mp hmem).symm

/-- A token is decoded as the key it was made of. -/
lemma decodePointerToken_escapeToken (key : String) : Json.decodePointerToken (escapeToken key) = key := by
  rw [Json.decodePointerToken, replaceEscape_replaceEscape, escapeToken_eq]
  apply String.toList_injective
  rw [String.toList_ofList]
  induction key.toList with
  | nil => rfl
  | cons c cs ih =>
    rw [List.flatMap_cons]
    split_ifs with htilde hslash
    · rw [List.cons_append, List.cons_append, List.nil_append, unescape, ih, htilde]
    · rw [List.cons_append, List.cons_append, List.nil_append, unescape, ih, hslash]
    · rw [List.cons_append, List.nil_append, unescape_cons fun h => absurd h htilde, ih]

/-- A pointer leads where its tokens do. -/
theorem parsePointer_pointerTo (tokens : List String) : parsePointer (pointerTo tokens) = some tokens := by
  cases tokens with
  | nil => rfl
  | cons token rest =>
    have hjoin : ∀ (token : String) (rest : List String),
        escapeToken token ++ rest.flatMap (fun token => '/' :: escapeToken token) =
          ['/'].intercalate ((token :: rest).map escapeToken) := by
      intro token rest
      induction rest generalizing token with
      | nil => simp
      | cons next rest ih =>
        rw [List.flatMap_cons, List.cons_append, ih, List.map_cons, List.map_cons, List.map_cons,
          List.intercalate_cons_cons]
        simp
    rw [parsePointer, pointerTo, String.toList_ofList, List.flatMap_cons, List.cons_append]
    simp only [pointerKeys, hjoin]
    have hslash : ∀ l ∈ (token :: rest).map escapeToken, '/' ∉ l := by
      intro l hl
      obtain ⟨t, -, rfl⟩ := List.mem_map.mp hl
      exact slash_notMem_escapeToken t
    rw [List.splitOn_intercalate _ hslash (by simp), List.map_map]
    simp [Function.comp_def, decodePointerToken_escapeToken]

/-- The token of an array index is its numeral. -/
lemma escapeToken_toString (i : ℕ) : escapeToken (toString i) = (toString i).toList := by
  have hdigit : ∀ c ∈ (toString i).toList, c ≠ '~' ∧ c ≠ '/' := by
    intro c hc
    rw [Nat.toString_eq_ofList_toDigits, String.toList_ofList] at hc
    have hd := Nat.isDigit_of_mem_toDigits (by decide) (by decide) hc
    constructor <;> rintro rfl <;> cases hd
  rw [escapeToken_eq]
  conv_rhs => rw [← List.flatMap_singleton' (toString i).toList]
  refine List.flatMap_congr fun c hc => ?_
  rw [if_neg (hdigit c hc).1, if_neg (hdigit c hc).2]

end Foundations.JsonPatch

import Makaio.Foundations.Json

set_option autoImplicit false

/-!
# Payload filters

A subscription may carry a filter on payloads (`utils/payload-filter.ts`): conditions on the values at
dotted paths, all of which must hold.  A path reads the inherited properties of objects and arrays too.

## Main definitions

* `PayloadFilter` — the conditions by path.
* `PathValue`, `getPath` — what a path leads to.
* `matchesFilter` — whether a payload satisfies a filter.
-/

namespace Makaio.Bus

open Foundations

/-- A primitive value. -/
inductive Primitive
  | null
  | bool (b : Bool)
  | num (n : ℚ)
  | str (s : String)
  deriving DecidableEq

/-- A condition on a value. -/
inductive FilterOperator
  | equals (value : Primitive)
  /-- `$in` -/
  | isIn (values : List Primitive)
  /-- `$ne` -/
  | ne (value : Primitive)
  /-- `$exists` -/
  | exist (exists? : Bool)
  /-- `$startsWith` -/
  | startsWith (start : String)
  /-- `$endsWith` -/
  | endsWith (ending : String)
  deriving DecidableEq

/-- The conditions, by path. -/
abbrev PayloadFilter := List (String × FilterOperator)

/-- What a path can lead to: a value of the payload, a function that it inherits, or a prototype. -/
inductive PathValue
  | json (value : Json)
  | function
  | objectPrototype
  | arrayPrototype

/-- The primitive a value is; none for an array, an object, a function or an absent value. -/
def primitive? : Option PathValue → Option Primitive
  | some (.json .null) => some .null
  | some (.json (.bool b)) => some (.bool b)
  | some (.json (.num n)) => some (.num n)
  | some (.json (.str s)) => some (.str s)
  | _ => none

/-- The functions of `Object.prototype`. -/
def objectFunctions : List String :=
  ["constructor", "__defineGetter__", "__defineSetter__", "hasOwnProperty", "__lookupGetter__",
    "__lookupSetter__", "isPrototypeOf", "propertyIsEnumerable", "toString", "valueOf", "toLocaleString"]

/-- The functions of `Array.prototype`. -/
def arrayFunctions : List String :=
  ["at", "concat", "copyWithin", "fill", "find", "findIndex", "findLast", "findLastIndex", "lastIndexOf",
    "pop", "push", "reverse", "shift", "unshift", "slice", "sort", "splice", "includes", "indexOf", "join",
    "keys", "entries", "values", "forEach", "filter", "flat", "flatMap", "map", "every", "some", "reduce",
    "reduceRight", "toReversed", "toSorted", "toSpliced", "with"]

/-- An inherited property, given the prototype and the names of the functions. -/
def inherited? (proto : PathValue) (functions : List String) (part : String) : Option PathValue :=
  if part = "__proto__" then some proto else if part ∈ functions then some .function else none

/-- The value of a property: a member of an object, an element or the length of an array, or what is
inherited.  The prototype of arrays is an empty array, and that of objects inherits from nothing. -/
def property? (current : PathValue) (part : String) : Option PathValue :=
  match current with
  | .json (.obj members) =>
    ((Json.obj members).member? part).elim (inherited? .objectPrototype objectFunctions part) (some ∘ .json)
  | .json (.arr elements) =>
    if part = "length" then some (.json (.num elements.length))
    else match part.toNat?.filter (fun index => toString index = part) with
      | some index => ((Json.arr elements).element? index).map .json
      | none => inherited? .arrayPrototype (arrayFunctions ++ objectFunctions) part
  | .json _ | .function => none
  | .objectPrototype => inherited? (.json .null) objectFunctions part
  | .arrayPrototype =>
    if part = "length" then some (.json (.num 0))
    else inherited? .objectPrototype (arrayFunctions ++ objectFunctions) part

/-- Get a nested value using dot-notation path. -/
def getPath (payload : Option Json) (path : String) : Option PathValue :=
  (path.splitOn ".").foldl (fun current part => current.bind fun value => property? value part)
    (payload.map .json)

/-- Check if a value matches a filter operator. -/
def matchOperator (actual : Option PathValue) : FilterOperator → Bool
  | .equals value => primitive? actual = some value
  | .isIn values => values.any fun value => primitive? actual = some value
  | .ne value => primitive? actual ≠ some value
  | .exist exists? => if exists? then actual.isSome else actual.isNone
  | .startsWith start =>
    match actual with
    | some (.json (.str s)) => start.toList.isPrefixOf s.toList
    | _ => false
  | .endsWith ending =>
    match actual with
    | some (.json (.str s)) => ending.toList.isSuffixOf s.toList
    | _ => false

/-- Check if a payload matches all filter conditions. -/
def matchesFilter (payload : Option Json) (filter : PayloadFilter) : Bool :=
  filter.all fun condition => matchOperator (getPath payload condition.1) condition.2

end Makaio.Bus

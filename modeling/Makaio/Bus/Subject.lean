import Mathlib.Tactic

set_option autoImplicit false

/-!
# Subject keys and subscription patterns

A full subject key is `namespace.subject`; colons inside the namespace separate its levels.  A
subscription pattern is a full key, `*`, a subject wildcard `prefix.*` or a namespace wildcard
`prefix:*`.  Handlers, advertisements and relay guards are all found by matching a key against
stored patterns, and a stored pattern is itself matched as if it were a key when the
advertisement of its own key is recomputed.

## Main definitions

* `matchesSubscription` — the matching predicate
  (`utils/subscription-matching.ts`).
* `SubjectDefinition` — a subject with the routing metadata of its schema.

## Main results

* `matchesSubscription_trans` — a key that matches a pattern matches every pattern
  the pattern itself matches.
* `matchesSubscription_self` — a key or pattern that some key matches matches itself.
-/

namespace Makaio.Bus

/-- A full subject key or a subscription pattern. -/
abbrev Key := String

/-- `s.endsWith(suffix)`. -/
def endsWith (s : String) (suffix : List Char) : Bool := suffix.isSuffixOf s.toList

/-- `s.startsWith(pre)`. -/
def startsWith (s : String) (pre : List Char) : Bool := pre.isPrefixOf s.toList

/-- `pattern.slice(0, -2)`: the pattern without its last two characters. -/
def sliceWildcard (pattern : String) : List Char := pattern.toList.dropLast.dropLast

/-- Check if a subject matches a subscription pattern. -/
def matchesSubscription (subject pattern : Key) : Bool :=
  -- Global wildcard: matches every subject unconditionally.
  if pattern = "*" then true
  -- Exact match
  else if !endsWith pattern ['*'] then subject = pattern
  -- Namespace wildcard: 'adapter:*'
  else if endsWith pattern [':', '*'] then startsWith subject (sliceWildcard pattern ++ [':'])
  -- Subject wildcard: 'adapter.*'
  else if endsWith pattern ['.', '*'] then startsWith subject (sliceWildcard pattern ++ ['.'])
  else false

/-! ### The shape of a match -/

/-- What a pattern demands of a key: everything, equality, or a prefix that ends in a separator
and is followed in the pattern by the wildcard. -/
inductive PatternShape (pattern : Key) : Prop
  | any (h : pattern = "*")
  | exact (h : endsWith pattern ['*'] = false) (hne : pattern ≠ "*")
  | under (pre : List Char) (sep : Char) (hsep : sep ≠ '*')
      (h : pattern.toList = pre ++ [sep, '*']) (hne : pattern ≠ "*")
      (hm : ∀ subject, matchesSubscription subject pattern = startsWith subject (pre ++ [sep]))
  | never (hm : ∀ subject, matchesSubscription subject pattern = false)

/-- Cutting a two-character suffix off. -/
private lemma sliceWildcard_of_endsWith {pattern : String} {a b : Char}
    (h : endsWith pattern [a, b] = true) :
    pattern.toList = sliceWildcard pattern ++ [a, b] := by
  obtain ⟨pre, hpre⟩ := List.isSuffixOf_iff_suffix.mp h
  rw [sliceWildcard, ← hpre]
  simp

/-- Every pattern has one of the four shapes. -/
theorem patternShape (pattern : Key) : PatternShape pattern := by
  by_cases hany : pattern = "*"
  · exact .any hany
  by_cases hstar : endsWith pattern ['*'] = true
  · by_cases hns : endsWith pattern [':', '*'] = true
    · exact .under _ ':' (by decide) (sliceWildcard_of_endsWith hns) hany fun subject => by
        simp [matchesSubscription, hany, hstar, hns]
    · by_cases hsub : endsWith pattern ['.', '*'] = true
      · exact .under _ '.' (by decide) (sliceWildcard_of_endsWith hsub) hany fun subject => by
          simp [matchesSubscription, hany, hstar, hns, hsub]
      · exact .never fun subject => by
          simp [matchesSubscription, hany, hstar, hns, hsub]
  · exact .exact (by simpa using hstar) hany

@[simp] theorem matchesSubscription_any (subject : Key) : matchesSubscription subject "*" = true := by
  simp [matchesSubscription]

variable {pattern subject p : Key}

/-- A pattern without a wildcard matches only itself. -/
theorem matchesSubscription_exact (h : endsWith pattern ['*'] = false) (hne : pattern ≠ "*") :
    matchesSubscription subject pattern = true ↔ subject = pattern := by
  simp [matchesSubscription, hne, h]

/-- A prefix ending in a separator of a wildcard pattern is a prefix of what stands before the
pattern's wildcard. -/
private lemma isPrefix_of_isPrefix_wildcard {pre pre' : List Char} {sep sep' : Char}
    (hsep : sep ≠ '*') (h : pre ++ [sep] <+: pre' ++ [sep', '*']) :
    pre ++ [sep] <+: pre' ++ [sep'] := by
  rw [show pre' ++ [sep', '*'] = (pre' ++ [sep']) ++ ['*'] by simp, List.prefix_concat_iff] at h
  rcases h with h | h
  · have hlast := congrArg List.getLast? h
    exact absurd (by simpa using hlast) hsep
  · exact h

/-- The pattern `*` as a key matches only itself. -/
private lemma eq_any_of_matchesSubscription_any (h : matchesSubscription "*" pattern = true) :
    pattern = "*" := by
  cases patternShape pattern with
  | any h' => exact h'
  | exact he hne => exact ((matchesSubscription_exact he hne).mp h).symm
  | under pre sep hsep hp hne hm =>
    rw [hm, startsWith, List.isPrefixOf_iff_prefix] at h
    have hstar : ("*" : String).toList = [] ++ ['*'] := by decide
    rw [hstar, List.prefix_concat_iff] at h
    rcases h with h | h
    · exact absurd (by simpa using congrArg List.getLast? h) hsep
    · simp at h
  | never hm => rw [hm] at h; cases h

/-- **Matching is transitive through patterns**: a key that matches pattern `q`, where `q` read
as a key matches pattern `p`, matches `p`.

**Proof sketch.** By the shape of `q`.  If `q` is `*`, so is `p`.  If `q` has no wildcard, the key
is `q`.  If `q` is a prefix wildcard, then either `p` is `*`, or `p` demands a prefix of `q` that
ends in a separator, hence a prefix of what `q` itself demands. -/
theorem matchesSubscription_trans {q : Key} (hs : matchesSubscription subject q = true)
    (hq : matchesSubscription q p = true) : matchesSubscription subject p = true := by
  cases patternShape q with
  | any h =>
    rw [h] at hq
    rw [eq_any_of_matchesSubscription_any hq]
    simp
  | exact he hne => rwa [(matchesSubscription_exact he hne).mp hs]
  | never hm => rw [hm] at hs; cases hs
  | under pre sep hsep hql hqne hm =>
    cases patternShape p with
    | any h => simp [h]
    | exact he hne =>
      have hqp := (matchesSubscription_exact he hne).mp hq
      rw [← hqp, endsWith, hql] at he
      have hsuf : (['*'] : List Char) <:+ pre ++ [sep, '*'] := ⟨pre ++ [sep], by simp⟩
      rw [List.isSuffixOf_iff_suffix.mpr hsuf] at he
      cases he
    | never hm' => rw [hm'] at hq; cases hq
    | under pre' sep' hsep' _ _ hm' =>
      rw [hm, startsWith, List.isPrefixOf_iff_prefix] at hs
      rw [hm', startsWith, List.isPrefixOf_iff_prefix, hql] at hq
      rw [hm', startsWith, List.isPrefixOf_iff_prefix]
      exact (isPrefix_of_isPrefix_wildcard hsep' hq).trans hs

/-- A pattern that some key matches matches itself. -/
theorem matchesSubscription_self (h : matchesSubscription subject p = true) :
    matchesSubscription p p = true := by
  cases patternShape p with
  | any hp => simp [hp]
  | exact he hne => exact (matchesSubscription_exact he hne).mpr rfl
  | never hm => rw [hm] at h; cases h
  | under pre sep _ hp _ hm =>
    rw [hm, startsWith, List.isPrefixOf_iff_prefix, hp]
    exact ⟨['*'], by simp⟩

/-- **A match decides coverage**: a pattern that matches the pattern `q`, read as a key, matches every key that
`q` matches, and no other does. -/
theorem matches_all_iff {q : Key} (hq : ∃ key, matchesSubscription key q = true) :
    (∀ key, matchesSubscription key q = true → matchesSubscription key p = true) ↔
      matchesSubscription q p = true := by
  obtain ⟨key, hkey⟩ := hq
  constructor
  · intro h
    exact h q (matchesSubscription_self hkey)
  · intro h key hkey
    exact matchesSubscription_trans hkey h

/-- The subjects of a namespace are not those of the namespaces in it. -/
theorem matches_all_iff_namespace : ¬∀ key, matchesSubscription key "adapter:*" = true →
    matchesSubscription key "adapter.*" = true := by
  rw [matches_all_iff ⟨"adapter:claudeCode.log", by decide⟩]
  decide

example : matchesSubscription "adapter:claudeCode.log" "adapter:*" = true := by decide

example : matchesSubscription "adapter:claudeCode.log" "adapter.*" = false := by decide

/-! ### Subject definitions -/

/-- Default transport routing of a subject or a namespace. -/
inductive TransportRoutingDefault
  | all
  | localOnly
  deriving DecidableEq

/-- A subject definition token: the subject key within its namespace and the routing metadata
its schema was wrapped with. -/
structure SubjectDefinition where
  /-- Subject key inside the namespace; `*` for the namespace wildcard. -/
  subject : String
  /-- `$meta.namespace` -/
  domain : String
  /-- `$meta.isRequest` -/
  isRequest : Bool
  /-- `$meta.local`: the schema was wrapped with `localSubject()`. -/
  isLocal : Bool
  /-- `$meta.defaultTransports` -/
  defaultTransports : Option TransportRoutingDefault

/-- The full subject key of a definition. -/
def getFullSubjectForSubjectDefinition (definition : SubjectDefinition) : Key :=
  definition.domain ++ "." ++ definition.subject

end Makaio.Bus

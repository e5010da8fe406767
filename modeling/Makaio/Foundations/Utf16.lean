import Mathlib.Tactic

set_option autoImplicit false

/-!
# Strings of UTF-16 code units

The strings of JavaScript: sequences of 16-bit code units.  A character of the basic plane is one unit,
any other one a high surrogate followed by a low one.  A string with an unpaired surrogate is not well
formed; its characters are read with U+FFFD in the place of each unpaired surrogate.

## Main definitions

* `Utf16` — the strings; `Utf16.ofChar`, `Utf16.ofChars` — the units of characters.
* `Utf16.isWellFormed` — whether all surrogates are paired; `chars` — the characters.

## Main results

* `Utf16.chars_ofChars` — characters are read back from their units.
* `Utf16.ofChars_chars` — a well-formed string is the units of its characters.
-/

namespace Foundations

/-- A string: its code units. -/
abbrev Utf16 := List UInt16

namespace Utf16

/-- The units of a character. -/
def ofChar (c : Char) : Utf16 :=
  if c.toNat < 0x10000 then [UInt16.ofNat c.toNat]
  else [UInt16.ofNat (0xD800 + (c.toNat - 0x10000) / 0x400),
    UInt16.ofNat (0xDC00 + (c.toNat - 0x10000) % 0x400)]

/-- The units of characters. -/
def ofChars (cs : List Char) : Utf16 := cs.flatMap ofChar

/-- Whether a unit is the first one of a pair. -/
def isHighSurrogate (u : UInt16) : Bool := 0xD800 ≤ u.toNat && u.toNat < 0xDC00

/-- Whether a unit is the second one of a pair. -/
def isLowSurrogate (u : UInt16) : Bool := 0xDC00 ≤ u.toNat && u.toNat < 0xE000

/-- The character of a pair of surrogates. -/
def ofPair (high low : UInt16) : Char :=
  Char.ofNat (0x10000 + (high.toNat - 0xD800) * 0x400 + (low.toNat - 0xDC00))

/-- `isWellFormed`: whether every surrogate is one of a pair. -/
def isWellFormed : Utf16 → Bool
  | [] => true
  | [u] => !isHighSurrogate u && !isLowSurrogate u
  | u :: v :: rest =>
    if isHighSurrogate u then isLowSurrogate v && isWellFormed rest
    else !isLowSurrogate u && isWellFormed (v :: rest)

/-- The characters of a string, with U+FFFD for an unpaired surrogate. -/
def chars : Utf16 → List Char
  | [] => []
  | [u] => [if isHighSurrogate u || isLowSurrogate u then '\uFFFD' else Char.ofNat u.toNat]
  | u :: v :: rest =>
    if isHighSurrogate u then
      if isLowSurrogate v then ofPair u v :: chars rest else '\uFFFD' :: chars (v :: rest)
    else if isLowSurrogate u then '\uFFFD' :: chars (v :: rest)
    else Char.ofNat u.toNat :: chars (v :: rest)

/-! ### Units of a character -/

/-- The numbers of characters: below the surrogates or above them. -/
lemma toNat_cases (c : Char) :
    c.toNat < 0xD800 ∨ 0xE000 ≤ c.toNat ∧ c.toNat < 0x10000 ∨
      0x10000 ≤ c.toNat ∧ c.toNat < 0x110000 := by
  have h := c.valid
  simp only [UInt32.isValidChar, Nat.isValidChar] at h
  simp only [Char.toNat]
  omega

/-- A character of the basic plane is a unit that is no surrogate. -/
lemma basic_unit {c : Char} (h : c.toNat < 0x10000) :
    (UInt16.ofNat c.toNat).toNat = c.toNat ∧ isHighSurrogate (UInt16.ofNat c.toNat) = false ∧
      isLowSurrogate (UInt16.ofNat c.toNat) = false := by
  have hn : (UInt16.ofNat c.toNat).toNat = c.toNat := by
    simp only [UInt16.toNat_ofNat']
    omega
  have hcases := toNat_cases c
  refine ⟨hn, ?_, ?_⟩
  · rw [isHighSurrogate, hn]
    simp only [Bool.and_eq_false_iff, decide_eq_false_iff_not]
    omega
  · rw [isLowSurrogate, hn]
    simp only [Bool.and_eq_false_iff, decide_eq_false_iff_not]
    omega

/-- Any other character is a pair of surrogates. -/
lemma paired_units {c : Char} (h : ¬c.toNat < 0x10000) :
    ∃ high low, ofChar c = [high, low] ∧ isHighSurrogate high = true ∧
      isLowSurrogate low = true ∧ ofPair high low = c := by
  have hcases := toNat_cases c
  have hhigh : (UInt16.ofNat (0xD800 + (c.toNat - 0x10000) / 0x400)).toNat =
      0xD800 + (c.toNat - 0x10000) / 0x400 := by
    simp only [UInt16.toNat_ofNat']
    omega
  have hlow : (UInt16.ofNat (0xDC00 + (c.toNat - 0x10000) % 0x400)).toNat =
      0xDC00 + (c.toNat - 0x10000) % 0x400 := by
    simp only [UInt16.toNat_ofNat']
    omega
  refine ⟨_, _, by rw [ofChar, if_neg h], ?_, ?_, ?_⟩
  · rw [isHighSurrogate, hhigh]
    simp only [Bool.and_eq_true, decide_eq_true_eq]
    omega
  · rw [isLowSurrogate, hlow]
    simp only [Bool.and_eq_true, decide_eq_true_eq]
    omega
  · have hsum : 0x10000 + (0xD800 + (c.toNat - 0x10000) / 0x400 - 0xD800) * 0x400 +
        (0xDC00 + (c.toNat - 0x10000) % 0x400 - 0xDC00) = c.toNat := by omega
    rw [ofPair, hhigh, hlow, hsum, Char.ofNat_toNat]

/-! ### Characters and their units -/

/-- The first character of a string is read from its units. -/
lemma chars_ofChar_append (c : Char) (rest : Utf16) :
    chars (ofChar c ++ rest) = c :: chars rest := by
  by_cases h : c.toNat < 0x10000
  · obtain ⟨hn, hhigh, hlow⟩ := basic_unit h
    rw [ofChar, if_pos h]
    cases rest with
    | nil | cons v rest => simp [chars, hhigh, hlow, hn, Char.ofNat_toNat]
  · obtain ⟨high, low, hunits, hhigh, hlow, hpair⟩ := paired_units h
    simp [hunits, chars, hhigh, hlow, hpair]

/-- The units of characters start with those of the first one. -/
@[simp]
lemma ofChars_cons (c : Char) (cs : List Char) : ofChars (c :: cs) = ofChar c ++ ofChars cs := rfl

/-- **Characters are read back** from their units. -/
theorem chars_ofChars (cs : List Char) : chars (ofChars cs) = cs := by
  induction cs with
  | nil => rfl
  | cons c cs ih => rw [ofChars_cons, chars_ofChar_append, ih]

/-- The number of the character of a number. -/
private lemma toNat_ofNat {n : ℕ} (h : n.isValidChar) : (Char.ofNat n).toNat = n := by
  rw [Char.ofNat, dif_pos h]
  rfl

/-- The unit of the character that a unit outside the surrogates is. -/
private lemma ofChar_of_unit {u : UInt16} (hhigh : isHighSurrogate u = false)
    (hlow : isLowSurrogate u = false) : ofChar (Char.ofNat u.toNat) = [u] := by
  have hu := u.toNat_lt
  simp only [isHighSurrogate, isLowSurrogate, Bool.and_eq_false_iff, decide_eq_false_iff_not]
    at hhigh hlow
  have hvalid : Nat.isValidChar u.toNat := by
    rw [Nat.isValidChar]
    omega
  have hn : (Char.ofNat u.toNat).toNat = u.toNat :=
    toNat_ofNat hvalid
  rw [ofChar, hn, if_pos (by omega), UInt16.ofNat_toNat]

/-- The units of the character that a pair is. -/
private lemma ofChar_of_pair {high low : UInt16} (hhigh : isHighSurrogate high = true)
    (hlow : isLowSurrogate low = true) : ofChar (ofPair high low) = [high, low] := by
  simp only [isHighSurrogate, isLowSurrogate, Bool.and_eq_true, decide_eq_true_eq] at hhigh hlow
  have hvalid : Nat.isValidChar
      (0x10000 + (high.toNat - 0xD800) * 0x400 + (low.toNat - 0xDC00)) := by
    rw [Nat.isValidChar]
    omega
  have hn : (ofPair high low).toNat =
      0x10000 + (high.toNat - 0xD800) * 0x400 + (low.toNat - 0xDC00) :=
    toNat_ofNat hvalid
  have h1 : 0xD800 + ((ofPair high low).toNat - 0x10000) / 0x400 = high.toNat := by omega
  have h2 : 0xDC00 + ((ofPair high low).toNat - 0x10000) % 0x400 = low.toNat := by omega
  rw [ofChar, if_neg (by omega), h1, h2, UInt16.ofNat_toNat, UInt16.ofNat_toNat]

/-- **A well-formed string** is the units of its characters. -/
theorem ofChars_chars {s : Utf16} (h : isWellFormed s = true) : ofChars (chars s) = s := by
  induction s using isWellFormed.induct with
  | case1 => rfl
  | case2 u =>
    simp only [isWellFormed, Bool.and_eq_true, Bool.not_eq_true'] at h
    simp [chars, h.1, h.2, ofChars, ofChar_of_unit h.1 h.2]
  | case3 u v rest hhigh ih =>
    rw [isWellFormed, if_pos hhigh, Bool.and_eq_true] at h
    rw [chars, if_pos hhigh, if_pos h.1, ofChars_cons, ofChar_of_pair hhigh h.1, ih h.2]
    rfl
  | case4 u v rest hhigh ih =>
    rw [isWellFormed, if_neg hhigh, Bool.and_eq_true, Bool.not_eq_true'] at h
    rw [chars, if_neg hhigh, if_neg (by simp [h.1]), ofChars_cons,
      ofChar_of_unit (by simpa using hhigh) h.1, ih h.2]
    rfl

end Utf16

end Foundations

import Makaio.Foundations.Json
import Makaio.Foundations.Utf16
import Mathlib.Data.List.TakeWhile

set_option autoImplicit false

/-!
# The text of JSON values

`JSON.stringify` and `JSON.parse`: a value is written without white space and read back, up to the
members of an object that a later one with the same key replaces.  How numbers are written is left to a
format.

## Main definitions

* `NumberFormat` — how numbers are written; `NumberFormat.plain` — with digits.
* `Json.print` — the text of a value; `Json.parse` — the value of a text.
* `Json.normalize` — a value after writing and reading it.

## Main results

* `Json.parse_print` — a value is read back from its text.
* `Json.graphic_print` — the text of a value has no control character.
-/

namespace Foundations

/-- The characters that numbers are written with. -/
def isNumberChar (c : Char) : Bool :=
  c.isDigit || c = '-' || c = '+' || c = '.' || c = 'e' || c = 'E'

/-- How numbers are written and read. -/
structure NumberFormat where
  print : ℚ → List Char
  read : List Char → Option ℚ
  print_ne_nil : ∀ q, print q ≠ []
  print_chars : ∀ q, ∀ c ∈ print q, isNumberChar c = true
  read_print : ∀ q, read (print q) = some q

lemma isNumberChar_of_mem_toDigits {n : ℕ} {c : Char} (h : c ∈ Nat.toDigits 10 n) :
    isNumberChar c = true := by
  simp [isNumberChar, Nat.isDigit_of_mem_toDigits (by decide) (by decide) h]

/-- The fraction that is written after its sign. -/
def readFraction (sign : ℤ) (text : List Char) : ℚ :=
  mkRat (sign * Nat.ofDigitChars 10 (text.takeWhile Char.isDigit) 0)
    (match text.dropWhile Char.isDigit with
      | [] => 1
      | _ :: denominator => Nat.ofDigitChars 10 denominator 0)

/-- A fraction without its sign. -/
def printFraction (q : ℚ) : List Char :=
  Nat.toDigits 10 q.num.natAbs ++ if q.den = 1 then [] else 'e' :: Nat.toDigits 10 q.den

/-- A fraction is read back. -/
lemma readFraction_printFraction (sign : ℤ) (q : ℚ) (h : sign * q.num.natAbs = q.num) :
    readFraction sign (printFraction q) = q := by
  have hdigits : ∀ c ∈ Nat.toDigits 10 q.num.natAbs, c.isDigit = true := fun c hc =>
    Nat.isDigit_of_mem_toDigits (by decide) (by decide) hc
  unfold readFraction printFraction
  split_ifs with hden
  · rw [List.append_nil, List.takeWhile_eq_self_iff.mpr hdigits,
      List.dropWhile_eq_nil_iff.mpr hdigits, Nat.ofDigitChars_ten_toDigits, h]
    have hq := Rat.mkRat_self q
    rwa [hden] at hq
  · rw [List.takeWhile_append_of_pos hdigits, List.dropWhile_append_of_pos hdigits]
    have he : Char.isDigit 'e' = false := by decide
    simp only [List.takeWhile_cons, List.dropWhile_cons, he, Bool.false_eq_true, if_false,
      List.append_nil, Nat.ofDigitChars_ten_toDigits, h]
    exact Rat.mkRat_self q

/-- The format that writes an integer with its digits, and any other number as a fraction. -/
def NumberFormat.plain : NumberFormat where
  print q := if q.num < 0 then '-' :: printFraction q else printFraction q
  read
    | '-' :: text => some (readFraction (-1) text)
    | text => some (readFraction 1 text)
  print_ne_nil q := by
    split_ifs <;> simp [printFraction, Nat.toDigits_ne_nil]
  print_chars q c hc := by
    have hfraction : ∀ d ∈ printFraction q, isNumberChar d = true := by
      intro d hd
      rcases List.mem_append.mp hd with hd | hd
      · exact isNumberChar_of_mem_toDigits hd
      · split_ifs at hd with hden
        · simp at hd
        · rcases List.mem_cons.mp hd with rfl | hd
          · decide
          · exact isNumberChar_of_mem_toDigits hd
    split_ifs at hc with hneg
    · rcases List.mem_cons.mp hc with rfl | hc
      · decide
      · exact hfraction c hc
    · exact hfraction c hc
  read_print q := by
    split_ifs with hneg
    · exact congrArg some (readFraction_printFraction (-1) q (by omega))
    · have hhead : ∀ t, printFraction q ≠ '-' :: t := by
        intro t ht
        have hne : Nat.toDigits 10 q.num.natAbs ≠ [] := Nat.toDigits_ne_nil
        obtain ⟨c, rest, hdigits⟩ := List.exists_cons_of_ne_nil hne
        have hmem : c ∈ Nat.toDigits 10 q.num.natAbs := by
          rw [hdigits]
          exact List.mem_cons_self
        have hc : c.isDigit = true := Nat.isDigit_of_mem_toDigits (by decide) (by decide) hmem
        rw [printFraction, hdigits, List.cons_append, List.cons_eq_cons] at ht
        rw [ht.1] at hc
        cases hc
      split
      · rename_i text ht
        exact absurd ht (hhead text)
      · exact congrArg some (readFraction_printFraction 1 q (by omega))

namespace Json

variable (format : NumberFormat)

/-! ### Writing -/

/-- A hexadecimal digit. -/
def hexDigit (n : ℕ) : Char :=
  if n < 10 then Char.ofNat (48 + n) else Char.ofNat (87 + n)

/-- A character in a string literal. -/
def escapeChar (c : Char) : List Char :=
  if c = '"' then ['\\', '"']
  else if c = '\\' then ['\\', '\\']
  else if c = '\n' then ['\\', 'n']
  else if c = '\r' then ['\\', 'r']
  else if c = '\t' then ['\\', 't']
  else if c.toNat = 8 then ['\\', 'b']
  else if c.toNat = 12 then ['\\', 'f']
  else if c.toNat < 32 then ['\\', 'u', '0', '0', hexDigit (c.toNat / 16), hexDigit (c.toNat % 16)]
  else [c]

variable (text : List Char)

/-- The rest of a string literal after its opening quote. -/
def printString : List Char := text.flatMap escapeChar ++ ['"']

mutual

/-- `JSON.stringify`. -/
def print : Json → List Char
  | null => ['n', 'u', 'l', 'l']
  | .bool true => ['t', 'r', 'u', 'e']
  | .bool false => ['f', 'a', 'l', 's', 'e']
  | num n => format.print n
  | str s => '"' :: printString s.toList
  | arr elements => '[' :: printElements elements
  | obj members => '\x7b' :: printMembers members

/-- The rest of an array after its opening bracket. -/
def printElements : List Json → List Char
  | [] => [']']
  | e :: rest => print e ++ printMoreElements rest

/-- The rest of an array after an element. -/
def printMoreElements : List Json → List Char
  | [] => [']']
  | e :: rest => ',' :: (print e ++ printMoreElements rest)

/-- The rest of an object after its opening brace. -/
def printMembers : List (String × Json) → List Char
  | [] => ['\x7d']
  | (key, value) :: rest =>
    '"' :: (printString key.toList ++ ':' :: (print value ++ printMoreMembers rest))

/-- The rest of an object after a member. -/
def printMoreMembers : List (String × Json) → List Char
  | [] => ['\x7d']
  | (key, value) :: rest =>
    ',' :: '"' :: (printString key.toList ++ ':' :: (print value ++ printMoreMembers rest))

end

/-! ### Reading -/

/-- White space between tokens. -/
def isSpace (c : Char) : Bool := c = ' ' || c = '\n' || c = '\r' || c = '\t'

/-- The text from its next token on. -/
def skipSpace : List Char := text.dropWhile isSpace

/-- The number of a hexadecimal digit. -/
def hexValue (c : Char) : Option ℕ :=
  if '0' ≤ c ∧ c ≤ '9' then some (c.toNat - 48)
  else if 'a' ≤ c ∧ c ≤ 'f' then some (c.toNat - 87)
  else if 'A' ≤ c ∧ c ≤ 'F' then some (c.toNat - 55)
  else none

/-- The unit that four hexadecimal digits stand for. -/
def hexUnit (a b c d : Char) : Option UInt16 :=
  match hexValue a, hexValue b, hexValue c, hexValue d with
  | some a, some b, some c, some d => some (UInt16.ofNat (((a * 16 + b) * 16 + c) * 16 + d))
  | _, _, _, _ => none

/-- The unit of an escape of one character. -/
def escapedUnit : Char → Option UInt16
  | '"' => some 34
  | '\\' => some 92
  | '/' => some 47
  | 'b' => some 8
  | 'f' => some 12
  | 'n' => some 10
  | 'r' => some 13
  | 't' => some 9
  | _ => none

/-- The units of a string literal after its opening quote, and what follows it. -/
def parseString : List Char → Option (Utf16 × List Char)
  | [] => none
  | '"' :: rest => some ([], rest)
  | '\\' :: 'u' :: a :: b :: c :: d :: rest =>
    match hexUnit a b c d with
    | some unit => (parseString rest).map fun p => (unit :: p.1, p.2)
    | none => none
  | '\\' :: e :: rest =>
    match escapedUnit e with
    | some unit => (parseString rest).map fun p => (unit :: p.1, p.2)
    | none => none
  | c :: rest =>
    if c.toNat < 32 || c = '\\' then none
    else (parseString rest).map fun p => (Utf16.ofChar c ++ p.1, p.2)

/-- The string literal after an opening quote; an unpaired surrogate is read as U+FFFD. -/
def parseText : Option (String × List Char) :=
  (parseString text).map fun p => (String.ofList (Utf16.chars p.1), p.2)

variable (members : List (String × Json))

/-- The members, where a later one with the same key takes the place of an earlier one. -/
def collect : List (String × Json) :=
  members.foldl (fun collected m => assign m.1 m.2 collected) []

/-- What follows a token that a text starts with. -/
def afterToken (token text : List Char) : Option (List Char) :=
  if token.isPrefixOf text then some (text.drop token.length) else none

/-- One of the values that is a word. -/
def parseWord : Option (Json × List Char) :=
  match afterToken ['n', 'u', 'l', 'l'] text with
  | some rest => some (null, rest)
  | none =>
    match afterToken ['t', 'r', 'u', 'e'] text with
    | some rest => some (.bool true, rest)
    | none => (afterToken ['f', 'a', 'l', 's', 'e'] text).map fun rest => (.bool false, rest)

def parseNumber : Option (Json × List Char) :=
  (format.read (text.takeWhile isNumberChar)).map fun n => (num n, text.dropWhile isNumberChar)

mutual

/-- The value that a text starts with, and what follows it. -/
def parseValue : ℕ → List Char → Option (Json × List Char)
  | 0, _ => none
  | fuel + 1, text =>
    match skipSpace text with
    | [] => none
    | c :: rest =>
      if c = '"' then (parseText rest).map fun p => (str p.1, p.2)
      else if c = '[' then (parseElements fuel rest).map fun p => (arr p.1, p.2)
      else if c = '\x7b' then (parseMembers fuel rest).map fun p => (obj (collect p.1), p.2)
      else if isNumberChar c then parseNumber format (c :: rest)
      else parseWord (c :: rest)

/-- The elements of an array after its opening bracket. -/
def parseElements : ℕ → List Char → Option (List Json × List Char)
  | 0, _ => none
  | fuel + 1, text =>
    match afterToken [']'] (skipSpace text) with
    | some rest => some ([], rest)
    | none =>
      match parseValue fuel text with
      | none => none
      | some (value, rest) => (parseMoreElements fuel rest).map fun p => (value :: p.1, p.2)

/-- The elements of an array after an element. -/
def parseMoreElements : ℕ → List Char → Option (List Json × List Char)
  | 0, _ => none
  | fuel + 1, text =>
    match afterToken [']'] (skipSpace text) with
    | some rest => some ([], rest)
    | none =>
      match afterToken [','] (skipSpace text) with
      | none => none
      | some rest =>
        match parseValue fuel rest with
        | none => none
        | some (value, rest) => (parseMoreElements fuel rest).map fun p => (value :: p.1, p.2)

/-- The members of an object after its opening brace. -/
def parseMembers : ℕ → List Char → Option (List (String × Json) × List Char)
  | 0, _ => none
  | fuel + 1, text =>
    match afterToken ['\x7d'] (skipSpace text) with
    | some rest => some ([], rest)
    | none => parseMember fuel text

/-- The members of an object from a key on. -/
def parseMember : ℕ → List Char → Option (List (String × Json) × List Char)
  | 0, _ => none
  | fuel + 1, text =>
    match (afterToken ['"'] (skipSpace text)).bind parseText with
    | none => none
    | some (key, rest) =>
      match (afterToken [':'] (skipSpace rest)).bind (parseValue fuel) with
      | none => none
      | some (value, rest) => (parseMoreMembers fuel rest).map fun p => ((key, value) :: p.1, p.2)

/-- The members of an object after a member. -/
def parseMoreMembers : ℕ → List Char → Option (List (String × Json) × List Char)
  | 0, _ => none
  | fuel + 1, text =>
    match afterToken ['\x7d'] (skipSpace text) with
    | some rest => some ([], rest)
    | none => (afterToken [','] (skipSpace text)).bind (parseMember fuel)

end

/-- `JSON.parse`. -/
def parse : Option Json :=
  match parseValue format (text.length + 1) text with
  | none => none
  | some (value, rest) => if skipSpace rest = [] then some value else none

/-! ### Writing and reading -/

mutual

/-- A value without the members that a later one with the same key replaces. -/
def normalize : Json → Json
  | arr elements => arr (normalizeElements elements)
  | obj members => obj (collect (normalizeMembers members))
  | value => value

/-- The elements without replaced members. -/
def normalizeElements : List Json → List Json
  | [] => []
  | e :: rest => normalize e :: normalizeElements rest

/-- The members with values without replaced members. -/
def normalizeMembers : List (String × Json) → List (String × Json)
  | [] => []
  | (key, value) :: rest => (key, normalize value) :: normalizeMembers rest

end

/-- Collecting the members of an object gives its keys the values they have. -/
@[simp] lemma lookup_collect (key : String) (members : List (String × Json)) :
    lookup key (collect members) = lookup key members := by
  induction members using List.reverseRecOn with
  | nil => rfl
  | append_singleton members m ih =>
    have hstep : collect (members ++ [m]) = assign m.1 m.2 (collect members) := by simp [collect]
    rw [hstep, lookup_assign, lookup_append, ih]
    by_cases hkey : key = m.1
    · rw [if_pos hkey, show [m] = [(m.1, m.2)] from rfl, lookup_singleton, if_pos hkey.symm,
        Option.some_or]
    · rw [if_neg hkey, show [m] = [(m.1, m.2)] from rfl, lookup_singleton,
        if_neg fun h => hkey h.symm, Option.none_or]

/-- The members of a normalized object have normalized values. -/
@[simp] lemma lookup_normalizeMembers (key : String) (members : List (String × Json)) :
    lookup key (normalizeMembers members) = (lookup key members).map normalize := by
  induction members with
  | nil => rfl
  | cons m members ih =>
    obtain ⟨k, v⟩ := m
    rw [normalizeMembers, lookup_cons, lookup_cons, ih]
    by_cases hkey : k = key
    · rw [if_pos hkey, if_pos hkey]
      cases lookup key members <;> rfl
    · rw [if_neg hkey, if_neg hkey, Option.or_none, Option.or_none]

/-- Members with distinct keys are collected as they are. -/
lemma collect_of_nodup {members : List (String × Json)} (h : (members.map Prod.fst).Nodup) :
    collect members = members := by
  induction members using List.reverseRecOn with
  | nil => rfl
  | append_singleton members m ih =>
    rw [List.map_append, List.nodup_append] at h
    have hno : ¬(members.any fun e => e.1 = m.1) = true := by
      rw [List.any_eq_true]
      rintro ⟨e, he, hkey⟩
      exact h.2.2 e.1 (List.mem_map.mpr ⟨e, he, rfl⟩) m.1 (by simp) (of_decide_eq_true hkey)
    have hstep : collect (members ++ [m]) = assign m.1 m.2 (collect members) := by simp [collect]
    rw [hstep, ih h.1, assign, if_neg hno]

/-- Normalizing the values of members keeps their keys. -/
lemma normalizeMembers_eq_map :
    normalizeMembers members = members.map fun m => (m.1, normalize m.2) := by
  induction members with
  | nil => rfl
  | cons m members ih => rw [normalizeMembers, ih, List.map_cons]

/-! ### String literals -/

variable {c : Char}

/-- A character that is no control character is no escape. -/
private lemma escapeChar_eq_self (hquote : c ≠ '"') (hslash : c ≠ '\\') (hgraphic : 32 ≤ c.toNat) :
    escapeChar c = [c] := by
  have hn : c ≠ '\n' := fun h => by subst h; simp at hgraphic
  have hr : c ≠ '\r' := fun h => by subst h; simp at hgraphic
  have ht : c ≠ '\t' := fun h => by subst h; simp at hgraphic
  rw [escapeChar, if_neg hquote, if_neg hslash, if_neg hn, if_neg hr, if_neg ht, if_neg (by omega),
    if_neg (by omega), if_neg (by omega)]

/-- **A character of a literal is read back.**

**Proof sketch.** By the cases of `escapeChar`: an escape of one character or of a code is the unit of
the character, any other character stands for itself. -/
lemma parseString_escapeChar (c : Char) (rest : List Char) :
    parseString (escapeChar c ++ rest) =
      (parseString rest).map fun p => (Utf16.ofChar c ++ p.1, p.2) := by
  by_cases hquote : c = '"'
  · subst hquote
    simp [escapeChar, parseString, escapedUnit, Utf16.ofChar]
  by_cases hslash : c = '\\'
  · subst hslash
    simp [escapeChar, parseString, escapedUnit, Utf16.ofChar]
  by_cases hgraphic : 32 ≤ c.toNat
  · rw [escapeChar_eq_self hquote hslash hgraphic]
    simp [parseString, hslash, Nat.not_lt.mpr hgraphic]
  · have hsmall : c.toNat < 32 := by omega
    obtain ⟨n, hn, rfl⟩ : ∃ n < 32, c = Char.ofNat n := ⟨c.toNat, hsmall, (Char.ofNat_toNat c).symm⟩
    clear hsmall hgraphic hquote hslash
    interval_cases n <;> simp [escapeChar, parseString, escapedUnit, Utf16.ofChar, hexUnit, hexDigit,
      hexValue]

/-- A string literal is read back. -/
lemma parseString_printString (rest : List Char) :
    parseString (printString text ++ rest) = some (Utf16.ofChars text, rest) := by
  induction text with
  | nil => simp [printString, parseString, Utf16.ofChars]
  | cons c text ih =>
    have hsplit : printString (c :: text) ++ rest = escapeChar c ++ (printString text ++ rest) := by
      simp [printString]
    rw [hsplit, parseString_escapeChar, ih]
    rfl

/-- A text is read back from its literal. -/
lemma parseText_printString (s : String) (rest : List Char) :
    parseText (printString s.toList ++ rest) = some (s, rest) := by
  rw [parseText, parseString_printString]
  simp [Utf16.chars_ofChars]

/-! ### Tokens -/

/-- A token of one character that a text starts with is passed over. -/
@[simp]
lemma afterToken_cons (c : Char) (rest : List Char) : afterToken [c] (c :: rest) = some rest := by
  simp [afterToken]

/-- A text that starts with another character does not start with a token. -/
lemma afterToken_of_ne {c d : Char} (h : d ≠ c) (rest : List Char) : afterToken [d] (c :: rest) = none := by
  simp [afterToken, h]

/-- Nothing is skipped before a character that is no white space. -/
lemma skipSpace_cons (h : isSpace c = false) (rest : List Char) :
    skipSpace (c :: rest) = c :: rest := by
  simp [skipSpace, h]

/-- A text does not go on with a character of a number. -/
def EndsNumber (rest : List Char) : Prop := ∀ c t, rest = c :: t → isNumberChar c = false

lemma endsNumber_cons (h : isNumberChar c = false) (t : List Char) : EndsNumber (c :: t) := by
  rintro d t' ⟨⟩
  exact h

/-- A run of the characters of a number ends where the number does. -/
lemma span_number {digits rest : List Char} (hdigits : ∀ c ∈ digits, isNumberChar c = true)
    (hrest : EndsNumber rest) :
    (digits ++ rest).takeWhile isNumberChar = digits ∧ (digits ++ rest).dropWhile isNumberChar = rest := by
  induction digits with
  | nil =>
    cases rest with
    | nil => simp
    | cons c t => simp [hrest c t rfl]
  | cons c digits ih =>
    obtain ⟨htake, hdrop⟩ := ih fun d hd => hdigits d (List.mem_cons_of_mem _ hd)
    simp [hdigits c List.mem_cons_self, htake, hdrop]

/-- The characters of numbers are among the graphic ones. -/
lemma range_of_isNumberChar (h : isNumberChar c = true) : 32 < c.toNat ∧ c.toNat < 128 := by
  simp only [isNumberChar, Char.isDigit, Bool.or_eq_true, Bool.and_eq_true, decide_eq_true_eq] at h
  rcases h with ((((⟨hlow, hhigh⟩ | rfl) | rfl) | rfl) | rfl) | rfl
  · have hlow' : 48 ≤ c.toNat := hlow
    have hhigh' : c.toNat ≤ 57 := hhigh
    omega
  all_goals decide

/-- A graphic character is no white space between tokens. -/
lemma isSpace_of_graphic (h : 32 < c.toNat) : isSpace c = false := by
  by_contra hspace
  simp only [isSpace, Bool.not_eq_false, Bool.or_eq_true, decide_eq_true_eq] at hspace
  rcases hspace with ((rfl | rfl) | rfl) | rfl <;> simp at h

/-- A character of a number opens or closes nothing. -/
lemma ne_of_isNumberChar (h : isNumberChar c = true) :
    c ≠ '"' ∧ c ≠ '[' ∧ c ≠ ']' ∧ c ≠ '\x7b' ∧ c ≠ '\x7d' := by
  refine ⟨?_, ?_, ?_, ?_, ?_⟩ <;>
    · rintro rfl
      simp [isNumberChar] at h

/-- The text of a value starts with a graphic character that closes nothing. -/
lemma print_head (value : Json) :
    ∃ c t, print format value = c :: t ∧ 32 < c.toNat ∧ c.toNat < 128 ∧ c ≠ ']' ∧ c ≠ '\x7d' := by
  cases value with
  | null => exact ⟨_, _, rfl, by decide⟩
  | bool b => cases b <;> exact ⟨_, _, rfl, by decide⟩
  | num n =>
    obtain ⟨c, t, hct⟩ := List.exists_cons_of_ne_nil (format.print_ne_nil n)
    have hc : isNumberChar c = true := format.print_chars n c (by rw [hct]; exact List.mem_cons_self)
    obtain ⟨-, -, hbracket, -, hbrace⟩ := ne_of_isNumberChar hc
    exact ⟨c, t, by rw [print, hct], (range_of_isNumberChar hc).1, (range_of_isNumberChar hc).2,
      hbracket, hbrace⟩
  | str s | arr elements | obj members => exact ⟨_, _, rfl, by decide⟩

/-- The text of a value is not empty. -/
lemma print_ne_nil (value : Json) : print format value ≠ [] := by
  obtain ⟨c, t, h, -⟩ := print_head format value
  rw [h]
  exact List.cons_ne_nil c t

/-- After an element comes the end of the array or another element. -/
lemma endsNumber_printMoreElements (elements : List Json) (rest : List Char) :
    EndsNumber (printMoreElements format elements ++ rest) := by
  cases elements with
  | nil | cons e elements => exact endsNumber_cons (by decide) _

/-- After a member comes the end of the object or another member. -/
lemma endsNumber_printMoreMembers (rest : List Char) :
    EndsNumber (printMoreMembers format members ++ rest) := by
  cases members with
  | nil | cons m members => exact endsNumber_cons (by decide) _

/-! ### Values -/

/-- A number is read back. -/
lemma parseValue_number {fuel : ℕ} (n : ℚ) {rest : List Char} (hrest : EndsNumber rest) :
    parseValue format (fuel + 1) (format.print n ++ rest) = some (num n, rest) := by
  obtain ⟨c, t, hct⟩ := List.exists_cons_of_ne_nil (format.print_ne_nil n)
  have hc : isNumberChar c = true := format.print_chars n c (by rw [hct]; exact List.mem_cons_self)
  obtain ⟨hquote, hbracket, -, hbrace, -⟩ := ne_of_isNumberChar hc
  have hspace := isSpace_of_graphic (range_of_isNumberChar hc).1
  obtain ⟨htake, hdrop⟩ := span_number (format.print_chars n) hrest
  rw [hct, List.cons_append] at htake hdrop ⊢
  rw [parseValue, skipSpace_cons hspace]
  dsimp only
  rw [if_neg hquote, if_neg hbracket, if_neg hbrace, if_pos hc, parseNumber, htake, hdrop, ← hct,
    format.read_print]
  rfl

mutual

/-- The text of a value is read back.

**Proof sketch.** By induction on the value, together with the rest of an array and of an object; the
fuel suffices because every part is shorter than the whole. -/
lemma parseValue_print : ∀ (value : Json) (fuel : ℕ) (rest : List Char),
    (print format value).length ≤ fuel → EndsNumber rest →
    parseValue format fuel (print format value ++ rest) = some (normalize value, rest)
  | .null, fuel, rest, hfuel, _ | .bool true, fuel, rest, hfuel, _ | .bool false, fuel, rest, hfuel, _ => by
    obtain ⟨fuel, rfl⟩ : ∃ f, fuel = f + 1 := ⟨fuel - 1, by simp [print] at hfuel; omega⟩
    simp [print, parseValue, skipSpace, isSpace, isNumberChar, parseWord, afterToken, normalize]
  | .num n, fuel, rest, hfuel, hrest => by
    have hpos := List.length_pos_iff.mpr (format.print_ne_nil n)
    obtain ⟨fuel, rfl⟩ : ∃ f, fuel = f + 1 := ⟨fuel - 1, by simp [print] at hfuel; omega⟩
    simp [print, parseValue_number format n hrest, normalize]
  | .str s, fuel, rest, hfuel, _ => by
    obtain ⟨fuel, rfl⟩ : ∃ f, fuel = f + 1 := ⟨fuel - 1, by simp [print] at hfuel; omega⟩
    simp [print, parseValue, skipSpace, isSpace, parseText_printString, normalize]
  | .arr elements, fuel, rest, hfuel, _ => by
    obtain ⟨fuel, rfl⟩ : ∃ f, fuel = f + 1 := ⟨fuel - 1, by simp [print] at hfuel; omega⟩
    have helements := parseElements_print elements fuel rest (by simpa [print] using hfuel)
    simp [print, parseValue, skipSpace, isSpace, helements, normalize]
  | .obj members, fuel, rest, hfuel, _ => by
    obtain ⟨fuel, rfl⟩ : ∃ f, fuel = f + 1 := ⟨fuel - 1, by simp [print] at hfuel; omega⟩
    have hmembers := parseMembers_print members fuel rest (by simpa [print] using hfuel)
    simp [print, parseValue, skipSpace, isSpace, hmembers, normalize]

/-- The rest of an array after its opening bracket is read back. -/
lemma parseElements_print : ∀ (elements : List Json) (fuel : ℕ) (rest : List Char),
    (printElements format elements).length ≤ fuel →
    parseElements format fuel (printElements format elements ++ rest) =
      some (normalizeElements elements, rest)
  | [], fuel, rest, hfuel => by
    obtain ⟨fuel, rfl⟩ : ∃ f, fuel = f + 1 := ⟨fuel - 1, by simp [printElements] at hfuel; omega⟩
    simp [printElements, parseElements, skipSpace, isSpace, normalizeElements]
  | e :: elements, fuel, rest, hfuel => by
    obtain ⟨c, t, hct, hgraphic, -, hclose, -⟩ := print_head format e
    have hspace := isSpace_of_graphic hgraphic
    have hmorePos : 0 < (printMoreElements format elements).length := by
      cases elements <;> simp [printMoreElements]
    have hpos : 0 < (print format e).length := by simp [hct]
    simp only [printElements, List.length_append] at hfuel
    obtain ⟨fuel, rfl⟩ : ∃ f, fuel = f + 1 := ⟨fuel - 1, by omega⟩
    have he := parseValue_print e fuel (printMoreElements format elements ++ rest) (by omega)
      (endsNumber_printMoreElements format elements rest)
    have hmore := parseMoreElements_print elements fuel rest (by omega)
    rw [printElements, parseElements, List.append_assoc]
    rw [hct, List.cons_append] at he ⊢
    rw [skipSpace_cons hspace, afterToken_of_ne hclose.symm]
    rw [he]
    dsimp only
    rw [hmore]
    rfl

/-- The rest of an array after an element is read back. -/
lemma parseMoreElements_print : ∀ (elements : List Json) (fuel : ℕ) (rest : List Char),
    (printMoreElements format elements).length ≤ fuel →
    parseMoreElements format fuel (printMoreElements format elements ++ rest) =
      some (normalizeElements elements, rest)
  | [], fuel, rest, hfuel => by
    obtain ⟨fuel, rfl⟩ : ∃ f, fuel = f + 1 := ⟨fuel - 1, by simp [printMoreElements] at hfuel; omega⟩
    simp [printMoreElements, parseMoreElements, skipSpace, isSpace, normalizeElements]
  | e :: elements, fuel, rest, hfuel => by
    have hmorePos : 0 < (printMoreElements format elements).length := by
      cases elements <;> simp [printMoreElements]
    simp only [printMoreElements, List.length_cons, List.length_append] at hfuel
    obtain ⟨fuel, rfl⟩ : ∃ f, fuel = f + 1 := ⟨fuel - 1, by omega⟩
    have he := parseValue_print e fuel (printMoreElements format elements ++ rest) (by omega)
      (endsNumber_printMoreElements format elements rest)
    have hmore := parseMoreElements_print elements fuel rest (by omega)
    rw [printMoreElements, parseMoreElements, List.cons_append, List.append_assoc,
      skipSpace_cons (by decide), afterToken_of_ne (by decide), afterToken_cons]
    dsimp only
    rw [he]
    dsimp only
    rw [hmore]
    rfl

/-- The rest of an object after its opening brace is read back. -/
lemma parseMembers_print : ∀ (members : List (String × Json)) (fuel : ℕ) (rest : List Char),
    (printMembers format members).length ≤ fuel →
    parseMembers format fuel (printMembers format members ++ rest) =
      some (normalizeMembers members, rest)
  | [], fuel, rest, hfuel => by
    obtain ⟨fuel, rfl⟩ : ∃ f, fuel = f + 1 := ⟨fuel - 1, by simp [printMembers] at hfuel; omega⟩
    simp [printMembers, parseMembers, skipSpace, isSpace, normalizeMembers]
  | (key, value) :: members, fuel, rest, hfuel => by
    simp only [printMembers, List.length_cons, List.length_append] at hfuel
    obtain ⟨fuel, rfl⟩ : ∃ f, fuel = f + 2 := ⟨fuel - 2, by omega⟩
    have hvalue := parseValue_print value fuel (printMoreMembers format members ++ rest) (by omega)
      (endsNumber_printMoreMembers format members rest)
    have hmore := parseMoreMembers_print members fuel rest (by omega)
    simp [printMembers, parseMembers, parseMember, skipSpace, isSpace, afterToken_of_ne,
      parseText_printString, hvalue, hmore, normalizeMembers]

/-- The rest of an object after a member is read back. -/
lemma parseMoreMembers_print : ∀ (members : List (String × Json)) (fuel : ℕ) (rest : List Char),
    (printMoreMembers format members).length ≤ fuel →
    parseMoreMembers format fuel (printMoreMembers format members ++ rest) =
      some (normalizeMembers members, rest)
  | [], fuel, rest, hfuel => by
    obtain ⟨fuel, rfl⟩ : ∃ f, fuel = f + 1 := ⟨fuel - 1, by simp [printMoreMembers] at hfuel; omega⟩
    simp [printMoreMembers, parseMoreMembers, skipSpace, isSpace, normalizeMembers]
  | (key, value) :: members, fuel, rest, hfuel => by
    simp only [printMoreMembers, List.length_cons, List.length_append] at hfuel
    obtain ⟨fuel, rfl⟩ : ∃ f, fuel = f + 2 := ⟨fuel - 2, by omega⟩
    have hvalue := parseValue_print value fuel (printMoreMembers format members ++ rest) (by omega)
      (endsNumber_printMoreMembers format members rest)
    have hmore := parseMoreMembers_print members fuel rest (by omega)
    simp [printMoreMembers, parseMoreMembers, parseMember, skipSpace, isSpace, afterToken_of_ne,
      parseText_printString, hvalue, hmore, normalizeMembers]

end

/-- **A value is read back** from its text. -/
theorem parse_print (value : Json) : parse format (print format value) = some (normalize value) := by
  have h := parseValue_print format value ((print format value).length + 1) [] (by omega)
    (fun _ _ h => by simp at h)
  rw [List.append_nil] at h
  rw [parse, h]
  rfl

/-! ### Control characters -/

/-- The characters of a text are no control characters. -/
def Graphic : Prop := ∀ c ∈ text, 32 ≤ c.toNat

lemma Graphic.append {a b : List Char} (ha : Graphic a) (hb : Graphic b) : Graphic (a ++ b) :=
  fun c hc => (List.mem_append.mp hc).elim (ha c) (hb c)

lemma Graphic.cons {a : List Char} (hc : 32 ≤ c.toNat) (ha : Graphic a) : Graphic (c :: a) :=
  List.forall_mem_cons.mpr ⟨hc, ha⟩

/-- An escape has no control character. -/
lemma graphic_escapeChar (c : Char) : Graphic (escapeChar c) := by
  by_cases hsmall : c.toNat < 128
  · obtain ⟨n, hn, rfl⟩ : ∃ n < 128, c = Char.ofNat n := ⟨c.toNat, hsmall, (Char.ofNat_toNat c).symm⟩
    have htable : (List.range 128).all (fun n =>
        (escapeChar (Char.ofNat n)).all fun d => decide (32 ≤ d.toNat)) = true := by
      decide +kernel
    intro d hd
    have hrow := List.all_eq_true.mp htable n (List.mem_range.mpr hn)
    exact of_decide_eq_true (List.all_eq_true.mp hrow d hd)
  · have hquote : c ≠ '"' := fun h => hsmall (by rw [h]; decide)
    have hslash : c ≠ '\\' := fun h => hsmall (by rw [h]; decide)
    rw [escapeChar_eq_self hquote hslash (by omega)]
    exact .cons (by omega) (by simp [Graphic])

/-- A string literal has no control character. -/
lemma graphic_printString : Graphic (printString text) := by
  refine .append ?_ (.cons (by decide) (by simp [Graphic]))
  intro c hc
  obtain ⟨d, -, hd⟩ := List.mem_flatMap.mp hc
  exact graphic_escapeChar d c hd

mutual

/-- **The text of a value** has no control character. -/
lemma graphic_print : ∀ value : Json, Graphic (print format value)
  | .null | .bool true | .bool false => by simp [Graphic, print]
  | .num n => fun c hc => le_of_lt (range_of_isNumberChar (format.print_chars n c hc)).1
  | .str s => .cons (by decide) (graphic_printString _)
  | .arr elements => .cons (by decide) (graphic_printElements elements)
  | .obj members => .cons (by decide) (graphic_printMembers members)

/-- The rest of an array after its opening bracket has no control character. -/
lemma graphic_printElements : ∀ elements : List Json, Graphic (printElements format elements)
  | [] => .cons (by decide) (by simp [Graphic])
  | e :: elements => (graphic_print e).append (graphic_printMoreElements elements)

/-- The rest of an array after an element has no control character. -/
lemma graphic_printMoreElements : ∀ elements : List Json,
    Graphic (printMoreElements format elements)
  | [] => .cons (by decide) (by simp [Graphic])
  | e :: elements =>
    .cons (by decide) ((graphic_print e).append (graphic_printMoreElements elements))

/-- The rest of an object after its opening brace has no control character. -/
lemma graphic_printMembers : ∀ members : List (String × Json), Graphic (printMembers format members)
  | [] => .cons (by decide) (by simp [Graphic])
  | (key, value) :: members =>
    .cons (by decide) ((graphic_printString _).append
      (.cons (by decide) ((graphic_print value).append (graphic_printMoreMembers members))))

/-- The rest of an object after a member has no control character. -/
lemma graphic_printMoreMembers : ∀ members : List (String × Json),
    Graphic (printMoreMembers format members)
  | [] => .cons (by decide) (by simp [Graphic])
  | (key, value) :: members =>
    .cons (by decide) (.cons (by decide) ((graphic_printString _).append
      (.cons (by decide) ((graphic_print value).append (graphic_printMoreMembers members)))))

end

end Json

end Foundations

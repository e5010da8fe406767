import Makaio.Foundations.JsonSchema
import Makaio.Foundations.Utf8

set_option autoImplicit false

/-!
# JSON Pointers in URI fragments

A reference to a part of a JSON document is a JSON Pointer in the fragment of a URI: its tokens are escaped,
and the whole may be percent-encoded.  The keys that a fragment names depend on whether it is decoded first,
and they are different whenever there is something to decode: decoding shortens the text, and never splits
an escape.

## Main definitions

* `decodeURIComponent` — percent decoding of UTF-8, which fails on a malformed text.
* `pointerKeys` — the keys that the tokens of a pointer encode.

## Main results

* `decodeURIComponent_eq_self` — without percent signs there is nothing to decode.
* `pointerKeys_decodeURIComponent_ne` — with one, the decoded text names other keys.
-/

namespace Foundations

open Json JsonSchema Utf8

/-! ### Percent decoding -/

/-- An octet of a percent-encoded character; none where it does not fit. -/
def acceptOctet (d : Decoder) (octet : UInt8) : Option (Decoder × List Char) :=
  if d.needed = 0 then
    if octet.toNat ≤ 0x7F ∨ (0xC2 ≤ octet.toNat ∧ octet.toNat ≤ 0xF4) then some (d.step octet) else none
  else if d.lower ≤ octet.toNat ∧ octet.toNat ≤ d.upper then some (d.step octet) else none

/-- Percent decoding from within a character. -/
def decodeFrom : Decoder → List Char → Option (List Char)
  | d, [] => if d.needed = 0 then some [] else none
  | d, '%' :: a :: b :: rest =>
    match hexValue? a, hexValue? b with
    | some x, some y => (acceptOctet d (UInt8.ofNat (16 * x + y))).bind fun next =>
        (decodeFrom next.1 rest).map (next.2 ++ ·)
    | _, _ => none
  | _, '%' :: _ => none
  | d, c :: rest => if d.needed = 0 then (decodeFrom d rest).map (c :: ·) else none

/-- `decodeURIComponent`: the characters whose UTF-8 octets a text writes with percent signs; none where the
function throws. -/
def decodeURIComponent (text : List Char) : Option (List Char) := decodeFrom Decoder.idle text

variable {rest : List Char} {c : Char}
variable {d : Decoder} {text decoded : List Char} {char escape : Char}

/-- A character that is no percent sign stands for itself between characters. -/
lemma decodeFrom_cons (hc : c ≠ '%') :
    decodeFrom d (c :: rest) = if d.needed = 0 then (decodeFrom d rest).map (c :: ·) else none := by
  rw [decodeFrom]
  · exact fun a b tail heq => absurd heq hc
  · exact fun heq => absurd heq hc

/-- Without percent signs there is nothing to decode. -/
lemma decodeURIComponent_eq_self (h : '%' ∉ text) : decodeURIComponent text = some text := by
  have hidle : Decoder.idle.needed = 0 := rfl
  rw [decodeURIComponent]
  induction text with
  | nil => rfl
  | cons c text ih =>
    have hc : c ≠ '%' := fun heq => h (heq ▸ List.mem_cons_self)
    rw [decodeFrom_cons hc, if_pos hidle, ih fun hm => h (List.mem_cons_of_mem _ hm)]
    rfl

/-- An octet completes at most one character. -/
lemma length_acceptOctet {octet : UInt8} {next : Decoder × List Char} (h : acceptOctet d octet = some next) :
    next.2.length ≤ 1 := by
  rw [acceptOctet] at h
  split_ifs at h with hneeded hrange hrange
  · cases h
    rw [Decoder.step, if_pos hneeded, Decoder.start]
    split_ifs <;> simp
  · cases h
    rw [Decoder.step, if_neg hneeded, if_pos hrange]
    split_ifs <;> simp

/-! ### Tokens -/

/-- The keys that the tokens of a pointer encode. -/
def pointerKeys (text : List Char) : List String := (text.splitOn '/').map decodePointerToken

/-- The characters after the escapes of a pointer are replaced, all in one pass. -/
def unescape : List Char → List Char
  | '~' :: '1' :: rest => '/' :: unescape rest
  | '~' :: '0' :: rest => '~' :: unescape rest
  | c :: rest => c :: unescape rest
  | [] => []

/-- A character that starts no escape stands for itself. -/
lemma unescape_cons (h : c = '~' → ∀ tail, rest ≠ '1' :: tail ∧ rest ≠ '0' :: tail) :
    unescape (c :: rest) = c :: unescape rest := by
  rw [unescape]
  · rintro tail rfl rfl
    exact (h rfl tail).1 rfl
  · rintro tail rfl rfl
    exact (h rfl tail).2 rfl

/-- No escape of a slash leaves a zero behind a tilde. -/
lemma replaceEscape_ne_zero (h : ∀ tail, rest ≠ '0' :: tail) (tail : List Char) :
    replaceEscape '1' '/' rest ≠ '0' :: tail := by
  rcases rest with _ | ⟨c, _ | ⟨c', rest⟩⟩
  · simp [replaceEscape]
  · by_cases hc : c = '~'
    · subst hc
      simp [replaceEscape]
    · rw [replaceEscape]
      · intro heq
        exact h [] (by rw [(List.cons.inj heq).1])
      · exact fun c' tail heq => absurd heq hc
  · by_cases hc : c = '~'
    · subst hc
      rw [replaceEscape]
      split_ifs <;> simp
    · rw [replaceEscape]
      · intro heq
        exact h (c' :: rest) (by rw [(List.cons.inj heq).1])
      · exact fun c' tail heq => absurd heq hc

/-- A tilde before something other than the escaped character stands for itself. -/
lemma replaceEscape_tilde (h : ∀ tail, rest ≠ escape :: tail) :
    replaceEscape escape char ('~' :: rest) = '~' :: replaceEscape escape char rest := by
  cases rest with
  | nil => simp [replaceEscape]
  | cons c rest =>
    rw [replaceEscape, if_neg fun heq => h rest (by rw [heq])]

/-- Another character stands for itself. -/
lemma replaceEscape_cons {c : Char} (h : c ≠ '~') :
    replaceEscape escape char (c :: rest) = c :: replaceEscape escape char rest := by
  rw [replaceEscape]
  exact fun c' tail heq => absurd heq h

/-- The two passes over a token do what one does. -/
lemma replaceEscape_replaceEscape (text : List Char) :
    replaceEscape '0' '~' (replaceEscape '1' '/' text) = unescape text := by
  induction text using unescape.induct with
  | case1 rest ih =>
    have hslash : replaceEscape '1' '/' ('~' :: '1' :: rest) = '/' :: replaceEscape '1' '/' rest := by
      rw [replaceEscape, if_pos rfl]
    rw [hslash, replaceEscape_cons (by decide), ih, unescape]
  | case2 rest ih =>
    have hzero : replaceEscape '1' '/' ('~' :: '0' :: rest) = '~' :: '0' :: replaceEscape '1' '/' rest := by
      rw [replaceEscape_tilde (by simp), replaceEscape_cons (by decide)]
    rw [hzero, replaceEscape, if_pos rfl, ih, unescape]
  | case3 c rest hone hzero ih =>
    have hself : c = '~' → ∀ tail, rest ≠ '1' :: tail ∧ rest ≠ '0' :: tail := fun hc tail =>
      ⟨fun heq => hone tail hc heq, fun heq => hzero tail hc heq⟩
    rw [unescape_cons hself, ← ih]
    by_cases hc : c = '~'
    · subst hc
      rw [replaceEscape_tilde fun tail => (hself rfl tail).1,
        replaceEscape_tilde fun tail => replaceEscape_ne_zero (fun t => (hself rfl t).2) tail]
    · rw [replaceEscape_cons hc, replaceEscape_cons hc]
  | case4 => rfl

/-- The number of characters after the escapes are replaced. -/
def unescapedLength (text : List Char) : ℕ := (unescape text).length

/-- A further character adds one, unless it makes an escape of the next one. -/
lemma unescapedLength_cons (h : c = '~' → ∀ tail, rest ≠ '1' :: tail ∧ rest ≠ '0' :: tail) :
    unescapedLength (c :: rest) = unescapedLength rest + 1 := by
  rw [unescapedLength, unescape_cons h, List.length_cons, unescapedLength]

/-- An escape is as long as its second character. -/
lemma unescapedLength_escape (h : c = '1' ∨ c = '0') (rest : List Char) :
    unescapedLength ('~' :: c :: rest) = unescapedLength rest + 1 := by
  rcases h with rfl | rfl <;> rw [unescapedLength, unescape, List.length_cons, unescapedLength]

/-- A further character adds at most one. -/
lemma unescapedLength_cons_le (c : Char) (rest : List Char) :
    unescapedLength (c :: rest) ≤ unescapedLength rest + 1 := by
  by_cases h : c = '~' → ∀ tail, rest ≠ '1' :: tail ∧ rest ≠ '0' :: tail
  · exact (unescapedLength_cons h).le
  · simp only [ne_eq, Classical.not_imp, not_forall, not_and_or, Decidable.not_not] at h
    obtain ⟨rfl, tail, rfl | rfl⟩ := h
    · rw [unescapedLength_escape (.inl rfl), unescapedLength_cons (by simp)]
      omega
    · rw [unescapedLength_escape (.inr rfl), unescapedLength_cons (by simp)]
      omega

/-- What one octet completes adds at most one character. -/
lemma unescapedLength_append_le {out : List Char} (h : out.length ≤ 1) (rest : List Char) :
    unescapedLength (out ++ rest) ≤ unescapedLength rest + 1 := by
  match out, h with
  | [], _ => exact Nat.le_succ _
  | [c], _ => exact unescapedLength_cons_le c rest

/-- A hex digit starts no escape. -/
lemma ne_tilde_of_hexValue? {n : ℕ} (h : hexValue? c = some n) : c ≠ '~' := by
  rintro rfl
  cases h

/-- A character before two texts adds as much to the one as to the other, if an escape that it makes of the
first is made of the second. -/
lemma unescapedLength_cons_add_le (c : Char) (rest tail : List Char)
    (h : ∀ k r, k = '1' ∨ k = '0' → rest = k :: r → ∃ r', tail = k :: r') :
    unescapedLength (c :: tail) + unescapedLength rest ≤ unescapedLength (c :: rest) + unescapedLength tail := by
  by_cases hescape : c = '~' → ∀ t, rest ≠ '1' :: t ∧ rest ≠ '0' :: t
  · have hle := unescapedLength_cons_le c tail
    rw [unescapedLength_cons hescape]
    omega
  · have hk : ∃ k, (k = '1' ∨ k = '0') ∧ c = '~' ∧ ∃ r, rest = k :: r := by
      simp only [ne_eq, Classical.not_imp, not_forall, not_and_or, Decidable.not_not] at hescape
      obtain ⟨rfl, r, rfl | rfl⟩ := hescape
      · exact ⟨'1', .inl rfl, rfl, r, rfl⟩
      · exact ⟨'0', .inr rfl, rfl, r, rfl⟩
    obtain ⟨k, hk, rfl, r, rfl⟩ := hk
    obtain ⟨r', rfl⟩ := h k r hk rfl
    have hplain : k ≠ '~' := by rcases hk with rfl | rfl <;> decide
    rw [unescapedLength_escape hk, unescapedLength_escape hk,
      unescapedLength_cons fun heq => absurd heq hplain, unescapedLength_cons fun heq => absurd heq hplain]
    omega

/-- Decoding is no longer than the text, and shorter where there is something to decode. -/
lemma unescapedLength_decodeFrom (d : Decoder) (text : List Char) (h : decodeFrom d text = some decoded) :
    unescapedLength decoded ≤ unescapedLength text ∧
      ('%' ∈ text → unescapedLength decoded < unescapedLength text) := by
  induction d, text using decodeFrom.induct generalizing decoded with
  | case1 d hneeded =>
    rw [decodeFrom, if_pos hneeded] at h
    cases h
    exact ⟨le_rfl, fun hmem => absurd hmem List.not_mem_nil⟩
  | case2 d hneeded =>
    rw [decodeFrom, if_neg hneeded] at h
    cases h
  | case3 d a b rest x y ha hb ih =>
    rw [decodeFrom, ha, hb] at h
    obtain ⟨next, hnext, hrest⟩ := Option.bind_eq_some_iff.mp h
    obtain ⟨tail, htail, rfl⟩ := Option.map_eq_some_iff.mp hrest
    have hlength : unescapedLength ('%' :: a :: b :: rest) = unescapedLength rest + 3 := by
      rw [unescapedLength_cons fun heq => absurd heq (by decide),
        unescapedLength_cons fun heq => absurd heq (ne_tilde_of_hexValue? ‹hexValue? a = some x›),
        unescapedLength_cons fun heq => absurd heq (ne_tilde_of_hexValue? ‹hexValue? b = some y›)]
    have hout := unescapedLength_append_le (length_acceptOctet hnext) tail
    have hle := (ih next htail).1
    exact ⟨by omega, fun _ => by omega⟩
  | case4 d a b rest hnone =>
    rw [decodeFrom] at h
    split at h
    · next x y ha hb => exact absurd hb (hnone x y ha)
    · cases h
  | case5 d rest hshort =>
    rw [decodeFrom] at h
    · cases h
    · exact fun a b tail heq => hshort a b tail heq
  | case6 d c rest hlong hshort hneeded ih =>
    have hc : c ≠ '%' := hshort
    rw [decodeFrom_cons hc, if_pos hneeded] at h
    obtain ⟨tail, htail, rfl⟩ := Option.map_eq_some_iff.mp h
    obtain ⟨hle, hlt⟩ := ih htail
    have hadd : unescapedLength (c :: tail) + unescapedLength rest ≤
        unescapedLength (c :: rest) + unescapedLength tail := by
      refine unescapedLength_cons_add_le c rest tail fun k r hk hrest => ?_
      subst hrest
      rw [decodeFrom_cons (by rcases hk with rfl | rfl <;> decide), if_pos hneeded] at htail
      obtain ⟨r', -, rfl⟩ := Option.map_eq_some_iff.mp htail
      exact ⟨r', rfl⟩
    refine ⟨by omega, fun hmem => ?_⟩
    have hmem' : '%' ∈ rest := (List.mem_cons.mp hmem).resolve_left fun heq => hc heq.symm
    have := hlt hmem'
    omega
  | case7 d c rest hlong hshort hneeded =>
    rw [decodeFrom_cons hshort, if_neg hneeded] at h
    cases h

/-! ### Keys -/

/-- The first token of a text starts with the same character, unless that is a slash. -/
lemma splitOn_cons (h : c ≠ '/') (text : List Char) :
    ∃ token tokens, text.splitOn '/' = token :: tokens ∧
      (c :: text).splitOn '/' = (c :: token) :: tokens := by
  obtain ⟨token, tokens, htokens⟩ := List.exists_cons_of_ne_nil (List.splitOn_ne_nil '/' text)
  refine ⟨token, tokens, htokens, ?_⟩
  rw [List.splitOn_cons_eq_if_modifyHead, if_neg (by simpa using h), htokens]
  rfl

/-- The first token of a text starts with a character exactly when the text does, unless it is a slash. -/
lemma splitOn_head (h : c ≠ '/') {token : List Char} {tokens : List (List Char)}
    (htokens : text.splitOn '/' = token :: tokens) :
    (∃ r, token = c :: r) ↔ ∃ r, text = c :: r := by
  cases text with
  | nil =>
    rw [List.splitOn_nil] at htokens
    cases htokens
    simp
  | cons c' text =>
    by_cases hc' : c' = '/'
    · subst hc'
      rw [List.splitOn_cons_eq_if_modifyHead, if_pos (by simp)] at htokens
      cases htokens
      simp [h.symm]
    · obtain ⟨token', tokens', -, hcons⟩ := splitOn_cons hc' text
      cases hcons.symm.trans htokens
      simp

/-- The characters of the keys, with one more for each key, are those of the unescaped text and one more. -/
lemma sum_length_pointerKeys (text : List Char) :
    ((pointerKeys text).map fun key => key.toList.length + 1).sum = unescapedLength text + 1 := by
  have hkey : ∀ token, (decodePointerToken token).toList.length = unescapedLength token := fun token => by
    rw [decodePointerToken, String.toList_ofList, replaceEscape_replaceEscape, unescapedLength]
  have htokens : ∀ text : List Char,
      ((text.splitOn '/').map fun token => unescapedLength token + 1).sum = unescapedLength text + 1 := by
    intro text
    induction text with
    | nil => rfl
    | cons c text ih =>
      by_cases hc : c = '/'
      · subst hc
        rw [List.splitOn_cons_eq_if_modifyHead, if_pos (by simp), List.map_cons, List.sum_cons, ih,
          unescapedLength_cons fun heq => absurd heq (by decide)]
        exact Nat.add_comm _ _
      · obtain ⟨token, tokens, htokens, hcons⟩ := splitOn_cons hc text
        have hdigit : ∀ {k : Char}, k = '1' ∨ k = '0' → k ≠ '/' := by
          rintro k (rfl | rfl) <;> decide
        have hle := unescapedLength_cons_add_le c token text
          fun k r hk hrest => (splitOn_head (hdigit hk) htokens).mp ⟨r, hrest⟩
        have hge := unescapedLength_cons_add_le c text token
          fun k r hk hrest => (splitOn_head (hdigit hk) htokens).mpr ⟨r, hrest⟩
        rw [htokens, List.map_cons, List.sum_cons] at ih
        rw [hcons, List.map_cons, List.sum_cons]
        omega
  rw [pointerKeys, List.map_map, ← htokens]
  exact congrArg List.sum (List.map_congr_left fun token _ => congrArg (· + 1) (hkey token))

/-- **A text with something to decode names other keys than the decoded one.**

**Proof sketch.**  The keys determine the length of the unescaped text, and decoding makes it shorter. -/
theorem pointerKeys_decodeURIComponent_ne (h : decodeURIComponent text = some decoded) (hmem : '%' ∈ text) :
    pointerKeys decoded ≠ pointerKeys text := by
  intro heq
  have hlt := (unescapedLength_decodeFrom _ text h).2 hmem
  have hsum := sum_length_pointerKeys decoded
  rw [heq, sum_length_pointerKeys] at hsum
  omega

end Foundations

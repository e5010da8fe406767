import Mathlib.Tactic

set_option autoImplicit false

/-!
# Base64 for URLs

Bytes as a text over an alphabet of 64 characters, without padding.  Decoding goes through the base64 of
the platform, which ignores white space and accepts padding.

## Main definitions

* `Base64Url.toBase64Url`, `Base64Url.fromBase64Url` — the two directions.

## Main results

* `Base64Url.fromBase64Url_toBase64Url` — bytes are read back from their text.
* `Base64Url.length_le` — the text of bytes is at least as long as they are.
-/

namespace Foundations

namespace Base64Url

/-! ### The alphabet -/

/-- The characters of base64, in their order. -/
def alphabet : List Char :=
  "ABCDEFGHIJKLMNOPQRSTUVWXYZabcdefghijklmnopqrstuvwxyz0123456789+/".toList

/-- The character of six bits. -/
def digit (n : ℕ) : Char := alphabet.getD n 'A'

/-- The six bits of a character. -/
def digitValue (c : Char) : Option ℕ :=
  if c ∈ alphabet then some (alphabet.idxOf c) else none

/-! ### Base64 -/

/-- The six-bit digits of bytes. -/
def sextets : List UInt8 → List ℕ
  | [] => []
  | [a] => [a.toNat / 4, a.toNat % 4 * 16]
  | [a, b] => [a.toNat / 4, a.toNat % 4 * 16 + b.toNat / 16, b.toNat % 16 * 4]
  | a :: b :: c :: rest =>
    a.toNat / 4 :: (a.toNat % 4 * 16 + b.toNat / 16) :: (b.toNat % 16 * 4 + c.toNat / 64) ::
      c.toNat % 64 :: sextets rest

/-- The bytes of six-bit digits; bits that are left over are dropped. -/
def octets : List ℕ → List UInt8
  | a :: b :: c :: d :: rest =>
    UInt8.ofNat (a * 4 + b / 16) :: UInt8.ofNat (b % 16 * 16 + c / 4) ::
      UInt8.ofNat (c % 4 * 64 + d) :: octets rest
  | [a, b, c] => [UInt8.ofNat (a * 4 + b / 16), UInt8.ofNat (b % 16 * 16 + c / 4)]
  | [a, b] => [UInt8.ofNat (a * 4 + b / 16)]
  | _ => []

/-- The padding of so many digits. -/
def padding (length : ℕ) : List Char := List.replicate ((4 - length % 4) % 4) '='

variable (bytes : List UInt8)

def btoa : List Char :=
  let digits := (sextets bytes).map digit
  digits ++ padding digits.length

/-- White space that `atob` ignores. -/
def isIgnored (c : Char) : Bool := c = ' ' || c = '\t' || c = '\n' || c = '\r' || c.toNat = 12

/-- A text without up to two padding characters at its end. -/
def stripPadding (text : List Char) : List Char :=
  if text.length % 4 = 0 then
    if ['=', '='].isSuffixOf text then text.dropLast.dropLast
    else if ['='].isSuffixOf text then text.dropLast
    else text
  else text

def atob (text : List Char) : Option (List UInt8) :=
  let digits := stripPadding (text.filter fun c => !isIgnored c)
  if digits.length % 4 = 1 then none else (digits.mapM digitValue).map octets

/-! ### Base64 for URLs -/

/-- A character of base64 in the alphabet for URLs. -/
def toUrl (c : Char) : Char := if c = '+' then '-' else if c = '/' then '_' else c

/-- A character of the alphabet for URLs in base64. -/
def ofUrl (c : Char) : Char := if c = '-' then '+' else if c = '_' then '/' else c

def toBase64Url : String :=
  String.ofList (((btoa bytes).map toUrl).filter fun c => c ≠ '=')

def fromBase64Url (base64url : String) : Option (List UInt8) :=
  let base64 := base64url.toList.map ofUrl
  atob (base64 ++ padding base64.length)

/-! ### Round trip -/

/-- Six bits are read back from their character, which is no padding and no white space. -/
lemma digit_spec : ∀ n < 64, digitValue (digit n) = some n ∧ toUrl (digit n) ≠ '=' ∧
    ofUrl (toUrl (digit n)) = digit n ∧ digit n ≠ '=' ∧ isIgnored (digit n) = false := by
  decide +kernel

/-- The digits of bytes have six bits. -/
lemma sextets_lt : ∀ n ∈ sextets bytes, n < 64 := by
  induction bytes using sextets.induct with
  | case1 => simp [sextets]
  | case2 a =>
    have ha := a.toNat_lt
    simp only [sextets, List.mem_cons, List.not_mem_nil, or_false]
    omega
  | case3 a b =>
    have ha := a.toNat_lt
    have hb := b.toNat_lt
    simp only [sextets, List.mem_cons, List.not_mem_nil, or_false]
    omega
  | case4 a b c rest ih =>
    have ha := a.toNat_lt
    have hb := b.toNat_lt
    have hc := c.toNat_lt
    intro n hn
    simp only [sextets, List.mem_cons] at hn
    rcases hn with h | h | h | h | h
    · omega
    · omega
    · omega
    · omega
    · exact ih n h

/-- The byte of its number. -/
private lemma ofNat_eq {b : UInt8} {n : ℕ} (h : n = b.toNat) : UInt8.ofNat n = b := by
  rw [h, UInt8.ofNat_toNat]

/-- Bytes are read back from their digits, of which there are no four and one. -/
lemma octets_sextets :
    octets (sextets bytes) = bytes ∧ (sextets bytes).length % 4 ≠ 1 ∧
      bytes.length ≤ (sextets bytes).length := by
  induction bytes using sextets.induct with
  | case1 => decide
  | case2 a =>
    have ha := a.toNat_lt
    refine ⟨?_, by simp [sextets], by simp [sextets]⟩
    simp only [sextets, octets]
    rw [ofNat_eq (b := a) (by omega)]
  | case3 a b =>
    have ha := a.toNat_lt
    have hb := b.toNat_lt
    refine ⟨?_, by simp [sextets], by simp [sextets]⟩
    simp only [sextets, octets]
    rw [ofNat_eq (b := a) (by omega), ofNat_eq (b := b) (by omega)]
  | case4 a b c rest ih =>
    have ha := a.toNat_lt
    have hb := b.toNat_lt
    have hc := c.toNat_lt
    obtain ⟨hoctets, hfour, hlength⟩ := ih
    refine ⟨?_, ?_, ?_⟩
    · simp only [sextets, octets]
      rw [ofNat_eq (b := a) (by omega), ofNat_eq (b := b) (by omega), ofNat_eq (b := c) (by omega),
        hoctets]
    · simp only [sextets, List.length_cons]
      omega
    · simp only [sextets, List.length_cons]
      omega

/-- Digits are read back from their characters. -/
lemma mapM_digitValue {ns : List ℕ} (h : ∀ n ∈ ns, n < 64) :
    (ns.map digit).mapM digitValue = some ns := by
  induction ns with
  | nil => rfl
  | cons n ns ih =>
    simp [(digit_spec n (h n List.mem_cons_self)).1, ih fun m hm => h m (List.mem_cons_of_mem _ hm)]

/-- The text of bytes is that of their digits. -/
lemma toList_toBase64Url :
    (toBase64Url bytes).toList = (sextets bytes).map fun n => toUrl (digit n) := by
  have hdigits : ((sextets bytes).map fun n => toUrl (digit n)).filter (fun c => c ≠ '=') =
      (sextets bytes).map fun n => toUrl (digit n) := by
    rw [List.filter_eq_self]
    intro c hc
    obtain ⟨n, hn, rfl⟩ := List.mem_map.mp hc
    simpa using (digit_spec n (sextets_lt bytes n hn)).2.1
  have hpadding : ∀ k, ((padding k).map toUrl).filter (fun c => c ≠ '=') = [] := by
    intro k
    simp [padding, toUrl]
  rw [toBase64Url, String.toList_ofList, btoa, List.map_append, List.filter_append, hpadding,
    List.append_nil, List.map_map]
  exact hdigits

/-- A text without padding characters does not end with one. -/
private lemma not_isSuffixOf {text : List Char} (h : ∀ c ∈ text, c ≠ '=') (tail : List Char) :
    (tail ++ ['=']).isSuffixOf text = false := by
  rw [Bool.eq_false_iff]
  intro hcon
  obtain ⟨front, rfl⟩ := List.isSuffixOf_iff_suffix.mp hcon
  exact h '=' (by simp) rfl

/-- Padding is stripped from digits that are padded. -/
lemma stripPadding_padding {text : List Char} (h : ∀ c ∈ text, c ≠ '=')
    (hfour : text.length % 4 ≠ 1) : stripPadding (text ++ padding text.length) = text := by
  have hone : ['='].isSuffixOf text = false := not_isSuffixOf h []
  have htwo : ['=', '='].isSuffixOf text = false := not_isSuffixOf h ['=']
  obtain hmod | hmod | hmod : text.length % 4 = 0 ∨ text.length % 4 = 2 ∨ text.length % 4 = 3 := by
    omega
  · simp [padding, stripPadding, hmod, hone, htwo]
  · have hpadding : padding text.length = ['=', '='] := by simp [padding, hmod]
    have htotal : (text ++ ['=', '=']).length % 4 = 0 := by simp; omega
    have hsuffix : ['=', '='].isSuffixOf (text ++ ['=', '=']) = true :=
      List.isSuffixOf_iff_suffix.mpr ⟨text, rfl⟩
    rw [hpadding, stripPadding, if_pos htotal, if_pos hsuffix]
    rw [show text ++ ['=', '='] = (text ++ ['=']) ++ ['='] by simp, List.dropLast_concat,
      List.dropLast_concat]
  · have hpadding : padding text.length = ['='] := by simp [padding, hmod]
    have htotal : (text ++ ['=']).length % 4 = 0 := by simp; omega
    have hsuffix : ['='].isSuffixOf (text ++ ['=']) = true :=
      List.isSuffixOf_iff_suffix.mpr ⟨text, rfl⟩
    have hnot : ['=', '='].isSuffixOf (text ++ ['=']) = false := by
      rw [Bool.eq_false_iff]
      intro hcon
      obtain ⟨front, hfront⟩ := List.isSuffixOf_iff_suffix.mp hcon
      have hboth : (front ++ ['=']) ++ ['='] = text ++ ['='] := by simpa using hfront
      have hinit : front ++ ['='] = text := List.append_cancel_right hboth
      exact h '=' (by rw [← hinit]; simp) rfl
    rw [hpadding, stripPadding, if_pos htotal, if_neg (by simp [hnot]), if_pos hsuffix,
      List.dropLast_concat]

/-- **Bytes are read back from their text.** -/
theorem fromBase64Url_toBase64Url :
    fromBase64Url (toBase64Url bytes) = some bytes := by
  obtain ⟨hoctets, hfour, -⟩ := octets_sextets bytes
  have hlt := sextets_lt bytes
  have hbase : (toBase64Url bytes).toList.map ofUrl = (sextets bytes).map digit := by
    rw [toList_toBase64Url, List.map_map]
    exact List.map_congr_left fun n hn => (digit_spec n (hlt n hn)).2.2.1
  have hkept : ((sextets bytes).map digit ++ padding ((sextets bytes).map digit).length).filter
      (fun c => !isIgnored c) =
        (sextets bytes).map digit ++ padding ((sextets bytes).map digit).length := by
    rw [List.filter_eq_self]
    intro c hc
    rcases List.mem_append.mp hc with hc | hc
    · obtain ⟨n, hn, rfl⟩ := List.mem_map.mp hc
      simp [(digit_spec n (hlt n hn)).2.2.2.2]
    · rw [List.eq_of_mem_replicate hc]
      decide
  have hplain : ∀ c ∈ (sextets bytes).map digit, c ≠ '=' := by
    intro c hc
    obtain ⟨n, hn, rfl⟩ := List.mem_map.mp hc
    exact (digit_spec n (hlt n hn)).2.2.2.1
  rw [fromBase64Url]
  rw [hbase, atob, hkept, stripPadding_padding hplain (by simpa using hfour), List.length_map, if_neg hfour,
    mapM_digitValue hlt, Option.map_some, hoctets]

/-- **The text of bytes is at least as long as they are.** -/
theorem length_le : bytes.length ≤ (toBase64Url bytes).toList.length := by
  rw [toList_toBase64Url, List.length_map]
  exact (octets_sextets bytes).2.2

end Base64Url

end Foundations

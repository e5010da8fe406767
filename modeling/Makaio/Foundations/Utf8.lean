import Mathlib.Tactic

set_option autoImplicit false

/-!
# Decoding UTF-8

Decoders of JavaScript never fail: what is no character is read as U+FFFD.  The decoder goes through the
bytes one at a time and remembers how many bytes its character still needs, in which range the next one
must be, and the bits it has seen.

## Main definitions

* `Utf8.encode` — the bytes of characters.
* `Utf8.Decoder` — the decoder; `Decoder.step`, `Decoder.feed`, `Decoder.finish`.
* `Utf8.decode` — the characters of bytes.

## Main results

* `Utf8.feed_encode` — characters are read back from their bytes.
* `Utf8.decode_encode` — so they are when the bytes end.
-/

namespace Foundations

namespace Utf8

variable (text : List Char)

/-- The bytes of characters. -/
def encode : List UInt8 := text.flatMap String.utf8EncodeChar

/-- What a decoder remembers between bytes. -/
structure Decoder where
  needed : ℕ
  codePoint : ℕ
  lower : ℕ
  upper : ℕ

namespace Decoder

/-- Between characters. -/
def idle : Decoder := ⟨0, 0, 0x80, 0xBF⟩

/-- The first byte of a character. -/
def start (n : ℕ) : Decoder × List Char :=
  if n ≤ 0x7F then (idle, [Char.ofNat n])
  else if 0xC2 ≤ n ∧ n ≤ 0xDF then (⟨1, n - 0xC0, 0x80, 0xBF⟩, [])
  else if 0xE0 ≤ n ∧ n ≤ 0xEF then
    (⟨2, n - 0xE0, if n = 0xE0 then 0xA0 else 0x80, if n = 0xED then 0x9F else 0xBF⟩, [])
  else if 0xF0 ≤ n ∧ n ≤ 0xF4 then
    (⟨3, n - 0xF0, if n = 0xF0 then 0x90 else 0x80, if n = 0xF4 then 0x8F else 0xBF⟩, [])
  else (idle, ['\uFFFD'])

/-- One byte; one that does not go on with the character starts another one. -/
def step (d : Decoder) (b : UInt8) : Decoder × List Char :=
  if d.needed = 0 then start b.toNat
  else if d.lower ≤ b.toNat ∧ b.toNat ≤ d.upper then
    if d.needed = 1 then (idle, [Char.ofNat (d.codePoint * 64 + (b.toNat - 0x80))])
    else (⟨d.needed - 1, d.codePoint * 64 + (b.toNat - 0x80), 0x80, 0xBF⟩, [])
  else ((start b.toNat).1, '\uFFFD' :: (start b.toNat).2)

/-- A run of bytes. -/
def feed (d : Decoder) : List UInt8 → Decoder × List Char
  | [] => (d, [])
  | b :: rest => ((feed (d.step b).1 rest).1, (d.step b).2 ++ (feed (d.step b).1 rest).2)

/-- The end of the bytes. -/
def finish (d : Decoder) : List Char := if d.needed = 0 then [] else ['\uFFFD']

end Decoder

open Decoder

/-- The characters of bytes. -/
def decode (bytes : List UInt8) : List Char := (idle.feed bytes).2 ++ (idle.feed bytes).1.finish

/-! ### Runs of bytes -/

/-- A run in two parts. -/
lemma feed_append (d : Decoder) (a b : List UInt8) :
    d.feed (a ++ b) = (((d.feed a).1.feed b).1, (d.feed a).2 ++ ((d.feed a).1.feed b).2) := by
  induction a generalizing d with
  | nil => rfl
  | cons x a ih =>
    rw [List.cons_append, feed, ih]
    simp [feed]

variable {b : UInt8}
variable {d : Decoder} {c : Char} {bytes : List UInt8}

/-- A byte that the character goes on with. -/
lemma step_next (hneeded : 1 < d.needed) (hrange : d.lower ≤ b.toNat ∧ b.toNat ≤ d.upper) :
    d.step b = (⟨d.needed - 1, d.codePoint * 64 + (b.toNat - 0x80), 0x80, 0xBF⟩, []) := by
  rw [step, if_neg (by omega), if_pos hrange, if_neg (by omega)]

/-- The last byte of a character. -/
lemma step_last (hneeded : d.needed = 1) (hrange : d.lower ≤ b.toNat ∧ b.toNat ≤ d.upper) :
    d.step b = (idle, [Char.ofNat (d.codePoint * 64 + (b.toNat - 0x80))]) := by
  rw [step, if_neg (by omega), if_pos hrange, if_pos hneeded]

/-- A byte within a character. -/
def IsTail (b : UInt8) : Prop := 0x80 ≤ b.toNat ∧ b.toNat ≤ 0xBF

/-- Between characters a byte of the middle of one is none. -/
lemma step_tail (h : IsTail b) : idle.step b = (idle, ['\uFFFD']) := by
  obtain ⟨hlow, hhigh⟩ := h
  have hneeded : idle.needed = 0 := rfl
  rw [step, if_pos hneeded, start, if_neg (by omega), if_neg (by omega), if_neg (by omega),
    if_neg (by omega)]

/-! ### The bytes of a character -/

/-- From a decoder on, the bytes are those of the rest of a character, and nothing is read before the
last one. -/
inductive Completes (c : Char) : Decoder → List UInt8 → Prop
  | last {d : Decoder} {b : UInt8} (hstep : d.step b = (idle, [c])) : Completes c d [b]
  | next {d d' : Decoder} {b : UInt8} {rest : List UInt8} (hstep : d.step b = (d', []))
      (hneeded : d'.needed ≠ 0) (htail : ∀ x ∈ rest, IsTail x) (h : Completes c d' rest) :
      Completes c d (b :: rest)

variable {n codePoint lower upper : ℕ}

/-- The byte of a number. -/
lemma toNat_byte (h : n < 256) : (UInt8.ofNat n).toNat = n := by
  simp only [UInt8.toNat_ofNat']
  omega

/-- A byte of the middle of a character. -/
lemma isTail_byte (n : ℕ) : IsTail (UInt8.ofNat (n % 64 + 0x80)) := by
  rw [IsTail, toNat_byte (by omega)]
  omega

/-- The numbers of characters: below the surrogates or above them. -/
private lemma toNat_ranges (c : Char) :
    c.val.toNat < 0xD800 ∨ 0xE000 ≤ c.val.toNat ∧ c.val.toNat < 0x110000 := by
  have h := c.valid
  simp only [UInt32.isValidChar, Nat.isValidChar] at h
  omega

/-- The last byte of a character whose other bits are known. -/
lemma completes_last (hbits : codePoint = c.toNat / 64) (hlower : lower ≤ c.toNat % 64 + 0x80)
    (hupper : c.toNat % 64 + 0x80 ≤ upper) :
    Completes c ⟨1, codePoint, lower, upper⟩ [UInt8.ofNat (c.toNat % 64 + 0x80)] := by
  have hbyte : (UInt8.ofNat (c.toNat % 64 + 0x80)).toNat = c.toNat % 64 + 0x80 :=
    toNat_byte (by omega)
  refine .last ?_
  rw [step_last rfl ⟨by rw [hbyte]; exact hlower, by rw [hbyte]; exact hupper⟩, hbyte]
  rw [show codePoint * 64 + (c.toNat % 64 + 0x80 - 0x80) = c.toNat by omega, Char.ofNat_toNat]

/-- One of the other bytes of a character whose leading bits are known. -/
lemma completes_next {needed : ℕ} {rest : List UInt8} (hneeded : 1 < needed) (hbits : codePoint = n / 64)
    (hlower : lower ≤ n % 64 + 0x80) (hupper : n % 64 + 0x80 ≤ upper) (htail : ∀ x ∈ rest, IsTail x)
    (h : Completes c ⟨needed - 1, n, 0x80, 0xBF⟩ rest) :
    Completes c ⟨needed, codePoint, lower, upper⟩ (UInt8.ofNat (n % 64 + 0x80) :: rest) := by
  have hbyte : (UInt8.ofNat (n % 64 + 0x80)).toNat = n % 64 + 0x80 := toNat_byte (by omega)
  refine .next ?_ (by simp; omega) htail h
  rw [step_next hneeded ⟨by rw [hbyte]; exact hlower, by rw [hbyte]; exact hupper⟩, hbyte]
  rw [show codePoint * 64 + (n % 64 + 0x80 - 0x80) = n by omega]

/-- A byte that starts a character of two. -/
lemma step_idle_two (h : 0xC2 ≤ b.toNat ∧ b.toNat ≤ 0xDF) :
    idle.step b = (⟨1, b.toNat - 0xC0, 0x80, 0xBF⟩, []) := by
  have hneeded : idle.needed = 0 := rfl
  rw [step, if_pos hneeded, start, if_neg (by omega), if_pos h]

/-- A byte that starts a character of three. -/
lemma step_idle_three (h : 0xE0 ≤ b.toNat ∧ b.toNat ≤ 0xEF) :
    idle.step b = (⟨2, b.toNat - 0xE0, if b.toNat = 0xE0 then 0xA0 else 0x80,
      if b.toNat = 0xED then 0x9F else 0xBF⟩, []) := by
  have hneeded : idle.needed = 0 := rfl
  rw [step, if_pos hneeded, start, if_neg (by omega), if_neg (by omega), if_pos h]

/-- A byte that starts a character of four. -/
lemma step_idle_four (h : 0xF0 ≤ b.toNat ∧ b.toNat ≤ 0xF4) :
    idle.step b = (⟨3, b.toNat - 0xF0, if b.toNat = 0xF0 then 0x90 else 0x80,
      if b.toNat = 0xF4 then 0x8F else 0xBF⟩, []) := by
  have hneeded : idle.needed = 0 := rfl
  rw [step, if_pos hneeded, start, if_neg (by omega), if_neg (by omega), if_neg (by omega), if_pos h]

/-- **The bytes of a character** are read as the character.

**Proof sketch.** By the number of bytes: the first one tells how many follow and within which range the
second one is, and each of the others adds six bits. -/
theorem completes_utf8EncodeChar (c : Char) : Completes c idle (String.utf8EncodeChar c) := by
  have hranges := toNat_ranges c
  have hval : c.val.toNat = c.toNat := rfl
  rw [hval] at hranges
  unfold String.utf8EncodeChar
  rw [hval]
  dsimp only
  split
  · have hbyte : (UInt8.ofNat c.toNat).toNat = c.toNat := toNat_byte (by omega)
    have hneeded : idle.needed = 0 := rfl
    refine .last ?_
    rw [step, if_pos hneeded, hbyte, start, if_pos (by omega), Char.ofNat_toNat]
  · split
    · have hbyte : (UInt8.ofNat (c.toNat / 64 % 0x20 + 0xC0)).toNat = c.toNat / 64 + 0xC0 := by
        rw [toNat_byte (by omega)]
        omega
      refine .next (step_idle_two (by omega)) (by simp) (List.forall_mem_singleton.mpr (isTail_byte _)) ?_
      exact completes_last (by omega) (by omega) (by omega)
    · split
      · have hbyte : (UInt8.ofNat (c.toNat / 4096 % 0x10 + 0xE0)).toNat = c.toNat / 4096 + 0xE0 := by
          rw [toNat_byte (by omega)]
          omega
        refine .next (step_idle_three (by omega)) (by simp)
          (List.forall_mem_cons.mpr ⟨isTail_byte _, List.forall_mem_singleton.mpr (isTail_byte _)⟩) ?_
        refine completes_next (by omega) (by omega) (by split <;> omega) (by split <;> omega)
          (List.forall_mem_singleton.mpr (isTail_byte _)) ?_
        exact completes_last (by omega) (by omega) (by omega)
      · have hbyte : (UInt8.ofNat (c.toNat / 262144 % 0x08 + 0xF0)).toNat =
            c.toNat / 262144 + 0xF0 := by
          rw [toNat_byte (by omega)]
          omega
        refine .next (step_idle_four (by omega)) (by simp)
          (List.forall_mem_cons.mpr ⟨isTail_byte _,
            List.forall_mem_cons.mpr ⟨isTail_byte _, List.forall_mem_singleton.mpr (isTail_byte _)⟩⟩) ?_
        refine completes_next (by omega) (by omega) (by split <;> omega) (by split <;> omega)
          (List.forall_mem_cons.mpr ⟨isTail_byte _, List.forall_mem_singleton.mpr (isTail_byte _)⟩) ?_
        refine completes_next (by omega) (by omega) (by omega) (by omega)
          (List.forall_mem_singleton.mpr (isTail_byte _)) ?_
        exact completes_last (by omega) (by omega) (by omega)

/-- The bytes of the rest of a character are read as the character. -/
lemma Completes.feed (h : Completes c d bytes) : d.feed bytes = (idle, [c]) := by
  induction h with
  | last hstep => simp [Decoder.feed, hstep]
  | next hstep _ _ _ ih => simp [Decoder.feed, hstep, ih]

/-- **Characters are read back from their bytes.** -/
theorem feed_encode : idle.feed (encode text) = (idle, text) := by
  induction text with
  | nil => rfl
  | cons c text ih =>
    rw [encode, List.flatMap_cons, feed_append, (completes_utf8EncodeChar c).feed]
    rw [show text.flatMap String.utf8EncodeChar = encode text from rfl, ih]
    rfl

/-- Characters are read back from their bytes when these end. -/
theorem decode_encode : decode (encode text) = text := by
  rw [decode, feed_encode]
  simp [finish, idle]

/-- Within a character nothing is read, and it goes on with bytes of its middle. -/
lemma Completes.feed_lead (h : Completes c d bytes) :
    ∀ {lead rest : List UInt8}, lead ++ rest = bytes → lead ≠ [] → rest ≠ [] →
      ∃ d', d.feed lead = (d', []) ∧ d'.needed ≠ 0 ∧ ∀ x ∈ rest, IsTail x := by
  induction h with
  | last hstep =>
    intro lead rest heq hlead hrest
    have hlength := congrArg List.length heq
    rw [List.length_append, List.length_singleton] at hlength
    have := List.length_pos_iff.mpr hlead
    have := List.length_pos_iff.mpr hrest
    omega
  | @next d d' b tail hstep hneeded htail h ih =>
    intro lead rest heq hlead hrest
    obtain ⟨x, lead, rfl⟩ := List.exists_cons_of_ne_nil hlead
    obtain ⟨rfl, rfl⟩ := List.cons_eq_cons.mp heq
    by_cases hend : lead = []
    · subst hend
      exact ⟨d', by simp [Decoder.feed, hstep], hneeded, htail⟩
    · obtain ⟨d'', hfeed, hneeded', htail'⟩ := ih rfl hend hrest
      exact ⟨d'', by simp [Decoder.feed, hstep, hfeed], hneeded', htail'⟩

/-- Bytes of the middle of a character are no characters. -/
lemma feed_tails (h : ∀ x ∈ bytes, IsTail x) :
    idle.feed bytes = (idle, List.replicate bytes.length '\uFFFD') := by
  induction bytes with
  | nil => rfl
  | cons b bytes ih =>
    rw [Decoder.feed, step_tail (h b List.mem_cons_self)]
    rw [ih fun x hx => h x (List.mem_cons_of_mem _ hx)]
    rfl

/-- The bytes of an ASCII character are one byte. -/
lemma length_utf8EncodeChar_of_ascii (h : c.toNat < 128) :
    (String.utf8EncodeChar c).length = 1 := by
  have hval : c.val.toNat = c.toNat := rfl
  simp only [String.utf8EncodeChar, hval]
  rw [if_pos (by omega)]
  rfl

/-- The bytes of a text are cut between two characters or within one. -/
lemma encode_eq_append {text : List Char} {a b : List UInt8} (h : encode text = a ++ b) :
    (∃ t t', text = t ++ t' ∧ a = encode t ∧ b = encode t') ∨
      ∃ t c t' lead rest, text = t ++ c :: t' ∧ lead ≠ [] ∧ rest ≠ [] ∧
        lead ++ rest = String.utf8EncodeChar c ∧ a = encode t ++ lead ∧ b = rest ++ encode t' := by
  induction text generalizing a with
  | nil =>
    obtain ⟨rfl, rfl⟩ : a = [] ∧ b = [] := by simpa [encode] using h
    exact Or.inl ⟨[], [], rfl, rfl, rfl⟩
  | cons c text ih =>
    rw [encode, List.flatMap_cons] at h
    rcases List.append_eq_append_iff.mp h with ⟨a', ha, htext⟩ | ⟨rest, hc, hb⟩
    · rcases ih htext with ⟨t, t', rfl, rfl, rfl⟩ | ⟨t, c', t', lead, rest, rfl, hl, hr, hc', rfl, hb⟩
      · exact Or.inl ⟨c :: t, t', rfl, by rw [ha, encode, encode, List.flatMap_cons], rfl⟩
      · exact Or.inr ⟨c :: t, c', t', lead, rest, rfl, hl, hr, hc',
          by rw [ha, encode, encode, List.flatMap_cons, List.append_assoc], hb⟩
    · by_cases hrest : rest = []
      · subst hrest
        refine Or.inl ⟨[c], text, rfl, ?_, hb⟩
        simpa [encode] using hc.symm
      · by_cases ha : a = []
        · subst ha
          exact Or.inl ⟨[], c :: text, rfl, rfl, by rw [hb, encode, List.flatMap_cons]; simp [hc]⟩
        · exact Or.inr ⟨[], c, text, a, rest, rfl, ha, hrest, hc.symm, rfl, hb⟩

end Utf8

end Foundations

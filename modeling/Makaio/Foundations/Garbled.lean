import Makaio.Foundations.JsonText
import Makaio.Foundations.Utf8

set_option autoImplicit false

/-!
# Texts with lost characters

A text whose bytes are decoded in pieces loses the characters that are cut: each is read as several
replacement characters.  Such a text is longer, and as the text of a JSON value it is the text of
another value, since characters outside ASCII occur in string literals only.

## Main definitions

* `Garbled` — a text and what is left of it.

## Main results

* `Utf8.garbled_flatMap_decode` — what is left of a text whose bytes come in chunks.
* `Json.exists_print_of_garbled` — what is left of the text of a value.
-/

namespace Foundations

/-- What is left of a text when characters outside ASCII are read as two or more U+FFFD. -/
inductive Garbled : List Char → List Char → Prop
  | nil : Garbled [] []
  | keep (c : Char) {a b : List Char} (h : Garbled a b) : Garbled (c :: a) (c :: b)
  | lose {c : Char} (n : ℕ) {a b : List Char} (hc : 128 ≤ c.toNat) (h : Garbled a b) :
      Garbled (c :: a) (List.replicate (n + 2) '\uFFFD' ++ b)

variable {t text : List Char}

namespace Garbled

/-- A text may be left as it is. -/
lemma refl (text : List Char) : Garbled text text := by
  induction text with
  | nil => exact .nil
  | cons c text ih => exact .keep c ih

variable {a b : List Char}

/-- Two texts are garbled one after the other. -/
lemma append {a' b' : List Char} (ha : Garbled a a') (hb : Garbled b b') :
    Garbled (a ++ b) (a' ++ b') := by
  induction ha with
  | nil => exact hb
  | keep c _ ih => exact .keep c ih
  | lose n hc _ ih =>
    rw [List.append_assoc]
    exact .lose n hc ih

/-- What is left of two texts is what is left of each. -/
lemma exists_of_append (h : Garbled (a ++ b) t) :
    ∃ a' b', t = a' ++ b' ∧ Garbled a a' ∧ Garbled b b' := by
  induction a generalizing t with
  | nil => exact ⟨[], t, rfl, .nil, h⟩
  | cons c a ih =>
    cases h with
    | keep _ h =>
      obtain ⟨a', b', rfl, ha, hb⟩ := ih h
      exact ⟨c :: a', b', rfl, .keep c ha, hb⟩
    | lose n hc h =>
      obtain ⟨a', b', rfl, ha, hb⟩ := ih h
      exact ⟨_ ++ a', b', (List.append_assoc ..).symm, .lose n hc ha, hb⟩

/-- ASCII is left as it is. -/
lemma eq_of_ascii (hascii : ∀ c ∈ a, c.toNat < 128) (h : Garbled a t) : t = a := by
  induction h with
  | nil => rfl
  | keep c _ ih => rw [ih fun d hd => hascii d (List.mem_cons_of_mem _ hd)]
  | lose n hc _ _ =>
    have := hascii _ List.mem_cons_self
    omega

/-- An ASCII character is left as it is. -/
lemma exists_of_cons {c : Char} (hascii : c.toNat < 128) (h : Garbled (c :: a) t) :
    ∃ t', t = c :: t' ∧ Garbled a t' := by
  cases h with
  | keep _ h => exact ⟨_, rfl, h⟩
  | lose n hc _ => omega

/-- What is left is not shorter. -/
lemma length_le (h : Garbled a t) : a.length ≤ t.length := by
  induction h with
  | nil => exact Nat.le_refl _
  | keep c _ ih => simpa using ih
  | lose n _ _ ih =>
    simp only [List.length_cons, List.length_append, List.length_replicate]
    omega

end Garbled

/-! ### Bytes in chunks -/

namespace Utf8

open Decoder

/-- What is left of a text whose bytes come in chunks that are decoded by themselves, after bytes of the
middle of a character; it is as long as the text only when no chunk cuts a character.

**Proof sketch.** By induction on the chunks.  The first chunk ends among the bytes of the middle, which
are no characters, or cuts the text between two characters or within one, whose first bytes then are
read as one replacement character and the others as one each. -/
lemma garbled_flatMap_decode_tails (chunks : List (List UInt8)) :
    ∀ (tails : List UInt8) (text : List Char), (∀ x ∈ tails, IsTail x) →
      chunks.flatten = tails ++ encode text →
      ∃ left, chunks.flatMap decode = List.replicate tails.length '\uFFFD' ++ left ∧
        Garbled text left ∧
        (tails = [] → left.length = text.length → ∀ chunk ∈ chunks, ∃ t, chunk = encode t) := by
  induction chunks with
  | nil =>
    intro tails text _ hstream
    obtain ⟨rfl, htext⟩ : tails = [] ∧ encode text = [] := List.append_eq_nil_iff.mp hstream.symm
    have hleft := decode_encode text
    rw [htext] at hleft
    obtain rfl : text = [] := by simpa [decode, Decoder.feed, finish, idle] using hleft.symm
    exact ⟨[], rfl, .nil, by simp⟩
  | cons chunk chunks ih =>
    intro tails text htails hstream
    rw [List.flatten_cons] at hstream
    rcases List.append_eq_append_iff.mp hstream with ⟨tails', rfl, hrest⟩ | ⟨chunk', rfl, htext⟩
    · -- the chunk ends among the bytes of the middle
      obtain ⟨left, hleft, hgarbled, hwhole⟩ :=
        ih tails' text (fun x hx => htails x (List.mem_append_right _ hx)) hrest
      refine ⟨left, ?_, hgarbled, ?_⟩
      · rw [List.flatMap_cons, hleft, decode,
          feed_tails fun x hx => htails x (List.mem_append_left _ hx)]
        rw [show idle.finish = [] from rfl, List.append_nil, List.length_append, List.replicate_add,
          List.append_assoc]
      · intro hempty hlength c hc
        obtain ⟨rfl, rfl⟩ := List.append_eq_nil_iff.mp hempty
        rcases List.mem_cons.mp hc with rfl | hc
        · exact ⟨[], rfl⟩
        · exact hwhole rfl hlength c hc
    · have hdecode : ∀ b, decode (tails ++ b) = List.replicate tails.length '\uFFFD' ++ decode b := by
        intro b
        rw [decode, feed_append, feed_tails htails]
        simp [decode]
      rcases encode_eq_append htext with ⟨t, t', rfl, rfl, hrest⟩ |
        ⟨t, c, t', lead, rest, rfl, hlead, hrest, hbytes, rfl, htail⟩
      · -- the chunk ends between two characters
        obtain ⟨left, hleft, hgarbled, hwhole⟩ := ih [] t' (by simp) hrest
        refine ⟨t ++ left, ?_, (Garbled.refl t).append hgarbled, ?_⟩
        · rw [List.flatMap_cons, hdecode, decode_encode, hleft]
          simp
        · rintro rfl hlength b hb
          rcases List.mem_cons.mp hb with rfl | hb
          · exact ⟨t, rfl⟩
          · exact hwhole rfl (by simpa using hlength) b hb
      · -- the chunk ends within a character
        obtain ⟨d, hfeed, hneeded, htail'⟩ :=
          (completes_utf8EncodeChar c).feed_lead hbytes hlead hrest
        obtain ⟨left, hleft, hgarbled, -⟩ := ih rest t' htail' htail
        obtain ⟨n, hn⟩ : ∃ n, rest.length = n + 1 :=
          ⟨rest.length - 1, by have := List.length_pos_iff.mpr hrest; omega⟩
        have hlong : 128 ≤ c.toNat := by
          by_contra hascii
          have hlength := length_utf8EncodeChar_of_ascii (by omega : c.toNat < 128)
          rw [← hbytes, List.length_append] at hlength
          have := List.length_pos_iff.mpr hlead
          omega
        refine ⟨t ++ (List.replicate (n + 2) '\uFFFD' ++ left), ?_,
          (Garbled.refl t).append (.lose n hlong hgarbled), ?_⟩
        · rw [List.flatMap_cons, hdecode, hleft, decode, feed_append, feed_encode]
          rw [hfeed, finish, if_neg hneeded, hn]
          simp [List.replicate_succ]
        · intro _ hlength
          have := hgarbled.length_le
          simp only [List.length_append, List.length_replicate, List.length_cons] at hlength
          omega

/-- **What is left of a text whose bytes come in chunks** that are decoded by themselves: it is the text
only when every chunk consists of whole characters. -/
theorem garbled_flatMap_decode {chunks : List (List UInt8)} (h : chunks.flatten = encode text) :
    Garbled text (chunks.flatMap decode) ∧
      (chunks.flatMap decode = text ↔ ∀ chunk ∈ chunks, ∃ t, chunk = encode t) := by
  obtain ⟨left, hleft, hgarbled, hwhole⟩ := garbled_flatMap_decode_tails chunks [] text (by simp) h
  rw [List.length_nil, List.replicate_zero, List.nil_append] at hleft
  rw [hleft]
  refine ⟨hgarbled, fun heq => hwhole rfl (by rw [heq]), fun hchunks => ?_⟩
  rw [← hleft]
  choose! texts htexts using hchunks
  have hencode : encode (chunks.flatMap texts) = encode text := by
    rw [← h]
    unfold encode
    rw [List.flatMap_assoc]
    simp only [← List.flatMap_id]
    exact List.flatMap_congr fun chunk hchunk => (htexts chunk hchunk).symm
  have hdecode : chunks.flatMap decode = chunks.flatMap texts :=
    List.flatMap_congr fun chunk hchunk => by
      conv_lhs => rw [htexts chunk hchunk]
      exact decode_encode _
  rw [hdecode, ← decode_encode (chunks.flatMap texts), hencode, decode_encode]

end Utf8

/-! ### The text of a value -/

namespace Json

/-- An escape is ASCII, or the character itself. -/
lemma escapeChar_ascii_or (c : Char) :
    (∀ d ∈ escapeChar c, d.toNat < 128) ∨ escapeChar c = [c] := by
  by_cases hsmall : c.toNat < 128
  · left
    obtain ⟨n, hn, rfl⟩ : ∃ n < 128, c = Char.ofNat n := ⟨c.toNat, hsmall, (Char.ofNat_toNat c).symm⟩
    have htable : (List.range 128).all (fun n =>
        (escapeChar (Char.ofNat n)).all fun d => decide (d.toNat < 128)) = true := by
      decide +kernel
    intro d hd
    have hrow := List.all_eq_true.mp htable n (List.mem_range.mpr hn)
    exact of_decide_eq_true (List.all_eq_true.mp hrow d hd)
  · right
    have hne : ∀ d : Char, d.toNat < 128 → c ≠ d := by
      rintro d hd rfl
      exact hsmall hd
    rw [escapeChar, if_neg (hne _ (by decide)), if_neg (hne _ (by decide)), if_neg (hne _ (by decide)),
      if_neg (hne _ (by decide)), if_neg (hne _ (by decide)), if_neg (by omega), if_neg (by omega),
      if_neg (by omega)]

lemma flatMap_escapeChar_replacement (n : ℕ) :
    (List.replicate n '\uFFFD').flatMap escapeChar = List.replicate n '\uFFFD' := by
  induction n with
  | zero => rfl
  | succ n ih =>
    rw [List.replicate_succ, List.flatMap_cons, ih]
    rfl

/-- What is left of a string literal is the literal of a string. -/
lemma exists_printString_of_garbled (h : Garbled (printString text) t) :
    ∃ text', t = printString text' := by
  induction text generalizing t with
  | nil => exact ⟨[], Garbled.eq_of_ascii (by simp [printString]) h⟩
  | cons c text ih =>
    have hsplit : printString (c :: text) = escapeChar c ++ printString text := by simp [printString]
    rw [hsplit] at h
    obtain ⟨a, b, rfl, ha, hb⟩ := h.exists_of_append
    obtain ⟨text', rfl⟩ := ih hb
    rcases escapeChar_ascii_or c with hascii | hself
    · exact ⟨c :: text', by rw [Garbled.eq_of_ascii hascii ha]; simp [printString]⟩
    · rw [hself] at ha
      cases ha with
      | keep _ hnil =>
        cases hnil
        exact ⟨c :: text', by simp [printString, hself]⟩
      | lose n hc hnil =>
        cases hnil
        exact ⟨List.replicate (n + 2) '\uFFFD' ++ text', by
          simp [printString, flatMap_escapeChar_replacement]⟩

/-- Assigning a member adds at most one. -/
lemma length_assign (key : String) (value : Json) (members : List (String × Json)) :
    (assign key value members).length ≤ members.length + 1 ∧
      ((assign key value members).length = members.length + 1 →
        assign key value members = members ++ [(key, value)]) := by
  unfold assign
  split <;> simp

/-- Members of which none is replaced are collected as they are. -/
lemma collect_eq_of_length (members : List (String × Json)) :
    (collect members).length ≤ members.length ∧
      ((collect members).length = members.length → collect members = members) := by
  induction members using List.reverseRecOn with
  | nil => simp [collect]
  | append_singleton members m ih =>
    have hstep : collect (members ++ [m]) = assign m.1 m.2 (collect members) := by simp [collect]
    obtain ⟨hle, happend⟩ := length_assign m.1 m.2 (collect members)
    rw [hstep, List.length_append, List.length_singleton]
    refine ⟨by omega, fun heq => ?_⟩
    rw [happend (by omega), ih.2 (by omega)]

/-- Normalizing the members keeps their number. -/
lemma length_normalizeMembers (members : List (String × Json)) :
    (normalizeMembers members).length = members.length := by
  induction members with
  | nil => rfl
  | cons m members ih => simp [normalizeMembers, ih]

/-- What is left of the rest of an array or an object after an entry: what is left of it after the opening
bracket, with a comma before it unless it is empty. -/
lemma exists_more_of_garbled {α : Type} {first more : List α → List Char} {normalize : List α → List α}
    {list : List α} (h : ∀ t, Garbled (first list) t →
      ∃ left, t = first left ∧ left.length = list.length ∧ (normalize left = list → left = list))
    (ht : Garbled (more list) t) (hnil : more [] = first [])
    (hcons : ∀ x list, more (x :: list) = ',' :: first (x :: list)) :
    ∃ left, t = more left ∧ left.length = list.length ∧ (normalize left = list → left = list) := by
  cases list with
  | nil =>
    obtain ⟨left, rfl, hlength, hleft⟩ := h t (hnil ▸ ht)
    obtain rfl := List.length_eq_zero_iff.mp hlength
    exact ⟨[], hnil.symm, hlength, hleft⟩
  | cons x list =>
    rw [hcons] at ht
    obtain ⟨t, rfl, hrest⟩ := ht.exists_of_cons (by decide)
    obtain ⟨left, rfl, hlength, hleft⟩ := h t hrest
    obtain ⟨y, left, rfl⟩ := List.exists_cons_of_length_eq_add_one hlength
    exact ⟨y :: left, (hcons y left).symm, hlength, hleft⟩

variable (format : NumberFormat)

mutual

/-- **What is left of the text of a value** is the text of a value that differs from it, also after
reading, unless nothing is lost.

**Proof sketch.** By induction on the value, together with the rest of an array and of an object: what
is no string literal is ASCII.  When the members that are left are collected to those of the object, none
was replaced, as there are as many of them. -/
lemma exists_print_of_garbled : ∀ (value : Json) (t : List Char), Garbled (print format value) t →
    ∃ left, t = print format left ∧ (normalize left = value → left = value)
  | .null, t, h => ⟨.null, Garbled.eq_of_ascii (by simp [print]) h, fun _ => rfl⟩
  | .bool true, t, h => ⟨.bool true, Garbled.eq_of_ascii (by simp [print]) h, fun _ => rfl⟩
  | .bool false, t, h => ⟨.bool false, Garbled.eq_of_ascii (by simp [print]) h, fun _ => rfl⟩
  | .num n, t, h =>
    ⟨.num n, Garbled.eq_of_ascii (fun c hc => (range_of_isNumberChar (format.print_chars n c hc)).2) h,
      fun _ => rfl⟩
  | .str s, t, h => by
    obtain ⟨t, rfl, hrest⟩ := Garbled.exists_of_cons (by decide) h
    obtain ⟨text, rfl⟩ := exists_printString_of_garbled hrest
    exact ⟨.str (String.ofList text), by simp [print], fun h => h⟩
  | .arr elements, t, h => by
    obtain ⟨t, rfl, hrest⟩ := Garbled.exists_of_cons (by decide) h
    obtain ⟨left, rfl, -, hleft⟩ := exists_printElements_of_garbled elements t hrest
    refine ⟨.arr left, rfl, fun heq => ?_⟩
    rw [normalize, arr.injEq] at heq
    rw [hleft heq]
  | .obj members, t, h => by
    obtain ⟨t, rfl, hrest⟩ := Garbled.exists_of_cons (by decide) h
    obtain ⟨left, rfl, hlength, hleft⟩ := exists_printMembers_of_garbled members t hrest
    refine ⟨.obj left, rfl, fun heq => ?_⟩
    rw [normalize, obj.injEq] at heq
    have hcollect := (collect_eq_of_length (normalizeMembers left)).2
      (by rw [heq, length_normalizeMembers, hlength])
    rw [hleft (hcollect.symm.trans heq)]

/-- What is left of the rest of an array after its opening bracket. -/
lemma exists_printElements_of_garbled : ∀ (elements : List Json) (t : List Char),
    Garbled (printElements format elements) t →
    ∃ left, t = printElements format left ∧ left.length = elements.length ∧
      (normalizeElements left = elements → left = elements)
  | [], t, h => ⟨[], Garbled.eq_of_ascii (by simp [printElements]) h, rfl, fun _ => rfl⟩
  | e :: elements, t, h => by
    obtain ⟨a, b, rfl, ha, hb⟩ := h.exists_of_append
    obtain ⟨left, rfl, hleft⟩ := exists_print_of_garbled e a ha
    obtain ⟨more, rfl, hlength, hmore⟩ := exists_more_of_garbled
      (exists_printElements_of_garbled elements) hb rfl fun _ _ => rfl
    refine ⟨left :: more, rfl, by simp [hlength], fun heq => ?_⟩
    rw [normalizeElements, List.cons_eq_cons] at heq
    rw [hleft heq.1, hmore heq.2]

/-- What is left of the rest of an object after its opening brace. -/
lemma exists_printMembers_of_garbled : ∀ (members : List (String × Json)) (t : List Char),
    Garbled (printMembers format members) t →
    ∃ left, t = printMembers format left ∧ left.length = members.length ∧
      (normalizeMembers left = members → left = members)
  | [], t, h => ⟨[], Garbled.eq_of_ascii (by simp [printMembers]) h, rfl, fun _ => rfl⟩
  | (key, value) :: members, t, h => by
    obtain ⟨t, rfl, hrest⟩ := Garbled.exists_of_cons (by decide) h
    obtain ⟨k, b, rfl, hk, hb⟩ := hrest.exists_of_append
    obtain ⟨key', rfl⟩ := exists_printString_of_garbled hk
    obtain ⟨b, rfl, hvalue⟩ := hb.exists_of_cons (by decide)
    obtain ⟨a, b, rfl, ha, hmembers⟩ := hvalue.exists_of_append
    obtain ⟨left, rfl, hleft⟩ := exists_print_of_garbled value a ha
    obtain ⟨more, rfl, hlength, hmore⟩ := exists_more_of_garbled
      (exists_printMembers_of_garbled members) hmembers rfl fun _ _ => rfl
    refine ⟨(String.ofList key', left) :: more, by simp [printMembers], by simp [hlength],
      fun heq => ?_⟩
    rw [normalizeMembers, List.cons_eq_cons, Prod.mk.injEq] at heq
    rw [heq.1.1, hleft heq.1.2, hmore heq.2]

end

end Json

end Foundations

import Makaio.Foundations.AuthenticatedCipher
import Makaio.Foundations.Base64Url
import Makaio.Foundations.JsonText
import Makaio.Foundations.Utf8

set_option autoImplicit false

/-!
# Encryption of the fields of messages

The end-to-end encryption of a transport (`e2e-message-crypto.ts`) encrypts the payload, result, results
and error of a message, each by itself, and marks the message with the nonce of the last encryption.  Which
fields are encrypted depends on the type of the message and on which fields there are; which are decrypted
depends on the type and on which fields are strings.

## Main definitions

* `encryptMessage`, `decryptMessage` — the two directions.
* `isEncrypted`, `contentText` — the fields that each direction works on.

## Main results

* `openText_sealText` — what was encrypted is decrypted.
* `sealText_ne` — no value is its own ciphertext.
* `lookup_encryptMessage`, `decryptMessage_eq_some` — the fields of an encrypted and
  of a decrypted message.
-/

namespace Makaio.E2E

open Foundations

/-! ### Messages -/

/-- The members of a message. -/
abbrev Members := List (String × Json)

/-- The type of a message. -/
def typeOf (message : Members) : Option String := (Json.lookup "type" message).bind Json.str?

/-- The fields that are encrypted. -/
inductive Field
  | payload
  | result
  | results
  | error
  deriving DecidableEq

def Field.key : Field → String
  | payload => "payload"
  | result => "result"
  | results => "results"
  | error => "error"

/-- The value of a field of a message. -/
def Field.of (field : Field) (message : Members) : Option Json := Json.lookup field.key message

lemma Field.key_injective {f g : Field} (h : f.key = g.key) : f = g := by
  cases f <;> cases g <;> first | rfl | exact absurd h (by decide)

/-- No field is the marker of encrypted messages. -/
lemma Field.key_ne_e2e (field : Field) : field.key ≠ "e2e" := by cases field <;> decide

/-- No field is the type of messages. -/
lemma Field.key_ne_type (field : Field) : field.key ≠ "type" := by cases field <;> decide

/-- Whether a message is a response, or a broadcast's response. -/
def isResponse (message : Members) : Bool :=
  typeOf message = some "response" || typeOf message = some "broadcast-response"

/-! ### Ciphertexts -/

def encodeText (text : List Char) : List UInt8 := Utf8.encode text

/-- `decodeText`: a byte order mark at the start is dropped. -/
def decodeText (bytes : List UInt8) : List Char :=
  match Utf8.decode bytes with
  | '\uFEFF' :: rest => rest
  | text => text

variable {Key : Type} (cipher : AuthenticatedCipher Key) (format : NumberFormat) (sessionKey : Key)

/-- The text that stands for an encrypted value. -/
def sealText (nonce : List UInt8) (value : Json) : String :=
  Base64Url.toBase64Url (cipher.encrypt sessionKey nonce (encodeText (Json.print format value)))

/-- The value that a text stands for. -/
def openText (nonce : List UInt8) (text : String) : Option Json :=
  (Base64Url.fromBase64Url text).bind fun ciphertext =>
    (cipher.decrypt sessionKey nonce ciphertext).bind fun plaintext =>
      Json.parse format (decodeText plaintext)

/-- An encryption of a value was made. -/
def Sealed (nonce : List UInt8) (value : Json) : Prop :=
  cipher.Made sessionKey nonce (encodeText (Json.print format value))

/-- The plaintext of some encryption under the session key reads as a value. -/
def Authentic (value : Json) : Prop :=
  ∃ nonce plaintext, cipher.Made sessionKey nonce plaintext ∧
    Json.parse format (decodeText plaintext) = some value

/-- The text of a value is decoded from its bytes. -/
lemma decodeText_encodeText_print (value : Json) :
    decodeText (encodeText (Json.print format value)) = Json.print format value := by
  obtain ⟨c, t, hprint, -, hascii, -⟩ := Json.print_head format value
  rw [encodeText, decodeText, Utf8.decode_encode, hprint]
  split
  · rename_i rest heq
    cases heq
    simp at hascii
  · rfl

variable {nonce : List UInt8} {value : Json}

/-- **What was encrypted is decrypted**, without the members that others replace. -/
theorem openText_sealText (h : Sealed cipher format sessionKey nonce value) :
    openText cipher format sessionKey nonce (sealText cipher format sessionKey nonce value) =
      some value.normalize := by
  rw [openText, sealText, Base64Url.fromBase64Url_toBase64Url, Option.bind_some,
    cipher.decrypt_encrypt h, Option.bind_some, decodeText_encodeText_print, Json.parse_print]

/-- What is decrypted was encrypted. -/
lemma authentic_of_openText {text : String} (h : openText cipher format sessionKey nonce text = some value) :
    Authentic cipher format sessionKey value := by
  obtain ⟨ciphertext, -, h⟩ := Option.bind_eq_some_iff.mp h
  obtain ⟨plaintext, hdecrypt, hparse⟩ := Option.bind_eq_some_iff.mp h
  exact ⟨nonce, plaintext, cipher.made_of_decrypt hdecrypt, hparse⟩

/-- Characters are at most as many as their bytes. -/
private lemma length_le_encodeText (text : List Char) : text.length ≤ (encodeText text).length := by
  rw [encodeText, Utf8.encode, List.length_flatMap]
  calc text.length = (text.map fun _ => 1).sum := by simp
    _ ≤ (text.map fun c => (String.utf8EncodeChar c).length).sum :=
      List.sum_le_sum fun c _ => by
        rw [String.length_utf8EncodeChar]
        exact Char.utf8Size_pos c

/-- A text is at most as long as its string literal. -/
private lemma length_le_printString (text : List Char) : text.length ≤ (Json.printString text).length := by
  have hescape : ∀ c ∈ text, 1 ≤ (Json.escapeChar c).length := by
    intro c _
    unfold Json.escapeChar
    split_ifs <;> simp
  rw [Json.printString, List.length_append, List.length_flatMap]
  calc text.length = (text.map fun _ => 1).sum := by simp
    _ ≤ (text.map fun c => (Json.escapeChar c).length).sum := List.sum_le_sum hescape
    _ ≤ _ := Nat.le_add_right _ _

/-- **No value is its own ciphertext**: the ciphertext is longer than the value's text. -/
theorem sealText_ne (nonce : List UInt8) (value : Json) :
    Json.str (sealText cipher format sessionKey nonce value) ≠ value := by
  intro heq
  obtain ⟨text, htext⟩ : ∃ text, value = .str text := ⟨_, heq.symm⟩
  rw [htext] at heq
  have hlength : (sealText cipher format sessionKey nonce (.str text)).toList.length =
      text.toList.length := by
    rw [Json.str.inj heq]
  have hbase := Base64Url.length_le
    (cipher.encrypt sessionKey nonce (encodeText (Json.print format (.str text))))
  have hcipher := cipher.length_encrypt sessionKey nonce (encodeText (Json.print format (.str text)))
  have hbytes := length_le_encodeText (Json.print format (.str text))
  have hprint := length_le_printString text.toList
  rw [Json.print, List.length_cons] at hbytes
  rw [sealText] at hlength
  rw [Json.print] at hcipher hbase hlength
  omega

/-! ### Encrypting -/

/-- The marker of an encrypted message. -/
def metadata (nonce : List UInt8) : Json :=
  .obj [("nonce", .str (Base64Url.toBase64Url nonce)), ("v", .num 1)]

/-- Encrypt a field if a guard admits it and it is there. -/
def encryptField (field : Field) (guard : Bool) (nonce : List UInt8) (message result : Members) :
    Members :=
  match guard, field.of message with
  | true, some value =>
    Json.assign "e2e" (metadata nonce)
      (Json.assign field.key (.str (sealText cipher format sessionKey nonce value)) result)
  | _, _ => result

def encryptPayloadField (nonce : List UInt8) (message result : Members) : Members :=
  encryptField cipher format sessionKey .payload true nonce message result

def encryptResultField (nonce : List UInt8) (message result : Members) : Members :=
  encryptField cipher format sessionKey .result
    (typeOf message = some "response" && (Field.error.of message).isNone) nonce message result

def encryptResultsField (nonce : List UInt8) (message result : Members) : Members :=
  encryptField cipher format sessionKey .results
    (typeOf message = some "broadcast-response" && (Field.error.of message).isNone) nonce message result

def encryptErrorField (nonce : List UInt8) (message result : Members) : Members :=
  encryptField cipher format sessionKey .error (isResponse message) nonce message result

/-- `encryptMessage`, with the nonces that are drawn for its fields. -/
def encryptMessage (nonces : Field → List UInt8) (message : Members) : Members :=
  let result := encryptPayloadField cipher format sessionKey (nonces .payload) message message
  let result := encryptResultField cipher format sessionKey (nonces .result) message result
  let result := encryptResultsField cipher format sessionKey (nonces .results) message result
  encryptErrorField cipher format sessionKey (nonces .error) message result

/-- Whether a field of a message is encrypted. -/
def isEncrypted (message : Members) (field : Field) : Bool :=
  (field.of message).isSome && match field with
    | .payload => true
    | .result => typeOf message = some "response" && (Field.error.of message).isNone
    | .results => typeOf message = some "broadcast-response" && (Field.error.of message).isNone
    | .error => isResponse message

/-- The members after the encryption of a field. -/
lemma lookup_encryptField (k : String) (field : Field) (nonce : List UInt8) (message result : Members) :
    Json.lookup k
        (encryptField cipher format sessionKey field (isEncrypted message field) nonce message result) =
      if isEncrypted message field = true then
        if k = "e2e" then some (metadata nonce)
        else if k = field.key then
          (field.of message).map fun value => .str (sealText cipher format sessionKey nonce value)
        else Json.lookup k result
      else Json.lookup k result := by
  unfold encryptField
  cases hencrypted : isEncrypted message field with
  | false => simp
  | true =>
    cases hvalue : field.of message with
    | none => simp [isEncrypted, hvalue] at hencrypted
    | some value => simp

/-- A field is encrypted alike when the guard also asks whether it is there. -/
private lemma encryptField_guard (field : Field) (guard : Bool) (nonce : List UInt8)
    (message result : Members) (h : isEncrypted message field = ((field.of message).isSome && guard)) :
    encryptField cipher format sessionKey field guard nonce message result =
      encryptField cipher format sessionKey field (isEncrypted message field) nonce message result := by
  rw [h]
  unfold encryptField
  cases field.of message <;> cases guard <;> rfl

section

variable (nonces : Field → List UInt8) (message : Members)
include nonces message

/-- A message is encrypted field by field. -/
lemma encryptMessage_eq :
    encryptMessage cipher format sessionKey nonces message = [Field.payload, .result, .results, .error].foldl
        (fun result field => encryptField cipher format sessionKey field (isEncrypted message field)
          (nonces field) message result) message := by
  unfold encryptMessage encryptPayloadField encryptResultField encryptResultsField encryptErrorField
  dsimp only
  rw [encryptField_guard cipher format sessionKey .payload true _ _ _ rfl,
    encryptField_guard cipher format sessionKey .result _ _ _ _ rfl,
    encryptField_guard cipher format sessionKey .results _ _ _ _ rfl,
    encryptField_guard cipher format sessionKey .error _ _ _ _ rfl]
  rfl

/-- **The fields of an encrypted message.** -/
theorem lookup_encryptMessage (field : Field) :
    field.of (encryptMessage cipher format sessionKey nonces message) =
      if isEncrypted message field then (field.of message).map fun value =>
        .str (sealText cipher format sessionKey (nonces field) value)
      else field.of message := by
  rw [encryptMessage_eq, Field.of]
  simp only [List.foldl_cons, List.foldl_nil, lookup_encryptField, field.key_ne_e2e, if_false]
  cases field <;> simp [Field.key, Field.of]

/-- The other members of an encrypted message are those of the message. -/
lemma lookup_encryptMessage_other {k : String}
    (hmarker : k ≠ "e2e") (hfield : ∀ field : Field, k ≠ field.key) :
    Json.lookup k (encryptMessage cipher format sessionKey nonces message) = Json.lookup k message := by
  rw [encryptMessage_eq]
  simp only [List.foldl_cons, List.foldl_nil, lookup_encryptField, if_neg hmarker, if_neg (hfield _),
    ite_self]

/-- The marker of a message of which one field is encrypted. -/
lemma lookup_encryptMessage_marker {field : Field} (hfield : isEncrypted message field = true)
    (honly : ∀ other, isEncrypted message other = true → other = field) :
    Json.lookup "e2e" (encryptMessage cipher format sessionKey nonces message) =
      some (metadata (nonces field)) := by
  have hother : ∀ other, other ≠ field → isEncrypted message other = false := fun other hne =>
    Bool.eq_false_iff.mpr fun h => hne (honly other h)
  rw [encryptMessage_eq]
  simp only [List.foldl_cons, List.foldl_nil, lookup_encryptField, if_true]
  cases field <;> simp [hfield, hother]

/-- A message of which no field is encrypted has no marker but its own. -/
lemma lookup_encryptMessage_unmarked (h : ∀ field, isEncrypted message field = false) :
    Json.lookup "e2e" (encryptMessage cipher format sessionKey nonces message) =
      Json.lookup "e2e" message := by
  rw [encryptMessage_eq]
  simp only [List.foldl_cons, List.foldl_nil, lookup_encryptField]
  simp [h]

end

/-! ### Decrypting -/

/-- Whether a value counts as true. -/
def isTruthy : Json → Bool
  | .null => false
  | .bool b => b
  | .num n => n ≠ 0
  | .str s => s ≠ ""
  | .arr _ => true
  | .obj _ => true

/-- Decrypt a field if a guard admits it and it is a string. -/
def decryptField (field : Field) (guard : Bool) (nonce : List UInt8) (message result : Members) :
    Option Members :=
  match guard, field.of message with
  | true, some (.str text) =>
    (openText cipher format sessionKey nonce text).map fun value => Json.assign field.key value result
  | _, _ => some result

def decryptPayloadField (nonce : List UInt8) (message result : Members) : Option Members :=
  decryptField cipher format sessionKey .payload true nonce message result

def decryptResultField (nonce : List UInt8) (message result : Members) : Option Members :=
  decryptField cipher format sessionKey .result (typeOf message = some "response") nonce message result

def decryptResultsField (nonce : List UInt8) (message result : Members) : Option Members :=
  decryptField cipher format sessionKey .results (typeOf message = some "broadcast-response") nonce
    message result

def decryptErrorField (nonce : List UInt8) (message result : Members) : Option Members :=
  decryptField cipher format sessionKey .error (isResponse message) nonce message result

/-- The nonce of a message, if its marker has one that is base64. -/
def nonceOf (message : Members) : Option (List UInt8) :=
  (((Json.lookup "e2e" message).bind (Json.member? "nonce")).bind Json.str?).bind
    Base64Url.fromBase64Url

/-- Whether a message is marked as encrypted. -/
def isMarked (message : Members) : Bool := (Json.lookup "e2e" message).any isTruthy

/-- `decryptMessage`; `none` when it throws. -/
def decryptMessage (message : Members) : Option Members :=
  if !isMarked message then some message
  else do
    let result := Json.erase "e2e" message
    let nonce ← nonceOf message
    let result ← decryptPayloadField cipher format sessionKey nonce message result
    let result ← decryptResultField cipher format sessionKey nonce message result
    let result ← decryptResultsField cipher format sessionKey nonce message result
    decryptErrorField cipher format sessionKey nonce message result

/-- Whether a field is decrypted in a message of this type. -/
def isDecrypted (message : Members) : Field → Bool
  | .payload => true
  | .result => typeOf message = some "response"
  | .results => typeOf message = some "broadcast-response"
  | .error => isResponse message

/-- The text of a field that is decrypted. -/
def contentText (message : Members) (field : Field) : Option String :=
  if isDecrypted message field then (field.of message).bind Json.str? else none

/-- Fields are decrypted one after another. -/
def decryptFields (nonce : List UInt8) (message : Members) : List Field → Members → Option Members
  | [], result => some result
  | field :: fields, result =>
    (decryptField cipher format sessionKey field (isDecrypted message field) nonce message result).bind
      (decryptFields nonce message fields)

/-- A marked message is decrypted field by field. -/
lemma decryptMessage_eq (message : Members) (h : isMarked message = true) :
    decryptMessage cipher format sessionKey message =
      (nonceOf message).bind fun nonce => decryptFields cipher format sessionKey nonce message
        [.payload, .result, .results, .error] (Json.erase "e2e" message) := by
  unfold decryptMessage decryptPayloadField decryptResultField decryptResultsField decryptErrorField
  rw [h]
  simp [decryptFields, isDecrypted, Option.bind_fun_some]

/-- A field with a text is decrypted, or the message is rejected; the other ones are left. -/
lemma decryptField_eq (field : Field) (nonce : List UInt8) (message result : Members) :
    decryptField cipher format sessionKey field (isDecrypted message field) nonce message result =
      match contentText message field with
      | some text => (openText cipher format sessionKey nonce text).map fun value =>
          Json.assign field.key value result
      | none => some result := by
  unfold decryptField contentText
  cases isDecrypted message field with
  | false => rfl
  | true =>
    cases field.of message with
    | none => rfl
    | some value => cases value <;> rfl

/-- Decrypting fields succeeds if their texts can be opened; it gives these fields their values and leaves
the other members. -/
lemma decryptFields_eq_some {message : Members} {fields : List Field} (hnodup : fields.Nodup)
    (result : Members) :
    (∀ out, decryptFields cipher format sessionKey nonce message fields result = some out →
      (∀ field ∈ fields, ∀ text, contentText message field = some text →
        ∃ value, openText cipher format sessionKey nonce text = some value ∧
          field.of out = some value) ∧
      ∀ k, (∀ field ∈ fields, contentText message field ≠ none → k ≠ field.key) →
        Json.lookup k out = Json.lookup k result) ∧
    ((∀ field ∈ fields, ∀ text, contentText message field = some text →
        openText cipher format sessionKey nonce text ≠ none) →
      decryptFields cipher format sessionKey nonce message fields result ≠ none) := by
  induction fields generalizing result with
  | nil =>
    refine ⟨fun out hout => ?_, fun _ => by simp [decryptFields]⟩
    cases hout
    exact ⟨by simp, fun _ _ => rfl⟩
  | cons field fields ih =>
    obtain ⟨hfresh, hnodup⟩ := List.nodup_cons.mp hnodup
    have hkeys : ∀ other ∈ fields, field.key ≠ other.key := fun other hother heq =>
      hfresh (Field.key_injective heq ▸ hother)
    rw [decryptFields, decryptField_eq]
    cases hcontent : contentText message field with
    | none =>
      obtain ⟨ih, ihsome⟩ := ih hnodup result
      dsimp only [Option.bind_some]
      refine ⟨fun out hout => ?_, fun hopen => ihsome fun other hother =>
        hopen other (List.mem_cons_of_mem _ hother)⟩
      obtain ⟨hopened, hleft⟩ := ih out hout
      refine ⟨fun other hother text htext => ?_, fun k hk => hleft k fun other hother =>
        hk other (List.mem_cons_of_mem _ hother)⟩
      rcases List.mem_cons.mp hother with rfl | hother
      · rw [hcontent] at htext
        cases htext
      · exact hopened other hother text htext
    | some text =>
      dsimp only
      cases hvalue : openText cipher format sessionKey nonce text with
      | none =>
        refine ⟨fun out hout => by simp at hout, fun hopen => ?_⟩
        exact absurd hvalue (hopen field List.mem_cons_self text hcontent)
      | some value =>
        obtain ⟨ih, ihsome⟩ := ih hnodup (Json.assign field.key value result)
        dsimp only [Option.map_some, Option.bind_some]
        refine ⟨fun out hout => ?_, fun hopen => ihsome fun other hother =>
          hopen other (List.mem_cons_of_mem _ hother)⟩
        obtain ⟨hopened, hleft⟩ := ih out hout
        refine ⟨fun other hother t ht => ?_, fun k hk => ?_⟩
        · rcases List.mem_cons.mp hother with rfl | hother
          · obtain rfl : text = t := Option.some.inj (hcontent.symm.trans ht)
            refine ⟨value, hvalue, ?_⟩
            rw [Field.of, hleft _ fun g hg _ => hkeys g hg, Json.lookup_assign, if_pos rfl]
          · exact hopened other hother t ht
        · rw [hleft k fun g hg => hk g (List.mem_cons_of_mem _ hg), Json.lookup_assign,
            if_neg (hk field List.mem_cons_self (by rw [hcontent]; simp))]

/-- **When a marked message is decrypted**: its nonce is base64 and the texts of its fields can be
opened. -/
theorem decryptMessage_ne_none (message : Members) (h : isMarked message = true) :
    decryptMessage cipher format sessionKey message ≠ none ↔
      ∃ nonce, nonceOf message = some nonce ∧ ∀ field text, contentText message field = some text →
        openText cipher format sessionKey nonce text ≠ none := by
  have hnodup : [Field.payload, .result, .results, .error].Nodup := by decide
  have hall : ∀ field : Field, field ∈ [Field.payload, .result, .results, .error] := by
    intro field
    cases field <;> decide
  rw [decryptMessage_eq cipher format sessionKey message h]
  cases hnonce : nonceOf message with
  | none => simp
  | some nonce =>
    rw [Option.bind_some]
    constructor
    · intro hsome
      obtain ⟨out, hout⟩ := Option.ne_none_iff_exists'.mp hsome
      obtain ⟨hopened, -⟩ := (decryptFields_eq_some cipher format sessionKey hnodup _).1 out hout
      refine ⟨nonce, rfl, fun field text htext => ?_⟩
      obtain ⟨value, hvalue, -⟩ := hopened field (hall field) text htext
      rw [hvalue]
      simp
    · rintro ⟨nonce', hnonce', hopen⟩
      cases hnonce'
      exact (decryptFields_eq_some cipher format sessionKey hnodup _).2 fun field _ => hopen field

/-- **The members of a decrypted message**: its texts are opened with its nonce, the marker is dropped,
and the rest is left. -/
theorem decryptMessage_eq_some {message out : Members} (h : isMarked message = true)
    (hout : decryptMessage cipher format sessionKey message = some out) :
    ∃ nonce, nonceOf message = some nonce ∧
      (∀ field text, contentText message field = some text →
        ∃ value, openText cipher format sessionKey nonce text = some value ∧ field.of out = some value) ∧
      ∀ k, (∀ field, contentText message field ≠ none → k ≠ field.key) →
        Json.lookup k out = if k = "e2e" then none else Json.lookup k message := by
  have hnodup : [Field.payload, .result, .results, .error].Nodup := by decide
  have hall : ∀ field : Field, field ∈ [Field.payload, .result, .results, .error] := by
    intro field
    cases field <;> decide
  rw [decryptMessage_eq cipher format sessionKey message h] at hout
  obtain ⟨nonce, hnonce, hout⟩ := Option.bind_eq_some_iff.mp hout
  obtain ⟨hopened, hleft⟩ := (decryptFields_eq_some cipher format sessionKey hnodup _).1 out hout
  refine ⟨nonce, hnonce, fun field => hopened field (hall field), fun k hk => ?_⟩
  rw [hleft k fun field _ => hk field, Json.lookup_erase]

end Makaio.E2E

import Makaio.Foundations.Utf16

set_option autoImplicit false

/-!
# Extension names as path segments

An extension's data directory and its operator configuration are named after it.  The name is written
as one path segment: the bytes of its UTF-8 form that are lowercase letters, digits, `.`, `_` or `-`
stand for themselves, any other byte is a percent sign and two hexadecimal digits, and so is a dot at
either end.  Reading a segment back is strict: it must be what its name is written as.

## Main definitions

* `encodeExtensionNameAsPathSegment`, `decodeExtensionNamePathSegment` — the codec.
* `foldCase` — how a file system that ignores case compares segments.
* `SafeSegment` — what makes a string usable as a path segment on every host.

## Main results

* `pathSegment_bijective` — names and segments correspond one to one, also where case
  is ignored, and every segment is safe.
-/

namespace Makaio.Extensions

open Foundations

/-! ### The codec -/

/-- The code unit of a dot. -/
def dot : UInt16 := 0x2E

/-- The code unit of a percent sign. -/
def percent : UInt16 := 0x25

/-- `EXTENSION_NAME_PATH_SEGMENT_UNRESERVED`, `/^[a-z0-9._-]$/`. -/
def isUnreserved (u : UInt16) : Bool :=
  (0x61 ≤ u.toNat && u.toNat ≤ 0x7A) || (0x30 ≤ u.toNat && u.toNat ≤ 0x39) ||
    u.toNat = 0x2E || u.toNat = 0x5F || u.toNat = 0x2D

/-- `EXTENSION_OPERATOR_CONFIG_FILE_SUFFIX`, `.json`. -/
def operatorConfigFileSuffix : Utf16 := [0x2E, 0x6A, 0x73, 0x6F, 0x6E]

/-- `MAX_OPERATOR_CONFIG_FILE_NAME_BYTES`. -/
def maxOperatorConfigFileNameBytes : ℕ := 255

/-- `DOT_SEGMENTS`. -/
def dotSegments : List Utf16 := [[dot], [dot, dot]]

/-- `WINDOWS_RESERVED_DEVICE_BASENAMES`. -/
def windowsReservedDeviceBasenames : List Utf16 :=
  ["CON", "PRN", "AUX", "NUL", "COM1", "COM2", "COM3", "COM4", "COM5", "COM6", "COM7", "COM8", "COM9",
    "LPT1", "LPT2", "LPT3", "LPT4", "LPT5", "LPT6", "LPT7", "LPT8", "LPT9"].map
    fun name => Utf16.ofChars name.toList

/-- `toUpperCase` of a unit, as far as it matters here: the upper case of no other unit consists of
letters and digits of `windowsReservedDeviceBasenames`. -/
def toUpper (u : UInt16) : UInt16 :=
  if 0x61 ≤ u.toNat ∧ u.toNat ≤ 0x7A then UInt16.ofNat (u.toNat - 0x20) else u

/-- A name up to its first dot. -/
def basename (name : Utf16) : Utf16 := name.takeWhile fun u => u ≠ dot

def isWindowsReservedDeviceName (name : Utf16) : Bool :=
  (basename name).map toUpper ∈ windowsReservedDeviceBasenames

def isAddressableExtensionName (name : Utf16) : Bool :=
  if name.length = 0 ∨ name ∈ dotSegments then false
  else if isWindowsReservedDeviceName name then false
  else name.isWellFormed

/-- `TextEncoder.encode`. -/
def textEncode (name : Utf16) : List UInt8 := name.chars.flatMap String.utf8EncodeChar

/-- An uppercase hexadecimal digit. -/
def hexDigit (n : ℕ) : UInt16 := UInt16.ofNat (if n < 10 then 0x30 + n else 0x37 + n)

/-- What stands for a byte: itself, or its escape. -/
def encodeByte (isEdge : Bool) (byte : UInt8) : Utf16 :=
  let char : UInt16 := byte.toUInt16
  if isUnreserved char && !(isEdge && char = dot) then [char]
  else [percent, hexDigit (byte.toNat / 16), hexDigit (byte.toNat % 16)]

/-- The segment that bytes are written as, from the byte at an index on. -/
def encodeBytes (lastIndex : ℕ) : ℕ → List UInt8 → Utf16
  | _, [] => []
  | index, byte :: bytes =>
    encodeByte (index = 0 || index = lastIndex) byte ++ encodeBytes lastIndex (index + 1) bytes

def encodeExtensionNameAsPathSegment (name : Utf16) : Option Utf16 :=
  if isAddressableExtensionName name then
    let bytes := textEncode name
    let segment := encodeBytes (bytes.length - 1) 0 bytes
    if segment.length + operatorConfigFileSuffix.length > maxOperatorConfigFileNameBytes then none
    else some segment
  else none

/-- The value of a hexadecimal digit of either case. -/
def hexValue? (u : UInt16) : Option ℕ :=
  if 0x30 ≤ u.toNat ∧ u.toNat ≤ 0x39 then some (u.toNat - 0x30)
  else if 0x41 ≤ u.toNat ∧ u.toNat ≤ 0x46 then some (u.toNat - 0x37)
  else if 0x61 ≤ u.toNat ∧ u.toNat ≤ 0x66 then some (u.toNat - 0x57)
  else none

def readEncodedBytes : Utf16 → Option (List UInt8)
  | [] => some []
  | u :: rest =>
    if u ≠ percent then
      if isUnreserved u then (readEncodedBytes rest).map (u.toUInt8 :: ·) else none
    else
      match rest with
      | v :: w :: rest =>
        match hexValue? v, hexValue? w with
        | some high, some low =>
          (readEncodedBytes rest).map (UInt8.ofNat (16 * high + low) :: ·)
        | _, _ => none
      | _ => none

/-- `TextDecoder.decode` with `fatal` and `ignoreBOM`. -/
def textDecode (bytes : List UInt8) : Option Utf16 :=
  bytes.toByteArray.utf8Decode?.map fun chars => Utf16.ofChars chars.toList

def decodeExtensionNamePathSegment (segment : Utf16) : Option Utf16 :=
  match readEncodedBytes segment with
  | none => none
  | some bytes =>
    match textDecode bytes with
    | none => none
    | some name => if encodeExtensionNameAsPathSegment name = some segment then some name else none

/-! ### What a segment is -/

/-- A unit as a comparison that ignores ASCII case sees it. -/
def foldUnit (u : UInt16) : UInt16 :=
  if 0x41 ≤ u.toNat ∧ u.toNat ≤ 0x5A then UInt16.ofNat (u.toNat + 0x20) else u

/-- A string as a comparison that ignores ASCII case sees it. -/
def foldCase (s : Utf16) : Utf16 := s.map foldUnit

/-- An uppercase hexadecimal digit. -/
def IsHexDigit (u : UInt16) : Prop :=
  0x30 ≤ u.toNat ∧ u.toNat ≤ 0x39 ∨ 0x41 ≤ u.toNat ∧ u.toNat ≤ 0x46

/-- Lowercase letters, digits, `.`, `_` and `-`, and percent signs with two uppercase digits. -/
inductive SegmentText : Utf16 → Prop
  | nil : SegmentText []
  | verbatim {u : UInt16} {s : Utf16} : isUnreserved u = true → SegmentText s → SegmentText (u :: s)
  | escape {high low : UInt16} {s : Utf16} : IsHexDigit high → IsHexDigit low → SegmentText s →
      SegmentText (percent :: high :: low :: s)

/-- What makes a string usable as one path component on every host. -/
structure SafeSegment (s : Utf16) : Prop where
  nonempty : s ≠ []
  text : SegmentText s
  /-- no slash and no backslash -/
  single : 0x2F ∉ s ∧ 0x5C ∉ s
  firstUnit : s.head? ≠ some dot
  lastUnit : s.getLast? ≠ some dot
  notDevice : isWindowsReservedDeviceName s = false
  fits : s.length + operatorConfigFileSuffix.length ≤ maxOperatorConfigFileNameBytes

/-! ### Bytes and units -/

variable {b : UInt8} {bytes : List UInt8} {name segment : Utf16}

/-- The digits of a byte are hexadecimal digits. -/
lemma isHexDigit_hexDigit : ∀ n < 16, IsHexDigit (hexDigit n) := by
  unfold IsHexDigit
  decide

/-- A digit is read back. -/
lemma hexValue?_hexDigit : ∀ n < 16, hexValue? (hexDigit n) = some n := by decide

/-- A digit is read back where case is ignored. -/
lemma hexValue?_foldUnit : ∀ n < 16, hexValue? (foldUnit (hexDigit n)) = some n := by decide

/-- The two digits of a byte. -/
lemma digits_lt (b : UInt8) : b.toNat / 16 < 16 ∧ b.toNat % 16 < 16 := by
  have := b.toNat_lt
  omega

/-- The digits make the byte. -/
lemma ofNat_digits (b : UInt8) : UInt8.ofNat (16 * (b.toNat / 16) + b.toNat % 16) = b := by
  rw [Nat.div_add_mod, UInt8.ofNat_toNat]

variable {u : UInt16} {rest : Utf16} {lastIndex : ℕ}

/-- An unreserved unit is no percent sign. -/
lemma ne_percent (h : isUnreserved u = true) : u ≠ percent := by
  rintro rfl
  cases h

/-- An unreserved unit is no uppercase letter. -/
lemma foldUnit_unreserved (h : isUnreserved u = true) : foldUnit u = u := by
  rw [foldUnit, if_neg]
  simp only [isUnreserved, Bool.or_eq_true, Bool.and_eq_true, decide_eq_true_eq] at h
  omega

/-- What stands for a byte: itself if it is unreserved and no dot at an end, or its escape. -/
lemma encodeByte_cases (isEdge : Bool) (b : UInt8) :
    encodeByte isEdge b = [b.toUInt16] ∧ isUnreserved b.toUInt16 = true ∧
        (isEdge = true → b.toUInt16 ≠ dot) ∨
      encodeByte isEdge b = [percent, hexDigit (b.toNat / 16), hexDigit (b.toNat % 16)] := by
  unfold encodeByte
  dsimp only
  split_ifs with h
  · rw [Bool.and_eq_true, Bool.not_eq_true', Bool.and_eq_false_iff] at h
    refine .inl ⟨rfl, h.1, fun hedge => ?_⟩
    rcases h.2 with h | h
    · rw [hedge] at h
      cases h
    · exact of_decide_eq_false h
  · exact .inr rfl

/-- A byte that stands for itself is read back. -/
lemma readEncodedBytes_verbatim (h : isUnreserved b.toUInt16 = true) :
    readEncodedBytes (b.toUInt16 :: rest) = (readEncodedBytes rest).map (b :: ·) := by
  rw [readEncodedBytes.eq_def]
  dsimp only
  rw [if_pos (ne_percent h), if_pos h, UInt8.toUInt8_toUInt16]

/-- An escaped byte is read back. -/
lemma readEncodedBytes_escape {high low : UInt16} (hhigh : hexValue? high = some (b.toNat / 16))
    (hlow : hexValue? low = some (b.toNat % 16)) :
    readEncodedBytes (percent :: high :: low :: rest) = (readEncodedBytes rest).map (b :: ·) := by
  rw [readEncodedBytes, if_neg (not_not.mpr rfl)]
  simp only [hhigh, hlow, ofNat_digits]

/-! ### The bytes of a segment -/

/-- **The bytes are read back** from what they are written as. -/
lemma readEncodedBytes_encodeBytes (lastIndex index : ℕ) (bytes : List UInt8) :
    readEncodedBytes (encodeBytes lastIndex index bytes) = some bytes := by
  induction bytes generalizing index with
  | nil => rfl
  | cons b bytes ih =>
    rw [encodeBytes]
    rcases encodeByte_cases (index = 0 || index = lastIndex) b with ⟨h, hu, -⟩ | h
    · rw [h, List.singleton_append, readEncodedBytes_verbatim hu, ih, Option.map_some]
    · have hdigits := digits_lt b
      rw [h]
      simp only [List.cons_append, List.nil_append]
      rw [readEncodedBytes_escape (hexValue?_hexDigit _ hdigits.1) (hexValue?_hexDigit _ hdigits.2),
        ih, Option.map_some]

/-- The bytes are read back also where case is ignored: only the digits of escapes are folded. -/
lemma readEncodedBytes_foldCase (lastIndex index : ℕ) (bytes : List UInt8) :
    readEncodedBytes (foldCase (encodeBytes lastIndex index bytes)) = some bytes := by
  induction bytes generalizing index with
  | nil => rfl
  | cons b bytes ih =>
    rw [encodeBytes, foldCase, List.map_append, ← foldCase, ← foldCase]
    rcases encodeByte_cases (index = 0 || index = lastIndex) b with ⟨h, hu, -⟩ | h
    · rw [h, foldCase, List.map_singleton, foldUnit_unreserved hu, List.singleton_append,
        readEncodedBytes_verbatim hu, ih, Option.map_some]
    · have hdigits := digits_lt b
      have hpercent : foldUnit percent = percent := by decide
      rw [h]
      simp only [foldCase, List.map_cons, List.map_nil, List.cons_append, List.nil_append, hpercent]
      rw [readEncodedBytes_escape (hexValue?_foldUnit _ hdigits.1) (hexValue?_foldUnit _ hdigits.2),
        ← foldCase, ih, Option.map_some]

lemma segmentText_encodeBytes (lastIndex index : ℕ) (bytes : List UInt8) :
    SegmentText (encodeBytes lastIndex index bytes) := by
  induction bytes generalizing index with
  | nil => exact .nil
  | cons b bytes ih =>
    rw [encodeBytes]
    rcases encodeByte_cases (index = 0 || index = lastIndex) b with ⟨h, hu, -⟩ | h
    · rw [h]
      exact .verbatim hu (ih _)
    · have hdigits := digits_lt b
      rw [h]
      exact .escape (isHexDigit_hexDigit _ hdigits.1) (isHexDigit_hexDigit _ hdigits.2) (ih _)

/-- A text has no unit that is neither unreserved nor of an escape. -/
lemma SegmentText.not_mem (h : SegmentText segment) (hu : isUnreserved u = false) (hpercent : u ≠ percent)
    (hdigit : ¬IsHexDigit u) : u ∉ segment := by
  induction h with
  | nil => exact List.not_mem_nil
  | verbatim hv _ ih =>
    rintro (_ | ⟨_, hmem⟩)
    · rw [hu] at hv
      cases hv
    · exact ih hmem
  | escape hhigh hlow _ ih =>
    rintro (_ | ⟨_, _ | ⟨_, _ | ⟨_, hmem⟩⟩⟩)
    · exact hpercent rfl
    · exact hdigit hhigh
    · exact hdigit hlow
    · exact ih hmem

/-- What stands for a byte at an end is not a dot. -/
lemma encodeByte_edge (b : UInt8) :
    (encodeByte true b).head? ≠ some dot ∧ (encodeByte true b).getLast? ≠ some dot := by
  rcases encodeByte_cases true b with ⟨h, -, hdot⟩ | h
  · rw [h]
    exact ⟨fun heq => hdot rfl (Option.some.inj heq), fun heq => hdot rfl (Option.some.inj heq)⟩
  · rw [h]
    have hlast : ∀ n < 16, hexDigit n ≠ dot := by decide
    exact ⟨fun heq => absurd (Option.some.inj heq) (by decide),
      fun heq => hlast _ (digits_lt b).2 (Option.some.inj heq)⟩

/-- What stands for a byte is not empty. -/
lemma encodeByte_ne_nil (isEdge : Bool) (b : UInt8) : encodeByte isEdge b ≠ [] := by
  rcases encodeByte_cases isEdge b with ⟨h, -⟩ | h
  · rw [h]
    exact List.cons_ne_nil _ _
  · rw [h]
    exact List.cons_ne_nil _ _

/-- A segment does not end with a dot. -/
lemma getLast?_encodeBytes (index : ℕ) (b : UInt8) (bytes : List UInt8) :
    (encodeBytes (index + bytes.length) index (b :: bytes)).getLast? ≠ some dot := by
  induction bytes generalizing index b with
  | nil => simpa [encodeBytes] using (encodeByte_edge b).2
  | cons c bytes ih =>
    have hne : encodeBytes (index + (c :: bytes).length) (index + 1) (c :: bytes) ≠ [] := by
      rw [encodeBytes]
      exact List.append_ne_nil_of_left_ne_nil (encodeByte_ne_nil _ _) _
    rw [encodeBytes, List.getLast?_append_of_ne_nil _ hne]
    have := ih (index + 1) c
    rwa [show index + 1 + bytes.length = index + (c :: bytes).length by
      rw [List.length_cons]; omega] at this

/-! ### Device names -/

/-- The bytes before the first dot. -/
def bytesBeforeDot (bytes : List UInt8) : List UInt8 :=
  bytes.takeWhile fun b => b.toUInt16 ≠ dot

/-- Where a segment has no escape before its first dot, it starts with the bytes before the first dot,
and these are ASCII. -/
lemma basename_encodeBytes {index : ℕ} (h : percent ∉ basename (encodeBytes lastIndex index bytes)) :
    basename (encodeBytes lastIndex index bytes) = (bytesBeforeDot bytes).map UInt8.toUInt16 ∧
      ∀ b ∈ bytesBeforeDot bytes, b.toNat < 0x80 := by
  induction bytes generalizing index with
  | nil => exact ⟨rfl, by simp [bytesBeforeDot]⟩
  | cons b bytes ih =>
    rw [encodeBytes] at h ⊢
    rcases encodeByte_cases (index = 0 || index = lastIndex) b with ⟨hb, hu, -⟩ | hb
    · rw [hb] at h ⊢
      rw [List.singleton_append] at h ⊢
      by_cases hdot : b.toUInt16 = dot
      · simp [basename, bytesBeforeDot, hdot]
      · have hascii : b.toNat < 0x80 := by
          simp only [isUnreserved, Bool.or_eq_true, Bool.and_eq_true, decide_eq_true_eq,
            UInt8.toNat_toUInt16] at hu
          omega
        rw [basename, List.takeWhile_cons_of_pos (by simpa using hdot), ← basename] at h ⊢
        rw [bytesBeforeDot, List.takeWhile_cons_of_pos (by simpa using hdot), ← bytesBeforeDot]
        obtain ⟨heq, hall⟩ := ih (fun hmem => h (List.mem_cons_of_mem _ hmem))
        refine ⟨by rw [heq, List.map_cons], ?_⟩
        rintro c (_ | ⟨_, hc⟩)
        · exact hascii
        · exact hall c hc
    · refine absurd ?_ h
      rw [hb]
      simp only [List.cons_append]
      rw [basename, List.takeWhile_cons_of_pos (by decide)]
      exact List.mem_cons_self

/-- The bytes of a character: one byte for ASCII, otherwise the first is no ASCII byte. -/
lemma utf8EncodeChar_cases (c : Char) :
    c.toNat < 0x80 ∧ String.utf8EncodeChar c = [UInt8.ofNat c.toNat] ∨
      0x80 ≤ c.toNat ∧ ∃ b rest, String.utf8EncodeChar c = b :: rest ∧ 0x80 ≤ b.toNat := by
  have hc := c.valid
  simp only [UInt32.isValidChar, Nat.isValidChar] at hc
  unfold String.utf8EncodeChar
  simp only [Char.toNat]
  split_ifs
  · exact .inl ⟨by omega, rfl⟩
  all_goals
    refine .inr ⟨by omega, _, _, rfl, ?_⟩
    simp only [UInt8.toNat_ofNat']
    omega

/-- A name whose bytes before the first dot are ASCII has these before its first dot. -/
lemma basename_ofChars {cs : List Char}
    (h : ∀ b ∈ bytesBeforeDot (cs.flatMap String.utf8EncodeChar), b.toNat < 0x80) :
    basename (Utf16.ofChars cs) =
      (bytesBeforeDot (cs.flatMap String.utf8EncodeChar)).map UInt8.toUInt16 := by
  induction cs with
  | nil => rfl
  | cons c cs ih =>
    rw [List.flatMap_cons] at h ⊢
    rcases utf8EncodeChar_cases c with ⟨hc, hbytes⟩ | ⟨-, b, rest, hbytes, hb⟩
    · have hunit : (UInt8.ofNat c.toNat).toUInt16 = UInt16.ofNat c.toNat := by
        rw [← UInt16.toNat_inj]
        simp only [UInt8.toNat_toUInt16, UInt8.toNat_ofNat', UInt16.toNat_ofNat']
        omega
      rw [hbytes, List.singleton_append] at h ⊢
      rw [Utf16.ofChars_cons, Utf16.ofChar, if_pos (by omega), List.singleton_append]
      by_cases hdot : UInt16.ofNat c.toNat = dot
      · simp [basename, bytesBeforeDot, hunit, hdot]
      · rw [bytesBeforeDot, List.takeWhile_cons_of_pos (by simpa [hunit] using hdot),
          ← bytesBeforeDot] at h ⊢
        rw [basename, List.takeWhile_cons_of_pos (by simpa using hdot), ← basename,
          ih fun b hb => h b (List.mem_cons_of_mem _ hb), List.map_cons, hunit]
    · have hdot : b.toUInt16 ≠ dot := by
        intro heq
        have := congrArg UInt16.toNat heq
        rw [UInt8.toNat_toUInt16] at this
        have hd : dot.toNat = 0x2E := rfl
        omega
      rw [hbytes, List.cons_append, bytesBeforeDot,
        List.takeWhile_cons_of_pos (by simpa using hdot)] at h
      exact absurd (h b List.mem_cons_self) (by omega)

/-- No device name has a percent sign. -/
lemma percent_not_mem_device {device : Utf16} (h : device ∈ windowsReservedDeviceBasenames) :
    percent ∉ device := by
  have hall : ∀ device ∈ windowsReservedDeviceBasenames, percent ∉ device := by decide
  exact hall device h

/-- A segment is a device name only if its name is one. -/
lemma isWindowsReservedDeviceName_encodeBytes (hname : name.isWellFormed = true)
    (h : isWindowsReservedDeviceName (encodeBytes lastIndex 0 (textEncode name)) = true) :
    isWindowsReservedDeviceName name = true := by
  have hpercent : percent ∉ basename (encodeBytes lastIndex 0 (textEncode name)) := fun hmem =>
    percent_not_mem_device (of_decide_eq_true h)
      (List.mem_map.mpr ⟨percent, hmem, by decide⟩)
  obtain ⟨hsegment, hascii⟩ := basename_encodeBytes hpercent
  have hbase : basename name = basename (encodeBytes lastIndex 0 (textEncode name)) := by
    rw [hsegment]
    conv_lhs => rw [← Utf16.ofChars_chars hname]
    exact basename_ofChars hascii
  rw [isWindowsReservedDeviceName, hbase]
  exact h

/-! ### Names and segments -/

/-- The name is read back from its bytes. -/
lemma textDecode_textEncode (h : name.isWellFormed = true) :
    textDecode (textEncode name) = some name := by
  have hbytes : (textEncode name).toByteArray = name.chars.utf8Encode := rfl
  rw [textDecode, hbytes, List.utf8Decode?_utf8Encode, Option.map_some, List.toList_toArray,
    Utf16.ofChars_chars h]

/-- What is known of a name with a segment, and the segment. -/
lemma encode_spec (h : encodeExtensionNameAsPathSegment name = some segment) :
    name ≠ [] ∧ name.isWellFormed = true ∧ isWindowsReservedDeviceName name = false ∧
      segment = encodeBytes ((textEncode name).length - 1) 0 (textEncode name) ∧
      segment.length + operatorConfigFileSuffix.length ≤ maxOperatorConfigFileNameBytes := by
  unfold encodeExtensionNameAsPathSegment at h
  dsimp only at h
  split_ifs at h with haddressable hfits
  cases h
  unfold isAddressableExtensionName at haddressable
  split_ifs at haddressable with hempty hdevice
  exact ⟨fun hnil => hempty (.inl (by rw [hnil]; rfl)), haddressable, by simpa using hdevice, rfl,
    Nat.le_of_not_lt hfits⟩

/-- The bytes of a name that is not empty. -/
lemma textEncode_ne_nil (hname : name.isWellFormed = true) (hne : name ≠ []) :
    textEncode name ≠ [] := by
  intro hnil
  have hdecode := textDecode_textEncode hname
  rw [hnil] at hdecode
  have hempty : textDecode [] = some [] := by
    rw [textDecode, show ([] : List UInt8).toByteArray = ([] : List Char).utf8Encode from rfl,
      List.utf8Decode?_utf8Encode]
    rfl
  exact hne (Option.some.inj (hempty.symm.trans hdecode)).symm

/-- A segment is read back as its name. -/
lemma decode_of_encode (h : encodeExtensionNameAsPathSegment name = some segment) :
    decodeExtensionNamePathSegment segment = some name := by
  obtain ⟨-, hname, -, hsegment, -⟩ := encode_spec h
  have hread : readEncodedBytes segment = some (textEncode name) := by
    rw [hsegment]
    exact readEncodedBytes_encodeBytes _ _ _
  unfold decodeExtensionNamePathSegment
  simp only [hread, textDecode_textEncode hname, h, if_true]

/-- What a segment is read as is written as the segment. -/
lemma encode_of_decode (h : decodeExtensionNamePathSegment segment = some name) :
    encodeExtensionNameAsPathSegment name = some segment := by
  unfold decodeExtensionNamePathSegment at h
  split at h
  · cases h
  · split at h
    · cases h
    · split_ifs at h with hencode
      exact Option.some.inj h ▸ hencode

/-- Names whose segments differ in case at most are the same. -/
lemma eq_of_foldCase_eq {name' segment' : Utf16}
    (h : encodeExtensionNameAsPathSegment name = some segment)
    (h' : encodeExtensionNameAsPathSegment name' = some segment')
    (heq : foldCase segment = foldCase segment') : name = name' := by
  obtain ⟨-, hname, -, hsegment, -⟩ := encode_spec h
  obtain ⟨-, hname', -, hsegment', -⟩ := encode_spec h'
  have hbytes : some (textEncode name) = some (textEncode name') := by
    rw [← readEncodedBytes_foldCase _ 0 (textEncode name), ← hsegment, heq, hsegment',
      readEncodedBytes_foldCase]
  have hdecode := textDecode_textEncode hname
  rw [Option.some.inj hbytes, textDecode_textEncode hname'] at hdecode
  exact (Option.some.inj hdecode).symm

lemma safeSegment_of_encode (h : encodeExtensionNameAsPathSegment name = some segment) :
    SafeSegment segment := by
  obtain ⟨hne, hname, hdevice, hsegment, hfits⟩ := encode_spec h
  obtain ⟨b, bytes, hbytes⟩ := List.exists_cons_of_ne_nil (textEncode_ne_nil hname hne)
  have htext : SegmentText segment := hsegment ▸ segmentText_encodeBytes _ _ _
  refine ⟨?_, htext, ⟨?_, ?_⟩, ?_, ?_, ?_, hfits⟩
  · rw [hsegment, hbytes, encodeBytes]
    exact List.append_ne_nil_of_left_ne_nil (encodeByte_ne_nil _ _) _
  · exact htext.not_mem (by decide) (by decide) (by unfold IsHexDigit; decide)
  · exact htext.not_mem (by decide) (by decide) (by unfold IsHexDigit; decide)
  · rw [hsegment, hbytes, encodeBytes,
      List.head?_append_of_ne_nil _ (encodeByte_ne_nil _ _)]
    exact (encodeByte_edge b).1
  · rw [hsegment, hbytes, List.length_cons, Nat.add_sub_cancel, ← Nat.zero_add bytes.length]
    exact getLast?_encodeBytes 0 b bytes
  · rw [hsegment]
    by_contra hreserved
    rw [Bool.not_eq_false] at hreserved
    rw [isWindowsReservedDeviceName_encodeBytes hname hreserved] at hdevice
    cases hdevice

/-- **Names and segments correspond one to one.**  A string is read as a name exactly if it is what
the name is written as; different names have segments that differ in more than case; and every segment
is a path component that every host takes as it is. -/
theorem pathSegment_bijective :
    (∀ name segment, decodeExtensionNamePathSegment segment = some name ↔
      encodeExtensionNameAsPathSegment name = some segment) ∧
    (∀ name name' segment segment', encodeExtensionNameAsPathSegment name = some segment →
      encodeExtensionNameAsPathSegment name' = some segment' →
      foldCase segment = foldCase segment' → name = name') ∧
    ∀ name segment, encodeExtensionNameAsPathSegment name = some segment → SafeSegment segment :=
  ⟨fun _ _ => ⟨encode_of_decode, decode_of_encode⟩, fun _ _ _ _ => eq_of_foldCase_eq,
    fun _ _ => safeSegment_of_encode⟩

/-- The segment of a scoped name with a capital letter, `@acme/Tools.`. -/
theorem pathSegment_bijective_scoped :
    decodeExtensionNamePathSegment (Utf16.ofChars "%40acme%2F%54ools%2E".toList) =
        some (Utf16.ofChars "@acme/Tools.".toList) ∧
      SafeSegment (Utf16.ofChars "%40acme%2F%54ools%2E".toList) := by
  have hencode : encodeExtensionNameAsPathSegment (Utf16.ofChars "@acme/Tools.".toList) =
      some (Utf16.ofChars "%40acme%2F%54ools%2E".toList) := by decide +kernel
  exact ⟨(pathSegment_bijective.1 _ _).mpr hencode, pathSegment_bijective.2.2 _ _ hencode⟩

end Makaio.Extensions

import Makaio.Jsonl.Framing
import Mathlib.Data.List.TakeWhile

set_option autoImplicit false

/-!
# Chunks of a stream of messages

The stdio transport decodes its stream as a whole and receives every message however the bytes are cut.
The subprocess transport decodes each chunk by itself, so that a chunk that ends within a character
delivers another message.

## Main definitions

* `JsonObject` — a message: an object with each key once.
* `IndependentOfChunks` — what both transports receive, and the framing of texts, do not
  depend on the chunks.

## Main results

* `received_lines` — lines of values are received as the values.
* `independentOfChunks_iff` — the framing is independent of the chunks exactly when every
  chunk consists of whole characters.
-/

namespace Makaio.Jsonl

open Foundations

variable (format : NumberFormat)

/-- A message of JSON: an object in which no member is replaced by a later one. -/
structure JsonObject where
  value : Json
  isObject : value.isObject = true
  normalize_value : value.normalize = value

/-- The text of a stream of messages. -/
def stream (messages : List Json) : List Char := messages.flatMap (encodeBusMessage format)

/-! ### Lines of values -/

/-- A newline is not among the units of graphic characters. -/
lemma newline_notMem {text : List Char} (h : Json.Graphic text) : newline ∉ Utf16.ofChars text := by
  intro hmem
  obtain ⟨c, hc, hunit⟩ := List.mem_flatMap.mp hmem
  have hgraphic := h c hc
  have hten : newline.toNat = 10 := rfl
  by_cases hbasic : c.toNat < 0x10000
  · rw [Utf16.ofChar, if_pos hbasic, List.mem_singleton] at hunit
    have hn := (Utf16.basic_unit hbasic).1
    rw [← hunit, hten] at hn
    omega
  · obtain ⟨high, low, hunits, hhigh, hlow, -⟩ := Utf16.paired_units hbasic
    rw [hunits] at hunit
    simp only [List.mem_cons, List.not_mem_nil, or_false] at hunit
    simp only [Utf16.isHighSurrogate, Utf16.isLowSurrogate, Bool.and_eq_true, decide_eq_true_eq]
      at hhigh hlow
    rcases hunit with rfl | rfl <;> omega

/-- A text with a character that is no white space is not blank. -/
lemma isBlank_eq_false {text : List Char} {c : Char} (hc : c ∈ text) (hspace : Text.isSpace c = false) :
    isBlank (Utf16.ofChars text) = false := by
  rw [isBlank, Utf16.chars_ofChars, Bool.eq_false_iff]
  intro hempty
  rw [List.isEmpty_iff, Text.trim, List.reverse_eq_nil_iff, List.dropWhile_eq_nil_iff] at hempty
  by_cases hdrop : text.dropWhile Text.isSpace = []
  · rw [List.dropWhile_eq_nil_iff] at hdrop
    simp [hdrop c hc] at hspace
  · have hhead := List.head_dropWhile_not Text.isSpace hdrop
    have := hempty _ (List.mem_reverse.mpr (List.head_mem hdrop))
    simp [this] at hhead

/-- The line of a value is not blank. -/
lemma isBlank_print (value : Json) : isBlank (Utf16.ofChars (Json.print format value)) = false := by
  obtain ⟨c, t, hct, hgraphic, hascii, -⟩ := Json.print_head format value
  refine isBlank_eq_false (c := c) (by rw [hct]; exact List.mem_cons_self) ?_
  simp only [Text.isSpace, Bool.or_eq_false_iff, Bool.and_eq_false_iff, decide_eq_false_iff_not]
  omega

variable (values : List Json)

/-- The lines of a stream of values: those of the values, and an empty rest. -/
lemma splitOn_stream :
    (Utf16.ofChars (stream format values)).splitOn newline =
      values.map (fun value => Utf16.ofChars (Json.print format value)) ++ [[]] := by
  induction values with
  | nil => rfl
  | cons value values ih =>
    have hsplit : Utf16.ofChars (stream format (value :: values)) =
        Utf16.ofChars (Json.print format value) ++ newline :: Utf16.ofChars (stream format values) := by
      simp [stream, encodeBusMessage, Utf16.ofChars, Utf16.ofChar, newline]
    rw [hsplit, List.splitOn_append_cons_self_of_not_mem
      (newline_notMem (Json.graphic_print format value)), ih]
    rfl

/-- **Lines of values are received as the values**, up to replaced members. -/
lemma received_lines :
    received format (Utf16.ofChars (stream format values)) = ⟨values.map Json.normalize, [], []⟩ := by
  have hparse : ∀ value, parseLine format (Utf16.ofChars (Json.print format value)) =
      some value.normalize := by
    intro value
    rw [parseLine, Utf16.chars_ofChars, Json.parse_print]
  rw [received, decodeJsonlChunk, List.nil_append, splitOn_stream]
  simp only [List.dropLast_concat, List.getLastD_concat]
  have hfilter : (values.map fun value => Utf16.ofChars (Json.print format value)).filter
      (fun line => !isBlank line) = values.map fun value => Utf16.ofChars (Json.print format value) := by
    simp [List.filter_eq_self, isBlank_print]
  rw [hfilter]
  congr 1
  · simp [List.filterMap_map, hparse]
  · simp [List.filter_map, Function.comp_def, hparse]

/-! ### Lost characters -/

/-- What is left of a stream of values is a stream of as many values, which are received as other ones
unless nothing is lost. -/
lemma exists_stream_of_garbled :
    ∀ t, Garbled (stream format values) t →
      ∃ left, t = stream format left ∧ (left.map Json.normalize = values → left = values) := by
  induction values with
  | nil =>
    intro t h
    exact ⟨[], Garbled.eq_of_ascii (by simp [stream]) h, fun _ => rfl⟩
  | cons value values ih =>
    intro t h
    have hsplit : stream format (value :: values) =
        Json.print format value ++ '\n' :: stream format values := by
      simp [stream, encodeBusMessage]
    rw [hsplit] at h
    obtain ⟨a, b, rfl, ha, hb⟩ := h.exists_of_append
    obtain ⟨b, rfl, hrest⟩ := hb.exists_of_cons (by decide)
    obtain ⟨leftValue, rfl, hvalue⟩ := Json.exists_print_of_garbled format value a ha
    obtain ⟨left, rfl, hleft⟩ := ih b hrest
    refine ⟨leftValue :: left, by simp [stream, encodeBusMessage], fun heq => ?_⟩
    rw [List.map_cons, List.cons_eq_cons] at heq
    rw [hvalue heq.1, hleft heq.2]

/-! ### Independence -/

/-- What both transports receive of a stream of messages in chunks is the messages, with no line that is
no JSON and nothing left, and texts are framed alike however they are split. -/
def IndependentOfChunks (messages : List JsonObject) (chunks : List (List UInt8)) : Prop :=
  chunks.foldl (onStdoutData format) nothing = ⟨messages.map JsonObject.value, [], []⟩ ∧
    (chunks.foldl (onStdinData format) ⟨.idle, nothing⟩).received =
      ⟨messages.map JsonObject.value, [], []⟩ ∧
    ∀ texts texts' : List Utf16, texts.flatten = texts'.flatten →
      texts.foldl (onText format) nothing = texts'.foldl (onText format) nothing

/-- **When the framing is independent of the chunks**: exactly when every chunk of the stream consists of
whole characters.

**Proof sketch.** The stdio transport decodes the stream as a whole, so that it receives the lines of the
messages.  The subprocess transport receives what is left of them, which are lines of as many values; if
these are read as the messages, nothing is lost, and then no chunk cuts a character. -/
theorem independentOfChunks_iff (messages : List JsonObject) (chunks : List (List UInt8))
    (hstream : chunks.flatten = Utf8.encode (stream format (messages.map JsonObject.value))) :
    IndependentOfChunks format messages chunks ↔ ∀ chunk ∈ chunks, ∃ text, chunk = Utf8.encode text := by
  have hnormalize : (messages.map JsonObject.value).map Json.normalize =
      messages.map JsonObject.value := by
    simp [Function.comp_def, JsonObject.normalize_value]
  have hwhole := received_lines format (messages.map JsonObject.value)
  rw [hnormalize] at hwhole
  obtain ⟨hgarbled, hchunks⟩ := Utf8.garbled_flatMap_decode hstream
  rw [← hchunks]
  unfold IndependentOfChunks
  rw [foldl_onStdoutData, foldl_onStdinData, hstream, Utf8.feed_encode]
  constructor
  · rintro ⟨hstdout, -, -⟩
    obtain ⟨left, hleft, hvalues⟩ := exists_stream_of_garbled format _ _ hgarbled
    rw [hleft, received_lines, JsonlDecodeResult.mk.injEq] at hstdout
    rw [hleft, hvalues hstdout.1]
  · intro hdecode
    refine ⟨by rw [hdecode]; exact hwhole, hwhole, fun texts texts' hflatten => ?_⟩
    rw [foldl_onText, foldl_onText, hflatten]

/-- A message with a character outside ASCII. -/
def accented : JsonObject := ⟨.obj [("k", .str "é")], rfl, rfl⟩

/-- The message is received when its bytes come at once. -/
theorem independentOfChunks_accented :
    IndependentOfChunks .plain [accented] [Utf8.encode (stream .plain [accented.value])] :=
  (independentOfChunks_iff .plain [accented] _ (by simp)).mpr fun chunk hchunk =>
    ⟨_, List.mem_singleton.mp hchunk⟩

/-- The message is not received when a chunk ends between the two bytes of the character. -/
theorem not_independentOfChunks :
    ¬∀ (format : NumberFormat) (messages : List JsonObject) (chunks : List (List UInt8)),
      chunks.flatten = Utf8.encode (stream format (messages.map JsonObject.value)) →
      IndependentOfChunks format messages chunks := by
  intro h
  have hstdout := (h .plain [accented]
    [[0x7B, 0x22, 0x6B, 0x22, 0x3A, 0x22, 0xC3], [0xA9, 0x22, 0x7D, 0x0A]] (by decide +kernel)).1
  have hvalue := congrArg (fun result : JsonlDecodeResult =>
    (result.messages.head?.bind (Json.member? "k")).bind Json.str?) hstdout
  exact absurd hvalue (by decide +kernel)

end Makaio.Jsonl

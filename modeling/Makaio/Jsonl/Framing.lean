import Makaio.Foundations.Garbled
import Makaio.Foundations.Text

set_option autoImplicit false

/-!
# Framing of JSON lines

Subprocesses and their hosts exchange JSON messages, one on a line.  A pipe delivers the bytes of the
lines in chunks of any size; the receiver keeps what follows the last newline for the next chunk.

## Main definitions

* `encodeBusMessage` — the line of a message.
* `decodeJsonlChunk` — the messages, the lines that are no JSON, and the rest of a chunk.
* `onText`, `onStdoutData`, `onStdinData` — one chunk of a text, of
  the subprocess transport, of the stdio transport.

## Main results

* `foldl_onText` — the framing of a text does not depend on how it is split.
-/

namespace Makaio.Jsonl

open Foundations

variable (format : NumberFormat)

/-! ### Lines -/

/-- `encodeBusMessage`, and `send` of the subprocess transport. -/
def encodeBusMessage (message : Json) : List Char := Json.print format message ++ ['\n']

/-- The unit of a newline. -/
def newline : UInt16 := 10

structure JsonlDecodeResult where
  messages : List Json
  remaining : Utf16
  errors : List Utf16

/-- Whether nothing is left of a line when it is trimmed. -/
def isBlank (line : Utf16) : Bool := (Text.trim (Utf16.chars line)).isEmpty

/-- `JSON.parse` of a line. -/
def parseLine (line : Utf16) : Option Json := Json.parse format (Utf16.chars line)

/-- `decodeJsonlChunk`; `decodeBusChunk` is the same. -/
def decodeJsonlChunk (chunk buffer : Utf16) : JsonlDecodeResult :=
  let lines := (buffer ++ chunk).splitOn newline
  let complete := lines.dropLast.filter fun line => !isBlank line
  { messages := complete.filterMap (parseLine format)
    remaining := lines.getLastD []
    errors := complete.filter fun line => (parseLine format line).isNone }

/-! ### Receivers -/

/-- Nothing was received. -/
def nothing : JsonlDecodeResult := ⟨[], [], []⟩

/-- A chunk of text, after what was delivered and reported and what is kept. -/
def onText (received : JsonlDecodeResult) (chunk : Utf16) : JsonlDecodeResult :=
  let result := decodeJsonlChunk format chunk received.remaining
  { messages := received.messages ++ result.messages
    remaining := result.remaining
    errors := received.errors ++ result.errors }

/-- The `data` handler of `createJsonlTransport`: every chunk is decoded by itself. -/
def onStdoutData (received : JsonlDecodeResult) (chunk : List UInt8) : JsonlDecodeResult :=
  onText format received (Utf16.ofChars (Utf8.decode chunk))

/-- The stdio transport: its stream decodes the bytes, and remembers an unfinished character. -/
structure StdioState where
  decoder : Utf8.Decoder
  received : JsonlDecodeResult

/-- `handleChunk`, with the decoder that `setEncoding` installs. -/
def onStdinData (s : StdioState) (chunk : List UInt8) : StdioState :=
  { decoder := (s.decoder.feed chunk).1
    received := onText format s.received (Utf16.ofChars (s.decoder.feed chunk).2) }

/-! ### Splitting a text -/

/-- The lines of two texts are the complete lines of the first one, and those of its rest with the
second one. -/
lemma splitOn_append (a b : Utf16) :
    (a ++ b).splitOn newline =
      (a.splitOn newline).dropLast ++ ((a.splitOn newline).getLastD [] ++ b).splitOn newline := by
  by_cases h : newline ∈ a
  · obtain ⟨x, y, hxy, hx⟩ := List.eq_append_cons_of_mem (List.mem_reverse.mpr h)
    have ha : a = y.reverse ++ newline :: x.reverse := by
      rw [← List.reverse_reverse a, hxy]
      simp
    have hlast : x.reverse.splitOn newline = [x.reverse] :=
      List.splitOn_eq_singleton (by simpa using hx)
    rw [ha, List.append_assoc, List.cons_append, List.splitOn_append_cons_self,
      List.splitOn_append_cons_self, hlast, List.dropLast_concat, List.getLastD_concat]
  · rw [List.splitOn_eq_singleton h]
    rfl

/-- What was received after one chunk. -/
def received (text : Utf16) : JsonlDecodeResult := decodeJsonlChunk format text []

/-- Receiving a text in two parts. -/
lemma onText_received (a b : Utf16) :
    onText format (received format a) b = received format (a ++ b) := by
  have hne : ((a.splitOn newline).getLastD [] ++ b).splitOn newline ≠ [] := List.splitOn_ne_nil _ _
  simp only [onText, received, decodeJsonlChunk, List.nil_append]
  rw [splitOn_append a b, List.dropLast_append_of_ne_nil hne, List.filter_append,
    List.filterMap_append, List.filter_append]
  congr 1
  obtain ⟨init, last, hinit⟩ := List.eq_nil_or_concat'
    (((a.splitOn newline).getLastD [] ++ b).splitOn newline) |>.resolve_left hne
  rw [hinit, ← List.append_assoc, List.getLastD_concat, List.getLastD_concat]

/-- **The framing of a text does not depend on how it is split**: what is received is what is received
of the whole text at once. -/
lemma foldl_onText (chunks : List Utf16) :
    chunks.foldl (onText format) nothing = received format chunks.flatten := by
  have hgeneral : ∀ a, chunks.foldl (onText format) (received format a) =
      received format (a ++ chunks.flatten) := by
    induction chunks with
    | nil => simp
    | cons chunk chunks ih =>
      intro a
      rw [List.foldl_cons, onText_received, ih, List.flatten_cons, List.append_assoc]
  exact hgeneral []

/-- The subprocess transport receives the characters of each chunk by itself. -/
lemma foldl_onStdoutData (chunks : List (List UInt8)) :
    chunks.foldl (onStdoutData format) nothing =
      received format (Utf16.ofChars (chunks.flatMap Utf8.decode)) := by
  have hmap : chunks.foldl (onStdoutData format) nothing =
      (chunks.map fun chunk => Utf16.ofChars (Utf8.decode chunk)).foldl (onText format) nothing := by
    rw [List.foldl_map]
    rfl
  have hflatten : (chunks.map fun chunk => Utf16.ofChars (Utf8.decode chunk)).flatten =
      Utf16.ofChars (chunks.flatMap Utf8.decode) := by
    simp only [Utf16.ofChars, List.flatMap_assoc]
    rw [List.flatMap_def]
  rw [hmap, foldl_onText, hflatten]

/-- The stdio transport receives the characters of the whole stream. -/
lemma foldl_onStdinData (chunks : List (List UInt8)) :
    (chunks.foldl (onStdinData format) ⟨.idle, nothing⟩).received =
      received format (Utf16.ofChars (Utf8.Decoder.idle.feed chunks.flatten).2) := by
  have hgeneral : ∀ (d : Utf8.Decoder) (a : Utf16),
      (chunks.foldl (onStdinData format) ⟨d, received format a⟩).received =
        received format (a ++ Utf16.ofChars (d.feed chunks.flatten).2) := by
    induction chunks with
    | nil => simp [Utf8.Decoder.feed, Utf16.ofChars]
    | cons chunk chunks ih =>
      intro d a
      rw [List.foldl_cons, onStdinData, onText_received, ih, List.flatten_cons, Utf8.feed_append]
      simp [Utf16.ofChars]
  exact hgeneral .idle []

end Makaio.Jsonl

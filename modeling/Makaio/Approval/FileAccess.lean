import Makaio.Foundations.Json

set_option autoImplicit false

/-!
# File access

Tools that work on files name their target in an argument.  The target of a call is looked at twice: by
the file-access floor, which denies what the rules or a directory allowlist exclude whatever any policy
says, and by the grant of an agent's tool lists, which must not reach outside the allowlist.

## Main definitions

* `Host` — the path operations and the file system of the platform.
* `Host.canonicalizePath` — a path, or its nearest existing ancestor, without links.
* `Host.isCanonicalPathWithin` — whether a target is inside a directory allowlist.
* `checkFileAccessDenyReason` — the floor.
-/

namespace Makaio.Approval

open Foundations

/-- The truthiness of an optional text: there is one, and it is not empty. -/
def truthy (text : Option String) : Bool := text.any fun t => t ≠ ""

/-! ### The platform -/

/-- Why a path has no real path. -/
inductive RealpathError
  | noEntry
  | other

/-- The path operations of the platform and what its file system answers.  Going up from a path comes
to an end: `depth` falls until `dirname` has no effect. -/
structure Host where
  sep : String
  resolve : String → String → String
  relative : String → String → String
  dirname : String → String
  depth : String → ℕ
  dirname_depth : ∀ p, dirname p ≠ p → depth (dirname p) < depth p
  isAbsolute : String → Bool
  /-- Lower case on a platform whose paths have no case. -/
  fold : String → String
  realpathSync : String → Except RealpathError String
  /-- Whether there is an entry at a path; a failure is thrown. -/
  lstatSync : String → Except Unit Bool

/-- `canonicalizePath`, from an ancestor of the target on. -/
def Host.canonicalizeFrom (host : Host) (targetPath existingPath : String) :
    Except Unit (Option String) :=
  match host.realpathSync existingPath with
  | .ok realPath => .ok (some (host.resolve realPath (host.relative existingPath targetPath)))
  | .error .other => .ok none
  | .error .noEntry =>
    match host.lstatSync existingPath with
    | .error failure => .error failure
    | .ok true => .ok none
    | .ok false =>
      if _h : host.dirname existingPath = existingPath then .ok none
      else host.canonicalizeFrom targetPath (host.dirname existingPath)
termination_by host.depth existingPath
decreasing_by exact host.dirname_depth existingPath _h

def Host.canonicalizePath (host : Host) (targetPath : String) : Except Unit (Option String) :=
  host.canonicalizeFrom targetPath targetPath

/-- Whether a relative path stays below where it starts. -/
def Host.isInside (host : Host) (relativePath : String) : Bool :=
  relativePath = "" ||
    (relativePath ≠ ".." && !(".." ++ host.sep).toList.isPrefixOf relativePath.toList &&
      !host.isAbsolute relativePath)

def Host.isCanonicalPathWithin (host : Host) (allowedDirectories : List String)
    (canonicalTarget cwd : String) : Except Unit Bool :=
  allowedDirectories.anyM fun directory =>
    match host.canonicalizePath (host.resolve cwd directory) with
    | .error failure => .error failure
    | .ok none => .ok false
    | .ok (some canonicalRoot) =>
      .ok (host.isInside (host.relative (host.fold canonicalRoot) (host.fold canonicalTarget)))

/-! ### The target of a call -/

/-- `TOOL_PATH_ARGS`. -/
def toolPathArgs : String → Option (List String)
  | "read_file" => some ["path", "file_path"]
  | "write_file" => some ["path", "file_path"]
  | "delete_file" => some ["path"]
  | "list_directory" => some ["path"]
  | "Read" => some ["path", "file_path"]
  | "Write" => some ["path", "file_path"]
  | "Edit" => some ["path", "file_path"]
  | "MultiEdit" => some ["path", "file_path"]
  | "create_file" => some ["path", "file_path"]
  | "Glob" => some ["path"]
  | "Grep" => some ["path"]
  | "NotebookEdit" => some ["notebook_path"]
  | _ => none

/-- The text of an argument that is not empty. -/
def textArgument (args : List (String × Json)) (key : String) : Option String :=
  ((Json.lookup key args).bind Json.str?).filter fun value => value ≠ ""

def extractToolRawFilePath (toolName : Option String) (args : Option (List (String × Json))) :
    Option String :=
  match toolName, args with
  | some name, some args =>
    if name = "" then none
    else (toolPathArgs name).bind fun argKeys => argKeys.findSome? (textArgument args)
  | _, _ => none

def extractToolFilePath (host : Host) (toolName : Option String)
    (args : Option (List (String × Json))) (cwd : String) : Option String :=
  (extractToolRawFilePath toolName args).map (host.resolve cwd)

/-! ### The floor -/

structure FileAccessRules where
  isDenied : String → Except Unit Bool

abbrev FileAccessRuleProvider := String → Option (List String) → Except Unit FileAccessRules

structure FileAccessContext where
  cwd : Option String
  allowedDirectories : Option (List String)

/-- Whether a path as it is written has a `..` segment. -/
def hasParentSegment (rawPath : String) : Bool :=
  (rawPath.toList.splitOnP fun c => c = '/' || c = '\\').contains ['.', '.']

/-- Whether the rules deny a target, as it is named or without links. -/
def FileAccessRules.deny (rules : FileAccessRules) (filePath : String)
    (canonicalPath : Option String) : Except Unit Bool :=
  match rules.isDenied filePath with
  | .error failure => .error failure
  | .ok true => .ok true
  | .ok false =>
    match canonicalPath with
    | none => .ok false
    | some canonicalPath =>
      if canonicalPath = filePath then .ok false else rules.isDenied canonicalPath

/-- What the rules of a provider say about a target; a failure of theirs denies it. -/
def ruleDenyReason (provider : FileAccessRuleProvider) (cwd : String)
    (allowedDirectories : Option (List String)) (filePath : String) (canonicalPath : Option String) :
    Option String :=
  match (provider cwd allowedDirectories).bind fun rules => rules.deny filePath canonicalPath with
  | .error _ => some "Access denied: file access rules could not be evaluated"
  | .ok true => some ("Access denied: '" ++ filePath ++ "' is restricted by .makaioignore rules")
  | .ok false => none

/-- What the directory allowlist says about a target. -/
def containmentDenyReason (host : Host) (allowedDirectories : Option (List String))
    (filePath canonicalPath cwd : String) : Except Unit (Option String) :=
  match allowedDirectories with
  | none => .ok none
  | some directories =>
    (host.isCanonicalPathWithin directories canonicalPath cwd).map fun within =>
      if within then none
      else some ("Access denied: '" ++ filePath ++ "' is outside the agent's allowed directories")

def checkFileAccessDenyReason (host : Host) (provider : Option FileAccessRuleProvider)
    (toolName : Option String) (args : Option (List (String × Json))) (context : FileAccessContext) :
    Except Unit (Option String) :=
  match provider with
  | none => .ok none
  | some provider =>
    match extractToolFilePath host toolName args (context.cwd.getD host.sep) with
    | none => .ok none
    | some filePath =>
      -- an empty path is no path
      if filePath = "" then .ok none
      else
        match context.cwd.filter fun cwd => cwd ≠ "" with
        | none => .ok (some ("Access denied: file access rules could not be evaluated: " ++
            "agent has no working directory"))
        | some cwd =>
          match (extractToolRawFilePath toolName args).filter hasParentSegment with
          | some rawPath => .ok (some ("Access denied: '" ++ rawPath ++ "' contains a '..' " ++
              "segment; file access rules need a path without parent references"))
          | none =>
            match host.canonicalizePath filePath with
            | .error failure => .error failure
            | .ok canonicalPath =>
              match ruleDenyReason provider cwd context.allowedDirectories filePath canonicalPath with
              | some reason => .ok (some reason)
              | none =>
                match canonicalPath with
                | none => .ok (some ("Access denied: file access rules could not be evaluated: '" ++
                    filePath ++ "' cannot be resolved safely"))
                | some canonicalPath =>
                  containmentDenyReason host context.allowedDirectories filePath canonicalPath cwd

end Makaio.Approval

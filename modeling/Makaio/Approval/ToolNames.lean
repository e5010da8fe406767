import Makaio.Foundations.Json
import Makaio.Foundations.Text

set_option autoImplicit false

/-!
# Tool lists

An agent row carries an allowlist and a denylist of tools, written with the framework's names, for
shell commands with a rule on the command.  They are validated and translated to the native vocabulary
of the agent's adapter, and then decide about a single call.

## Main definitions

* `ToolNameError` — why an entry is rejected.
* `parseToolListEntry` — an entry's name and rule.
* `matchesCommandRule`, `matchesDenyCommandRule` — whether a command matches a rule.
* `resolveToolPolicy` — the validated lists; `ResolvedToolPolicy.checkToolCall` — the
  decision about a call.
-/

namespace Makaio.Approval

open Foundations

/-! ### Names -/

/-- `MAKAIO_TOOL_NAMES`. -/
inductive MakaioToolName
  | readFile
  | writeFile
  | editFile
  | globFiles
  | grepFiles
  | shellExec
  | shellKill
  | spawnSubagent
  | sendToSubagent

/-- A framework name as it is written. -/
def MakaioToolName.text : MakaioToolName → String
  | .readFile => "read_file"
  | .writeFile => "write_file"
  | .editFile => "edit_file"
  | .globFiles => "glob_files"
  | .grepFiles => "grep_files"
  | .shellExec => "shell_exec"
  | .shellKill => "shell_kill"
  | .spawnSubagent => "spawn_subagent"
  | .sendToSubagent => "send_to_subagent"

/-- The framework names, in their order. -/
def makaioToolNames : List MakaioToolName :=
  [.readFile, .writeFile, .editFile, .globFiles, .grepFiles, .shellExec, .shellKill, .spawnSubagent,
    .sendToSubagent]

inductive ToolVocabulary
  | claude

/-- `NATIVE_TOOL_NAMES`; `none` for a tool without a native equivalent. -/
def nativeToolNames : ToolVocabulary → MakaioToolName → Option String
  | .claude, .readFile => some "Read"
  | .claude, .writeFile => some "Write"
  | .claude, .editFile => some "Edit"
  | .claude, .globFiles => some "Glob"
  | .claude, .grepFiles => some "Grep"
  | .claude, .shellExec => some "Bash"
  | .claude, .shellKill => some "TaskStop"
  | .claude, .spawnSubagent => some "Agent"
  | .claude, .sendToSubagent => some "SendMessage"

def toolVocabularyForAdapter (adapterName : String) : Option ToolVocabulary :=
  if adapterName ∈ ["claude-code", "claude-code-cli", "claude-code-tmux"] then some .claude else none

inductive ToolNameErrorReason
  | malformedEntry
  | unknownTool
  | unsupportedByAdapter
  | ruleNotSupported

structure ToolNameError where
  entry : String
  reason : ToolNameErrorReason
  detail : String

def ToolNameError.message (error : ToolNameError) : String :=
  "Invalid tool list entry \"" ++ error.entry ++ "\": " ++ error.detail

/-- `MCP_TOOL_NAME_PREFIX`. -/
def mcpToolNamePrefix : String := "mcp__"

def isMcpToolName (name : String) : Bool :=
  if mcpToolNamePrefix.toList.isPrefixOf name.toList then
    let rest := name.toList.drop mcpToolNamePrefix.length
    match Text.indexOf "__".toList rest with
    | some separator => 0 < separator && separator + 2 < rest.length
    | none => false
  else false

/-- The framework name that a text is. -/
def makaioToolName? (name : String) : Option MakaioToolName :=
  makaioToolNames.find? fun known => known.text = name

variable (vocabulary : ToolVocabulary)

def toNativeToolName (name entry : String) :
    Except ToolNameError String :=
  if isMcpToolName name then .ok name
  else
    match makaioToolName? name with
    | none => .error ⟨entry, .unknownTool, "\"" ++ name ++
        "\" is not a Makaio tool name; valid names are " ++
        ", ".intercalate (makaioToolNames.map MakaioToolName.text) ++ " or mcp__<server>__<tool>"⟩
    | some known =>
      match nativeToolNames vocabulary known with
      | none => .error ⟨entry, .unsupportedByAdapter, "tool \"" ++ name ++
          "\" has no native equivalent in the \"claude\" vocabulary"⟩
      | some nativeName => .ok nativeName

def toMakaioToolName (nativeName : String) : Option String :=
  if isMcpToolName nativeName then some nativeName
  else (makaioToolNames.find? fun name => nativeToolNames vocabulary name = some nativeName).map
    MakaioToolName.text

/-! ### Entries -/

inductive CommandRule
  | exact (command : List Char)
  | lead (command : List Char)

structure ToolListEntry where
  name : String
  rule : Option CommandRule

/-- `SHELL_METACHARACTERS`. -/
def isShellMetacharacter (c : Char) : Bool := c ∈ "&;|<>`$()\x7b\x7d\n\r".toList

/-- A space or a tab. -/
def isBlank (c : Char) : Bool := c = ' ' || c = '\t'

/-- Runs of blanks as one space each; `afterBlank` where the last character was a blank. -/
def collapseBlanks (afterBlank : Bool) : List Char → List Char
  | [] => []
  | c :: rest =>
    if isBlank c then
      if afterBlank then collapseBlanks true rest else ' ' :: collapseBlanks true rest
    else c :: collapseBlanks false rest

def normalizeCommand (command : List Char) : List Char := collapseBlanks false (Text.trim command)

/-- `hasBalancedParens`, from a depth on. -/
def hasBalancedParens : ℕ → List Char → Bool
  | depth, [] => depth = 0
  | depth, c :: rest =>
    if c = '(' then hasBalancedParens (depth + 1) rest
    else if c = ')' then
      match depth with
      | 0 => false
      | depth + 1 => hasBalancedParens depth rest
    else hasBalancedParens depth rest

/-- The rule that is written between the parentheses of an entry. -/
def parseCommandRule (malformed : String → ToolNameError) (inner : List Char) :
    Except ToolNameError CommandRule :=
  let ruleText := Text.trim inner
  let isLead := ":*".toList.isSuffixOf ruleText
  let ruleValue := normalizeCommand (if isLead then ruleText.dropLast.dropLast else ruleText)
  if ruleValue = [] then .error (malformed "command rule is empty")
  else if '*' ∈ ruleValue then
    .error (malformed
      "\"*\" is only allowed as the trailing \":*\" of a prefix rule; write e.g. \"npm run:*\"")
  else .ok (if isLead then .lead ruleValue else .exact ruleValue)

def parseToolListEntry (entry : String) : Except ToolNameError ToolListEntry :=
  let malformed := ToolNameError.mk entry .malformedEntry
  let text := entry.toList
  let name := String.ofList (text.takeWhile fun c => c ≠ '(')
  if name = "" then .error (malformed "tool name is empty")
  else if mcpToolNamePrefix.toList.isPrefixOf name.toList && !isMcpToolName name then
    .error (malformed
      "MCP tool names need a non-empty server and tool part: mcp__<server>__<tool>")
  else if '*' ∈ name.toList then .error (malformed "\"*\" is not allowed in a tool name")
  else if !hasBalancedParens 0 text then .error (malformed "parentheses are unbalanced")
  else
    match text.dropWhile fun c => c ≠ '(' with
    | [] => .ok ⟨name, none⟩
    | _ :: inner =>
      if inner.getLast? ≠ some ')' then
        .error (malformed "unexpected text after the closing \")\"")
      else (parseCommandRule malformed inner.dropLast).map fun rule => ⟨name, some rule⟩

variable (rule : CommandRule)

def matchesNormalized (normalized : List Char) : Bool :=
  match rule with
  | .exact command => normalized = command
  | .lead command => normalized = command || (command ++ [' ']).isPrefixOf normalized

def matchesCommandRule (command : List Char) : Bool :=
  match rule with
  | .lead _ =>
    if command.any isShellMetacharacter then false
    else matchesNormalized rule (normalizeCommand command)
  | .exact _ => matchesNormalized rule (normalizeCommand command)

/-- A command without its line continuations, `LINE_CONTINUATIONS`. -/
def removeContinuations : List Char → List Char
  | '\\' :: '\r' :: '\n' :: rest => removeContinuations rest
  | '\\' :: '\n' :: rest => removeContinuations rest
  | c :: rest => c :: removeContinuations rest
  | [] => []

def matchesDenyCommandRule (command : List Char) : Bool :=
  ((removeContinuations command).splitOnP isShellMetacharacter).any fun segment =>
    matchesNormalized rule (normalizeCommand segment)

/-! ### The policy of an agent's lists -/

structure ResolvedEntry where
  entry : String
  name : String
  rule : Option CommandRule

def resolveEntry (entry : String) : Except ToolNameError ResolvedEntry :=
  match parseToolListEntry entry with
  | .error error => .error error
  | .ok parsed =>
    match toNativeToolName vocabulary parsed.name entry with
    | .error error => .error error
    | .ok _ =>
      if parsed.rule.isSome && parsed.name ≠ MakaioToolName.shellExec.text then
        .error ⟨entry, .ruleNotSupported, "command rules are only supported on shell_exec"⟩
      else .ok ⟨entry, parsed.name, parsed.rule⟩

/-- `ResolvedToolPolicy`, with what its `checkToolCall` uses. -/
structure ResolvedToolPolicy where
  vocabulary : ToolVocabulary
  allowed : Option (List ResolvedEntry)
  disallowed : Option (List ResolvedEntry)

/-- The entries of a list, if there is one. -/
def resolveEntries :
    Option (List String) → Except ToolNameError (Option (List ResolvedEntry))
  | none => .ok none
  | some entries => (entries.mapM (resolveEntry vocabulary)).map some

def resolveToolPolicy (allowedTools disallowedTools : Option (List String)) :
    Except ToolNameError ResolvedToolPolicy :=
  match resolveEntries vocabulary allowedTools with
  | .error error => .error error
  | .ok allowed =>
    match resolveEntries vocabulary disallowedTools with
    | .error error => .error error
    | .ok disallowed => .ok ⟨vocabulary, allowed, disallowed⟩

def coversCall (entry : ResolvedEntry) (name : Option String) (command : Option (List Char))
    (matchesRule : CommandRule → List Char → Bool) : Bool :=
  if some entry.name ≠ name then false
  else
    match entry.rule with
    | none => true
    | some rule =>
      match command with
      | none => false
      | some command => matchesRule rule command

inductive ToolGateDecision
  | allowed
  | denied (reason : String)

/-- The command of a call: its `command` input, where that is a string. -/
def commandOf (input : List (String × Json)) : Option (List Char) :=
  ((Json.lookup "command" input).bind Json.str?).map String.toList

def ResolvedToolPolicy.checkToolCall (policy : ResolvedToolPolicy) (nativeName : String)
    (input : List (String × Json)) : ToolGateDecision :=
  let name := toMakaioToolName policy.vocabulary nativeName
  let command := commandOf input
  let denied := policy.disallowed.getD []
  match if command.isNone then denied.find? fun e => some e.name = name && e.rule.isSome else none with
  | some entry => .denied ("Tool " ++ nativeName ++ " is denied: the step's denylist entry " ++
      entry.entry ++ " needs a string command input, and the call has none")
  | none =>
    match denied.find? fun e => coversCall e name command matchesDenyCommandRule with
    | some entry => .denied ("Tool " ++ nativeName ++ " is denied by the step's denylist entry " ++
        entry.entry)
    | none =>
      match policy.allowed with
      | none => .allowed
      | some allowed =>
        if allowed.any fun e => coversCall e name command matchesCommandRule then .allowed
        else .denied ("Tool " ++ nativeName ++ " is not on the step's allowlist")

end Makaio.Approval

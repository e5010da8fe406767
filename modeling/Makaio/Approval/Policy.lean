import Makaio.Approval.FileAccess
import Makaio.Approval.ToolNames

set_option autoImplicit false

/-!
# Tool approval policies

A call of a tool is decided in layers: the file-access floor, the session's override, the agent's tool
lists, and a cascade of policies (the persona's or profile's, the harness's for the tool, the harness's,
asking), which the harness may raise by the capabilities of the tool.

## Main definitions

* `ApprovalPolicy` — the policies, with how restrictive each is.
* `HarnessResolution` — what the harness says; `resolveHarnessLevelPolicy`,
  `applyCapabilityOverrides`.
* `evaluateToolGrant` — what the agent's tool lists say about a call.
* `toolApprove` — the handler, over the answers of its lookups.
-/

namespace Makaio.Approval

open Foundations

/-! ### Policies -/

inductive ApprovalPolicy
  | fullAccess
  | alwaysAsk
  | reject
  deriving DecidableEq

/-- `POLICY_RANK`. -/
def ApprovalPolicy.rank : ApprovalPolicy → ℕ
  | .fullAccess => 0
  | .alwaysAsk => 1
  | .reject => 2

/-- The answers of the enriched-policy request. -/
inductive EnrichedAction
  | allow
  | deny
  | ask

def mapActionToPolicy : EnrichedAction → ApprovalPolicy
  | .allow => .fullAccess
  | .deny => .reject
  | .ask => .alwaysAsk

/-! ### What is looked up -/

/-- The columns of an agent row that the decision uses. -/
structure MakaioSessionAgent where
  agentId : String
  adapterName : String
  harnessId : Option String
  clientId : Option String
  personaId : Option String
  profileId : Option String
  cwd : Option String
  allowedDirectories : Option (List String)
  allowedTools : Option (List String)
  disallowedTools : Option (List String)
  deriving DecidableEq

/-- Whether a persona or a profile is active. -/
def MakaioSessionAgent.hasPersonaOrProfile (agent : MakaioSessionAgent) : Bool :=
  truthy agent.personaId || truthy agent.profileId

structure ResolveEnrichedPolicyResponse where
  action : EnrichedAction
  allowedDirectories : Option (List String)
  personaName : Option String
  profileName : Option String

inductive RawEnrichedPolicyResult
  | unhandled
  | handled (data : ResolveEnrichedPolicyResponse)

structure HarnessResolution where
  approvalPolicy : ApprovalPolicy
  capabilityOverrides : Option (String → Option ApprovalPolicy)
  toolCapabilityMap : Option (String → Option (List String))
  toolApprovalOverrides : Option (String → Option ApprovalPolicy)

inductive AgentLookupResult
  | found (agent : MakaioSessionAgent)
  | absent
  | error
  deriving DecidableEq

/-- The agent row that was found. -/
def AgentLookupResult.agent? : AgentLookupResult → Option MakaioSessionAgent
  | .found agent => some agent
  | _ => none

/-- The part of `AgentToolApproveRequest` that the decision uses. -/
structure AgentToolApproveRequest where
  agentId : String
  sessionId : String
  adapterName : String
  toolName : Option String
  args : Option (List (String × Json))

/-- Who answers the lookups of the handler.  A request that nobody handles has no answer, and every
request may throw. -/
structure Lookups where
  listBySession : String → Except Unit (Option (List MakaioSessionAgent))
  getAgent : String → Except Unit (Option (Option MakaioSessionAgent))
  /-- The override that the session's row carries, if there is a row. -/
  getSession : String → Except Unit (Option (Option ApprovalPolicy))
  resolveEnrichedPolicy : String → Option String → Option String →
    Except Unit (Option ResolveEnrichedPolicyResponse)
  resolveHarness : String → Option String → Option String → Except Unit HarnessResolution
  fileAccessRuleProvider : Option FileAccessRuleProvider

/-! ### Cascade -/

def resolveHarnessLevelPolicy (harness : Option HarnessResolution) (toolName : Option String) :
    Option ApprovalPolicy :=
  harness.map fun harness =>
    match (toolName.filter fun name => name ≠ "").bind fun name =>
        harness.toolApprovalOverrides.bind fun overrides => overrides name with
    | some policy => policy
    | none => harness.approvalPolicy

/-- One capability of `applyCapabilityOverrides`. -/
def raiseBy (capabilityOverrides : String → Option ApprovalPolicy) (mostRestrictive : ApprovalPolicy)
    (capability : String) : ApprovalPolicy :=
  match capabilityOverrides capability with
  | some override => if mostRestrictive.rank < override.rank then override else mostRestrictive
  | none => mostRestrictive

def applyCapabilityOverrides (basePolicy : ApprovalPolicy) (toolName : String)
    (capabilityOverrides : String → Option ApprovalPolicy)
    (toolCapabilityMap : String → Option (List String)) : ApprovalPolicy :=
  ((toolCapabilityMap toolName).getD []).foldl (raiseBy capabilityOverrides) basePolicy

def resolveProfileAllowedDirectories (profileId : Option String)
    (rawResult : RawEnrichedPolicyResult) : Option (List String) :=
  match rawResult with
  | .unhandled => if truthy profileId then some [] else none
  | .handled data => data.allowedDirectories

def resolveEffectiveAllowedDirectories (agent : MakaioSessionAgent)
    (rawEnrichedPolicy : Option RawEnrichedPolicyResult) : Option (List String) :=
  match agent.allowedDirectories with
  | some directories => some directories
  | none =>
    match rawEnrichedPolicy with
    | some rawResult =>
      if agent.hasPersonaOrProfile then resolveProfileAllowedDirectories agent.profileId rawResult
      else none
    | none => none

variable (agent : Option MakaioSessionAgent)

def resolveFileAccessContext (rawEnrichedPolicy : Option RawEnrichedPolicyResult)
    (fileAccessRuleProvider : Option FileAccessRuleProvider) : FileAccessContext :=
  match agent with
  | none => ⟨none, none⟩
  | some agent =>
    if fileAccessRuleProvider.isNone || !truthy agent.cwd then ⟨none, none⟩
    else ⟨agent.cwd, resolveEffectiveAllowedDirectories agent rawEnrichedPolicy⟩

structure EnrichedBasePolicyResult where
  policy : ApprovalPolicy
  personaName : Option String
  profileName : Option String

def resolveEnrichedBasePolicy (rawResult : Option RawEnrichedPolicyResult) :
    Option EnrichedBasePolicyResult :=
  if agent.any MakaioSessionAgent.hasPersonaOrProfile then
    match rawResult with
    | none => some ⟨.alwaysAsk, none, none⟩
    | some .unhandled => some ⟨.alwaysAsk, none, none⟩
    | some (.handled data) =>
      some ⟨mapActionToPolicy data.action, data.personaName.filter fun n => n ≠ "",
        data.profileName.filter fun n => n ≠ ""⟩
  else none

/-! ### Tool lists -/

inductive ToolGrantVerdict
  | deny (message : String)
  | granted
  | none
  deriving DecidableEq

/-- `CWD_DEFAULT_PATH_TOOLS`. -/
def cwdDefaultPathTools : List String := ["Glob", "Grep"]

variable (host : Host)

/-- The target of a call under a directory allowlist; a search without a path is one of the cwd. -/
def grantTarget (toolName : String) (args : Option (List (String × Json))) (cwd : String) : Option String :=
  if toolName ∈ cwdDefaultPathTools then
    some (host.resolve cwd ((args.bind fun args => textArgument args "path").getD "."))
  else extractToolFilePath host (some toolName) args cwd

def isGrantTargetWithin (allowedDirectories : List String) (toolName : String)
    (args : Option (List (String × Json))) (cwd : Option String) : Except Unit Bool :=
  match cwd.filter fun cwd => cwd ≠ "" with
  | none => .ok false
  | some cwd =>
    match grantTarget host toolName args cwd with
    | none => .ok false
    | some target =>
      match host.canonicalizePath target with
      | .error failure => .error failure
      | .ok none => .ok false
      | .ok (some canonicalTarget) => host.isCanonicalPathWithin allowedDirectories canonicalTarget cwd

/-- What an allowlist grants to a call that it covers: everything, except under a directory allowlist a
target outside it. -/
def grantWithin (agent : MakaioSessionAgent) (toolName : String) (args : Option (List (String × Json)))
    (rawEnrichedPolicy : Option RawEnrichedPolicyResult) :
    Except Unit ToolGrantVerdict :=
  match resolveEffectiveAllowedDirectories agent rawEnrichedPolicy with
  | none => .ok .granted
  | some directories =>
    (isGrantTargetWithin host directories toolName args agent.cwd).map fun within =>
      if within then .granted else .none

def evaluateToolGrant (agent : Option MakaioSessionAgent) (toolName : Option String)
    (args : Option (List (String × Json))) (rawEnrichedPolicy : Option RawEnrichedPolicyResult) :
    Except Unit ToolGrantVerdict :=
  match toolName.filter fun name => name ≠ "", agent with
  | some toolName, some agent =>
    if agent.allowedTools.isNone && agent.disallowedTools.isNone then .ok .none
    else
      match toolVocabularyForAdapter agent.adapterName with
      | none => .ok .none
      | some vocabulary =>
        match resolveToolPolicy vocabulary agent.allowedTools agent.disallowedTools with
        | .error error => .ok (.deny error.message)
        | .ok policy =>
          match policy.checkToolCall toolName (args.getD []) with
          | .denied reason => .ok (.deny reason)
          | .allowed =>
            if agent.allowedTools.isNone then .ok .none
            else grantWithin host agent toolName args rawEnrichedPolicy
  | _, _ => .ok .none

/-! ### The handler -/

structure PolicyResolutionResult where
  policy : ApprovalPolicy
  harness : Option HarnessResolution
  agent : Option MakaioSessionAgent
  resolvedAdapterName : String
  personaName : Option String
  profileName : Option String

/-- What the handler does with a call: it answers at once, or dispatches an approval request. -/
inductive Decision
  | allow
  | deny (message : String)
  | ask (resolved : PolicyResolutionResult)

variable (lookups : Lookups)

def getAgentMetadata (agentId sessionId : String) : AgentLookupResult :=
  let row? : Except Unit (Option MakaioSessionAgent) :=
    if sessionId ≠ "" then
      (lookups.listBySession sessionId).map fun agents =>
        agents.bind fun agents => agents.find? fun agent => agent.agentId = agentId
    else (lookups.getAgent agentId).map fun agent => agent.join
  match row? with
  | .error _ => .error
  | .ok none => .absent
  | .ok (some agent) => .found agent

def fetchRawEnrichedPolicy (personaId profileId : Option String)
    (toolName : String) : RawEnrichedPolicyResult :=
  match lookups.resolveEnrichedPolicy toolName personaId profileId with
  | .error _ => .unhandled
  | .ok none => .unhandled
  | .ok (some data) => .handled data

/-- The enriched policy of a call: it is only looked up for a tool, when a persona or a profile is
active. -/
def rawEnrichedPolicyOf (agent : Option MakaioSessionAgent)
    (toolName : Option String) : Option RawEnrichedPolicyResult :=
  match agent.filter MakaioSessionAgent.hasPersonaOrProfile, toolName.filter fun name => name ≠ "" with
  | some agent, some toolName =>
    some (fetchRawEnrichedPolicy lookups agent.personaId agent.profileId toolName)
  | _, _ => none

def resolveSessionOverride (sessionId : String) : Option ApprovalPolicy :=
  if sessionId = "" then none
  else
    match lookups.getSession sessionId with
    | .error _ => none
    | .ok override => override.join

def resolveHarnessPolicy (adapterName : String)
    (harnessId clientId : Option String) : Option HarnessResolution :=
  match lookups.resolveHarness adapterName (harnessId.filter fun i => i ≠ "")
    (clientId.filter fun i => i ≠ "") with
  | .error _ => none
  | .ok harness => some harness

/-- The harness that the call is decided with. -/
def harnessOf (agent : Option MakaioSessionAgent) (adapterName : String) :
    Option HarnessResolution :=
  resolveHarnessPolicy lookups ((agent.map MakaioSessionAgent.adapterName).getD adapterName)
    (agent.bind MakaioSessionAgent.harnessId) (agent.bind MakaioSessionAgent.clientId)

/-- A base policy, raised by what the harness says about the capabilities of the tool. -/
def raiseByHarness (harness : Option HarnessResolution) (toolName : Option String)
    (basePolicy : ApprovalPolicy) : ApprovalPolicy :=
  match harness.bind HarnessResolution.capabilityOverrides,
    harness.bind HarnessResolution.toolCapabilityMap, toolName.filter fun name => name ≠ "" with
  | some capabilityOverrides, some toolCapabilityMap, some toolName =>
    applyCapabilityOverrides basePolicy toolName capabilityOverrides toolCapabilityMap
  | _, _, _ => basePolicy

/-- The policy of the cascade before the capabilities of the tool. -/
def effectiveBasePolicy (enrichedBase : Option EnrichedBasePolicyResult)
    (harness : Option HarnessResolution) (toolName : Option String) : ApprovalPolicy :=
  match enrichedBase with
  | some enriched => enriched.policy
  | none => (resolveHarnessLevelPolicy harness toolName).getD .alwaysAsk

def resolvePolicyWithContext (adapterName : String) (toolName : Option String)
    (agent : Option MakaioSessionAgent) (rawEnrichedPolicy : Option RawEnrichedPolicyResult) :
    PolicyResolutionResult :=
  let enrichedBase := resolveEnrichedBasePolicy agent rawEnrichedPolicy
  let harness := harnessOf lookups agent adapterName
  { policy := raiseByHarness harness toolName (effectiveBasePolicy enrichedBase harness toolName)
    harness := harness
    agent := agent
    resolvedAdapterName := (agent.map MakaioSessionAgent.adapterName).getD adapterName
    personaName := enrichedBase.bind EnrichedBasePolicyResult.personaName
    profileName := enrichedBase.bind EnrichedBasePolicyResult.profileName }

def mergeEffectivePolicy (cascadePolicy : ApprovalPolicy) (toolGrant : ToolGrantVerdict)
    (sessionOverride : Option ApprovalPolicy) (agentLookupFailed : Bool) : ApprovalPolicy :=
  if sessionOverride = some .alwaysAsk then .alwaysAsk
  else if cascadePolicy = .reject then .reject
  else if agentLookupFailed then .alwaysAsk
  else if toolGrant = .granted then .fullAccess
  else cascadePolicy

/-- The decision from the layers, in their order; a layer that throws ends the handler. -/
def decideLayers (floor : Except Unit (Option String)) (sessionOverride : Option ApprovalPolicy)
    (toolGrant : Except Unit ToolGrantVerdict) (agentLookupFailed : Bool)
    (resolved : PolicyResolutionResult) : Except Unit Decision :=
  match floor with
  | .error failure => .error failure
  | .ok (some reason) => .ok (.deny reason)
  | .ok none =>
    if sessionOverride = some .reject then
      .ok (.deny "Tool use rejected by session approval policy override")
    else
      match toolGrant with
      | .error failure => .error failure
      | .ok (.deny message) => .ok (.deny message)
      | .ok verdict =>
        if sessionOverride = some .fullAccess && !agentLookupFailed then .ok .allow
        else
          match mergeEffectivePolicy resolved.policy verdict sessionOverride agentLookupFailed with
          | .fullAccess => .ok .allow
          | .reject => .ok (.deny "Tool use rejected by approval policy")
          | .alwaysAsk => .ok (.ask resolved)

/-- The handler of `agent.toolApprove`. -/
def toolApprove (host : Host) (lookups : Lookups) (request : AgentToolApproveRequest) :
    Except Unit Decision :=
  let lookup := getAgentMetadata lookups request.agentId request.sessionId
  let agent := lookup.agent?
  let rawEnrichedPolicy := rawEnrichedPolicyOf lookups agent request.toolName
  let context := resolveFileAccessContext agent rawEnrichedPolicy lookups.fileAccessRuleProvider
  decideLayers
    (checkFileAccessDenyReason host lookups.fileAccessRuleProvider request.toolName request.args context)
    (resolveSessionOverride lookups request.sessionId)
    (evaluateToolGrant host agent request.toolName request.args rawEnrichedPolicy)
    (lookup = .error)
    (resolvePolicyWithContext lookups request.adapterName request.toolName agent rawEnrichedPolicy)

end Makaio.Approval

import Makaio.Approval.Policy
import Mathlib.Order.Lattice
import Mathlib.Order.Bounds.Basic

set_option autoImplicit false

/-!
# Precedence of the approval layers

The handler answers with an early return for each layer and merges what is left.  Here its answers are
characterised by the layers alone: a call is allowed at once when no layer speaks against it and either
the session or the cascade, perhaps with the agent's tool lists, speaks for it.  Policies are ordered by
how restrictive they are, and the decision is antitone in every policy.

## Main definitions

* `ListsDeny`, `ListsGrant` — what the agent's tool lists say.
* `cascadePolicies` — the base policy and what the harness demands for the tool.
* `Lookups.Stricter` — the same answers with more restrictive policies.

## Main results

* `decideLayers_allow_iff`, `decideLayers_deny_iff` — the answers by the
  layers.
* `toolApprove_precedence` — the precedence of the layers.
-/

namespace Makaio.Approval

open Foundations

/-! ### The order of the policies -/

/-- Policies are ordered by how restrictive they are. -/
instance : LinearOrder ApprovalPolicy :=
  LinearOrder.lift' ApprovalPolicy.rank fun a b h => by cases a <;> cases b <;> simp_all [ApprovalPolicy.rank]

namespace ApprovalPolicy

lemma le_iff_rank {a b : ApprovalPolicy} : a ≤ b ↔ a.rank ≤ b.rank := Iff.rfl

variable {p : ApprovalPolicy}

/-- Full access is the least restrictive policy. -/
@[simp] lemma le_fullAccess : p ≤ .fullAccess ↔ p = .fullAccess := by
  cases p <;> simp [le_iff_rank, rank]

/-- Only rejecting is more restrictive than asking. -/
@[simp] lemma le_alwaysAsk : p ≤ .alwaysAsk ↔ p ≠ .reject := by
  cases p <;> simp [le_iff_rank, rank]

end ApprovalPolicy

variable (overrides : String → Option ApprovalPolicy)

/-- A capability raises a policy to the maximum of both. -/
lemma raiseBy_eq (p : ApprovalPolicy) (capability : String) :
    raiseBy overrides p capability = ((overrides capability).map fun o => max p o).getD p := by
  unfold raiseBy
  cases overrides capability with
  | none => rfl
  | some o =>
    simp only [Option.map_some, Option.getD_some]
    split
    · rename_i h
      exact (max_eq_right (le_of_lt (show p < o from h))).symm
    · rename_i h
      exact (max_eq_left (not_lt.mp (show ¬ p < o from h))).symm

/-- Capabilities raise a policy to the greatest of it and what they demand.

**Proof sketch.** By induction on the capabilities: the first one replaces the base policy by the maximum
of it and its own demand. -/
lemma isGreatest_foldl_raiseBy (capabilities : List String) (base : ApprovalPolicy) :
    IsGreatest (insert base {p | ∃ c ∈ capabilities, overrides c = some p})
      (capabilities.foldl (raiseBy overrides) base) := by
  induction capabilities generalizing base with
  | nil => simp [IsGreatest, upperBounds]
  | cons c rest ih =>
    obtain ⟨hmem, hub⟩ := ih (raiseBy overrides base c)
    rw [raiseBy_eq] at hmem hub
    simp only [List.foldl_cons, raiseBy_eq]
    cases hc : overrides c with
    | none =>
      simp only [hc, Option.map_none, Option.getD_none] at hmem hub ⊢
      refine ⟨?_, ?_⟩
      · rcases hmem with h | ⟨d, hd, hp⟩
        · exact Or.inl h
        · exact Or.inr ⟨d, List.mem_cons_of_mem _ hd, hp⟩
      · rintro p (rfl | ⟨d, hd, hp⟩)
        · exact hub (Or.inl rfl)
        · rcases List.mem_cons.mp hd with rfl | hd
          · simp [hc] at hp
          · exact hub (Or.inr ⟨d, hd, hp⟩)
    | some o =>
      simp only [hc, Option.map_some, Option.getD_some] at hmem hub ⊢
      refine ⟨?_, ?_⟩
      · rcases hmem with h | ⟨d, hd, hp⟩
        · rw [h]
          rcases max_choice base o with h | h
          · exact Or.inl h
          · exact Or.inr ⟨c, List.mem_cons_self, by rw [hc, h]⟩
        · exact Or.inr ⟨d, List.mem_cons_of_mem _ hd, hp⟩
      · rintro p (rfl | ⟨d, hd, hp⟩)
        · exact (le_max_left p o).trans (hub (Or.inl rfl))
        · rcases List.mem_cons.mp hd with rfl | hd
          · obtain rfl : o = p := by simpa [hc] using hp
            exact (le_max_right base o).trans (hub (Or.inl rfl))
          · exact hub (Or.inr ⟨d, hd, hp⟩)

/-! ### The layers decide -/

section Layers

variable {floor : Except Unit (Option String)} {sessionOverride : Option ApprovalPolicy}
  {toolGrant : Except Unit ToolGrantVerdict} {agentLookupFailed : Bool}
  {resolved : PolicyResolutionResult}

/-- The lists neither deny a call nor fail. -/
def ToolGrantVerdict.Passes (verdict : ToolGrantVerdict) : Prop := ∀ message, verdict ≠ .deny message

/-- **A call is allowed at once** when the floor and the lists let it pass, the agent row was looked up,
the session neither rejects nor asks, and the session or the cascade, which the lists complete, gives
full access. -/
lemma decideLayers_allow_iff :
    decideLayers floor sessionOverride toolGrant agentLookupFailed resolved = .ok .allow ↔
      floor = .ok none ∧ agentLookupFailed = false ∧ sessionOverride ≠ some .reject ∧
        sessionOverride ≠ some .alwaysAsk ∧
        ∃ verdict, toolGrant = .ok verdict ∧ verdict.Passes ∧
          (sessionOverride = some .fullAccess ∨ resolved.policy = .fullAccess ∨
            resolved.policy = .alwaysAsk ∧ verdict = .granted) := by
  rcases floor with failure | _ | reason
  · simp [decideLayers]
  · rcases toolGrant with failure | message | _ | _
    · rcases sessionOverride with _ | _ | _ | _ <;> simp [decideLayers]
    · rcases sessionOverride with _ | _ | _ | _ <;>
        simp [decideLayers, ToolGrantVerdict.Passes]
    all_goals
      cases agentLookupFailed <;> rcases sessionOverride with _ | _ | _ | _ <;>
        cases hp : resolved.policy <;>
        simp [decideLayers, mergeEffectivePolicy, ToolGrantVerdict.Passes, hp]
  · simp [decideLayers]

/-- **A call is denied at once** by the floor, a rejecting session, the lists, or a rejecting cascade
that no override of the session replaces. -/
lemma decideLayers_deny_iff :
    (∃ message, decideLayers floor sessionOverride toolGrant agentLookupFailed resolved =
        .ok (.deny message)) ↔
      (∃ reason, floor = .ok (some reason)) ∨
        floor = .ok none ∧ (sessionOverride = some .reject ∨ (∃ message, toolGrant = .ok (.deny message)) ∨
          (∃ verdict, toolGrant = .ok verdict) ∧ resolved.policy = .reject ∧
            (sessionOverride = none ∨ sessionOverride = some .fullAccess ∧ agentLookupFailed)) := by
  rcases floor with failure | _ | reason
  · simp [decideLayers]
  · rcases toolGrant with failure | message | _ | _
    · rcases sessionOverride with _ | _ | _ | _ <;> simp [decideLayers]
    · rcases sessionOverride with _ | _ | _ | _ <;> simp [decideLayers]
    all_goals
      cases agentLookupFailed <;> rcases sessionOverride with _ | _ | _ | _ <;>
        cases hp : resolved.policy <;>
        simp [decideLayers, mergeEffectivePolicy, hp]
  · simp [decideLayers]

end Layers

/-! ### The tool lists -/

/-- What an agent's lists say about a call of a tool: why they reject it, an entry that is not valid
included. -/
def listsReject (vocabulary : ToolVocabulary) (agent : MakaioSessionAgent) (toolName : String)
    (args : Option (List (String × Json))) : Option String :=
  match resolveToolPolicy vocabulary agent.allowedTools agent.disallowedTools with
  | .error error => some error.message
  | .ok policy =>
    match policy.checkToolCall toolName (args.getD []) with
    | .denied reason => some reason
    | .allowed => none

/-- The agent has lists, in a vocabulary that is known, and they reject the call. -/
def ListsDeny (agent? : Option MakaioSessionAgent) (toolName? : Option String)
    (args : Option (List (String × Json))) : Prop :=
  ∃ agent toolName vocabulary message, agent? = some agent ∧ toolName? = some toolName ∧
    toolName ≠ "" ∧ (agent.allowedTools ≠ none ∨ agent.disallowedTools ≠ none) ∧
    toolVocabularyForAdapter agent.adapterName = some vocabulary ∧
    listsReject vocabulary agent toolName args = some message

/-- The agent has an allowlist, in a vocabulary that is known, that covers the call, and under a
directory allowlist the call's target is inside it. -/
def ListsGrant (host : Host) (agent? : Option MakaioSessionAgent) (toolName? : Option String)
    (args : Option (List (String × Json))) (rawEnrichedPolicy : Option RawEnrichedPolicyResult) : Prop :=
  ∃ agent toolName vocabulary, agent? = some agent ∧ toolName? = some toolName ∧ toolName ≠ "" ∧
    agent.allowedTools ≠ none ∧ toolVocabularyForAdapter agent.adapterName = some vocabulary ∧
    listsReject vocabulary agent toolName args = none ∧
    ∀ directories, resolveEffectiveAllowedDirectories agent rawEnrichedPolicy = some directories →
      isGrantTargetWithin host directories toolName args agent.cwd = .ok true

section Lists

variable {host : Host} {agent? : Option MakaioSessionAgent} {toolName? : Option String}
  {args : Option (List (String × Json))} {rawEnrichedPolicy : Option RawEnrichedPolicyResult}
variable {agent : MakaioSessionAgent} {toolName : String}

/-- The verdict in terms of what the lists reject. -/
lemma evaluateToolGrant_eq (hname : toolName ≠ "") :
    evaluateToolGrant host (some agent) (some toolName) args rawEnrichedPolicy =
      if agent.allowedTools = none ∧ agent.disallowedTools = none then .ok .none
      else match toolVocabularyForAdapter agent.adapterName with
      | none => .ok .none
      | some vocabulary =>
        match listsReject vocabulary agent toolName args with
        | some message => .ok (.deny message)
        | none =>
          if agent.allowedTools = none then .ok .none
          else grantWithin host agent toolName args rawEnrichedPolicy := by
  unfold evaluateToolGrant listsReject
  simp only [Option.filter, hname, ne_eq, not_false_eq_true, decide_true, if_true,
    Bool.and_eq_true, Option.isNone_iff_eq_none]
  split
  · rfl
  · cases toolVocabularyForAdapter agent.adapterName with
    | none => rfl
    | some vocabulary =>
      dsimp only
      cases resolveToolPolicy vocabulary agent.allowedTools agent.disallowedTools with
      | error error => rfl
      | ok policy =>
        dsimp only
        cases policy.checkToolCall toolName (args.getD []) <;> rfl

/-- Without an agent or a tool there is no verdict. -/
lemma evaluateToolGrant_eq_none (h : agent? = none ∨ toolName? = none ∨ toolName? = some "") :
    evaluateToolGrant host agent? toolName? args rawEnrichedPolicy = .ok .none := by
  unfold evaluateToolGrant
  rcases h with rfl | rfl | rfl
  · cases toolName?.filter fun name => name ≠ "" <;> rfl
  · rfl
  · rfl

/-- What an allowlist grants: everything that it covers, or nothing; it never denies a call. -/
lemma grantWithin_verdict :
    (grantWithin host agent toolName args rawEnrichedPolicy = .ok .granted ↔
      ∀ directories, resolveEffectiveAllowedDirectories agent rawEnrichedPolicy = some directories →
        isGrantTargetWithin host directories toolName args agent.cwd = .ok true) ∧
    ∀ message, grantWithin host agent toolName args rawEnrichedPolicy ≠ .ok (.deny message) := by
  unfold grantWithin
  cases resolveEffectiveAllowedDirectories agent rawEnrichedPolicy with
  | none => simp
  | some directories =>
    cases hw : isGrantTargetWithin host directories toolName args agent.cwd with
    | error failure => simp [Except.map, hw]
    | ok within => cases within <;> simp [Except.map, hw]

/-- The verdict is a denial exactly when the lists reject the call, and a grant exactly when an allowlist
covers the call with its target. -/
lemma evaluateToolGrant_verdict (host : Host) (rawEnrichedPolicy : Option RawEnrichedPolicyResult) :
    ((∃ message, evaluateToolGrant host agent? toolName? args rawEnrichedPolicy = .ok (.deny message)) ↔
      ListsDeny agent? toolName? args) ∧
    (evaluateToolGrant host agent? toolName? args rawEnrichedPolicy = .ok .granted ↔
      ListsGrant host agent? toolName? args rawEnrichedPolicy) := by
  by_cases hnone : agent? = none ∨ toolName? = none ∨ toolName? = some ""
  · rw [evaluateToolGrant_eq_none hnone]
    refine ⟨iff_of_false (by simp) ?_, iff_of_false (by simp) ?_⟩
    · rintro ⟨agent, toolName, vocabulary, message, rfl, rfl, hname, -⟩
      simp [hname] at hnone
    · rintro ⟨agent, toolName, vocabulary, rfl, rfl, hname, -⟩
      simp [hname] at hnone
  · obtain ⟨agent, rfl⟩ := Option.ne_none_iff_exists'.mp fun h => hnone (Or.inl h)
    obtain ⟨toolName, rfl⟩ := Option.ne_none_iff_exists'.mp fun h => hnone (Or.inr (Or.inl h))
    have hname : toolName ≠ "" := fun h => hnone (Or.inr (Or.inr (by rw [h])))
    rw [evaluateToolGrant_eq hname]
    unfold ListsDeny ListsGrant
    cases ha : agent.allowedTools <;> cases hd : agent.disallowedTools <;>
      cases hv : toolVocabularyForAdapter agent.adapterName with
    | none => simp [ha, hd, hv]
    | some vocabulary =>
      have : Nonempty ToolVocabulary := ⟨vocabulary⟩
      cases hl : listsReject vocabulary agent toolName args <;>
        simp [ha, hd, hv, hl, hname, grantWithin_verdict.1, grantWithin_verdict.2]

/-- The verdict depends on the enriched policy by the directory allowlist alone. -/
lemma evaluateToolGrant_congr {raw raw' : Option RawEnrichedPolicyResult}
    (h : ∀ agent, resolveEffectiveAllowedDirectories agent raw =
      resolveEffectiveAllowedDirectories agent raw') :
    evaluateToolGrant host agent? toolName? args raw =
      evaluateToolGrant host agent? toolName? args raw' := by
  unfold evaluateToolGrant
  split
  · simp only [grantWithin, h]
  · rfl

end Lists

/-! ### A file system that answers -/

/-- The file system does not fail on a look at an entry. -/
def Host.Answers (host : Host) : Prop := ∀ path, ∃ entry, host.lstatSync path = .ok entry

section Answers

variable {host : Host} (h : host.Answers)

include h

/-- Looking for an existing ancestor does not fail.

**Proof sketch.** By the recursion of `canonicalizeFrom`: each ancestor either ends the search or is
left for the next one. -/
lemma Host.canonicalizeFrom_ok (target existing : String) :
    ∃ result, host.canonicalizeFrom target existing = .ok result := by
  induction existing using Host.canonicalizeFrom.induct host with
  | case1 existing real hreal | case2 existing hreal => exact ⟨_, by rw [canonicalizeFrom.eq_def, hreal]⟩
  | case3 existing hreal failure hentry =>
    obtain ⟨entry, hok⟩ := h existing
    simp [hok] at hentry
  | case4 existing hreal hentry => exact ⟨_, by rw [canonicalizeFrom.eq_def, hreal, hentry]⟩
  | case5 existing hreal hentry htop =>
    exact ⟨none, by rw [canonicalizeFrom.eq_def, hreal, hentry]; exact dif_pos htop⟩
  | case6 existing hreal hentry htop ih =>
    obtain ⟨result, hresult⟩ := ih
    exact ⟨result, by rw [canonicalizeFrom.eq_def, hreal, hentry]; exact (dif_neg htop).trans hresult⟩

/-- A path is canonicalized without a failure. -/
lemma Host.canonicalizePath_ok (target : String) : ∃ result, host.canonicalizePath target = .ok result :=
  host.canonicalizeFrom_ok h target target

/-- Neither does the containment check fail. -/
lemma Host.isCanonicalPathWithin_ok (directories : List String) (target cwd : String) :
    ∃ within, host.isCanonicalPathWithin directories target cwd = .ok within := by
  unfold isCanonicalPathWithin
  induction directories with
  | nil => exact ⟨false, rfl⟩
  | cons directory rest ih =>
    obtain ⟨root, hroot⟩ := host.canonicalizePath_ok h (host.resolve cwd directory)
    obtain ⟨within, hwithin⟩ := ih
    simp only [List.anyM_cons, hroot]
    cases root with
    | none => exact ⟨within, hwithin⟩
    | some root =>
      cases hin : host.isInside (host.relative (host.fold root) (host.fold target)) with
      | true => exact ⟨true, by simp [hin, bind, Except.bind, pure, Except.pure]⟩
      | false => exact ⟨within, by simpa [hin, bind, Except.bind] using hwithin⟩

/-- Neither does the floor. -/
lemma checkFileAccessDenyReason_ok (provider : Option FileAccessRuleProvider)
    (toolName : Option String) (args : Option (List (String × Json))) (context : FileAccessContext) :
    ∃ reason, checkFileAccessDenyReason host provider toolName args context = .ok reason := by
  unfold checkFileAccessDenyReason
  repeat' split
  all_goals first
    | exact ⟨_, rfl⟩
    | skip
  · rename_i hfailure
    obtain ⟨result, hok⟩ := host.canonicalizePath_ok h _
    rw [hok] at hfailure
    simp at hfailure
  · unfold containmentDenyReason
    split
    · exact ⟨_, rfl⟩
    · obtain ⟨within, hwithin⟩ := host.isCanonicalPathWithin_ok h _ _ _
      rw [hwithin]
      exact ⟨_, rfl⟩

/-- Neither do the tool lists. -/
lemma evaluateToolGrant_ok (agent? : Option MakaioSessionAgent) (toolName? : Option String)
    (args : Option (List (String × Json))) (rawEnrichedPolicy : Option RawEnrichedPolicyResult) :
    ∃ verdict, evaluateToolGrant host agent? toolName? args rawEnrichedPolicy = .ok verdict := by
  unfold evaluateToolGrant
  repeat' split
  all_goals first
    | exact ⟨_, rfl⟩
    | skip
  unfold grantWithin
  split
  · exact ⟨_, rfl⟩
  · unfold isGrantTargetWithin
    repeat' split
    all_goals first
      | exact ⟨_, rfl⟩
      | skip
    · rename_i hfailure
      obtain ⟨result, hok⟩ := host.canonicalizePath_ok h _
      rw [hok] at hfailure
      simp at hfailure
    · obtain ⟨within, hwithin⟩ := host.isCanonicalPathWithin_ok h _ _ _
      rw [hwithin]
      exact ⟨_, rfl⟩

end Answers

/-! ### The layers of a call -/

section Call

variable (host : Host) (lookups : Lookups) (request : AgentToolApproveRequest)

/-- The agent row of a call. -/
def agentOf : Option MakaioSessionAgent :=
  (getAgentMetadata lookups request.agentId request.sessionId).agent?

/-- The enriched policy of a call. -/
def rawPolicyOf : Option RawEnrichedPolicyResult :=
  rawEnrichedPolicyOf lookups (agentOf lookups request) request.toolName

/-- The floor of a call under an enriched policy. -/
def floorUnder (raw : Option RawEnrichedPolicyResult) : Except Unit (Option String) :=
  checkFileAccessDenyReason host lookups.fileAccessRuleProvider request.toolName request.args
    (resolveFileAccessContext (agentOf lookups request) raw lookups.fileAccessRuleProvider)

/-- The verdict of the tool lists on a call under an enriched policy. -/
def grantUnder (raw : Option RawEnrichedPolicyResult) : Except Unit ToolGrantVerdict :=
  evaluateToolGrant host (agentOf lookups request) request.toolName request.args raw

/-- The override of a call's session. -/
def overrideOf : Option ApprovalPolicy := resolveSessionOverride lookups request.sessionId

/-- What the cascade resolves for a call under an enriched policy. -/
def resolvedUnder (raw : Option RawEnrichedPolicyResult) : PolicyResolutionResult :=
  resolvePolicyWithContext lookups request.adapterName request.toolName (agentOf lookups request) raw

/-- The policy of the cascade for a call. -/
def cascadeOf : ApprovalPolicy := (resolvedUnder lookups request (rawPolicyOf lookups request)).policy

/-- The handler decides from these layers. -/
lemma toolApprove_eq :
    toolApprove host lookups request =
      decideLayers (floorUnder host lookups request (rawPolicyOf lookups request))
        (overrideOf lookups request) (grantUnder host lookups request (rawPolicyOf lookups request))
        (getAgentMetadata lookups request.agentId request.sessionId = .error)
        (resolvedUnder lookups request (rawPolicyOf lookups request)) := rfl

end Call

/-- The base policy of the cascade: the persona's or profile's, which asks unless it was resolved; else
the harness's for the tool; else the harness's; else asking. -/
inductive BasePolicy (agent? : Option MakaioSessionAgent) (raw : Option RawEnrichedPolicyResult)
    (harness? : Option HarnessResolution) (toolName? : Option String) : ApprovalPolicy → Prop
  | enriched {data : ResolveEnrichedPolicyResponse}
      (active : agent?.any MakaioSessionAgent.hasPersonaOrProfile) (answered : raw = some (.handled data)) :
      BasePolicy agent? raw harness? toolName? (mapActionToPolicy data.action)
  | unanswered (active : agent?.any MakaioSessionAgent.hasPersonaOrProfile)
      (unanswered : ∀ data, raw ≠ some (.handled data)) :
      BasePolicy agent? raw harness? toolName? .alwaysAsk
  | tool {harness : HarnessResolution} {overrides : String → Option ApprovalPolicy} {toolName : String}
      {policy : ApprovalPolicy} (inactive : ¬agent?.any MakaioSessionAgent.hasPersonaOrProfile)
      (resolved : harness? = some harness) (override : harness.toolApprovalOverrides = some overrides)
      (named : toolName? = some toolName) (nonempty : toolName ≠ "")
      (policyOf : overrides toolName = some policy) :
      BasePolicy agent? raw harness? toolName? policy
  | harness {harness : HarnessResolution}
      (inactive : ¬agent?.any MakaioSessionAgent.hasPersonaOrProfile)
      (resolved : harness? = some harness)
      (none : ∀ overrides toolName, harness.toolApprovalOverrides = some overrides →
        toolName? = some toolName → toolName ≠ "" → overrides toolName = none) :
      BasePolicy agent? raw harness? toolName? harness.approvalPolicy
  | default (inactive : ¬agent?.any MakaioSessionAgent.hasPersonaOrProfile)
      (unresolved : harness? = none) : BasePolicy agent? raw harness? toolName? .alwaysAsk

/-- The harness overrides a capability of the tool by a policy. -/
def CapabilityDemands (harness? : Option HarnessResolution) (toolName? : Option String)
    (policy : ApprovalPolicy) : Prop :=
  ∃ harness overrides map toolName capabilities, harness? = some harness ∧
    harness.capabilityOverrides = some overrides ∧ harness.toolCapabilityMap = some map ∧
    toolName? = some toolName ∧ toolName ≠ "" ∧ map toolName = some capabilities ∧
    ∃ capability ∈ capabilities, overrides capability = some policy

section Cascade

variable {agent? : Option MakaioSessionAgent} {raw : Option RawEnrichedPolicyResult}
  {harness? : Option HarnessResolution} {toolName? : Option String}

/-- What a harness says about a tool: its override for it, else its own policy. -/
lemma basePolicy_of_harness {harness : HarnessResolution}
    (inactive : ¬agent?.any MakaioSessionAgent.hasPersonaOrProfile) :
    BasePolicy agent? raw (some harness) toolName?
      ((resolveHarnessLevelPolicy (some harness) toolName?).getD .alwaysAsk) := by
  simp only [resolveHarnessLevelPolicy, Option.map_some, Option.getD_some]
  split
  · rename_i policy hpolicy
    obtain ⟨toolName, hname, hpolicy⟩ := Option.bind_eq_some_iff.mp hpolicy
    obtain ⟨overrides, hoverrides, hpolicy⟩ := Option.bind_eq_some_iff.mp hpolicy
    obtain ⟨hsome, hne⟩ := Option.filter_eq_some_iff.mp hname
    exact .tool inactive rfl hoverrides hsome (by simpa using hne) hpolicy
  · rename_i hpolicy
    refine .harness inactive rfl fun overrides toolName hoverrides hname hne => ?_
    simpa [hname, hoverrides, hne, Option.filter] using hpolicy

/-- The base policy of the cascade is the one that takes precedence. -/
lemma basePolicy_effectiveBasePolicy :
    BasePolicy agent? raw harness? toolName?
      (effectiveBasePolicy (resolveEnrichedBasePolicy agent? raw) harness? toolName?) := by
  unfold resolveEnrichedBasePolicy
  split
  · rename_i active
    rcases raw with _ | _ | data
    · exact .unanswered active (by simp)
    · exact .unanswered active (by simp)
    · exact .enriched active rfl
  · rename_i inactive
    cases harness? with
    | none => exact .default inactive rfl
    | some harness => exact basePolicy_of_harness inactive

/-- The harness raises a policy to the greatest of it and what it demands for the tool's capabilities. -/
lemma isGreatest_raiseByHarness (base : ApprovalPolicy) :
    IsGreatest (insert base {p | CapabilityDemands harness? toolName? p})
      (raiseByHarness harness? toolName? base) := by
  unfold raiseByHarness
  split
  · rename_i overrides map toolName hoverrides hmap hname
    obtain ⟨harness, hharness, hoverrides⟩ := Option.bind_eq_some_iff.mp hoverrides
    obtain ⟨harness', hharness', hmap⟩ := Option.bind_eq_some_iff.mp hmap
    obtain rfl : harness = harness' := by simpa [hharness] using hharness'
    obtain ⟨hsome, hne⟩ := Option.filter_eq_some_iff.mp hname
    have hdemands : {p | CapabilityDemands harness? toolName? p} =
        {p | ∃ c ∈ (map toolName).getD [], overrides c = some p} := by
      ext p
      have hne' : toolName ≠ "" := by simpa using hne
      cases hcapabilities : map toolName <;>
        simp [CapabilityDemands, hharness, hoverrides, hmap, hsome, hne', hcapabilities]
    rw [hdemands]
    exact isGreatest_foldl_raiseBy overrides _ base
  · rename_i hmissing
    have hdemands : {p | CapabilityDemands harness? toolName? p} = ∅ := by
      ext p
      simp only [Set.mem_ofPred_eq, Set.mem_empty_iff_false, iff_false]
      rintro ⟨harness, overrides, map, toolName, capabilities, rfl, ho, hm, rfl, hne, -⟩
      exact hmissing overrides map toolName (by simpa using ho) (by simpa using hm)
        (by simp [Option.filter, hne])
    rw [hdemands]
    simp [IsGreatest, upperBounds]

end Cascade

/-! ### Stricter policies -/

/-- A harness that is as restrictive for every tool and every capability of the same tools. -/
structure HarnessResolution.Stricter (harness harness' : HarnessResolution) : Prop where
  levels : ∀ toolName policy policy', resolveHarnessLevelPolicy (some harness) toolName = some policy →
    resolveHarnessLevelPolicy (some harness') toolName = some policy' → policy ≤ policy'
  demands : ∀ toolName policy, CapabilityDemands (some harness) toolName policy →
    ∃ policy', CapabilityDemands (some harness') toolName policy' ∧ policy ≤ policy'

/-- The same answers, with policies of personas, profiles and harnesses that are as restrictive. -/
structure Lookups.Stricter (lookups lookups' : Lookups) : Prop where
  listBySession : lookups'.listBySession = lookups.listBySession
  getAgent : lookups'.getAgent = lookups.getAgent
  getSession : lookups'.getSession = lookups.getSession
  fileAccessRuleProvider : lookups'.fileAccessRuleProvider = lookups.fileAccessRuleProvider
  enriched : ∀ toolName personaId profileId,
    lookups'.resolveEnrichedPolicy toolName personaId profileId =
        lookups.resolveEnrichedPolicy toolName personaId profileId ∨
      ∃ data data', lookups.resolveEnrichedPolicy toolName personaId profileId = .ok (some data) ∧
        lookups'.resolveEnrichedPolicy toolName personaId profileId = .ok (some data') ∧
        data'.allowedDirectories = data.allowedDirectories ∧
        mapActionToPolicy data.action ≤ mapActionToPolicy data'.action
  harness : ∀ adapterName harnessId clientId,
    lookups'.resolveHarness adapterName harnessId clientId =
        lookups.resolveHarness adapterName harnessId clientId ∨
      ∃ harness harness', lookups.resolveHarness adapterName harnessId clientId = .ok harness ∧
        lookups'.resolveHarness adapterName harnessId clientId = .ok harness' ∧ harness.Stricter harness'

/-- Two answers of the enriched-policy request, the second as restrictive about the same directories. -/
def RawEnrichedPolicyResult.Stricter (raw raw' : RawEnrichedPolicyResult) : Prop :=
  raw' = raw ∨ ∃ data data', raw = .handled data ∧ raw' = .handled data' ∧
    data'.allowedDirectories = data.allowedDirectories ∧
    mapActionToPolicy data.action ≤ mapActionToPolicy data'.action

/-- Two harnesses, if there is one, the second as restrictive. -/
def HarnessStricter (harness? harness?' : Option HarnessResolution) : Prop :=
  harness?' = harness? ∨
    ∃ harness harness', harness? = some harness ∧ harness?' = some harness' ∧ harness.Stricter harness'

section Stricter

variable {lookups lookups' : Lookups} (h : lookups.Stricter lookups')

include h

/-- The same agent row is found. -/
lemma Lookups.Stricter.getAgentMetadata (agentId sessionId : String) :
    getAgentMetadata lookups' agentId sessionId = Approval.getAgentMetadata lookups agentId sessionId := by
  unfold Approval.getAgentMetadata
  rw [h.listBySession, h.getAgent]

/-- The enriched policy of a call is as restrictive about the same directories. -/
lemma Lookups.Stricter.rawEnrichedPolicyOf (agent? : Option MakaioSessionAgent)
    (toolName? : Option String) :
    Option.Rel RawEnrichedPolicyResult.Stricter (rawEnrichedPolicyOf lookups agent? toolName?)
      (Approval.rawEnrichedPolicyOf lookups' agent? toolName?) := by
  unfold Approval.rawEnrichedPolicyOf
  split
  · rename_i agent toolName hagent hname
    refine .some ?_
    unfold fetchRawEnrichedPolicy
    rcases h.enriched toolName agent.personaId agent.profileId with heq | ⟨data, data', hd, hd', hr⟩
    · rw [heq]
      exact Or.inl rfl
    · rw [hd, hd']
      exact Or.inr ⟨data, data', rfl, rfl, hr⟩
  · exact .none

/-- The harness of a call is as restrictive. -/
lemma Lookups.Stricter.harnessOf (agent? : Option MakaioSessionAgent) (adapterName : String) :
    HarnessStricter (harnessOf lookups agent? adapterName)
      (Approval.harnessOf lookups' agent? adapterName) := by
  unfold Approval.harnessOf resolveHarnessPolicy
  rcases h.harness ((agent?.map MakaioSessionAgent.adapterName).getD adapterName)
      ((agent?.bind MakaioSessionAgent.harnessId).filter fun i => i ≠ "")
      ((agent?.bind MakaioSessionAgent.clientId).filter fun i => i ≠ "") with
    heq | ⟨harness, harness', hh, hh', hr⟩
  · rw [heq]
    exact Or.inl rfl
  · rw [hh, hh']
    exact Or.inr ⟨harness, harness', rfl, rfl, hr⟩

end Stricter

section StricterCascade

variable {agent? : Option MakaioSessionAgent} {raw raw' : Option RawEnrichedPolicyResult}
  {harness? harness?' : Option HarnessResolution} {toolName? : Option String}

/-- A stricter policy of a profile restricts to the same directories. -/
lemma resolveEffectiveAllowedDirectories_of_stricter (agent : MakaioSessionAgent)
    (h : Option.Rel RawEnrichedPolicyResult.Stricter raw raw') :
    resolveEffectiveAllowedDirectories agent raw' = resolveEffectiveAllowedDirectories agent raw := by
  cases h with
  | none => rfl
  | some h =>
    obtain rfl | ⟨data, data', rfl, rfl, hdirectories, -⟩ := h
    · rfl
    · simp [resolveEffectiveAllowedDirectories, resolveProfileAllowedDirectories, hdirectories]

/-- The base policy of stricter answers is as restrictive.

**Proof sketch.** With a persona or a profile the policies of the two answers are compared, without one
the two harnesses. -/
lemma effectiveBasePolicy_mono (hraw : Option.Rel RawEnrichedPolicyResult.Stricter raw raw')
    (hharness : HarnessStricter harness? harness?') :
    effectiveBasePolicy (resolveEnrichedBasePolicy agent? raw) harness? toolName? ≤
      effectiveBasePolicy (resolveEnrichedBasePolicy agent? raw') harness?' toolName? := by
  unfold resolveEnrichedBasePolicy
  split
  · cases hraw with
    | none => exact le_rfl
    | some h =>
      obtain rfl | ⟨data, data', rfl, rfl, -, hle⟩ := h
      · rename_i raw
        cases raw <;> exact le_rfl
      · exact hle
  · obtain rfl | ⟨harness, harness', rfl, rfl, hr⟩ := hharness
    · exact le_rfl
    · exact hr.levels toolName? _ _ rfl rfl

/-- A stricter harness raises a policy that is as restrictive to one that is as restrictive. -/
lemma raiseByHarness_mono {base base' : ApprovalPolicy} (hbase : base ≤ base')
    (hharness : HarnessStricter harness? harness?') :
    raiseByHarness harness? toolName? base ≤ raiseByHarness harness?' toolName? base' := by
  have hub : base' ≤ raiseByHarness harness?' toolName? base' :=
    (isGreatest_raiseByHarness base').2 (Or.inl rfl)
  have hgreatest : IsGreatest (insert base {p | CapabilityDemands harness? toolName? p})
      (raiseByHarness harness? toolName? base) := isGreatest_raiseByHarness base
  rcases hgreatest.1 with heq | hdemand
  · rw [heq]
    exact hbase.trans hub
  · have hdemand' : ∃ policy', CapabilityDemands harness?' toolName? policy' ∧
        raiseByHarness harness? toolName? base ≤ policy' := by
      obtain rfl | ⟨harness, harness', rfl, rfl, hr⟩ := hharness
      · exact ⟨_, hdemand, le_rfl⟩
      · exact hr.demands toolName? _ hdemand
    obtain ⟨policy', hpolicy', hle⟩ := hdemand'
    exact hle.trans ((isGreatest_raiseByHarness base').2 (Or.inr hpolicy'))

end StricterCascade

/-- Stricter policies never allow a call at once that was not allowed at once.

**Proof sketch.** The floor, the override and the verdict of the lists do not depend on the policies,
and the policy of the cascade is as restrictive, so that one that lets the call pass did before. -/
lemma toolApprove_allow_of_stricter {host : Host} {lookups lookups' : Lookups}
    {request : AgentToolApproveRequest} (h : lookups.Stricter lookups')
    (hallow : toolApprove host lookups' request = .ok .allow) :
    toolApprove host lookups request = .ok .allow := by
  have hagent : agentOf lookups' request = agentOf lookups request := by
    unfold agentOf
    rw [h.getAgentMetadata]
  have hraw : Option.Rel RawEnrichedPolicyResult.Stricter (rawPolicyOf lookups request)
      (rawPolicyOf lookups' request) := by
    unfold rawPolicyOf
    rw [hagent]
    exact h.rawEnrichedPolicyOf _ _
  have hcascade : (resolvedUnder lookups request (rawPolicyOf lookups request)).policy ≤
      (resolvedUnder lookups' request (rawPolicyOf lookups' request)).policy := by
    unfold resolvedUnder
    rw [hagent]
    exact raiseByHarness_mono
      (effectiveBasePolicy_mono hraw (h.harnessOf _ _)) (h.harnessOf _ _)
  have hfloor : floorUnder host lookups' request (rawPolicyOf lookups' request) =
      floorUnder host lookups request (rawPolicyOf lookups request) := by
    unfold floorUnder resolveFileAccessContext
    rw [hagent, h.fileAccessRuleProvider]
    cases agentOf lookups request with
    | none => rfl
    | some agent => simp only [resolveEffectiveAllowedDirectories_of_stricter agent hraw]
  have hgrant : grantUnder host lookups' request (rawPolicyOf lookups' request) =
      grantUnder host lookups request (rawPolicyOf lookups request) := by
    unfold grantUnder
    rw [hagent]
    exact evaluateToolGrant_congr fun agent =>
      resolveEffectiveAllowedDirectories_of_stricter agent hraw
  have hoverride : overrideOf lookups' request = overrideOf lookups request := by
    unfold overrideOf resolveSessionOverride
    rw [h.getSession]
  rw [toolApprove_eq, decideLayers_allow_iff] at hallow ⊢
  rw [hfloor, hoverride, hgrant, h.getAgentMetadata] at hallow
  obtain ⟨hpass, hfound, hnotReject, hnotAsk, verdict, hverdict, hpasses, hlets⟩ := hallow
  refine ⟨hpass, hfound, hnotReject, hnotAsk, verdict, hverdict, hpasses, ?_⟩
  rcases hlets with hfull | hfull | ⟨hask, hgranted⟩
  · exact Or.inl hfull
  · rw [hfull, ApprovalPolicy.le_fullAccess] at hcascade
    exact Or.inr (Or.inl hcascade)
  · rw [hask, ApprovalPolicy.le_alwaysAsk] at hcascade
    cases hp : (resolvedUnder lookups request (rawPolicyOf lookups request)).policy with
    | fullAccess => exact Or.inr (Or.inl rfl)
    | alwaysAsk => exact Or.inr (Or.inr ⟨rfl, hgranted⟩)
    | reject => exact absurd hp hcascade

/-- **The precedence of the layers**, when the agent row is looked up and the file system answers: the
policy of the cascade is the greatest of its base policy and what the harness demands for the tool's
capabilities; a call is allowed at once exactly when neither the floor nor the lists deny it, the
session neither rejects nor asks, and the session gives full access, or the cascade does, or the cascade
asks for a call that the lists grant; it is denied at once exactly by the floor, the lists, a rejecting
session, or a rejecting cascade without an override; and stricter policies never allow more at once.

**Proof sketch.** By the characterisations of `decideLayers`, the tool lists and the cascade; the floor
and the lists have a verdict because the file system answers. -/
theorem toolApprove_precedence (host : Host) (lookups : Lookups) (request : AgentToolApproveRequest)
    (hhost : host.Answers)
    (hagent : getAgentMetadata lookups request.agentId request.sessionId ≠ .error) :
    (∃ base, BasePolicy (agentOf lookups request) (rawPolicyOf lookups request)
        (harnessOf lookups (agentOf lookups request) request.adapterName) request.toolName base ∧
      IsGreatest (insert base {p | CapabilityDemands
          (harnessOf lookups (agentOf lookups request) request.adapterName) request.toolName p})
        (cascadeOf lookups request)) ∧
    (toolApprove host lookups request = .ok .allow ↔
      (∀ reason, floorUnder host lookups request (rawPolicyOf lookups request) ≠ .ok (some reason)) ∧
      ¬ListsDeny (agentOf lookups request) request.toolName request.args ∧
      overrideOf lookups request ≠ some .reject ∧ overrideOf lookups request ≠ some .alwaysAsk ∧
      (overrideOf lookups request = some .fullAccess ∨ cascadeOf lookups request = .fullAccess ∨
        cascadeOf lookups request = .alwaysAsk ∧
          ListsGrant host (agentOf lookups request) request.toolName request.args
            (rawPolicyOf lookups request))) ∧
    ((∃ message, toolApprove host lookups request = .ok (.deny message)) ↔
      (∃ reason, floorUnder host lookups request (rawPolicyOf lookups request) = .ok (some reason)) ∨
      ListsDeny (agentOf lookups request) request.toolName request.args ∨
      overrideOf lookups request = some .reject ∨
      overrideOf lookups request = none ∧ cascadeOf lookups request = .reject) ∧
    ∀ lookups', lookups.Stricter lookups' → toolApprove host lookups' request = .ok .allow →
      toolApprove host lookups request = .ok .allow := by
  obtain ⟨reason?, hfloor⟩ : ∃ reason?,
      floorUnder host lookups request (rawPolicyOf lookups request) = .ok reason? :=
    checkFileAccessDenyReason_ok hhost _ _ _ _
  obtain ⟨verdict, hverdict⟩ : ∃ verdict,
      grantUnder host lookups request (rawPolicyOf lookups request) = .ok verdict :=
    evaluateToolGrant_ok hhost _ _ _ _
  have hfound : decide (getAgentMetadata lookups request.agentId request.sessionId = .error) = false :=
    decide_eq_false hagent
  have hdeny : (∃ message, verdict = .deny message) ↔
      ListsDeny (agentOf lookups request) request.toolName request.args := by
    rw [← (evaluateToolGrant_verdict host (rawPolicyOf lookups request)).1]
    exact exists_congr fun message => by
      rw [show evaluateToolGrant host _ _ _ _ = .ok verdict from hverdict, Except.ok.injEq]
  have hgranted : verdict = .granted ↔ ListsGrant host (agentOf lookups request) request.toolName
      request.args (rawPolicyOf lookups request) := by
    rw [← (evaluateToolGrant_verdict _ _).2, show evaluateToolGrant host _ _ _ _ = .ok verdict from hverdict,
      Except.ok.injEq]
  refine ⟨⟨_, basePolicy_effectiveBasePolicy, isGreatest_raiseByHarness _⟩, ?_, ?_, ?_⟩
  · rw [toolApprove_eq, decideLayers_allow_iff, ← hdeny, ← hgranted, hfloor, hverdict, hfound]
    cases reason? with
    | some reason => simp
    | none =>
      simp only [ToolGrantVerdict.Passes, cascadeOf, Except.ok.injEq, exists_eq_left', not_exists,
        true_and, ne_eq, reduceCtorEq, not_false_eq_true, implies_true]
      exact ⟨fun ⟨hreject, hask, hpass, hlets⟩ => ⟨hpass, hreject, hask, hlets⟩,
        fun ⟨hpass, hreject, hask, hlets⟩ => ⟨hreject, hask, hpass, hlets⟩⟩
  · rw [toolApprove_eq, decideLayers_deny_iff, ← hdeny, hfloor, hverdict, hfound]
    cases reason? with
    | some reason => simp
    | none =>
      simp only [cascadeOf, Except.ok.injEq, reduceCtorEq, exists_false, false_or, true_and,
        exists_eq', Bool.false_eq_true, and_false, or_false]
      tauto
  · intro lookups' hstricter hallow
    exact toolApprove_allow_of_stricter hstricter hallow

/-- A host whose only directory is the root. -/
def bareHost : Host where
  sep := "/"
  resolve _ path := path
  relative _ path := path
  dirname _ := "/"
  depth path := if path = "/" then 0 else 1
  dirname_depth path h := by simp [Ne.symm h]
  isAbsolute path := "/".toList.isPrefixOf path.toList
  fold path := path
  realpathSync path := if path = "/" then .ok path else .error .noEntry
  lstatSync path := .ok (path = "/")

/-- Nobody knows an agent or a persona, the sessions have an override, and there is a harness. -/
def bareLookups (sessionOverride : Option ApprovalPolicy) (harness : HarnessResolution) : Lookups where
  listBySession _ := .ok (some [])
  getAgent _ := .ok (some none)
  getSession _ := .ok (some sessionOverride)
  resolveEnrichedPolicy _ _ _ := .ok none
  resolveHarness _ _ _ := .ok harness
  fileAccessRuleProvider := none

/-- A shell command of an agent. -/
def shellRequest : AgentToolApproveRequest :=
  { agentId := "agent", sessionId := "session", adapterName := "claude-code", toolName := some "Bash",
    args := some [("command", .str "ls")] }

/-- A session with full access lets a call pass that the harness rejects. -/
theorem toolApprove_precedence_session :
    toolApprove bareHost (bareLookups (some .fullAccess) ⟨.reject, none, none, none⟩) shellRequest =
      .ok .allow := by
  refine ((toolApprove_precedence bareHost _ shellRequest (fun path => ⟨_, rfl⟩) (by decide)).2.1).mpr
    ⟨by simp [floorUnder, bareLookups, checkFileAccessDenyReason], ?_, by decide, by decide,
      Or.inl (by decide)⟩
  rintro ⟨agent, toolName, vocabulary, message, hagent, -⟩
  simp [agentOf, getAgentMetadata, bareLookups, shellRequest, AgentLookupResult.agent?, Except.map]
    at hagent

end Makaio.Approval

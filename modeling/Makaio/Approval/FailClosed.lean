import Makaio.Approval.Precedence

set_option autoImplicit false

/-!
# Failing lookups

The handler looks up the agent row, the session, the enriched policy, the harness and the file-access
rules, and has a fallback for each lookup that throws.  Two runs of it are compared: one in which a
lookup throws and one in which it answers.  A failing agent row or failing rules never open anything;
the other fallbacks lose a restriction, or ask where the agent's lists turn asking into access.

## Main definitions

* `Lookups.failing` — the same answers, except that one lookup throws.
* `FailsClosed` — no single failure lets a call through.
* `FallsOpen` — the calls that a failure lets through.

## Main results

* `failsClosed_iff` — when the handler fails closed.
-/

namespace Makaio.Approval

open Foundations

/-- The lookups of the handler. -/
inductive Lookup
  | agentRow
  | sessionOverride
  | enrichedPolicy
  | harness
  | fileAccessRules

/-- The same answers, except that one lookup throws. -/
def Lookups.failing (lookups : Lookups) : Lookup → Lookups
  | .agentRow => { lookups with listBySession := fun _ => .error (), getAgent := fun _ => .error () }
  | .sessionOverride => { lookups with getSession := fun _ => .error () }
  | .enrichedPolicy => { lookups with resolveEnrichedPolicy := fun _ _ _ => .error () }
  | .harness => { lookups with resolveHarness := fun _ _ _ => .error () }
  | .fileAccessRules =>
    { lookups with
      fileAccessRuleProvider := lookups.fileAccessRuleProvider.map fun _ _ _ => .error () }

/-- No single failing lookup lets a call through that is not let through when it answers. -/
def FailsClosed (host : Host) (lookups : Lookups) (request : AgentToolApproveRequest) : Prop :=
  ∀ lookup, toolApprove host lookups request ≠ .ok .allow →
    toolApprove host (lookups.failing lookup) request ≠ .ok .allow

/-- All lookups answer. -/
structure Lookups.Succeed (lookups : Lookups) : Prop where
  listBySession : ∀ sessionId, ∃ agents, lookups.listBySession sessionId = .ok agents
  getAgent : ∀ agentId, ∃ agent, lookups.getAgent agentId = .ok agent
  getSession : ∀ sessionId, ∃ override, lookups.getSession sessionId = .ok override
  resolveEnrichedPolicy : ∀ toolName personaId profileId,
    ∃ data, lookups.resolveEnrichedPolicy toolName personaId profileId = .ok data
  resolveHarness : ∀ adapterName harnessId clientId,
    ∃ harness, lookups.resolveHarness adapterName harnessId clientId = .ok harness
  fileAccessRuleProvider : ∀ provider, lookups.fileAccessRuleProvider = some provider →
    ∀ cwd directories, ∃ rules, provider cwd directories = .ok rules

/-! ### What a failure changes -/

section Failing

variable (host : Host) (lookups : Lookups) (request : AgentToolApproveRequest)

/-- A failing agent row is noticed. -/
lemma getAgentMetadata_failing_agentRow (agentId sessionId : String) :
    getAgentMetadata (lookups.failing .agentRow) agentId sessionId = .error := by
  unfold getAgentMetadata
  by_cases h : sessionId ≠ "" <;> simp [Lookups.failing, h, Except.map]

/-- A failing enriched policy is one that nobody handles. -/
lemma rawPolicyOf_failing_enrichedPolicy :
    rawPolicyOf (lookups.failing .enrichedPolicy) request =
      (rawPolicyOf lookups request).map fun _ => .unhandled := by
  unfold rawPolicyOf rawEnrichedPolicyOf
  rw [show agentOf (lookups.failing .enrichedPolicy) request = agentOf lookups request from rfl]
  split
  · rfl
  · rfl

/-- With a failing harness the base policy is the persona's or profile's, or asking, and no capability
raises it. -/
lemma cascadeOf_failing_harness :
    cascadeOf (lookups.failing .harness) request =
      ((resolveEnrichedBasePolicy (agentOf lookups request) (rawPolicyOf lookups request)).map
        EnrichedBasePolicyResult.policy).getD .alwaysAsk := by
  unfold cascadeOf resolvedUnder resolvePolicyWithContext harnessOf resolveHarnessPolicy
  rw [show rawPolicyOf (lookups.failing .harness) request = rawPolicyOf lookups request from rfl,
    show agentOf (lookups.failing .harness) request = agentOf lookups request from rfl]
  cases resolveEnrichedBasePolicy (agentOf lookups request) (rawPolicyOf lookups request) <;> rfl

end Failing

/-! ### What a failure lets through -/

section Opens

variable (host : Host) (lookups : Lookups) (request : AgentToolApproveRequest)

/-- The lists let a call with a policy of the cascade through. -/
def ListsLet (raw : Option RawEnrichedPolicyResult) (cascade : ApprovalPolicy) : Prop :=
  ∃ verdict, grantUnder host lookups request raw = .ok verdict ∧ verdict.Passes ∧
    (cascade = .fullAccess ∨ cascade = .alwaysAsk ∧ verdict = .granted)

/-- The policy of the persona or the profile. -/
def enrichedOf : Option ApprovalPolicy :=
  (resolveEnrichedBasePolicy (agentOf lookups request) (rawPolicyOf lookups request)).map
    EnrichedBasePolicyResult.policy

/-- Only the session's override holds the call back. -/
def OverrideHolds : Prop :=
  (overrideOf lookups request = some .reject ∨ overrideOf lookups request = some .alwaysAsk) ∧
    floorUnder host lookups request (rawPolicyOf lookups request) = .ok none ∧
    ListsLet host lookups request (rawPolicyOf lookups request) (cascadeOf lookups request)

/-- Only the harness holds the call back: it raises a persona's or profile's full access, or rejects
what the lists grant where nobody else does. -/
def HarnessHolds : Prop :=
  overrideOf lookups request = none ∧
    floorUnder host lookups request (rawPolicyOf lookups request) = .ok none ∧
    ∃ verdict, grantUnder host lookups request (rawPolicyOf lookups request) = .ok verdict ∧
      verdict.Passes ∧
      (enrichedOf lookups request = some .fullAccess ∧
          (cascadeOf lookups request = .reject ∨
            cascadeOf lookups request = .alwaysAsk ∧ verdict ≠ .granted) ∨
        (enrichedOf lookups request = none ∨ enrichedOf lookups request = some .alwaysAsk) ∧
          cascadeOf lookups request = .reject ∧ verdict = .granted)

/-- Only the answer about the persona or the profile holds the call back: the directories that it names,
or its policy for a call that the lists grant without it. -/
def EnrichedHolds : Prop :=
  (∃ answer, rawPolicyOf lookups request = some answer) ∧
    floorUnder host lookups request (some .unhandled) = .ok none ∧
    (overrideOf lookups request = some .fullAccess ∧
        (∃ verdict, grantUnder host lookups request (some .unhandled) = .ok verdict ∧ verdict.Passes) ∧
        (floorUnder host lookups request (rawPolicyOf lookups request) ≠ .ok none ∨
          ∃ failure, grantUnder host lookups request (rawPolicyOf lookups request) = .error failure) ∨
      overrideOf lookups request = none ∧
        grantUnder host lookups request (some .unhandled) = .ok .granted ∧
        raiseByHarness (harnessOf lookups (agentOf lookups request) request.adapterName)
          request.toolName .alwaysAsk = .alwaysAsk ∧
        (floorUnder host lookups request (rawPolicyOf lookups request) ≠ .ok none ∨
          (∃ failure, grantUnder host lookups request (rawPolicyOf lookups request) = .error failure) ∨
          cascadeOf lookups request = .reject ∨
          cascadeOf lookups request = .alwaysAsk ∧
            grantUnder host lookups request (rawPolicyOf lookups request) ≠ .ok .granted))

/-- The calls of an agent row that is looked up, or is absent, which only the session's override, only
the harness, or only the answer about the persona or the profile holds back. -/
def FallsOpen : Prop :=
  getAgentMetadata lookups request.agentId request.sessionId ≠ .error ∧
    (OverrideHolds host lookups request ∨ HarnessHolds host lookups request ∨
      EnrichedHolds host lookups request)

/-- A call is allowed at once in terms of its layers. -/
lemma toolApprove_allow_iff :
    toolApprove host lookups request = .ok .allow ↔
      getAgentMetadata lookups request.agentId request.sessionId ≠ .error ∧
      floorUnder host lookups request (rawPolicyOf lookups request) = .ok none ∧
      (overrideOf lookups request = some .fullAccess ∧
          (∃ verdict, grantUnder host lookups request (rawPolicyOf lookups request) = .ok verdict ∧
            verdict.Passes) ∨
        overrideOf lookups request = none ∧
          ListsLet host lookups request (rawPolicyOf lookups request) (cascadeOf lookups request)) := by
  rw [toolApprove_eq, decideLayers_allow_iff, decide_eq_false_iff_not]
  unfold ListsLet cascadeOf
  constructor
  · rintro ⟨hfloor, hagent, hreject, hask, verdict, hverdict, hpasses, hlets⟩
    refine ⟨hagent, hfloor, ?_⟩
    rcases hover : overrideOf lookups request with _ | _ | _ | _
    · simp only [hover, reduceCtorEq, false_or] at hlets
      exact Or.inr ⟨rfl, verdict, hverdict, hpasses, hlets⟩
    · exact Or.inl ⟨rfl, verdict, hverdict, hpasses⟩
    · exact absurd hover hask
    · exact absurd hover hreject
  · rintro ⟨hagent, hfloor, ⟨hover, verdict, hverdict, hpasses⟩ | ⟨hover, verdict, hverdict, hpasses, hlets⟩⟩
    · exact ⟨hfloor, hagent, by simp [hover], by simp [hover], verdict, hverdict, hpasses, Or.inl hover⟩
    · exact ⟨hfloor, hagent, by simp [hover], by simp [hover], verdict, hverdict, hpasses, Or.inr hlets⟩

/-- A failing agent row lets nothing through. -/
lemma toolApprove_failing_agentRow :
    toolApprove host (lookups.failing .agentRow) request ≠ .ok .allow := by
  rw [ne_eq, toolApprove_allow_iff]
  exact fun h => h.1 (getAgentMetadata_failing_agentRow lookups _ _)

/-- Rules that fail to answer deny what they are asked about. -/
lemma checkFileAccessDenyReason_failing {provider : Option FileAccessRuleProvider}
    {toolName : Option String} {args : Option (List (String × Json))} {context : FileAccessContext}
    (h : checkFileAccessDenyReason host (provider.map fun _ _ _ => .error ()) toolName args context =
      .ok none) :
    checkFileAccessDenyReason host provider toolName args context = .ok none := by
  cases provider with
  | none => rfl
  | some provider =>
    simp only [checkFileAccessDenyReason, Option.map_some] at h ⊢
    split at h
    · rfl
    · split at h
      · rw [if_pos ‹_›]
      · rw [if_neg ‹_›]
        split at h
        · simp at h
        · split at h
          · simp at h
          · split at h
            · simp at h
            · simp [ruleDenyReason, Except.bind] at h

/-- Failing rules let nothing through. -/
lemma toolApprove_failing_fileAccessRules
    (h : toolApprove host (lookups.failing .fileAccessRules) request = .ok .allow) :
    toolApprove host lookups request = .ok .allow := by
  rw [toolApprove_allow_iff] at h ⊢
  obtain ⟨hagent, hfloor, hlets⟩ := h
  refine ⟨hagent, ?_, hlets⟩
  refine checkFileAccessDenyReason_failing host ?_
  have hcontext : resolveFileAccessContext (agentOf lookups request) (rawPolicyOf lookups request)
      (lookups.fileAccessRuleProvider.map fun _ _ _ => .error ()) =
        resolveFileAccessContext (agentOf lookups request) (rawPolicyOf lookups request)
          lookups.fileAccessRuleProvider := by
    unfold resolveFileAccessContext
    rw [Option.isNone_map]
  rw [← hcontext]
  exact hfloor

/-- A failing session lets exactly the calls through that only the override holds back. -/
lemma opens_sessionOverride_iff :
    (toolApprove host (lookups.failing .sessionOverride) request = .ok .allow ∧
        ¬toolApprove host lookups request = .ok .allow) ↔
      getAgentMetadata lookups request.agentId request.sessionId ≠ .error ∧
        OverrideHolds host lookups request := by
  have hover : overrideOf (lookups.failing .sessionOverride) request = none := by
    unfold overrideOf resolveSessionOverride
    split <;> rfl
  rw [toolApprove_allow_iff, toolApprove_allow_iff, hover]
  change (getAgentMetadata lookups _ _ ≠ _ ∧
    floorUnder host lookups request (rawPolicyOf lookups request) = _ ∧ _) ∧ _ ↔ _
  unfold OverrideHolds
  constructor
  · rintro ⟨⟨hagent, hfloor, ⟨hnone, -⟩ | ⟨-, hlets⟩⟩, hnot⟩
    · simp at hnone
    · refine ⟨hagent, ?_, hfloor, hlets⟩
      rcases hover : overrideOf lookups request with _ | _ | _ | _
      · exact absurd ⟨hagent, hfloor, Or.inr ⟨hover, hlets⟩⟩ hnot
      · obtain ⟨verdict, hverdict, hpasses, -⟩ := hlets
        exact absurd ⟨hagent, hfloor, Or.inl ⟨hover, verdict, hverdict, hpasses⟩⟩ hnot
      · exact Or.inr rfl
      · exact Or.inl rfl
  · rintro ⟨hagent, hholds, hfloor, hlets⟩
    refine ⟨⟨hagent, hfloor, Or.inr ⟨rfl, hlets⟩⟩, ?_⟩
    rintro ⟨-, -, ⟨hfull, -⟩ | ⟨hnone, -⟩⟩
    · rcases hholds with h | h <;> simp [h] at hfull
    · rcases hholds with h | h <;> simp [h] at hnone

/-- A failing harness lets exactly the calls through that only the harness holds back. -/
lemma opens_harness_iff :
    (toolApprove host (lookups.failing .harness) request = .ok .allow ∧
        ¬toolApprove host lookups request = .ok .allow) ↔
      getAgentMetadata lookups request.agentId request.sessionId ≠ .error ∧
        HarnessHolds host lookups request := by
  rw [toolApprove_allow_iff, toolApprove_allow_iff, cascadeOf_failing_harness]
  change (getAgentMetadata lookups _ _ ≠ _ ∧
    floorUnder host lookups request (rawPolicyOf lookups request) = _ ∧
    (overrideOf lookups request = _ ∧ _ ∨ overrideOf lookups request = _ ∧
      ListsLet host lookups request (rawPolicyOf lookups request)
        ((enrichedOf lookups request).getD .alwaysAsk))) ∧ _ ↔ _
  unfold HarnessHolds
  constructor
  · rintro ⟨⟨hagent, hfloor, ⟨hover, hpass⟩ | ⟨hover, verdict, hverdict, hpasses, hlets⟩⟩, hnot⟩
    · exact absurd ⟨hagent, hfloor, Or.inl ⟨hover, hpass⟩⟩ hnot
    · refine ⟨hagent, hover, hfloor, verdict, hverdict, hpasses, ?_⟩
      have hholds : ¬(cascadeOf lookups request = .fullAccess ∨
          cascadeOf lookups request = .alwaysAsk ∧ verdict = .granted) := fun h =>
        hnot ⟨hagent, hfloor, Or.inr ⟨hover, verdict, hverdict, hpasses, h⟩⟩
      rcases he : enrichedOf lookups request with _ | _ | _ | _ <;>
        cases hc : cascadeOf lookups request <;> simp_all
  · rintro ⟨hagent, hover, hfloor, verdict, hverdict, hpasses, hholds⟩
    refine ⟨⟨hagent, hfloor, Or.inr ⟨hover, verdict, hverdict, hpasses, ?_⟩⟩, ?_⟩
    · rcases hholds with ⟨he, -⟩ | ⟨he | he, -, hgranted⟩
      · exact Or.inl (by rw [he]; rfl)
      · exact Or.inr ⟨by rw [he]; rfl, hgranted⟩
      · exact Or.inr ⟨by rw [he]; rfl, hgranted⟩
    · rintro ⟨-, -, ⟨hfull, -⟩ | ⟨-, verdict', hverdict', -, hlets⟩⟩
      · simp [hover] at hfull
      · obtain rfl : verdict = verdict' := by simpa [hverdict] using hverdict'
        rcases hholds with ⟨-, hc | ⟨hc, hn⟩⟩ | ⟨-, hc, -⟩ <;> simp_all

variable {answer : RawEnrichedPolicyResult}

/-- An enriched policy is only looked up for a persona or a profile. -/
lemma hasPersonaOrProfile_of_rawPolicyOf (h : rawPolicyOf lookups request = some answer) :
    (agentOf lookups request).any MakaioSessionAgent.hasPersonaOrProfile := by
  unfold rawPolicyOf rawEnrichedPolicyOf at h
  split at h
  · rename_i agent toolName hagent hname
    obtain ⟨hsome, hactive⟩ := Option.filter_eq_some_iff.mp hagent
    rw [hsome]
    exact hactive
  · simp at h

/-- With a failing enriched policy the cascade asks, and the harness raises that. -/
lemma cascadeOf_failing_enrichedPolicy (h : rawPolicyOf lookups request = some answer) :
    cascadeOf (lookups.failing .enrichedPolicy) request =
      raiseByHarness (harnessOf lookups (agentOf lookups request) request.adapterName)
        request.toolName .alwaysAsk := by
  unfold cascadeOf resolvedUnder resolvePolicyWithContext
  rw [rawPolicyOf_failing_enrichedPolicy, h,
    show agentOf (lookups.failing .enrichedPolicy) request = agentOf lookups request from rfl]
  simp only [Option.map_some, resolveEnrichedBasePolicy,
    hasPersonaOrProfile_of_rawPolicyOf lookups request h, if_true]
  rfl

/-- Asking is never raised to full access. -/
lemma raiseByHarness_alwaysAsk_ne (harness? : Option HarnessResolution) (toolName? : Option String) :
    raiseByHarness harness? toolName? .alwaysAsk ≠ .fullAccess := by
  intro h
  have hle : ApprovalPolicy.alwaysAsk ≤ raiseByHarness harness? toolName? .alwaysAsk :=
    (isGreatest_raiseByHarness .alwaysAsk).2 (Or.inl rfl)
  rw [h, ApprovalPolicy.le_fullAccess] at hle
  simp at hle

/-- A failing enriched policy changes nothing when none is looked up. -/
lemma toolApprove_failing_enrichedPolicy (h : rawPolicyOf lookups request = none) :
    toolApprove host (lookups.failing .enrichedPolicy) request = toolApprove host lookups request := by
  have hraw : rawPolicyOf (lookups.failing .enrichedPolicy) request = rawPolicyOf lookups request := by
    rw [rawPolicyOf_failing_enrichedPolicy, h]
    rfl
  rw [toolApprove_eq, toolApprove_eq, hraw]
  rfl

/-- The lists deny the same calls under every enriched policy. -/
lemma passes_of_grantUnder {raw raw' : Option RawEnrichedPolicyResult} {verdict verdict' : ToolGrantVerdict}
    (h : grantUnder host lookups request raw = .ok verdict) (hpasses : verdict.Passes)
    (h' : grantUnder host lookups request raw' = .ok verdict') : verdict'.Passes := by
  intro message hdeny
  obtain ⟨message', hmessage'⟩ := (evaluateToolGrant_verdict host raw).1.mpr
    ((evaluateToolGrant_verdict host raw').1.mp ⟨message, h'.trans (congrArg Except.ok hdeny)⟩)
  rw [show evaluateToolGrant host _ _ _ raw = .ok verdict from h, Except.ok.injEq] at hmessage'
  exact hpasses message' hmessage'

/-- A failing enriched policy lets exactly the calls through that only its answer holds back. -/
lemma opens_enrichedPolicy_iff :
    (toolApprove host (lookups.failing .enrichedPolicy) request = .ok .allow ∧
        ¬toolApprove host lookups request = .ok .allow) ↔
      getAgentMetadata lookups request.agentId request.sessionId ≠ .error ∧
        EnrichedHolds host lookups request := by
  unfold EnrichedHolds
  rcases hraw : rawPolicyOf lookups request with _ | answer
  · rw [toolApprove_failing_enrichedPolicy host lookups request hraw]
    exact iff_of_false (fun h => h.2 h.1) fun h => by simp at h
  rw [toolApprove_allow_iff, toolApprove_allow_iff, rawPolicyOf_failing_enrichedPolicy,
    cascadeOf_failing_enrichedPolicy lookups request hraw, hraw]
  change (getAgentMetadata lookups _ _ ≠ _ ∧ floorUnder host lookups request (some .unhandled) = _ ∧
    (overrideOf lookups request = _ ∧ (∃ verdict, grantUnder host lookups request (some .unhandled) = _ ∧
        _) ∨
      overrideOf lookups request = _ ∧ ListsLet host lookups request (some .unhandled) _)) ∧ _ ↔ _
  have hnotFull := raiseByHarness_alwaysAsk_ne (harnessOf lookups (agentOf lookups request)
    request.adapterName) request.toolName
  constructor
  · rintro ⟨⟨hagent, hfloor, ⟨hover, verdict, hverdict, hpasses⟩ |
      ⟨hover, verdict, hverdict, hpasses, hlets⟩⟩, hnot⟩
    · refine ⟨hagent, ⟨answer, rfl⟩, hfloor, Or.inl ⟨hover, ⟨verdict, hverdict, hpasses⟩, ?_⟩⟩
      by_contra hcon
      push Not at hcon
      obtain ⟨hfloor', hgrant'⟩ := hcon
      cases hg : grantUnder host lookups request (some answer) with
      | error failure => exact hgrant' failure hg
      | ok verdict' => exact hnot ⟨hagent, hfloor', Or.inl ⟨hover, verdict', hg,
          passes_of_grantUnder host lookups request hverdict hpasses hg⟩⟩
    · obtain hfull | ⟨hask, rfl⟩ := hlets
      · exact absurd hfull hnotFull
      · refine ⟨hagent, ⟨answer, rfl⟩, hfloor, Or.inr ⟨hover, hverdict, hask, ?_⟩⟩
        by_contra hcon
        push Not at hcon
        obtain ⟨hfloor', hgrant', hreject, hgranted⟩ := hcon
        cases hg : grantUnder host lookups request (some answer) with
        | error failure => exact hgrant' failure hg
        | ok verdict' =>
          refine hnot ⟨hagent, hfloor', Or.inr ⟨hover, verdict', hg,
            passes_of_grantUnder host lookups request hverdict hpasses hg, ?_⟩⟩
          cases hc : cascadeOf lookups request with
          | fullAccess => exact Or.inl rfl
          | alwaysAsk => exact Or.inr ⟨rfl, by simpa [hg] using hgranted hc⟩
          | reject => exact absurd hc hreject
  · rintro ⟨hagent, -, hfloor, ⟨hover, hpass, hholds⟩ | ⟨hover, hverdict, hask, hholds⟩⟩
    · refine ⟨⟨hagent, hfloor, Or.inl ⟨hover, hpass⟩⟩, ?_⟩
      rintro ⟨-, hfloor', ⟨-, verdict', hverdict', -⟩ | ⟨hnone, -⟩⟩
      · rcases hholds with h | ⟨failure, h⟩
        · exact h hfloor'
        · simp [h] at hverdict'
      · simp [hover] at hnone
    · refine ⟨⟨hagent, hfloor, Or.inr ⟨hover, .granted, hverdict, by simp [ToolGrantVerdict.Passes],
        Or.inr ⟨hask, rfl⟩⟩⟩, ?_⟩
      rintro ⟨-, hfloor', ⟨hfull, -⟩ | ⟨-, verdict', hverdict', -, hlets⟩⟩
      · simp [hover] at hfull
      · rcases hholds with h | ⟨failure, h⟩ | h | ⟨h, hgranted⟩
        · exact h hfloor'
        · simp [h] at hverdict'
        · simp [h] at hlets
        · simp only [h, reduceCtorEq, true_and, false_or] at hlets
          exact hgranted (hlets ▸ hverdict')

end Opens

/-- **When the handler fails closed**: exactly for the calls that neither the session's override, nor
the harness, nor the answer about the persona or the profile holds back alone.

**Proof sketch.** A failing agent row and failing rules let nothing through; for each of the other
lookups the calls are known that its failure lets through. -/
theorem failsClosed_iff (host : Host) (lookups : Lookups) (request : AgentToolApproveRequest) :
    FailsClosed host lookups request ↔ ¬FallsOpen host lookups request := by
  have hsession := opens_sessionOverride_iff host lookups request
  have hharness := opens_harness_iff host lookups request
  have henriched := opens_enrichedPolicy_iff host lookups request
  unfold FailsClosed FallsOpen
  constructor
  · rintro hcloses ⟨hagent, hholds | hholds | hholds⟩
    · obtain ⟨hopens, hnot⟩ := hsession.mpr ⟨hagent, hholds⟩
      exact hcloses .sessionOverride hnot hopens
    · obtain ⟨hopens, hnot⟩ := hharness.mpr ⟨hagent, hholds⟩
      exact hcloses .harness hnot hopens
    · obtain ⟨hopens, hnot⟩ := henriched.mpr ⟨hagent, hholds⟩
      exact hcloses .enrichedPolicy hnot hopens
  · intro hfalls lookup hnot hopens
    cases lookup with
    | agentRow => exact toolApprove_failing_agentRow host lookups request hopens
    | fileAccessRules => exact hnot (toolApprove_failing_fileAccessRules host lookups request hopens)
    | sessionOverride =>
      obtain ⟨hagent, hholds⟩ := hsession.mp ⟨hopens, hnot⟩
      exact hfalls ⟨hagent, Or.inl hholds⟩
    | harness =>
      obtain ⟨hagent, hholds⟩ := hharness.mp ⟨hopens, hnot⟩
      exact hfalls ⟨hagent, Or.inr (Or.inl hholds)⟩
    | enrichedPolicy =>
      obtain ⟨hagent, hholds⟩ := henriched.mp ⟨hopens, hnot⟩
      exact hfalls ⟨hagent, Or.inr (Or.inr hholds)⟩

/-- An agent with a persona and an allowlist that covers shell commands. -/
def shellAgent : MakaioSessionAgent :=
  { agentId := "agent", adapterName := "claude-code", harnessId := none, clientId := none,
    personaId := some "persona", profileId := none, cwd := some "/", allowedDirectories := none,
    allowedTools := some ["shell_exec"], disallowedTools := none }

/-- The agent's persona denies what its allowlist covers. -/
def personaLookups : Lookups where
  listBySession _ := .ok (some [shellAgent])
  getAgent _ := .ok (some (some shellAgent))
  getSession _ := .ok (some none)
  resolveEnrichedPolicy _ _ _ := .ok (some ⟨.deny, none, none, none⟩)
  resolveHarness _ _ _ := .ok ⟨.alwaysAsk, none, none, none⟩
  fileAccessRuleProvider := none

/-- A shell command that the persona denies is allowed when the persona cannot be looked up. -/
theorem not_failsClosed :
    ¬∀ (host : Host) (lookups : Lookups) (request : AgentToolApproveRequest), lookups.Succeed →
      FailsClosed host lookups request := by
  intro h
  have hsucceed : personaLookups.Succeed :=
    ⟨fun _ => ⟨_, rfl⟩, fun _ => ⟨_, rfl⟩, fun _ => ⟨_, rfl⟩, fun _ _ _ => ⟨_, rfl⟩,
      fun _ _ _ => ⟨_, rfl⟩, fun _ h => by simp [personaLookups] at h⟩
  have hdenied : toolApprove bareHost personaLookups shellRequest =
      .ok (.deny "Tool use rejected by approval policy") := rfl
  have hopens : toolApprove bareHost (personaLookups.failing .enrichedPolicy) shellRequest =
      .ok .allow := rfl
  exact h bareHost personaLookups shellRequest hsucceed .enrichedPolicy (by simp [hdenied]) hopens

end Makaio.Approval

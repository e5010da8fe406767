import Makaio.Ownership.Mirror

set_option autoImplicit false

/-!
# Runtime identities and takeovers

A process that acts for a machine has a row with an incarnation, and a claim names the process that
holds it.  Rows are registered before a request is decided and given up with a refusal; the retry of a
claim gives its owner up too, although a guarded retry has just written that owner to the agent.

## Main definitions

* `IncarnationsDistinct`, `OwnersRegistered` — the state of the rows.
* `RetirementsKept`, `OwnersPass`,
  `RecoveryOwnerRegistered` — what a request does to them.
* `GuardedRetryUnregistered` — the requests that write an owner without a row.

## Main results

* `runtime_identity_sound` — over every run, with the exact condition of the last part.
* `recovered_owner_missing` — a run that violates it.
-/

namespace Makaio.Ownership

open Foundations

variable {s s' : SessionStorageMemoryState} {host : HostValues} {r : OwnershipRequest}

/-! ### Statements -/

/-- The incarnations of a machine are pairwise distinct. -/
def IncarnationsDistinct (s : SessionStorageMemoryState) : Prop :=
  ∀ key record key' record', s.runtimeInstances.get? key = some record →
    s.runtimeInstances.get? key' = some record' → record.machineId = record'.machineId →
    record.incarnation = record'.incarnation → key = key'

/-- A process has a row for a machine. -/
def Registered (s : SessionStorageMemoryState) (instanceId machineId : String) : Prop :=
  ∃ record, s.runtimeInstances.get? (runtimeInstanceKey instanceId machineId) = some record

/-- The owner of every claim that names one has a row for the machine of the claim. -/
def OwnersRegistered (s : SessionStorageMemoryState) : Prop :=
  ∀ id claim ownerInstanceId, s.claims.get? id = some claim →
    claim.ownerInstanceId = some ownerInstanceId → Registered s ownerInstanceId claim.machineId

/-- Rows of processes stay, and so does a retirement. -/
def RetirementsKept (s s' : SessionStorageMemoryState) : Prop :=
  ∀ key record, s.runtimeInstances.get? key = some record →
    ∃ record', s'.runtimeInstances.get? key = some record' ∧
      (record.retiredAt.isSome → record'.retiredAt = record.retiredAt)

/-- The takeover that a request asks for is justified against the owner of a claim: it names the token
of the claim, or that owner is retired, or the machine is exclusive and that owner of an earlier
incarnation. -/
inductive MayReplace (s s' : SessionStorageMemoryState) (request : MemoryTakeoverRequest)
    (claim : AdapterSessionClaimRecord) (ownerInstanceId : String) : Prop
  | superseded : request.supersededClaimToken = some claim.claimToken →
      MayReplace s s' request claim ownerInstanceId
  | retired {record : RuntimeInstanceRecord} :
      s.runtimeInstances.get? (runtimeInstanceKey ownerInstanceId claim.machineId) = some record →
      record.retiredAt.isSome → MayReplace s s' request claim ownerInstanceId
  | older {record record' : RuntimeInstanceRecord} : request.topology = .machineExclusive →
      s.runtimeInstances.get? (runtimeInstanceKey ownerInstanceId claim.machineId) = some record →
      s'.runtimeInstances.get? (runtimeInstanceKey request.ownerInstanceId request.machineId) =
        some record' →
      record.incarnation < record'.incarnation → MayReplace s s' request claim ownerInstanceId

/-- The owner of a held claim changes by a justified takeover only; a claim without an owner keeps its
generation, and can only be given one by its own agent. -/
def OwnersPass (s s' : SessionStorageMemoryState) (r : OwnershipRequest) : Prop :=
  ∀ id claim claim', s.claims.get? id = some claim → s'.claims.get? id = some claim' →
    match claim.ownerInstanceId with
    | none => claim'.agentId = claim.agentId ∧ claim'.claimToken = claim.claimToken ∧
      claim'.fence = claim.fence
    | some ownerInstanceId => claim.status = .held → claim'.ownerInstanceId ≠ some ownerInstanceId →
      ∃ request, r.takeover = some request ∧ claim'.ownerInstanceId = some request.ownerInstanceId ∧
        MayReplace s s' request claim ownerInstanceId

/-- The owner that a guarded claim writes to its agent has a row. -/
def RecoveryOwnerRegistered (s' : SessionStorageMemoryState) (r : OwnershipRequest)
    (answer : Except OwnershipError OwnershipAnswer) : Prop :=
  ∀ payload agent owner, r = .claim payload → payload.recoveryGuard.isSome →
    (∃ result, answer = .ok (.claim result) ∧ result.taken = true) →
    s'.agents.get? payload.agentId = some agent → agent.runtimeOwner = some owner →
    Registered s' owner.instanceId owner.machineId

/-- A guarded claim that goes through as the retry of the generation it holds, for a process without a
row. -/
structure GuardedRetryUnregistered (s : SessionStorageMemoryState)
    (payload : SessionOwnershipClaimRequest) (keyed : KeyedClaimRequest)
    (agent : MakaioSessionAgent) (existing : AdapterSessionClaimRecord) : Prop where
  isKeyed : IsKeyed payload keyed
  guarded : payload.recoveryGuard.isSome
  valid : claimRequestIssues payload = []
  unregistered : Unregistered s keyed.ownerInstanceId payload.machineId
  session : ∃ session, s.sessions.get? payload.sessionId = some session ∧ session.status = .active
  agent_eq : s.agents.get? payload.agentId = some agent
  member : agent.sessionId = payload.sessionId
  live : agent.status ≠ .disposed
  expected : classifyRecoveryGuard payload agent (requestedHolder s payload) = none
  holder : requestedHolder s payload = some existing
  retries : existing.claimToken = payload.claimToken ∧ existing.agentId = payload.agentId ∧
    existing.sessionId = payload.sessionId ∧ existing.status = .held
  token : ¬CarriedElsewhere s payload.claimToken (some existing)

/-- The request writes an owner without a row to its agent. -/
def WritesUnregisteredOwner (s : SessionStorageMemoryState) (r : OwnershipRequest) : Prop :=
  ∃ payload keyed agent existing, r = .claim payload ∧
    GuardedRetryUnregistered s payload keyed agent existing

/-! ### Runtime instances -/

/-- Registering a process keeps the incarnations distinct. -/
lemma IncarnationsDistinct.ensure (h : IncarnationsDistinct s) (instanceId machineId : String)
    (now : ℕ) : IncarnationsDistinct (ensureMemoryRuntimeInstance s instanceId machineId now) := by
  cases hkey : s.runtimeInstances.get? (runtimeInstanceKey instanceId machineId) with
  | some _ => rwa [ensure_of_some hkey]
  | none =>
    rw [ensure_of_none hkey]
    intro key record key' record' hrecord hrecord' hmachine hincarnation
    rw [OrderedMap.get?_set] at hrecord hrecord'
    split_ifs at hrecord hrecord' with hnew hnew' hnew'
    · rw [hnew, hnew']
    · -- the new row against an old one
      cases hrecord
      have hlt := incarnation_lt_nextIncarnation hrecord'
      rw [← hmachine] at hlt
      exact absurd hincarnation.symm hlt.ne
    · cases hrecord'
      have hlt := incarnation_lt_nextIncarnation hrecord
      rw [hmachine] at hlt
      exact absurd hincarnation hlt.ne
    · exact h key record key' record' hrecord hrecord' hmachine hincarnation

/-- A retirement keeps the identity of a row. -/
lemma retiredBy_identity (record : RuntimeInstanceRecord) (instanceId : String) (now : ℕ) :
    (record.retiredBy instanceId now).machineId = record.machineId ∧
      (record.retiredBy instanceId now).incarnation = record.incarnation ∧
      (record.retiredAt.isSome → (record.retiredBy instanceId now).retiredAt = record.retiredAt) := by
  rw [RuntimeInstanceRecord.retiredBy]
  split_ifs with h
  · refine ⟨rfl, rfl, fun hsome => ?_⟩
    rw [h.2] at hsome
    cases hsome
  · exact ⟨rfl, rfl, fun _ => rfl⟩

section

variable (hs : Keyed s) (hfree : s.claims.get? host.claimId = none)
include hs hfree

/-- **Incarnations stay distinct.** -/
lemma incarnationsDistinct_step (h : IncarnationsDistinct s) : IncarnationsDistinct (execute s host r).1 := by
  cases execute_instances hs hfree r with
  | kept hkeep =>
    intro key record key' record' hrecord hrecord'
    rw [hkeep] at hrecord hrecord'
    exact h key record key' record' hrecord hrecord'
  | @registered request _ hinstances =>
    have hensured := h.ensure request.ownerInstanceId request.machineId host.now
    rw [IncarnationsDistinct, ← hinstances] at hensured
    exact hensured
  | retired _ hretired =>
    intro key record key' record' hrecord hrecord' hmachine hincarnation
    rw [hretired] at hrecord hrecord'
    obtain ⟨old, hold, rfl⟩ := Option.map_eq_some_iff.mp hrecord
    obtain ⟨old', hold', rfl⟩ := Option.map_eq_some_iff.mp hrecord'
    obtain ⟨hm, hi, -⟩ := retiredBy_identity old _ host.now
    obtain ⟨hm', hi', -⟩ := retiredBy_identity old' _ host.now
    rw [hm, hm'] at hmachine
    rw [hi, hi'] at hincarnation
    exact h key old key' old' hold hold' hmachine hincarnation

/-- **Rows and retirements stay.** -/
lemma retirementsKept_step :
    RetirementsKept s (execute s host r).1 := by
  intro key record hrecord
  cases execute_instances hs hfree r with
  | kept hkeep => exact ⟨record, (hkeep key).trans hrecord, fun _ => rfl⟩
  | registered _ hinstances =>
    rw [hinstances]
    exact ⟨record, ensure_get?_of_some hrecord, fun _ => rfl⟩
  | @retired instanceId _ hretired =>
    rw [hretired, hrecord]
    exact ⟨_, rfl, (retiredBy_identity record instanceId host.now).2.2⟩

/-- A process that has a row keeps one. -/
lemma Registered.step {instanceId machineId : String} (h : Registered s instanceId machineId) :
    Registered (execute s host r).1 instanceId machineId := by
  obtain ⟨record, hrecord⟩ := h
  obtain ⟨record', hrecord', -⟩ := retirementsKept_step hs hfree _ record hrecord
  exact ⟨record', hrecord'⟩

/-! ### Owners -/

/-- A request that changes a claim row has a row of the process it is for. -/
lemma registered_of_changed
    {request : MemoryTakeoverRequest} (hasks : r.takeover = some request) {id : String}
    (hchanged : (execute s host r).1.claims.get? id ≠ s.claims.get? id) :
    Registered (execute s host r).1 request.ownerInstanceId request.machineId := by
  rw [Registered, execute_registers hs hfree hasks hchanged]
  exact exists_ensure _ _ _ _

/-- **Owners of claims stay registered.** -/
lemma ownersRegistered_step (h : OwnersRegistered s) : OwnersRegistered (execute s host r).1 := by
  intro id claim owner hclaim howner
  by_cases hsame : (execute s host r).1.claims.get? id = s.claims.get? id
  · rw [hsame] at hclaim
    exact (h id claim owner hclaim howner).step hs hfree
  have hedited (hedit : Edited r (s.claims.get? id) ((execute s host r).1.claims.get? id)) :
      Registered (execute s host r).1 owner claim.machineId := by
    rw [hclaim] at hedit hsame
    have hold := h id
    have hchanged (request : MemoryTakeoverRequest) (hasks : r.takeover = some request) :=
      @registered_of_changed s host r hs hfree request hasks id (by rwa [hclaim])
    generalize s.claims.get? id = old at hedit hsame hold
    cases hedit with
    | kept => exact absurd rfl hsame
    | @marked claim' _ _ _ => exact (hold claim' owner rfl howner).step hs hfree
    | @adopted claim' request hasks _ _ _ hmachine =>
      cases howner
      exact hmachine ▸ hchanged request hasks
  cases execute_claims hs hfree r with
  | edited hall => exact hedited (hall id)
  | @generated request _ generation hg hself hothers =>
    by_cases hid : id = generation.claimId
    · have hrow := hclaim
      rw [hid, hself, Option.some.injEq] at hrow
      subst hrow
      rw [hg.owner, Option.some.injEq] at howner
      rw [← howner, hg.machine]
      exact registered_of_changed hs hfree hg.asks hsame
    · exact hedited (hothers id hid)

end

/-- What permits a takeover of another process. -/
lemma mayReplace_of_mayTakeOver (hreg : OwnersRegistered s) {id : String}
    {claim : AdapterSessionClaimRecord} {owner : String} {request : MemoryTakeoverRequest}
    (hclaim : s.claims.get? id = some claim) (howner : claim.ownerInstanceId = some owner)
    (hother : owner ≠ request.ownerInstanceId)
    (hinstances : s'.runtimeInstances = (ensureMemoryRuntimeInstance s request.ownerInstanceId
      request.machineId host.now).runtimeInstances)
    (hmay : memoryMayTakeOver (ensureMemoryRuntimeInstance s request.ownerInstanceId
      request.machineId host.now) request claim = true) : MayReplace s s' request claim owner := by
  obtain ⟨record, hrecord⟩ := hreg id claim owner hclaim howner
  obtain ⟨record', hrecord'⟩ := exists_ensure s request.ownerInstanceId request.machineId host.now
  rw [memoryMayTakeOver, howner] at hmay
  dsimp only at hmay
  rw [ensure_get?_of_some hrecord, hrecord'] at hmay
  split_ifs at hmay with hsuperseded hsame hretired htopology
  · exact .superseded hsuperseded
  · exact absurd hsame.2.2 hother
  · exact .retired hrecord (by simpa using hretired)
  · exact .older htopology hrecord (hinstances ▸ hrecord') (by simpa using hmay)

/-- **Owners pass by justified takeovers.** -/
lemma ownersPass_step (hs : Keyed s) (hfree : s.claims.get? host.claimId = none)
    (hreg : OwnersRegistered s) : OwnersPass s (execute s host r).1 r := by
  intro id claim claim' hclaim hclaim'
  have hedited (hedit : Edited r (s.claims.get? id) ((execute s host r).1.claims.get? id)) :
      Continues claim claim' ∧ (claim.ownerInstanceId = none ∨
        claim'.ownerInstanceId = claim.ownerInstanceId) := by
    rw [hclaim, hclaim'] at hedit
    obtain ⟨c, hc, hcontinues⟩ := Edited.some hedit
    cases hc
    refine ⟨hcontinues, ?_⟩
    cases hedit with
    | kept | marked _ => exact .inr rfl
    | adopted _ hnone _ _ _ => exact .inl hnone
  have hedited' (hedit : Edited r (s.claims.get? id) ((execute s host r).1.claims.get? id)) :
      match claim.ownerInstanceId with
      | none => claim'.agentId = claim.agentId ∧ claim'.claimToken = claim.claimToken ∧
        claim'.fence = claim.fence
      | some ownerInstanceId => claim.status = .held → claim'.ownerInstanceId ≠ some ownerInstanceId →
        ∃ request, r.takeover = some request ∧ claim'.ownerInstanceId = some request.ownerInstanceId ∧
          MayReplace s (execute s host r).1 request claim ownerInstanceId := by
    obtain ⟨hcontinues, howner⟩ := hedited hedit
    cases hc : claim.ownerInstanceId with
    | none => exact ⟨hcontinues.agentId, hcontinues.claimToken, hcontinues.fence⟩
    | some owner =>
      rw [hc] at howner
      exact fun _ hne => absurd (howner.resolve_left (by simp)) hne
  cases execute_claims hs hfree r with
  | edited hall => exact hedited' (hall id)
  | @generated request incumbent generation hg hself hothers =>
    by_cases hid : id = generation.claimId
    · subst hid
      rw [hself, Option.some.injEq] at hclaim'
      subst hclaim'
      have hmay := hg.takeover claim (hg.incumbent_of_row hs hfree hclaim)
      cases hc : claim.ownerInstanceId with
      | none =>
        rw [memoryMayTakeOver, hc] at hmay
        cases hmay
      | some owner =>
        intro _ hne
        rw [hg.owner] at hne
        have hchanged : (execute s host r).1.claims.get? generation.claimId ≠
            s.claims.get? generation.claimId := by
          rw [hself, hclaim]
          intro heq
          rw [← Option.some.inj heq, hg.owner] at hc
          exact hne hc
        exact ⟨request, hg.asks, hg.owner, mayReplace_of_mayTakeOver hreg hclaim hc
          (fun heq => hne (by rw [heq])) (execute_registers hs hfree hg.asks hchanged) hmay⟩
    · exact hedited' (hothers id hid)

/-! ### The owner of a recovery -/

variable {payload : SessionOwnershipClaimRequest}

/-- A guarded claim designates no lead, so its session has to be active. -/
lemma active_of_guarded {session : MakaioSession} (hlead : payload.designateLead = none)
    (h : AdmitsDesignation session payload) :
    session.status = .active := by
  rcases h with h | ⟨-, hsafe⟩
  · exact h
  · simp [isInactiveSafeLeadDesignationMutation, isPureLeadRelinquishment, isPureLeadRestoration,
      hlead] at hsafe

/-- The rows that a claim references are there, and its token is free or the incumbent's. -/
lemma resolveClaimTargets_ok_of {session : MakaioSession} {agent : MakaioSessionAgent}
    {incumbent : Option AdapterSessionClaimRecord}
    (hsession : s.sessions.get? payload.sessionId = some session)
    (hagent : s.agents.get? payload.agentId = some agent) (hmember : agent.sessionId = payload.sessionId)
    (hlive : agent.status ≠ .disposed) (htoken : ¬CarriedElsewhere s payload.claimToken incumbent) :
    resolveClaimTargets s payload incumbent = .ok (.ok agent) := by
  rw [resolveClaimTargets, hsession, hagent]
  dsimp only
  rw [if_neg (not_not.mpr hmember), if_neg hlive]
  cases hfind : findClaimByToken s.claims payload.claimToken with
  | none => rfl
  | some holder =>
    dsimp only
    rw [if_neg fun hne => htoken ⟨holder, hfind, hne⟩]

/-- A guarded retry of a process without a row goes through, without the row. -/
lemma runClaim_of_guardedRetry {keyed : KeyedClaimRequest} {agent : MakaioSessionAgent}
    {existing : AdapterSessionClaimRecord} (h : GuardedRetryUnregistered s payload keyed agent existing) :
    ∃ result, result.taken = true ∧
      runClaim s host payload = (s.recovered host payload agent, .ok result) := by
  obtain ⟨hkeyed, hguarded, hvalid, -, ⟨session, hsession, hactive⟩, hagent, hmember, hlive, hexpected,
    hholder, ⟨htoken, hsame, hsessionId, hheld⟩, hfree⟩ := h
  have hv := validClaimRequest hvalid
  obtain ⟨rfl, hpsid, howner⟩ := hkeyed
  set payload := keyed.payload with hpayload
  have hlead := hv.guardLead hguarded
  have hrepeat : repeatClaim (keyed.ensured s host) payload existing = (keyed.ensured s host,
      .ok (takenClaim false (some existing) none false session.leadAgentId)) := by
    rw [repeatClaim, if_neg (not_not.mpr hheld), resolveClaimTargets_ensured,
      resolveClaimTargets_ok_of hsession hagent hmember hlive hfree]
    dsimp only
    rw [designateLead, ensured_sessions, hsession]
    dsimp only
    rw [if_neg fun hne => hne.1 hactive, hlead]
    rfl
  refine ⟨takenClaim false (some existing) (recoveryReservation payload agent) false
    session.leadAgentId, rfl, ?_⟩
  rw [runClaim, if_neg (not_not.mpr hvalid), hagent]
  dsimp only [Option.bind_some]
  rw [hexpected, hpsid]
  dsimp only
  rw [runKeyedClaim, howner, hholder]
  dsimp only
  rw [KeyedClaimRequest.ensured, ← hpayload] at hrepeat
  rw [if_pos htoken, if_pos ⟨hsame, hsessionId⟩, hrepeat]
  dsimp only
  rw [drop_ensure, finishRecoveryClaim_of_taken hv]

/-- **The owner that a guarded claim writes has a row, exactly when** the claim is not the retry of the
generation it holds for a process without one. -/
lemma recoveryOwnerRegistered_iff (hs : Keyed s) (hfree : s.claims.get? host.claimId = none) :
    RecoveryOwnerRegistered (execute s host r).1 r (execute s host r).2 ↔
      ¬WritesUnregisteredOwner s r := by
  constructor
  · rintro hregistered ⟨payload, keyed, agent, existing, rfl, hretry⟩
    obtain ⟨result, htaken, hrun⟩ := @runClaim_of_guardedRetry s host _ _ _ _ hretry
    obtain ⟨attempt, hattempt⟩ := Option.isSome_iff_exists.mp
      ((validClaimRequest hretry.valid).guardAttempt hretry.guarded)
    obtain ⟨guard, hguard⟩ := Option.isSome_iff_exists.mp hretry.guarded
    have howner := hretry.isKeyed.owner
    have hexecute : execute s host (.claim payload) =
        (s.recovered host payload agent, .ok (.claim result)) := by
      rw [execute, hrun]
      rfl
    rw [hexecute] at hregistered
    have hagent : (s.recovered host payload agent).agents.get? payload.agentId =
        some (agent.reservedBy host payload attempt keyed.ownerInstanceId) := by
      rw [SessionStorageMemoryState.recovered, hguard, hattempt, howner]
      exact OrderedMap.get?_set_self _ _ _
    obtain ⟨record, hrecord⟩ := hregistered payload _ ⟨payload.machineId, keyed.ownerInstanceId⟩ rfl
      hretry.guarded ⟨result, rfl, htaken⟩ hagent rfl
    rw [recovered_runtimeInstances, hretry.unregistered] at hrecord
    cases hrecord
  · rintro hwrites payload agent owner rfl hguarded ⟨result, hanswer, htaken⟩ hagent howner
    have heffect := runClaim_effect hs hfree payload
    rw [execute] at hanswer hagent ⊢
    dsimp only at hanswer hagent ⊢
    generalize (runClaim s host payload).1 = s', (runClaim s host payload).2 = answer
      at heffect hanswer hagent
    cases heffect with
    | invalid _ => cases hanswer
    | refused hrefused =>
      cases hanswer
      exact absurd htaken (by simp [hrefused])
    | tokenInUse _ => cases hanswer
    | @taken agent₀ s₁ s₂ _ _ _ _ hvalid hagent₀ hmember hexpected hphase hlead =>
      have hv := validClaimRequest hvalid
      obtain ⟨attempt, hattempt⟩ := Option.isSome_iff_exists.mp (hv.guardAttempt hguarded)
      obtain ⟨instanceId, hinstance⟩ := Option.isSome_iff_exists.mp (hv.guardOwner hguarded)
      obtain ⟨guard, hguard⟩ := Option.isSome_iff_exists.mp hguarded
      have hreserved : agent = agent₀.reservedBy host payload attempt instanceId := by
        rw [SessionStorageMemoryState.recovered, hguard, hattempt, hinstance] at hagent
        exact (Option.some.inj ((OrderedMap.get?_set_self _ _ _).symm.trans hagent)).symm
      subst hreserved
      cases howner
      rw [Registered, recovered_runtimeInstances, hlead.frame.2.2]
      cases hphase with
      | keyless _ _ =>
        rw [guardedOwner, hguard, hinstance]
        exact exists_ensure _ _ _ _
      | @acquired keyed hkeyed _ _ _ | @takenOver keyed _ hkeyed _ _ _ _ _ =>
        have hsame := Option.some.inj (hinstance.symm.trans hkeyed.owner)
        obtain ⟨rfl, -, -⟩ := hkeyed
        exact hsame ▸ exists_ensure _ _ _ _
      | @repeated keyed existing hkeyed hlive hholder htoken hsame hsession hheld htok =>
        by_contra hunregistered
        have hinst := Option.some.inj (hinstance.symm.trans hkeyed.owner)
        have hnone : Unregistered s keyed.ownerInstanceId payload.machineId := by
          rw [← hinst]
          exact Option.eq_none_iff_forall_ne_some.mpr fun record hrecord =>
            hunregistered ⟨record, hrecord⟩
        have hactive : ∃ session, s.sessions.get? payload.sessionId = some session ∧
            session.status = .active := by
          have hnolead := hv.guardLead hguarded
          cases hlead with
          | untouched hs₁ hadmits => exact ⟨_, hs₁, active_of_guarded hnolead hadmits⟩
          | cleared _ hd _ | promoted _ hd _ _ => cases hnolead.symm.trans hd
        refine hwrites ⟨payload, keyed, agent₀, existing, rfl, hkeyed, hguarded, hvalid, hnone, hactive,
          hagent₀, hmember, hlive, hexpected, hholder, ⟨htoken, hsame, hsession, hheld⟩,
          ?_⟩
        rintro ⟨holder, hfind, hne⟩
        exact hne (congrArg some (htok holder hfind))

/-! ### Runs -/

/-- A store whose incarnations are distinct and whose claims have registered owners. -/
structure RegisteredStore (s : SessionStorageMemoryState) : Prop where
  keyed : Keyed s
  incarnations : IncarnationsDistinct s
  owners : OwnersRegistered s

/-- **Runtime-identity takeover soundness**, over every run from a store with distinct incarnations and
registered owners: both stay so; rows and retirements are kept; a held claim passes to another process by
a justified takeover only; and the owner that a guarded claim writes to its agent has a row, exactly when
the claim is not the retry of the generation it holds for a process without one.

**Proof sketch.** A request that changes a claim row keeps the row of its owner, and the next incarnation
is above all others of the machine.  A retry gives its owner up and changes no claim row, so only its
lifecycle half can name a process without a row. -/
theorem runtime_identity_sound (hreach : Reach RegisteredStore ownershipStep FreshHost s) :
    IncarnationsDistinct s ∧ OwnersRegistered s ∧ ∀ host r, FreshHost s (host, r) →
      RetirementsKept s (execute s host r).1 ∧ OwnersPass s (execute s host r).1 r ∧
      (RecoveryOwnerRegistered (execute s host r).1 r (execute s host r).2 ↔
        ¬WritesUnregisteredOwner s r) := by
  have hinv : RegisteredStore s := hreach.invariant RegisteredStore (fun _ h => h)
    fun s a t hinv hok hstep => by
      rw [ownershipStep, Option.some.injEq] at hstep
      subst hstep
      exact ⟨keyed_execute hinv.keyed hok a.2, incarnationsDistinct_step hinv.keyed hok hinv.incarnations,
        ownersRegistered_step hinv.keyed hok hinv.owners⟩
  exact ⟨hinv.incarnations, hinv.owners, fun host r hfresh => ⟨retirementsKept_step hinv.keyed hfresh,
    ownersPass_step hinv.keyed hfresh hinv.owners, recoveryOwnerRegistered_iff hinv.keyed hfresh⟩⟩

/-- The store after the claim of the member. -/
def claimedStore : SessionStorageMemoryState :=
  (execute sampleStore ⟨"claim", 1⟩ (.claim sampleClaim)).1

lemma reach_claimedStore : Reach RegisteredStore ownershipStep FreshHost claimedStore := by
  have hinitial : RegisteredStore sampleStore :=
    ⟨keyed_sampleStore, fun _ _ _ _ h => (nomatch h), fun _ _ _ h => (nomatch h)⟩
  exact .next (a := (⟨"claim", 1⟩, .claim sampleClaim)) (.start hinitial) rfl rfl

/-- The owner of the sample claim has a row. -/
theorem runtime_identity_sound_claimed : Registered claimedStore "process" "machine" :=
  (runtime_identity_sound reach_claimedStore).2.1 "claim"
    (acquiredClaim sampleStore ⟨"claim", 1⟩ ⟨sampleClaim, "provider", "process"⟩) "process" (by decide) rfl

/-- The recovery of the member that holds the sample claim, by another process. -/
def sampleRecovery : SessionOwnershipClaimRequest :=
  { sampleClaim with
    ownerInstance := some "process2"
    recoveryAttemptId := some "attempt"
    recoveryGuard := some
      { expectedStatus := .idle
        expectedPreimage := ⟨.idle, "adapter", none, none⟩
        expectedRevision := 0
        expectedCurrencyFence := 0
        expectedCurrency := ⟨⟨none, .inherited⟩, none⟩
        ownerGeneration := some ⟨"claim", "token", 1, some "process", .held⟩ } }

/-- The recovery retries the sample claim: its process is written to the agent and has no row. -/
theorem recovered_owner_missing :
    ¬∀ s host r, Reach RegisteredStore ownershipStep FreshHost s → FreshHost s (host, r) →
      RecoveryOwnerRegistered (execute s host r).1 r (execute s host r).2 := by
  intro hall
  obtain ⟨record, hrecord⟩ := hall claimedStore ⟨"unused", 2⟩ (.claim sampleRecovery) reach_claimedStore
    (by decide) sampleRecovery _ ⟨"machine", "process2"⟩ rfl rfl ⟨_, rfl, rfl⟩ rfl rfl
  exact absurd hrecord (by
    have hnone : (execute claimedStore ⟨"unused", 2⟩ (.claim sampleRecovery)).1.runtimeInstances.get?
        (runtimeInstanceKey "process2" "machine") = none := by decide
    simp [hnone])

end Makaio.Ownership

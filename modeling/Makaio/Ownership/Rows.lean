import Makaio.Ownership.SettleEffects

set_option autoImplicit false

/-!
# What one request does to each row

The operations have many outcomes and few effects.  A claim row is kept, dropped, marked or adopted,
except for at most one generation that the request writes; an agent row is kept, settled, recovered or
finalized; a runtime instance is kept, registered or retired.

## Main definitions

* `wroteUnder` — the currency write that a request reports.
* `Edited`, `Generated`, `TableStep` — claim rows.
* `AgentChange` — agent rows.
* `InstancesStep` — runtime instances.
* `ownershipStep` — the store as a machine.

## Main results

* `execute_claims`, `execute_agents`,
  `execute_instances` — the rows after a request.
* `keyed_execute` — rows stay under their own keys.
-/

namespace Makaio.Ownership

open Foundations

variable {s s' : SessionStorageMemoryState} {host : HostValues} {r : OwnershipRequest}

/-! ### What a request asks for -/

/-- The token under which a request may write a generation. -/
def OwnershipRequest.presentedToken : OwnershipRequest → Option String
  | .claim payload => payload.providerSessionId.map fun _ => payload.claimToken
  | .settleMovement payload => some payload.movement.claimToken
  | _ => none

/-- The takeover that a request asks for. -/
def OwnershipRequest.takeover : OwnershipRequest → Option MemoryTakeoverRequest
  | .claim payload => payload.ownerInstance.map fun ownerInstanceId =>
    ⟨payload.machineId, payload.agentId, ownerInstanceId, payload.topology, payload.supersedes⟩
  | .settleMovement payload => payload.ownerInstance.map payload.takeover
  | _ => none

/-- The currency write that an answer reports: the agent, and the token and fence it was made under. -/
def wroteUnder (r : OwnershipRequest) (answer : Except OwnershipError OwnershipAnswer) :
    Option (String × String × ℕ) :=
  match r, answer with
  | .settleCurrency payload, .ok (.settleCurrency (.settled _ _ _)) =>
    some (payload.agentId, payload.claimToken, payload.fence)
  | .settleMovement payload, .ok (.settleMovement (.settled _ _ _ _ claim)) =>
    some (payload.agentId, claim.claimToken, claim.fence)
  | _, _ => none

/-! ### Claim rows -/

/-- The row under a key, before and after a request that writes no generation there. -/
inductive Edited (r : OwnershipRequest) :
    Option AdapterSessionClaimRecord → Option AdapterSessionClaimRecord → Prop
  | kept {claim : Option AdapterSessionClaimRecord} : Edited r claim claim
  | dropped {claim : AdapterSessionClaimRecord} : Edited r (some claim) none
  | marked {claim : AdapterSessionClaimRecord} {status : AdapterSessionClaimStatus} {now : ℕ} :
      status ≠ .held → Edited r (some claim) (some (claim.marked status now))
  | adopted {claim : AdapterSessionClaimRecord} {request : MemoryTakeoverRequest} :
      r.takeover = some request → claim.ownerInstanceId = none → claim.status = .held →
      claim.agentId = request.agentId → claim.machineId = request.machineId →
      Edited r (some claim) (some { claim with ownerInstanceId := some request.ownerInstanceId })

/-- A generation that a request writes: under the token it presents, for its agent and owner, on a free
key or on the row of an incumbent that it may take over, with an allocated fence. -/
structure Generated (s : SessionStorageMemoryState) (host : HostValues) (r : OwnershipRequest)
    (request : MemoryTakeoverRequest) (incumbent : Option AdapterSessionClaimRecord)
    (generation : AdapterSessionClaimRecord) : Prop where
  asks : r.takeover = some request
  presents : r.presentedToken = some generation.claimToken
  incumbent_eq : findClaimByKey s.claims generation.machineId generation.adapterId
    generation.providerSessionId = incumbent
  row : generation.claimId =
    (incumbent.map AdapterSessionClaimRecord.claimId).getD host.claimId
  token : ∀ holder, findClaimByToken s.claims generation.claimToken = some holder →
    holder.claimId = generation.claimId
  fence : generation.fence = allocateFence s generation.agentId
    ((incumbent.map AdapterSessionClaimRecord.fence).getD 0)
  held : generation.status = .held
  owner : generation.ownerInstanceId = some request.ownerInstanceId
  machine : generation.machineId = request.machineId
  agent : generation.agentId = request.agentId
  live : ∃ agent, s.agents.get? generation.agentId = some agent ∧ agent.status ≠ .disposed
  takeover : ∀ existing, incumbent = some existing → memoryMayTakeOver
    (ensureMemoryRuntimeInstance s request.ownerInstanceId request.machineId host.now) request
      existing = true

/-- The claim table before and after a request. -/
inductive TableStep (s : SessionStorageMemoryState) (host : HostValues) (r : OwnershipRequest)
    (claims : OrderedMap String AdapterSessionClaimRecord) : Prop
  | edited : (∀ id, Edited r (s.claims.get? id) (claims.get? id)) → TableStep s host r claims
  | generated {request : MemoryTakeoverRequest} {incumbent : Option AdapterSessionClaimRecord}
      {generation : AdapterSessionClaimRecord} : Generated s host r request incumbent generation →
      claims.get? generation.claimId = some generation →
      (∀ id, id ≠ generation.claimId → Edited r (s.claims.get? id) (claims.get? id)) →
      TableStep s host r claims

variable {request : MemoryTakeoverRequest} {keyed : KeyedClaimRequest}

/-- A claim on the row of a generation is the incumbent that it replaces. -/
lemma Generated.incumbent_of_row (hs : Keyed s) (hfree : s.claims.get? host.claimId = none)
    {incumbent : Option AdapterSessionClaimRecord} {generation claim : AdapterSessionClaimRecord}
    (hg : Generated s host r request incumbent generation)
    (hclaim : s.claims.get? generation.claimId = some claim) : incumbent = some claim := by
  have hrow := hg.row
  cases hinc : incumbent with
  | none =>
    rw [hinc] at hrow
    rw [hrow] at hclaim
    exact absurd (hfree.symm.trans hclaim) (by simp)
  | some existing =>
    obtain ⟨⟨id, hid⟩, -⟩ := findClaimByKey_some (hg.incumbent_eq.trans hinc)
    rw [hinc] at hrow
    have hsame : generation.claimId = id := hrow.trans (hs.claims id existing hid)
    exact hid.symm.trans (hsame ▸ hclaim)

/-- A request that keeps every claim row. -/
lemma TableStep.of_same (h : ∀ id, s'.claims.get? id = s.claims.get? id) :
    TableStep s host r s'.claims := .edited fun id => by
  rw [h]
  exact .kept

section

variable (payload : SessionOwnershipClaimRequest)
include payload

@[simp] lemma recovered_sessions (agent : MakaioSessionAgent) :
    (s.recovered host payload agent).sessions = s.sessions := by
  rw [SessionStorageMemoryState.recovered]
  split <;> rfl

@[simp] lemma recovered_claims (agent : MakaioSessionAgent) :
    (s.recovered host payload agent).claims = s.claims := by
  rw [SessionStorageMemoryState.recovered]
  split <;> rfl

@[simp] lemma recovered_runtimeInstances (agent : MakaioSessionAgent) :
    (s.recovered host payload agent).runtimeInstances = s.runtimeInstances := by
  rw [SessionStorageMemoryState.recovered]
  split <;> rfl

@[simp] lemma guardedOwner_claims :
    (guardedOwner s host payload).claims = s.claims := by
  rw [guardedOwner]
  split
  · exact ensure_claims
  · rfl

@[simp] lemma guardedOwner_agents :
    (guardedOwner s host payload).agents = s.agents := by
  rw [guardedOwner]
  split
  · exact ensure_agents
  · rfl

@[simp] lemma guardedOwner_sessions :
    (guardedOwner s host payload).sessions = s.sessions := by
  rw [guardedOwner]
  split
  · exact ensure_sessions
  · rfl

end

@[simp] lemma ensured_claims (keyed : KeyedClaimRequest) : (keyed.ensured s host).claims = s.claims :=
  ensure_claims

@[simp] lemma ensured_agents (keyed : KeyedClaimRequest) : (keyed.ensured s host).agents = s.agents :=
  ensure_agents

@[simp] lemma ensured_sessions (keyed : KeyedClaimRequest) :
    (keyed.ensured s host).sessions = s.sessions := ensure_sessions

variable {payload : SessionOwnershipClaimRequest} {agent : MakaioSessionAgent}
  {claim : Option AdapterSessionClaimRecord} {fresh : Bool} {ownerInstanceId providerSessionId : String}
  {currency : AdapterSessionCurrencyTarget} {generation : AdapterSessionClaimRecord}
  {wrote : Option (String × String × ℕ)}

/-- A keyed request asks for its takeover. -/
lemma IsKeyed.takeover (h : IsKeyed payload keyed) :
    (OwnershipRequest.claim payload).takeover = some keyed.takeover := by
  obtain ⟨rfl, -, howner⟩ := h
  rw [OwnershipRequest.takeover, howner]
  rfl

/-- A keyed request presents its token. -/
lemma IsKeyed.presents (h : IsKeyed payload keyed) :
    (OwnershipRequest.claim payload).presentedToken = some payload.claimToken := by
  rw [OwnershipRequest.presentedToken, h.providerSession]
  rfl

/-- A movement for an owner asks for its takeover. -/
lemma takeover_settleMovement {payload : SessionOwnershipSettleMovementRequest}
    (howner : payload.ownerInstance = some ownerInstanceId) :
    (OwnershipRequest.settleMovement payload).takeover = some (payload.takeover ownerInstanceId) := by
  rw [OwnershipRequest.takeover, howner, Option.map_some]

variable {id : String}

/-- Storing a generation edits no other row. -/
lemma edited_setClaim {claims : OrderedMap String AdapterSessionClaimRecord}
    (generation : AdapterSessionClaimRecord) (hid : id ≠ generation.claimId) :
    Edited r (claims.get? id) ((claims.set generation.claimId generation).get? id) := by
  rw [OrderedMap.get?_set_of_ne _ _ hid]
  exact .kept

/-- The claims phase of a claim writes at most one generation. -/
private lemma claimsPhase_claims (hagent : s.agents.get? payload.agentId = some agent)
    (h : ClaimsPhase s host payload agent s' fresh claim) :
    TableStep s host (.claim payload) s'.claims := by
  cases h with
  | keyless _ _ => exact .of_same fun id => by rw [guardedOwner_claims]
  | @acquired keyed hkeyed hlive hholder htoken =>
    have hasks := hkeyed.takeover
    have hpresents := hkeyed.presents
    obtain ⟨rfl, hpsid, -⟩ := hkeyed
    rw [requestedHolder, hpsid] at hholder
    have hgenerated : Generated s host (.claim keyed.payload) keyed.takeover none
        (acquiredClaim (keyed.ensured s host) host keyed) :=
      ⟨hasks, hpresents, hholder, rfl, fun holder h => absurd (htoken.symm.trans h) (by simp),
        allocateFence_ensure _ _, rfl, rfl, rfl, rfl, ⟨agent, hagent, hlive⟩, fun _ h => by cases h⟩
    refine .generated hgenerated (OrderedMap.get?_set_self _ _ _) fun id hid => ?_
    rw [← ensured_claims keyed]
    exact edited_setClaim _ hid
  | @takenOver keyed existing hkeyed hlive hholder hne hmay htoken =>
    have hasks := hkeyed.takeover
    have hpresents := hkeyed.presents
    obtain ⟨rfl, hpsid, -⟩ := hkeyed
    obtain ⟨hmachine, hadapter, hpsid'⟩ := requestedHolder_key hholder
    have hgenerated : Generated s host (.claim keyed.payload) keyed.takeover (some existing)
        (takenOverClaim (keyed.ensured s host) host keyed existing) := by
      refine ⟨hasks, hpresents, ?_, rfl, htoken, allocateFence_ensure _ _, rfl, rfl, hmachine, rfl,
        ⟨agent, hagent, hlive⟩, fun existing' h => ?_⟩
      · rw [requestedHolder, hpsid', Option.bind_some, ← hmachine, ← hadapter] at hholder
        exact hholder
      · cases h
        exact hmay
    refine .generated hgenerated (OrderedMap.get?_set_self _ _ _) fun id hid => ?_
    rw [← ensured_claims keyed]
    exact edited_setClaim _ hid
  | repeated _ _ _ _ _ _ _ _ => exact .of_same fun id => rfl

/-- A movement keeps or retires the claims that are not its generation. -/
lemma MovementSettled.edited {payload : SessionOwnershipSettleMovementRequest}
    (h : MovementSettled s s' host payload ownerInstanceId agent providerSessionId currency generation)
    (hid : id ≠ generation.claimId) :
    Edited r (s.claims.get? id) (s'.claims.get? id) := by
  rw [h.claims, if_neg hid]
  cases s.claims.get? id with
  | none => exact .kept
  | some claim =>
    rw [Option.filter_some]
    split_ifs
    · exact .kept
    · exact .dropped

/-- The generation of a movement that settles is one its agent holds already, or a new one. -/
lemma MovementSettled.generation_cases (hs : Keyed s) {payload : SessionOwnershipSettleMovementRequest}
    (h : MovementSettled s s' host payload ownerInstanceId agent providerSessionId currency generation) :
    (s.claims.get? generation.claimId = some generation ∧ generation.machineId = payload.machineId ∧
      isOwnGeneration payload ownerInstanceId generation = true) ∨
    ∃ incumbent, Generated s host (.settleMovement payload) (payload.takeover ownerInstanceId) incumbent
      generation := by
  have hclaims : (movementEnsured s host payload ownerInstanceId).claims = s.claims := ensure_claims
  cases h.claim with
  | own hkey hown =>
    obtain ⟨⟨id, hid⟩, hmachine, -⟩ := findClaimByKey_some hkey
    rw [hclaims] at hid
    rw [← hs.claims id generation hid] at hid
    exact .inl ⟨hid, hmachine, hown⟩
  | @minted incumbent hkey hmint htoken =>
    rw [hclaims] at hkey
    refine .inr ⟨incumbent, takeover_settleMovement h.owner_eq, rfl, hkey, rfl, fun holder hh => ?_, allocateFence_ensure _ _, rfl,
      rfl, rfl, rfl, ⟨agent, h.agent_eq, h.live⟩, fun existing hex => (hmint existing hex).2⟩
    rw [assertMovementTokenIsFree, hclaims] at htoken
    rw [movementGeneration] at hh
    rw [hh] at htoken
    dsimp only at htoken
    split_ifs at htoken with hid
    exact hid

/-- What a movement that settles does to the claim table. -/
private lemma movementSettled_claims (hs : Keyed s) {payload : SessionOwnershipSettleMovementRequest}
    (h : MovementSettled s s' host payload ownerInstanceId agent providerSessionId currency generation) :
    TableStep s host (.settleMovement payload) s'.claims := by
  have hself := h.claims generation.claimId
  rw [if_pos rfl] at hself
  rcases h.generation_cases hs with ⟨hold, hmachine, hown⟩ | ⟨incumbent, hgenerated⟩
  · refine .edited fun id => ?_
    by_cases hid : id = generation.claimId
    · rw [isOwnGeneration, decide_eq_true_eq] at hown
      obtain ⟨hagent, hheld, howner⟩ := hown
      rw [hid, hself, hold, AdapterSessionClaimRecord.adoptedBy]
      split_ifs with hsome
      · exact .kept
      · exact .adopted (takeover_settleMovement h.owner_eq) (Option.not_isSome_iff_eq_none.mp hsome) hheld hagent hmachine
    · exact h.edited hid
  · have hadopted : generation.adoptedBy ownerInstanceId = generation := by
      rw [AdapterSessionClaimRecord.adoptedBy, if_pos (by rw [hgenerated.owner]; rfl)]
    rw [hadopted] at hself
    exact .generated hgenerated hself fun id hid => h.edited hid

/-! ### Effects -/

/-- A claim that a disposition has been applied to. -/
private lemma edited_leaves (disposition : AdapterSessionClaimDisposition) (now : ℕ)
    (claim : AdapterSessionClaimRecord) :
    Edited r (some claim) (disposition.leaves now claim) := by
  rw [AdapterSessionClaimDisposition.leaves]
  cases hmark : disposition.mark with
  | none => exact .dropped
  | some status => exact .marked (mark_ne_held hmark)

/-- A refused settle reports no write. -/
lemma wroteUnder_settleCurrency {payload : SessionOwnershipSettleCurrencyRequest}
    {result : SessionOwnershipSettleCurrencyResult} (h : result.isSettled = false) :
    wroteUnder (.settleCurrency payload) (.ok (.settleCurrency result)) = none := by
  cases result <;> first | rfl | cases h

/-- A refused movement reports no write. -/
lemma wroteUnder_settleMovement {payload : SessionOwnershipSettleMovementRequest}
    {result : SessionOwnershipSettleMovementResult} (h : result.isSettled = false) :
    wroteUnder (.settleMovement payload) (.ok (.settleMovement result)) = none := by
  cases result <;> first | rfl | cases h

/-- Adoption keeps the token and the fence of a generation. -/
@[simp] lemma adoptedBy_claimToken (generation : AdapterSessionClaimRecord) (ownerInstanceId : String) :
    (generation.adoptedBy ownerInstanceId).claimToken = generation.claimToken := by
  rw [AdapterSessionClaimRecord.adoptedBy]
  split_ifs <;> rfl

@[simp] lemma adoptedBy_fence (generation : AdapterSessionClaimRecord) (ownerInstanceId : String) :
    (generation.adoptedBy ownerInstanceId).fence = generation.fence := by
  rw [AdapterSessionClaimRecord.adoptedBy]
  split_ifs <;> rfl

/-- What a request does to the store, and the currency write that it reports. -/
inductive Executed (s : SessionStorageMemoryState) (host : HostValues) :
    OwnershipRequest → SessionStorageMemoryState → Option (String × String × ℕ) → Prop
  | unchanged {r : OwnershipRequest} {s' : SessionStorageMemoryState} : SameRows s s' → Executed s host r s' none
  | registered {r : OwnershipRequest} {request : MemoryTakeoverRequest} : r.takeover = some request →
      Executed s host r
        (ensureMemoryRuntimeInstance s request.ownerInstanceId request.machineId host.now) none
  | claimed {payload : SessionOwnershipClaimRequest} {agent : MakaioSessionAgent}
      {s₁ s₂ : SessionStorageMemoryState} {fresh led : Bool} {claim : Option AdapterSessionClaimRecord}
      {previousLeadAgentId : Option String} :
      claimRequestIssues payload = [] → s.agents.get? payload.agentId = some agent →
      classifyRecoveryGuard payload agent (requestedHolder s payload) = none →
      ClaimsPhase s host payload agent s₁ fresh claim →
      Designation s₁ payload agent s₂ led previousLeadAgentId →
      Executed s host (.claim payload) (s₂.recovered host payload agent) none
  | settled {payload : SessionOwnershipSettleCurrencyRequest} {agent : MakaioSessionAgent} :
      s.agents.get? payload.agentId = some agent → MaySettle s agent payload → payload.target.Paired →
      Executed s host (.settleCurrency payload) (s.settledBy host.now agent payload)
        (some (payload.agentId, payload.claimToken, payload.fence))
  | moved {payload : SessionOwnershipSettleMovementRequest} {s' : SessionStorageMemoryState}
      {ownerInstanceId providerSessionId : String} {agent : MakaioSessionAgent}
      {currency : AdapterSessionCurrencyTarget} {generation : AdapterSessionClaimRecord} :
      MovementSettled s s' host payload ownerInstanceId agent providerSessionId currency generation →
      Executed s host (.settleMovement payload) s'
        (some (payload.agentId, generation.claimToken, generation.fence))
  | released {r : OwnershipRequest} {claims : OrderedMap String AdapterSessionClaimRecord} :
      (∀ id, Edited r (s.claims.get? id) (claims.get? id)) → r.takeover = none →
      Executed s host r { s with claims := claims } none
  | retired {instanceId : String} {instances : OrderedMap (String × String) RuntimeInstanceRecord} :
      (∀ key, instances.get? key = (s.runtimeInstances.get? key).map fun record =>
        record.retiredBy instanceId host.now) →
      Executed s host (.retireInstance instanceId) { s with runtimeInstances := instances } none
  | finalized {payload : SessionOwnershipFinalizeRecoveryRequest} {agent : MakaioSessionAgent} :
      s.agents.get? payload.agentId = some agent → holdsRecovery agent payload = true →
      Executed s host (.finalizeRecovery payload)
        (s.setAgent payload.agentId (agent.finalized payload.action host.now)) none

/-- **What a request can do**, for every operation. -/
theorem execute_effect (hs : Keyed s) (hfree : s.claims.get? host.claimId = none) (r : OwnershipRequest) :
    Executed s host r (execute s host r).1 (wroteUnder r (execute s host r).2) := by
  cases r with
  | claim payload =>
    have heffect := runClaim_effect hs hfree payload
    have hwrote : wroteUnder (.claim payload) (execute s host (.claim payload)).2 = none := rfl
    rw [hwrote, execute]
    generalize (runClaim s host payload).1 = s', (runClaim s host payload).2 = answer at heffect
    cases heffect with
    | invalid _ | refused _ => exact .unchanged (.refl s)
    | tokenInUse h =>
      have hasks := h.isKeyed.takeover
      obtain ⟨rfl, -, -⟩ := h.isKeyed
      exact .registered hasks
    | taken hvalid hagent _ hguard hphase hlead => exact .claimed hvalid hagent hguard hphase hlead
  | settleCurrency payload =>
    rw [execute]
    dsimp only
    rcases settleCurrency_effect s host.now payload with h | ⟨agent, hagent, heffect⟩
    · rw [h]
      exact .unchanged (.refl s)
    · generalize (settleCurrency s host.now payload).1 = s',
        (settleCurrency s host.now payload).2 = answer at heffect
      cases heffect with
      | refused hresult =>
        rw [Except.map, wroteUnder_settleCurrency hresult]
        exact .unchanged (.refl s)
      | unpaired _ => exact .unchanged (.refl s)
      | settled hmay hpaired => exact .settled hagent hmay hpaired
  | settleMovement payload =>
    have heffect := settleMovement_effect hs hfree payload
    rw [execute]
    dsimp only
    generalize (settleMovement s host payload).1 = s', (settleMovement s host payload).2 = answer
      at heffect
    cases heffect with
    | invalid _ => exact .unchanged (.refl s)
    | refused hsame hresult =>
      rw [Except.map, wroteUnder_settleMovement hresult]
      exact .unchanged hsame
    | tokenInUse h => exact .registered (takeover_settleMovement h.owner_eq)
    | settled h =>
      rw [Except.map, wroteUnder, adoptedBy_claimToken, adoptedBy_fence]
      exact .moved h
  | release payload =>
    refine Eq.subst (motive := fun s' => Executed s host _ s' none) (release_frame host.now payload).symm ?_
    refine .released (fun id => ?_) rfl
    rcases release_cases hs host.now payload with h | ⟨claim, -, hclaim, -, hids⟩
    · rw [h]
      exact .kept
    · rw [hids]
      split_ifs with hid
      · rw [hid, hclaim]
        exact edited_leaves _ _ _
      · exact .kept
  | releaseAgentClaims payload =>
    refine Eq.subst (motive := fun s' => Executed s host _ s' none)
      (releaseAgentClaims_frame host.now payload).symm ?_
    refine .released (fun id => ?_) rfl
    rw [releaseAgentClaims_claims hs]
    cases s.claims.get? id with
    | none => exact .kept
    | some claim =>
      rw [Option.bind_some]
      split_ifs
      · exact edited_leaves _ _ _
      · exact .kept
  | retireInstance instanceId =>
    refine Eq.subst (motive := fun s' => Executed s host _ s' none)
      (retireInstance_frame host.now instanceId).symm ?_
    exact .retired fun key => retireInstance_runtimeInstances _ _ _
  | finalizeRecovery payload =>
    rw [execute, finalizeRecovery]
    cases hagent : s.agents.get? payload.agentId with
    | none => exact .unchanged (.refl s)
    | some agent =>
      dsimp only
      split_ifs with hholds
      · exact .finalized hagent hholds
      · exact .unchanged (.refl s)

/-- **What a request does to the claim table.** -/
theorem execute_claims (hs : Keyed s) (hfree : s.claims.get? host.claimId = none)
    (r : OwnershipRequest) : TableStep s host r (execute s host r).1.claims := by
  have heffect := execute_effect hs hfree r
  generalize (execute s host r).1 = s', wroteUnder r (execute s host r).2 = wrote at heffect ⊢
  cases heffect with
  | unchanged h => exact .of_same h.claims
  | registered _ => exact .of_same fun id => by rw [ensure_claims]
  | claimed _ hagent _ hphase hlead =>
    rw [recovered_claims, hlead.frame.2.1]
    exact claimsPhase_claims hagent hphase
  | settled _ _ _ => exact .of_same fun id => by rw [settledBy_claims]
  | moved h => exact movementSettled_claims hs h
  | released h _ => exact .edited h
  | retired _ | finalized _ _ => exact .of_same fun id => rfl

/-! ### Agent rows -/

/-- The agent row that a guarded claim reserves. -/
def MakaioSessionAgent.reservedBy (agent : MakaioSessionAgent) (host : HostValues)
    (payload : SessionOwnershipClaimRequest) (recoveryAttemptId instanceId : String) :
    MakaioSessionAgent :=
  { agent with
    status := .starting
    adapterId := payload.adapterId
    runtimeOwner := some ⟨payload.machineId, instanceId⟩
    recoveryAttemptId := some recoveryAttemptId
    lastActivityAt := host.now }

/-- The agent row under a key, before and after a request that reports the currency write `wrote`. -/
inductive AgentChange (s : SessionStorageMemoryState) (host : HostValues) (r : OwnershipRequest)
    (wrote : Option (String × String × ℕ)) (id : String) :
    Option MakaioSessionAgent → Option MakaioSessionAgent → Prop
  | kept {agent : Option MakaioSessionAgent} : (∀ w, wrote = some w → w.1 ≠ id) →
      AgentChange s host r wrote id agent agent
  | settled {agent : MakaioSessionAgent} {settle : SessionOwnershipSettleCurrencyRequest} :
      wrote = some (id, settle.claimToken, settle.fence) → agent.status ≠ .disposed →
      agent.currencyFenceOrZero ≤ settle.fence → agent.revisionOrZero = settle.expectedRevision →
      settle.target.Paired →
      AgentChange s host r wrote id (some agent) (some (agent.settled settle host.now))
  | recovered {payload : SessionOwnershipClaimRequest} {agent : MakaioSessionAgent}
      {recoveryAttemptId instanceId : String} :
      wrote = none → r = .claim payload → payload.agentId = id → payload.recoveryGuard.isSome →
      payload.recoveryAttemptId = some recoveryAttemptId → payload.ownerInstance = some instanceId →
      classifyRecoveryGuard payload agent (requestedHolder s payload) = none →
      agent.status ≠ .disposed →
      AgentChange s host r wrote id (some agent)
        (some (agent.reservedBy host payload recoveryAttemptId instanceId))
  | finalized {payload : SessionOwnershipFinalizeRecoveryRequest} {agent : MakaioSessionAgent} :
      wrote = none → r = .finalizeRecovery payload → payload.agentId = id →
      holdsRecovery agent payload = true →
      AgentChange s host r wrote id (some agent) (some (agent.finalized payload.action host.now))

/-- A request that writes nothing to any agent row. -/
private lemma agentChange_of_same (h : s'.agents.get? id = s.agents.get? id) :
    AgentChange s host r none id (s.agents.get? id) (s'.agents.get? id) := by
  rw [h]
  exact .kept (by simp)

/-- A claims phase keeps every agent row. -/
lemma ClaimsPhase.agents (h : ClaimsPhase s host payload agent s' fresh claim) : s'.agents = s.agents := by
  cases h with
  | keyless _ _ => exact guardedOwner_agents payload
  | @acquired keyed _ _ _ _ | @takenOver keyed _ _ _ _ _ _ _ => exact ensured_agents keyed
  | repeated _ _ _ _ _ _ _ _ => rfl

/-- A claims phase keeps every session row. -/
lemma ClaimsPhase.sessions (h : ClaimsPhase s host payload agent s' fresh claim) :
    s'.sessions = s.sessions := by
  cases h with
  | keyless _ _ => exact guardedOwner_sessions payload
  | @acquired keyed _ _ _ _ | @takenOver keyed _ _ _ _ _ _ _ => exact ensured_sessions keyed
  | repeated _ _ _ _ _ _ _ _ => rfl

/-- A guarded claim is not for a disposed agent. -/
lemma ClaimsPhase.live (h : ClaimsPhase s host payload agent s' fresh claim)
    (hlead : payload.designateLead = none) :
    agent.status ≠ .disposed := by
  cases h with
  | keyless _ hdisposed =>
    intro hd
    have hclear := hdisposed hd
    rw [hlead] at hclear
    cases hclear
  | acquired _ hlive _ _ | takenOver _ hlive _ _ _ _ | repeated _ hlive _ _ _ _ _ _ => exact hlive

/-- An agent row that a settle has written. -/
private lemma agentChange_of_settled {agents : OrderedMap String MakaioSessionAgent}
    {settle : SessionOwnershipSettleCurrencyRequest}
    (hwrote : wrote = some (settle.agentId, settle.claimToken, settle.fence))
    (hagent : s.agents.get? settle.agentId = some agent) (hlive : agent.status ≠ .disposed)
    (hfence : agent.currencyFenceOrZero ≤ settle.fence)
    (hrevision : agent.revisionOrZero = settle.expectedRevision) (hpaired : settle.target.Paired)
    (hagents : agents = s.agents.set settle.agentId (agent.settled settle host.now)) (id : String) :
    AgentChange s host r wrote id (s.agents.get? id) (agents.get? id) := by
  rw [hagents, OrderedMap.get?_set]
  split_ifs with hid
  · subst hid
    rw [hagent]
    exact .settled hwrote hlive hfence hrevision hpaired
  · refine .kept fun w hw => ?_
    rw [hwrote, Option.some.injEq] at hw
    rw [← hw]
    exact fun h => hid h.symm

/-- **What a request does to the agent rows.** -/
theorem execute_agents (hs : Keyed s) (hfree : s.claims.get? host.claimId = none)
    (r : OwnershipRequest) (id : String) :
    AgentChange s host r (wroteUnder r (execute s host r).2) id (s.agents.get? id)
      ((execute s host r).1.agents.get? id) := by
  have heffect := execute_effect hs hfree r
  generalize (execute s host r).1 = s', wroteUnder r (execute s host r).2 = wrote at heffect ⊢
  cases heffect with
  | unchanged h => exact agentChange_of_same (h.agents id)
  | registered _ => exact agentChange_of_same (by rw [ensure_agents])
  | @claimed payload agent s₁ s₂ _ _ _ _ hvalid hagent hguard hphase hlead =>
    have hagents : s₂.agents = s.agents := hlead.frame.1.trans hphase.agents
    rw [SessionStorageMemoryState.recovered]
    split
    · rename_i hg ha ho
      have hsome : payload.recoveryGuard.isSome := by rw [hg]; rfl
      rw [SessionStorageMemoryState.setAgent]
      rw [OrderedMap.get?_set, hagents]
      split_ifs with hid
      · subst hid
        rw [hagent]
        exact .recovered rfl rfl rfl hsome ha ho hguard (hphase.live ((validClaimRequest hvalid).guardLead hsome))
      · exact .kept (by simp)
    · exact agentChange_of_same (by rw [hagents])
  | settled hagent hmay hpaired =>
    exact agentChange_of_settled rfl hagent hmay.live hmay.fence hmay.revision hpaired
      (settledBy_agents _ _ _ _) id
  | @moved payload _ _ _ agent currency generation h =>
    exact @agentChange_of_settled _ _ _ agent _ _ (payload.settle generation currency) rfl h.agent_eq
      h.live h.fence h.revision (resolveMovementTarget_paired h.target) h.agents id
  | released _ _ | retired _ => exact agentChange_of_same rfl
  | finalized hagent hholds =>
    rw [SessionStorageMemoryState.setAgent]
    rw [OrderedMap.get?_set]
    split_ifs with hid
    · subst hid
      rw [hagent]
      exact .finalized rfl rfl rfl hholds
    · exact .kept (by simp)

/-- **The authority of a currency write**: a claim that its agent holds, with the token and the fence of
the write, or a generation that the request writes. -/
theorem wroteUnder_authority (hs : Keyed s) (hfree : s.claims.get? host.claimId = none)
    {agentId token : String} {fence : ℕ}
    (h : wroteUnder r (execute s host r).2 = some (agentId, token, fence)) :
    ∃ claim, claim.agentId = agentId ∧ claim.claimToken = token ∧ claim.fence = fence ∧
      ((s.claims.get? claim.claimId = some claim ∧ claim.status = .held) ∨
        ∃ request incumbent, Generated s host r request incumbent claim) := by
  have heffect := execute_effect hs hfree r
  rw [h] at heffect
  generalize (execute s host r).1 = s' at heffect
  cases heffect with
  | settled _ hmay _ =>
    obtain ⟨claim, hfind, hagentId, -, hheld, hfence⟩ := hmay.claim
    obtain ⟨⟨id, hid⟩, htoken⟩ := findClaimByToken_some hfind
    rw [← hs.claims id claim hid] at hid
    exact ⟨claim, hagentId, htoken, hfence, .inl ⟨hid, hheld⟩⟩
  | @moved _ _ _ _ _ _ generation hmoved =>
    rcases hmoved.generation_cases hs with ⟨hold, -, hown⟩ | ⟨incumbent, hgenerated⟩
    · rw [isOwnGeneration, decide_eq_true_eq] at hown
      exact ⟨generation, hown.1, rfl, rfl, .inl ⟨hold, hown.2.1⟩⟩
    · exact ⟨generation, hgenerated.agent, rfl, rfl, .inr ⟨_, _, hgenerated⟩⟩

/-! ### Runtime instances -/

/-- The runtime instances before and after a request. -/
inductive InstancesStep (s : SessionStorageMemoryState) (host : HostValues) (r : OwnershipRequest)
    (instances : OrderedMap (String × String) RuntimeInstanceRecord) : Prop
  | kept : (∀ key, instances.get? key = s.runtimeInstances.get? key) → InstancesStep s host r instances
  | registered {request : MemoryTakeoverRequest} : r.takeover = some request →
      instances = (ensureMemoryRuntimeInstance s request.ownerInstanceId request.machineId
        host.now).runtimeInstances → InstancesStep s host r instances
  | retired {instanceId : String} : r = .retireInstance instanceId →
      (∀ key, instances.get? key = (s.runtimeInstances.get? key).map fun record =>
        record.retiredBy instanceId host.now) → InstancesStep s host r instances

/-- A claims phase keeps the instances, or registers the owner. -/
private lemma claimsPhase_instances (h : ClaimsPhase s host payload agent s' fresh claim) :
    InstancesStep s host (.claim payload) s'.runtimeInstances := by
  cases h with
  | keyless _ _ =>
    rw [guardedOwner]
    split
    · rename_i instanceId _ howner
      have hasks : (OwnershipRequest.claim payload).takeover = some ⟨payload.machineId,
          payload.agentId, instanceId, payload.topology, payload.supersedes⟩ := by
        rw [OwnershipRequest.takeover, howner, Option.map_some]
      exact .registered hasks rfl
    · exact .kept fun _ => rfl
  | acquired hkeyed _ _ _ | takenOver hkeyed _ _ _ _ _ =>
    have hasks := hkeyed.takeover
    obtain ⟨rfl, -, -⟩ := hkeyed
    exact .registered hasks rfl
  | repeated _ _ _ _ _ _ _ _ => exact .kept fun _ => rfl

/-- **What a request does to the runtime instances.** -/
theorem execute_instances (hs : Keyed s) (hfree : s.claims.get? host.claimId = none)
    (r : OwnershipRequest) : InstancesStep s host r (execute s host r).1.runtimeInstances := by
  have heffect := execute_effect hs hfree r
  generalize (execute s host r).1 = s', wroteUnder r (execute s host r).2 = wrote at heffect ⊢
  cases heffect with
  | unchanged h => exact .kept h.runtimeInstances
  | registered hasks => exact .registered hasks rfl
  | claimed _ _ _ hphase hlead =>
    rw [recovered_runtimeInstances, hlead.frame.2.2]
    exact claimsPhase_instances hphase
  | settled _ _ _ => exact .kept fun _ => by rw [settledBy_runtimeInstances]
  | moved h => exact .registered (takeover_settleMovement h.owner_eq) h.runtimeInstances
  | released _ _ => exact .kept fun _ => rfl
  | retired h => exact .retired rfl h
  | finalized _ _ => exact .kept fun _ => rfl

/-- **A request that changes a claim row has its owner registered**, if it asks for a takeover. -/
theorem execute_registers (hs : Keyed s) (hfree : s.claims.get? host.claimId = none)
    (hasks : r.takeover = some request) (hchanged : (execute s host r).1.claims.get? id ≠ s.claims.get? id) :
    (execute s host r).1.runtimeInstances = (ensureMemoryRuntimeInstance s request.ownerInstanceId
      request.machineId host.now).runtimeInstances := by
  have heffect := execute_effect hs hfree r
  generalize (execute s host r).1 = s', wroteUnder r (execute s host r).2 = wrote
    at heffect hchanged ⊢
  cases heffect with
  | unchanged h => exact absurd (h.claims id) hchanged
  | registered _ => exact absurd (by rw [ensure_claims]) hchanged
  | claimed _ _ _ hphase hlead =>
    rw [recovered_claims, hlead.frame.2.1] at hchanged
    rw [recovered_runtimeInstances, hlead.frame.2.2]
    cases hphase with
    | keyless _ _ => exact absurd (by rw [guardedOwner_claims]) hchanged
    | acquired hkeyed _ _ _ | takenOver hkeyed _ _ _ _ _ =>
      rw [hkeyed.takeover, Option.some.injEq] at hasks
      obtain ⟨rfl, -, -⟩ := hkeyed
      exact hasks ▸ rfl
    | repeated _ _ _ _ _ _ _ _ => exact absurd rfl hchanged
  | settled _ _ _ => cases hasks
  | moved h =>
    rw [takeover_settleMovement h.owner_eq, Option.some.injEq] at hasks
    exact hasks ▸ h.runtimeInstances
  | released _ hnone => cases hnone.symm.trans hasks
  | retired _ | finalized _ _ => cases hasks

/-! ### Keys -/

/-- A claim is another one, edited: the same generation, and held only if that was. -/
structure Continues (claim' claim : AdapterSessionClaimRecord) : Prop where
  claimId : claim.claimId = claim'.claimId
  machineId : claim.machineId = claim'.machineId
  adapterId : claim.adapterId = claim'.adapterId
  providerSessionId : claim.providerSessionId = claim'.providerSessionId
  claimToken : claim.claimToken = claim'.claimToken
  fence : claim.fence = claim'.fence
  agentId : claim.agentId = claim'.agentId
  held : claim.status = .held → claim'.status = .held

/-- An edit keeps the generation of a claim. -/
lemma Edited.some {old : Option AdapterSessionClaimRecord} {claim : AdapterSessionClaimRecord}
    (h : Edited r old (some claim)) : ∃ claim', old = some claim' ∧ Continues claim' claim := by
  cases h with
  | kept => exact ⟨claim, rfl, rfl, rfl, rfl, rfl, rfl, rfl, rfl, fun h => h⟩
  | @marked claim' status now hstatus =>
    exact ⟨claim', rfl, rfl, rfl, rfl, rfl, rfl, rfl, rfl, fun h => absurd h hstatus⟩
  | @adopted claim' request _ _ _ _ _ => exact ⟨claim', rfl, rfl, rfl, rfl, rfl, rfl, rfl, rfl, fun h => h⟩

/-- An agent row keeps its key and its session. -/
lemma AgentChange.identity {old : Option MakaioSessionAgent}
    (h : AgentChange s host r wrote id old (some agent)) :
    ∃ agent', old = some agent' ∧ agent.agentId = agent'.agentId ∧
      agent.sessionId = agent'.sessionId ∧ agent.adapterSessionId = agent'.adapterSessionId := by
  cases h with
  | kept _ => exact ⟨agent, rfl, rfl, rfl, rfl⟩
  | settled _ _ _ _ _ | recovered _ _ _ _ _ _ _ _ => exact ⟨_, rfl, rfl, rfl, rfl⟩
  | @finalized payload agent' _ _ _ _ =>
    refine ⟨agent', rfl, ?_⟩
    cases payload.action <;> exact ⟨rfl, rfl, rfl⟩

/-- **Rows stay under their own keys.** -/
theorem keyed_execute (hs : Keyed s) (hfree : s.claims.get? host.claimId = none)
    (r : OwnershipRequest) : Keyed (execute s host r).1 where
  agents id agent h := by
    have hchange := execute_agents hs hfree r id
    rw [h] at hchange
    obtain ⟨agent', hold, hid, -⟩ := hchange.identity
    rw [hid]
    exact hs.agents id agent' hold
  claims id claim h := by
    have hedited : Edited r (s.claims.get? id) ((execute s host r).1.claims.get? id) →
        claim.claimId = id := fun hedit => by
      rw [h] at hedit
      obtain ⟨claim', hold, hcontinues⟩ := hedit.some
      rw [hcontinues.claimId]
      exact hs.claims id claim' hold
    cases execute_claims hs hfree r with
    | edited hall => exact hedited (hall id)
    | @generated _ _ generation _ hself hothers =>
      by_cases hid : id = generation.claimId
      · rw [hid, hself, Option.some.injEq] at h
        rw [hid, ← h]
      · exact hedited (hothers id hid)
  runtimeInstances key record h := by
    cases execute_instances hs hfree r with
    | kept hkeep =>
      rw [hkeep] at h
      exact hs.runtimeInstances key record h
    | @registered request _ hinstances =>
      rw [hinstances] at h
      exact (hs.ensure request.ownerInstanceId request.machineId host.now).runtimeInstances key record h
    | @retired instanceId _ hretired =>
      rw [hretired] at h
      obtain ⟨record', hold, rfl⟩ := Option.map_eq_some_iff.mp h
      rw [hs.runtimeInstances key record' hold, RuntimeInstanceRecord.retiredBy]
      split_ifs <;> rfl

/-! ### Runs -/

/-- The store after a request, as a machine. -/
def ownershipStep (s : SessionStorageMemoryState) (a : HostValues × OwnershipRequest) :
    Option SessionStorageMemoryState :=
  some (execute s a.1 a.2).1

/-- The host draws a claim identifier that no claim has. -/
def FreshHost (s : SessionStorageMemoryState) (a : HostValues × OwnershipRequest) : Prop :=
  s.claims.get? a.1.claimId = none

instance (s : SessionStorageMemoryState) (a : HostValues × OwnershipRequest) :
    Decidable (FreshHost s a) := inferInstanceAs (Decidable (_ = _))

end Makaio.Ownership

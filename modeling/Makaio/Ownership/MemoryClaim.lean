import Makaio.Ownership.MemoryRows

set_option autoImplicit false

/-!
# The claim operation of the in-memory store

`ownership-memory-claim.ts`.  Every function is synchronous, so an operation is a function of the maps.
It yields the new maps and an answer, or an error; what was written before an error stays written.

The claim identifier and the time are drawn by the host, and are arguments.

## Main definitions

* `designateLead` — the sessions phase.
* `acquireFreeKey`, `takeOverClaim`, `repeatClaim`,
  `runKeylessReservation` — the claims phase.
* `finishRecoveryClaim` — the lifecycle half of a guarded claim.
* `runClaim` — the operation.
-/

namespace Makaio.Ownership

open Foundations

/-- What an ownership operation throws. -/
inductive OwnershipError
  | invalidRequest (issues : List (String × String))
  | claimTokenInUse (claimToken : String)
  | currencyPairing (target : AdapterSessionCurrencyTarget)
  | missingOwnerInstance (operation : String)
  | missingRecoveryAttempt

def AdapterSessionCurrencyState.text : AdapterSessionCurrencyState → String
  | inherited => "inherited"
  | moved => "moved"
  | confirmed => "confirmed"

/-- The message of a thrown error; a schema error lists its issues instead. -/
def OwnershipError.message : OwnershipError → String
  | invalidRequest issues => ", ".intercalate (issues.map Prod.snd)
  | claimTokenInUse claimToken =>
    "UNIQUE constraint failed: adapter_session_claims.claim_token " ++
      s!"(uniq_adapter_session_claims_token): \"{claimToken}\" is already in use"
  | currencyPairing target =>
    let state := target.currentAdapterSessionIdState.text
    let id := if target.currentAdapterSessionId.isNone then "null" else "present"
    s!"Currency pairing invariant violated: confirmed ↔ id !== null (state=\"{state}\", id={id})"
  | missingOwnerInstance operation => s!"{operation} requires ownerInstance"
  | missingRecoveryAttempt => "guarded recovery claim requires recoveryAttemptId"

/-- The maps after an operation, and its answer. -/
abbrev Outcome (α : Type) := SessionStorageMemoryState × Except OwnershipError α

/-- What the host draws for a request. -/
structure HostValues where
  claimId : String
  now : ℕ

/-! ### Writes -/

variable (s : SessionStorageMemoryState)

/-- `state.claims.set(claim.claimId, claim)` -/
def SessionStorageMemoryState.setClaim (claim : AdapterSessionClaimRecord) : SessionStorageMemoryState :=
  { s with claims := s.claims.set claim.claimId claim }

/-- `state.claims.delete(claimId)` -/
def SessionStorageMemoryState.deleteClaim (claimId : String) :
    SessionStorageMemoryState :=
  { s with claims := s.claims.delete claimId }

/-- An agent row, changed in place. -/
def SessionStorageMemoryState.setAgent (agentId : String)
    (agent : MakaioSessionAgent) : SessionStorageMemoryState :=
  { s with agents := s.agents.set agentId agent }

/-- A session row, changed in place. -/
def SessionStorageMemoryState.setSession (sessionId : String)
    (session : MakaioSession) : SessionStorageMemoryState :=
  { s with sessions := s.sessions.set sessionId session }

/-! ### The recovery half -/

/-- The row image that a guarded reservation replaces. -/
def recoveryPreimage (agent : MakaioSessionAgent) : SessionOwnershipRecoveryPreimage where
  status := agent.status
  adapterId := agent.adapterId
  binding := agent.runtimeOwner.map fun owner => ⟨agent.adapterId, owner.machineId, owner.instanceId⟩
  recoveryAttemptId := agent.recoveryAttemptId

/-- `{ ...result, recovery }` -/
def SessionOwnershipClaimResult.withRecovery (result : SessionOwnershipClaimResult)
    (recovery : SessionOwnershipRecoveryReservation) : SessionOwnershipClaimResult :=
  match result with
  | .claimed claim _ leadDesignated previousLeadAgentId =>
    .claimed claim (some recovery) leadDesignated previousLeadAgentId
  | .idempotent claim _ leadDesignated previousLeadAgentId =>
    .idempotent claim (some recovery) leadDesignated previousLeadAgentId
  | other => other

/-- The claim was taken, or recognized as taken. -/
def SessionOwnershipClaimResult.taken : SessionOwnershipClaimResult → Bool
  | .claimed _ _ _ _ | .idempotent _ _ _ _ => true
  | _ => false

variable (host : HostValues)

/-- Commit the lifecycle half of a successful guarded reservation. -/
def finishRecoveryClaim (agent : Option MakaioSessionAgent) (payload : SessionOwnershipClaimRequest)
    (result : SessionOwnershipClaimResult) : Outcome SessionOwnershipClaimResult :=
  match agent with
  | none => (s, .ok result)
  | some agent =>
    if payload.recoveryGuard.isSome ∧ result.taken then
      match payload.recoveryAttemptId with
      | none => (s, .error .missingRecoveryAttempt)
      | some recoveryAttemptId =>
        let starting := { agent with status := .starting, adapterId := payload.adapterId }
        match payload.ownerInstance with
        | none => (s.setAgent payload.agentId starting,
            .error (.missingOwnerInstance "guarded recovery claim"))
        | some instanceId =>
          (s.setAgent payload.agentId
            { starting with
              runtimeOwner := some ⟨payload.machineId, instanceId⟩
              recoveryAttemptId := some recoveryAttemptId
              lastActivityAt := host.now },
            .ok (result.withRecovery ⟨recoveryAttemptId, recoveryPreimage agent⟩))
    else (s, .ok result)

/-! ### The sessions phase -/

inductive LeadOutcome
  | ok (leadDesignated : Bool) (previousLeadAgentId : Option String)
  | conflict (currentLeadAgentId : Option String)
  | refused (result : SessionOwnershipClaimResult)

/-- Run the sessions phase of a claim: read the designation, then move it. -/
def designateLead (s : SessionStorageMemoryState) (payload : SessionOwnershipClaimRequest)
    (agent : MakaioSessionAgent) : SessionStorageMemoryState × LeadOutcome :=
  match s.sessions.get? payload.sessionId with
  | none => (s, .refused (.notFound .session))
  | some session =>
    if session.status ≠ .active ∧
        (session.status ≠ .closed ∨ ¬isInactiveSafeLeadDesignationMutation payload) then
      (s, .refused (.sessionNotActive session.status))
    else match payload.designateLead with
      | none => (s, .ok false session.leadAgentId)
      | some designation =>
        if ¬designation.clear ∧ agent.status = .disposed then (s, .refused .agentDisposed)
        -- the session already names this agent as lead
        else if ¬designation.clear ∧ session.leadAgentId = some agent.agentId then
          (s, .ok false session.leadAgentId)
        else if session.leadAgentId ≠ designation.expectedLeadAgentId then
          (s, .conflict session.leadAgentId)
        else if designation.clear then
          (s.setSession payload.sessionId { session with leadAgentId := none },
            .ok true session.leadAgentId)
        else
          let mirror := resolveLeadCurrencyMirror agent session.adapterSessionId
          (s.setSession payload.sessionId
            ({ session with leadAgentId := some agent.agentId }.withMirror mirror),
            .ok true session.leadAgentId)

/-! ### The claims phase -/

inductive ClaimTargets
  | ok (agent : MakaioSessionAgent)
  | refused (result : SessionOwnershipClaimResult)

variable (payload : SessionOwnershipClaimRequest)

/-- Resolve the rows a claim references before anything is written. -/
def resolveClaimTargets (incumbent : Option AdapterSessionClaimRecord) : Except OwnershipError ClaimTargets :=
  match s.sessions.get? payload.sessionId, s.agents.get? payload.agentId with
  | none, _ => .ok (.refused (.notFound .session))
  | some _, none => .ok (.refused (.notFound .agent))
  | some _, some agent =>
    if agent.sessionId ≠ payload.sessionId then .ok (.refused (.notFound .agent))
    else if agent.status = .disposed then .ok (.refused .agentDisposed)
    else match findClaimByToken s.claims payload.claimToken with
      | none => .ok (.ok agent)
      | some tokenHolder =>
        if some tokenHolder.claimId ≠ incumbent.map AdapterSessionClaimRecord.claimId then
          .error (.claimTokenInUse payload.claimToken)
        else .ok (.ok agent)

/-- A claim request whose ownership key is present. -/
structure KeyedClaimRequest where
  payload : SessionOwnershipClaimRequest
  providerSessionId : String
  ownerInstanceId : String

/-- The generation that takes a free key. -/
def acquiredClaim (keyed : KeyedClaimRequest) :
    AdapterSessionClaimRecord where
  claimId := host.claimId
  machineId := keyed.payload.machineId
  adapterId := keyed.payload.adapterId
  adapterName := keyed.payload.adapterName
  providerSessionId := keyed.providerSessionId
  sessionId := keyed.payload.sessionId
  agentId := keyed.payload.agentId
  ownerInstanceId := some keyed.ownerInstanceId
  claimToken := keyed.payload.claimToken
  fence := allocateFence s keyed.payload.agentId 0
  status := .held
  claimedAt := host.now
  updatedAt := host.now

/-- The generation that replaces an incumbent. -/
def takenOverClaim (keyed : KeyedClaimRequest) (existing : AdapterSessionClaimRecord) :
    AdapterSessionClaimRecord :=
  { existing with
    claimToken := keyed.payload.claimToken
    fence := allocateFence s keyed.payload.agentId existing.fence
    agentId := keyed.payload.agentId
    sessionId := keyed.payload.sessionId
    adapterName := keyed.payload.adapterName
    ownerInstanceId := some keyed.ownerInstanceId
    status := .held
    claimedAt := host.now
    updatedAt := host.now }

/-- Take a free ownership key. -/
def acquireFreeKey (keyed : KeyedClaimRequest) :
    Outcome SessionOwnershipClaimResult :=
  let payload := keyed.payload
  match resolveClaimTargets s payload none with
  | .error error => (s, .error error)
  | .ok (.refused result) => (s, .ok result)
  | .ok (.ok agent) =>
    let claim := acquiredClaim s host keyed
    match designateLead (s.setClaim claim) payload agent with
    | (s', .ok leadDesignated previousLeadAgentId) =>
      (s', .ok (.claimed (some claim) none leadDesignated previousLeadAgentId))
    | (s', .conflict currentLeadAgentId) =>
      (s'.deleteClaim host.claimId, .ok (.leadConflict currentLeadAgentId))
    | (s', .refused result) => (s'.deleteClaim host.claimId, .ok result)

/-- Take over the incumbent generation, fencing the previous one out. -/
def takeOverClaim (keyed : KeyedClaimRequest) (existing : AdapterSessionClaimRecord) :
    Outcome SessionOwnershipClaimResult :=
  let payload := keyed.payload
  match resolveClaimTargets s payload (some existing) with
  | .error error => (s, .error error)
  | .ok (.refused result) => (s, .ok result)
  | .ok (.ok agent) =>
    let updated := takenOverClaim s host keyed existing
    match designateLead (s.setClaim updated) payload agent with
    | (s', .ok leadDesignated previousLeadAgentId) =>
      (s', .ok (.claimed (some updated) none leadDesignated previousLeadAgentId))
    | (s', .conflict currentLeadAgentId) =>
      (s'.setClaim existing, .ok (.leadConflict currentLeadAgentId))
    | (s', .refused result) => (s'.setClaim existing, .ok result)

/-- Report a retry of the acquisition whose generation already holds the key. -/
def repeatClaim (existing : AdapterSessionClaimRecord) : Outcome SessionOwnershipClaimResult :=
  if existing.status ≠ .held then (s, .ok (.alreadyClaimed existing))
  else match resolveClaimTargets s payload (some existing) with
    | .error error => (s, .error error)
    | .ok (.refused result) => (s, .ok result)
    | .ok (.ok agent) =>
      match designateLead s payload agent with
      | (s', .ok leadDesignated previousLeadAgentId) =>
        (s', .ok (.idempotent (some existing) none leadDesignated previousLeadAgentId))
      | (s', .conflict currentLeadAgentId) => (s', .ok (.leadConflict currentLeadAgentId))
      | (s', .refused result) => (s', .ok result)

/-- Reserve a start that has no ownership key yet. -/
def runKeylessReservation :
    SessionStorageMemoryState × SessionOwnershipClaimResult :=
  match s.agents.get? payload.agentId with
  | none => (s, .notFound .agent)
  | some agent =>
    if agent.sessionId ≠ payload.sessionId then (s, .notFound .agent)
    else if agent.status = .disposed ∧ ¬(payload.designateLead.any fun d => d.clear) then
      (s, .agentDisposed)
    else match designateLead s payload agent with
      | (s', .ok leadDesignated previousLeadAgentId) =>
        (s', .claimed none none leadDesignated previousLeadAgentId)
      | (s', .conflict currentLeadAgentId) => (s', .leadConflict currentLeadAgentId)
      | (s', .refused result) => (s', result)

/-! ### The operation -/

/-- An answer other than `claimed` gives up the owner row that the request has registered; an error
leaves it. -/
def dropUnlessClaimed (ownerAlreadyExisted : Bool) (ownerKey : String × String)
    (s : SessionStorageMemoryState) (result : SessionOwnershipClaimResult) :
    SessionStorageMemoryState :=
  match result with
  | .claimed _ _ _ _ => s
  | _ => s.dropRuntimeInstance ownerAlreadyExisted ownerKey

/-- Execute the keyed half after the optional recovery snapshot has been checked. -/
def runKeyedClaim (payload : SessionOwnershipClaimRequest) (providerSessionId : String)
    (agent : Option MakaioSessionAgent) (existing : Option AdapterSessionClaimRecord) :
    Outcome SessionOwnershipClaimResult :=
  match payload.ownerInstance with
  | none => (s, .error (.missingOwnerInstance "keyed session ownership claim"))
  | some instanceId =>
    let ownerKey := runtimeInstanceKey instanceId payload.machineId
    let ownerAlreadyExisted := s.runtimeInstances.has ownerKey
    let ensured := ensureMemoryRuntimeInstance s instanceId payload.machineId host.now
    let keyed : KeyedClaimRequest := ⟨payload, providerSessionId, instanceId⟩
    match existing with
    | none =>
      match acquireFreeKey ensured host keyed with
      | (s', .error error) => (s', .error error)
      | (s', .ok result) => finishRecoveryClaim
          (dropUnlessClaimed ownerAlreadyExisted ownerKey s' result) host agent payload result
    | some existing =>
      if existing.claimToken = payload.claimToken then
        if existing.agentId = payload.agentId ∧ existing.sessionId = payload.sessionId then
          match repeatClaim ensured payload existing with
          | (s', .error error) => (s', .error error)
          | (s', .ok result) => finishRecoveryClaim
              (s'.dropRuntimeInstance ownerAlreadyExisted ownerKey) host agent payload result
        else (ensured.dropRuntimeInstance ownerAlreadyExisted ownerKey, .ok (.alreadyClaimed existing))
      else if memoryMayTakeOver ensured
          ⟨payload.machineId, payload.agentId, instanceId, payload.topology, payload.supersedes⟩
          existing then
        match takeOverClaim ensured host keyed existing with
        | (s', .error error) => (s', .error error)
        | (s', .ok result) => finishRecoveryClaim
            (dropUnlessClaimed ownerAlreadyExisted ownerKey s' result) host agent payload result
      else (ensured.dropRuntimeInstance ownerAlreadyExisted ownerKey, .ok (.alreadyClaimed existing))

/-- Run the keyless branch; a guarded one registers its runtime owner. -/
def runKeylessClaim (payload : SessionOwnershipClaimRequest) (agent : Option MakaioSessionAgent) :
    Outcome SessionOwnershipClaimResult :=
  match payload.recoveryGuard, payload.ownerInstance with
  | some _, some instanceId =>
    let ownerKey := runtimeInstanceKey instanceId payload.machineId
    let ownerAlreadyExisted := s.runtimeInstances.has ownerKey
    let (s', result) :=
      runKeylessReservation (ensureMemoryRuntimeInstance s instanceId payload.machineId host.now) payload
    finishRecoveryClaim (dropUnlessClaimed ownerAlreadyExisted ownerKey s' result) host agent payload
      result
  | _, _ =>
    let (s', result) := runKeylessReservation s payload
    finishRecoveryClaim s' host agent payload result

/-- The generation on the requested key. -/
def requestedHolder :
    Option AdapterSessionClaimRecord :=
  payload.providerSessionId.bind fun providerSessionId =>
    findClaimByKey s.claims payload.machineId payload.adapterId providerSessionId

/-- Take or take over the ownership claim on a provider session, or reserve a start without one. -/
def runClaim (payload : SessionOwnershipClaimRequest) : Outcome SessionOwnershipClaimResult :=
  if claimRequestIssues payload ≠ [] then (s, .error (.invalidRequest (claimRequestIssues payload)))
  else
    let agent := s.agents.get? payload.agentId
    let existing := requestedHolder s payload
    match agent.bind fun agent => classifyRecoveryGuard payload agent existing with
    | some guardRefusal => (s, .ok guardRefusal)
    | none =>
      match payload.providerSessionId with
      | none => runKeylessClaim s host payload agent
      | some providerSessionId => runKeyedClaim s host payload providerSessionId agent existing

end Makaio.Ownership

import Makaio.Ownership.MemoryClaim

set_option autoImplicit false

/-!
# Settles, movements and releases of the in-memory store

`ownership-memory-settle.ts` and the handlers of `ownership-memory-handler.ts`.

## Main definitions

* `applySettle` — the guarded write of an agent's currency, and its mirror.
* `settleMovement` — claim, settle and retirement of the predecessors in one act.
* `release`, `releaseAgentClaims`, `retireInstance`,
  `finalizeRecovery`.
* `OwnershipRequest`, `execute` — all operations that write.
-/

namespace Makaio.Ownership

open Foundations

/-! ### Settles -/

variable (s : SessionStorageMemoryState)

/-- Refuse a settle the caller may not perform, or one that changes nothing. -/
def refuseSettle (agent : MakaioSessionAgent)
    (payload : SessionOwnershipSettleCurrencyRequest) : Option SessionOwnershipSettleCurrencyResult :=
  let revision := agent.revisionOrZero
  let currencyFence := agent.currencyFenceOrZero
  let current := agentCurrencySnapshot agent
  if agent.status = .disposed then some .agentDisposed
  else if ¬(findClaimByToken s.claims payload.claimToken).any fun claim =>
      claim.agentId = payload.agentId ∧ claim.sessionId = agent.sessionId ∧ claim.status = .held ∧
        claim.fence = payload.fence then
    some .notOwner
  else if payload.fence < currencyFence then some (.superseded currencyFence)
  else if current.toAdapterSessionCurrencyTarget = payload.target ∧ currencyFence = payload.fence then
    some (.idempotent revision current)
  else if revision ≠ payload.expectedRevision then some (.currencyChanged revision current)
  else none

variable (agent : MakaioSessionAgent)

/-- The agent row after a settle. -/
def MakaioSessionAgent.settled
    (payload : SessionOwnershipSettleCurrencyRequest) (now : ℕ) : MakaioSessionAgent :=
  { agent with
    currentAdapterSessionId := payload.target.currentAdapterSessionId
    currentAdapterSessionIdState := some payload.target.currentAdapterSessionIdState
    currencyFence := some payload.fence
    revision := some (payload.expectedRevision + 1)
    lastActivityAt := now }

variable (now : ℕ)

/-- Write an agent's currency, and mirror it when the agent leads its session. -/
def applySettle (agent : MakaioSessionAgent) (payload : SessionOwnershipSettleCurrencyRequest) :
    Outcome SessionOwnershipSettleCurrencyResult :=
  match refuseSettle s agent payload with
  | some refusal => (s, .ok refusal)
  | none =>
    if ¬payload.target.Paired then (s, .error (.currencyPairing payload.target))
    else
      let settledAgent := agent.settled payload now
      let written := s.setAgent payload.agentId settledAgent
      let currency := ⟨payload.target, agent.adapterSessionId⟩
      match s.sessions.get? agent.sessionId with
      | none => (written, .ok (.settled (payload.expectedRevision + 1) currency false))
      | some session =>
        if session.leadAgentId = some payload.agentId then
          let mirror := resolveLeadCurrencyMirror settledAgent session.adapterSessionId
          (written.setSession agent.sessionId (session.withMirror mirror),
            .ok (.settled (payload.expectedRevision + 1) currency true))
        else (written, .ok (.settled (payload.expectedRevision + 1) currency false))

def settleCurrency (payload : SessionOwnershipSettleCurrencyRequest) :
    Outcome SessionOwnershipSettleCurrencyResult :=
  match s.agents.get? payload.agentId with
  | none => (s, .ok .notFound)
  | some agent => applySettle s now agent payload

/-! ### Movements -/

/-- Refuse a movement token that already names another live generation. -/
def assertMovementTokenIsFree (claimToken claimId : String) :
    Except OwnershipError Unit :=
  match findClaimByToken s.claims claimToken with
  | none => .ok ()
  | some tokenHolder =>
    if tokenHolder.claimId = claimId then .ok () else .error (.claimTokenInUse claimToken)

variable (payload : SessionOwnershipSettleMovementRequest)

/-- The incumbent is a generation of the moving agent that its process may use. -/
def isOwnGeneration (ownerInstanceId : String) (incumbent : AdapterSessionClaimRecord) : Bool :=
  incumbent.agentId = payload.agentId ∧ incumbent.status = .held ∧
    (incumbent.ownerInstanceId = none ∨ incumbent.ownerInstanceId = some ownerInstanceId)

/-- What the claims phase of a movement produced, and how to undo it. -/
structure MovementClaimsPhase where
  generation : AdapterSessionClaimRecord
  releasedProviderSessionIds : List String
  rollback : SessionStorageMemoryState → SessionStorageMemoryState

variable (host : HostValues)

/-- The generation that a movement mints on its target key. -/
def movementGeneration (payload : SessionOwnershipSettleMovementRequest)
    (ownerInstanceId providerSessionId : String) (incumbent : Option AdapterSessionClaimRecord) :
    AdapterSessionClaimRecord :=
  { claimId := (incumbent.map AdapterSessionClaimRecord.claimId).getD host.claimId
    machineId := payload.machineId, adapterId := payload.adapterId
    adapterName := payload.adapterName, providerSessionId
    sessionId := payload.sessionId, agentId := payload.agentId
    ownerInstanceId := some ownerInstanceId, claimToken := payload.movement.claimToken
    fence := allocateFence s payload.agentId ((incumbent.map AdapterSessionClaimRecord.fence).getD 0)
    status := .held, claimedAt := host.now, updatedAt := host.now }

/-- The other generations of an agent that a movement replaces: those it holds, when the provider has
confirmed a successor. -/
def predecessors (claims : OrderedMap String AdapterSessionClaimRecord)
    (payload : SessionOwnershipSettleMovementRequest) (generation : AdapterSessionClaimRecord) :
    List AdapterSessionClaimRecord :=
  match payload.movement with
  | .confirmed _ _ => claims.values.filter fun claim =>
    claim.agentId = payload.agentId ∧ claim.status = .held ∧ claim.claimId ≠ generation.claimId
  | .demote _ => []

/-- Retire the predecessors of a movement. -/
def retirePredecessors (generation : AdapterSessionClaimRecord)
    (rollbackClaim : SessionStorageMemoryState → SessionStorageMemoryState) :
    SessionStorageMemoryState × MovementClaimsPhase :=
  let retired := predecessors s.claims payload generation
  (retired.foldl (fun s claim => s.deleteClaim claim.claimId) s,
    { generation
      releasedProviderSessionIds := retired.map AdapterSessionClaimRecord.providerSessionId
      rollback := fun s => rollbackClaim (retired.foldl SessionStorageMemoryState.setClaim s) })

/-- Resolve the successor generation, and retire the ones it replaces. -/
def runMovementClaimsPhase (payload : SessionOwnershipSettleMovementRequest)
    (ownerInstanceId providerSessionId : String) :
    SessionStorageMemoryState ×
      Except OwnershipError (SessionOwnershipSettleMovementResult ⊕ MovementClaimsPhase) :=
  let incumbent := findClaimByKey s.claims payload.machineId payload.adapterId providerSessionId
  match incumbent.filter (isOwnGeneration payload ownerInstanceId) with
  | some generation =>
    let (s', phase) := retirePredecessors s payload generation fun s => s
    (s', .ok (.inr phase))
  | none =>
    match incumbent.filter fun incumbent => !memoryMayTakeOver s
        ⟨payload.machineId, payload.agentId, ownerInstanceId, payload.topology, none⟩ incumbent with
    | some incumbent => (s, .ok (.inl (.alreadyClaimed incumbent)))
    | none =>
      let generation := movementGeneration s host payload ownerInstanceId providerSessionId incumbent
      match assertMovementTokenIsFree s payload.movement.claimToken generation.claimId with
      | .error error => (s, .error error)
      | .ok () =>
        let (s', phase) := retirePredecessors (s.setClaim generation) payload generation fun s =>
          match incumbent with
          | none => s.deleteClaim generation.claimId
          | some incumbent => s.setClaim incumbent
        (s', .ok (.inr phase))

variable (generation : AdapterSessionClaimRecord)

/-- Adopt a legacy generation after it has successfully settled a movement. -/
def adoptSettledLegacyGeneration (ownerInstanceId : String) :
    SessionStorageMemoryState × AdapterSessionClaimRecord :=
  if generation.ownerInstanceId.isSome then (s, generation)
  else
    let adopted := { generation with ownerInstanceId := some ownerInstanceId }
    (s.setClaim adopted, adopted)

/-- The provider session the movement resolves to, and the currency it writes. -/
def resolveMovementTarget (movement : OwnershipMovement) (agent : MakaioSessionAgent) :
    Option (String × AdapterSessionCurrencyTarget) :=
  match movement with
  | .confirmed providerSessionId _ => some (providerSessionId, ⟨some providerSessionId, .confirmed⟩)
  | .demote _ => (resolveResumableAdapterSessionId (agentCurrencySnapshot agent)).map
      fun providerSessionId => (providerSessionId, ⟨none, .moved⟩)

/-- The answer to a movement whose settle was refused. -/
def movementRefusal :
    SessionOwnershipSettleCurrencyResult → SessionOwnershipSettleMovementResult
  | .settled revision currency updated => .settled revision currency updated [] generation
  | .idempotent revision currency => .idempotent revision currency (some generation)
  | .superseded currentFence => .superseded currentFence
  | .currencyChanged revision currency => .currencyChanged revision currency
  | .notOwner => .notOwner
  | .agentDisposed => .agentDisposed
  | .notFound => .notFound

/-- The settle of a movement whose claims phase went through, and its undo. -/
def settleThroughPhase (agent : MakaioSessionAgent) (payload : SessionOwnershipSettleMovementRequest)
    (ownerInstanceId : String) (ownerAlreadyExisted : Bool) (currency : AdapterSessionCurrencyTarget)
    (phase : MovementClaimsPhase) : Outcome SessionOwnershipSettleMovementResult :=
  match applySettle s now agent ⟨payload.agentId, phase.generation.claimToken,
      phase.generation.fence, payload.expectedRevision, currency⟩ with
  | (s', .error error) => (s', .error error)
  | (s', .ok (.settled revision currency sessionSnapshotUpdated)) =>
    let (s'', persisted) := adoptSettledLegacyGeneration s' phase.generation ownerInstanceId
    (s'', .ok (.settled revision currency sessionSnapshotUpdated phase.releasedProviderSessionIds
      persisted))
  | (s', .ok refusal) =>
    ((phase.rollback s').dropRuntimeInstance ownerAlreadyExisted
      (runtimeInstanceKey ownerInstanceId payload.machineId),
      .ok (movementRefusal phase.generation refusal))

def settleMovement (payload : SessionOwnershipSettleMovementRequest) :
    Outcome SessionOwnershipSettleMovementResult :=
  match payload.ownerInstance with
  | none => (s, .error (.invalidRequest (movementRequestIssues payload)))
  | some ownerInstanceId =>
    let ownerKey := runtimeInstanceKey ownerInstanceId payload.machineId
    let ownerAlreadyExisted := s.runtimeInstances.has ownerKey
    let ensured := ensureMemoryRuntimeInstance s ownerInstanceId payload.machineId host.now
    let dropped := ensured.dropRuntimeInstance ownerAlreadyExisted ownerKey
    match s.agents.get? payload.agentId with
    | none => (dropped, .ok .notFound)
    | some agent =>
      if agent.sessionId ≠ payload.sessionId then (dropped, .ok .notFound)
      else if agent.status = .disposed then (dropped, .ok .agentDisposed)
      else match resolveMovementTarget payload.movement agent with
        | none => (dropped,
            .ok (.idempotent agent.revisionOrZero (agentCurrencySnapshot agent) none))
        | some (providerSessionId, currency) =>
          match runMovementClaimsPhase ensured host payload ownerInstanceId providerSessionId with
          | (s', .error error) => (s', .error error)
          | (s', .ok (.inl refusal)) =>
            (s'.dropRuntimeInstance ownerAlreadyExisted ownerKey, .ok refusal)
          | (s', .ok (.inr phase)) => settleThroughPhase s' host.now agent payload ownerInstanceId
              ownerAlreadyExisted currency phase

/-! ### Giving claims up -/

/-- The claim with a new status. -/
def AdapterSessionClaimRecord.marked (claim : AdapterSessionClaimRecord)
    (status : AdapterSessionClaimStatus) (now : ℕ) : AdapterSessionClaimRecord :=
  { claim with status, updatedAt := now }

def releaseAgentClaims (payload : SessionOwnershipReleaseAgentClaimsRequest) :
    SessionStorageMemoryState × SessionOwnershipReleaseAgentClaimsResult :=
  let scopedClaims := s.claims.values.filter fun claim =>
    claim.agentId = payload.agentId ∧ (payload.claimToken.all fun token => claim.claimToken = token)
  let claimTokenNotFound := payload.claimToken.isSome && scopedClaims.isEmpty
  match payload.disposition.mark with
  | none => (scopedClaims.foldl (fun s claim => s.deleteClaim claim.claimId) s,
      ⟨scopedClaims.map AdapterSessionClaimRecord.providerSessionId, [], claimTokenNotFound⟩)
  | some status =>
    let markedClaims := scopedClaims.map fun claim => claim.marked status now
    (markedClaims.foldl SessionStorageMemoryState.setClaim s, ⟨[], markedClaims, claimTokenNotFound⟩)

def release (payload : SessionOwnershipReleaseRequest) :
    SessionStorageMemoryState × SessionOwnershipReleaseResult :=
  match findClaimByToken s.claims payload.claimToken with
  | none => (s, .notFound)
  | some claim =>
    if claim.agentId ≠ payload.agentId then (s, .notOwner claim)
    else match payload.disposition.mark with
      | none => (s.deleteClaim claim.claimId, .released)
      | some status => (s.setClaim (claim.marked status now), .marked (claim.marked status now))

/-! ### Runtime instances and recovery -/

def retireInstance (instanceId : String) :
    SessionStorageMemoryState × ℕ :=
  let retired := s.runtimeInstances.entries.filter fun entry =>
    entry.2.instanceId = instanceId ∧ entry.2.retiredAt = none
  (retired.foldl (fun s entry =>
    { s with runtimeInstances :=
        s.runtimeInstances.set entry.1 { entry.2 with retiredAt := some now } }) s, retired.length)

/-- The attempt that holds the agent is the one a request names, with its binding. -/
def holdsRecovery (payload : SessionOwnershipFinalizeRecoveryRequest) :
    Bool :=
  agent.status = .starting ∧ agent.recoveryAttemptId = some payload.attemptId ∧
    agent.adapterId = payload.binding.adapterId ∧
    agent.runtimeOwner = some payload.binding.runtimeOwner

/-- The agent row after a terminal recovery transition. -/
def MakaioSessionAgent.finalized
    (action : SessionOwnershipRecoveryTerminalAction) (now : ℕ) : MakaioSessionAgent :=
  match action with
  | .rollback preimage =>
    { agent with
      status := preimage.status
      adapterId := preimage.adapterId
      runtimeOwner := preimage.binding.map RuntimeBinding.runtimeOwner
      recoveryAttemptId := preimage.recoveryAttemptId
      lastActivityAt := now }
  | .succeeded =>
    { agent with status := .idle, recoveryAttemptId := none, lastActivityAt := now }
  | .failed =>
    { agent with status := .dead, recoveryAttemptId := none, lastActivityAt := now }

def finalizeRecovery (payload : SessionOwnershipFinalizeRecoveryRequest) : SessionStorageMemoryState × Bool :=
  match s.agents.get? payload.agentId with
  | none => (s, false)
  | some agent =>
    if holdsRecovery agent payload then
      (s.setAgent payload.agentId (agent.finalized payload.action now), true)
    else (s, false)

/-! ### Requests -/

/-- The ownership requests that can write. -/
inductive OwnershipRequest
  | claim (payload : SessionOwnershipClaimRequest)
  | settleCurrency (payload : SessionOwnershipSettleCurrencyRequest)
  | settleMovement (payload : SessionOwnershipSettleMovementRequest)
  | release (payload : SessionOwnershipReleaseRequest)
  | releaseAgentClaims (payload : SessionOwnershipReleaseAgentClaimsRequest)
  | retireInstance (instanceId : String)
  | finalizeRecovery (payload : SessionOwnershipFinalizeRecoveryRequest)

inductive OwnershipAnswer
  | claim (result : SessionOwnershipClaimResult)
  | settleCurrency (result : SessionOwnershipSettleCurrencyResult)
  | settleMovement (result : SessionOwnershipSettleMovementResult)
  | release (result : SessionOwnershipReleaseResult)
  | releaseAgentClaims (result : SessionOwnershipReleaseAgentClaimsResult)
  | retireInstance (retiredMachines : ℕ)
  | finalizeRecovery (applied : Bool)

/-- The maps after a request, and the answer to it. -/
def execute :
    OwnershipRequest → Outcome OwnershipAnswer
  | .claim payload =>
    let (s', result) := runClaim s host payload
    (s', result.map .claim)
  | .settleCurrency payload =>
    let (s', result) := settleCurrency s host.now payload
    (s', result.map .settleCurrency)
  | .settleMovement payload =>
    let (s', result) := settleMovement s host payload
    (s', result.map .settleMovement)
  | .release payload =>
    let (s', result) := release s host.now payload
    (s', .ok (.release result))
  | .releaseAgentClaims payload =>
    let (s', result) := releaseAgentClaims s host.now payload
    (s', .ok (.releaseAgentClaims result))
  | .retireInstance instanceId =>
    let (s', retiredMachines) := retireInstance s host.now instanceId
    (s', .ok (.retireInstance retiredMachines))
  | .finalizeRecovery payload =>
    let (s', applied) := finalizeRecovery s host.now payload
    (s', .ok (.finalizeRecovery applied))

end Makaio.Ownership

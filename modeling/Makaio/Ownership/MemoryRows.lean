import Makaio.Foundations.OrderedMap
import Makaio.Ownership.Contract

set_option autoImplicit false

/-!
# Rows of the in-memory ownership store

The maps the ownership handlers share with the session and agent handlers (`memory-store.ts`), the
row-level helpers (`ownership-memory-rows.ts`) and the recovery guard (`ownership-recovery-guard.ts`).

## Main definitions

* `SessionStorageMemoryState` — the maps.
* `allocateFence`, `ensureMemoryRuntimeInstance` — allocation.
* `memoryMayTakeOver` — the facts that permit a takeover.
* `resolveLeadCurrencyMirror` — the currency a lead publishes.
* `classifyRecoveryGuard` — the recovery guard.
-/

namespace Makaio.Ownership

open Foundations

/-- `SessionStorageMemoryState`.  Runtime instances are keyed by process and machine. -/
structure SessionStorageMemoryState where
  sessions : OrderedMap String MakaioSession
  agents : OrderedMap String MakaioSessionAgent
  claims : OrderedMap String AdapterSessionClaimRecord
  runtimeInstances : OrderedMap (String × String) RuntimeInstanceRecord

/-! ### Lookup -/

variable (claims : OrderedMap String AdapterSessionClaimRecord)

def findClaimByKey (machineId adapterId providerSessionId : String) : Option AdapterSessionClaimRecord :=
  claims.values.find? fun claim =>
    claim.machineId = machineId ∧ claim.adapterId = adapterId ∧
      claim.providerSessionId = providerSessionId

def findClaimByToken (claimToken : String) :
    Option AdapterSessionClaimRecord :=
  claims.values.find? fun claim => claim.claimToken = claimToken

/-! ### Allocation -/

/-- The highest fence of the agent's claims, or `0`. -/
def maxLiveClaimFence (agentId : String) : ℕ :=
  claims.values.foldl (fun highest claim =>
    if claim.agentId = agentId ∧ highest < claim.fence then claim.fence else highest) 0

variable (agent : MakaioSessionAgent)

/-- `agent.revision ?? 0` -/
def MakaioSessionAgent.revisionOrZero : ℕ := agent.revision.getD 0

/-- `agent.currencyFence ?? 0` -/
def MakaioSessionAgent.currencyFenceOrZero : ℕ :=
  agent.currencyFence.getD 0

variable (s : SessionStorageMemoryState)

/-- A fence above everything the claiming agent already carries. -/
def allocateFence (agentId : String) (floor : ℕ) : ℕ :=
  let currencyFence := ((s.agents.get? agentId).map MakaioSessionAgent.currencyFenceOrZero).getD 0
  1 + max floor (max currencyFence (maxLiveClaimFence s.claims agentId))

/-- The key of one process acting for one machine: the source joins the two into a string, and its
length prefix keeps different pairs apart. -/
def runtimeInstanceKey (instanceId machineId : String) : String × String := (instanceId, machineId)

/-- The incarnation after those of the machine. -/
def nextIncarnation (machineId : String) : ℕ :=
  s.runtimeInstances.values.foldl (fun incarnation candidate =>
    if candidate.machineId = machineId ∧ incarnation ≤ candidate.incarnation then
      candidate.incarnation + 1
    else incarnation) 1

/-- The row of a runtime that acts for a machine for the first time. -/
def allocatedInstance (instanceId machineId : String) (now : ℕ) :
    RuntimeInstanceRecord :=
  ⟨instanceId, machineId, nextIncarnation s machineId, now, none⟩

/-- Allocates the durable identity of a runtime acting for a machine, unless it has one. -/
def ensureMemoryRuntimeInstance (instanceId machineId : String) (now : ℕ) : SessionStorageMemoryState :=
  let key := runtimeInstanceKey instanceId machineId
  match s.runtimeInstances.get? key with
  | some _ => s
  | none =>
    { s with
      runtimeInstances :=
        s.runtimeInstances.set key (allocatedInstance s instanceId machineId now) }

/-- `state.runtimeInstances.delete(ownerKey)`, of an owner that this request has registered. -/
def SessionStorageMemoryState.dropRuntimeInstance
    (ownerAlreadyExisted : Bool) (key : String × String) : SessionStorageMemoryState :=
  if ownerAlreadyExisted then s else { s with runtimeInstances := s.runtimeInstances.delete key }

/-! ### Takeover -/

structure MemoryTakeoverRequest where
  machineId : String
  agentId : String
  ownerInstanceId : String
  topology : OwnershipTopology
  supersededClaimToken : Option String

/-- Whether a durable fact permits replacing an incumbent generation. -/
def memoryMayTakeOver (request : MemoryTakeoverRequest) (incumbent : AdapterSessionClaimRecord) : Bool :=
  match incumbent.ownerInstanceId with
  | none => false
  | some ownerInstanceId =>
    if request.supersededClaimToken = some incumbent.claimToken then true
    else if incumbent.status = .held ∧ incumbent.agentId = request.agentId ∧
        ownerInstanceId = request.ownerInstanceId then true
    else
      let incumbentOwner :=
        s.runtimeInstances.get? (runtimeInstanceKey ownerInstanceId incumbent.machineId)
      let requester :=
        s.runtimeInstances.get? (runtimeInstanceKey request.ownerInstanceId request.machineId)
      if incumbentOwner.any fun owner => owner.retiredAt.isSome then true
      else if request.topology = .machineExclusive then
        match requester, incumbentOwner with
        | some requester, some incumbentOwner => incumbentOwner.incarnation < requester.incarnation
        | _, _ => false
      else false

/-! ### Currency -/

def agentCurrencySnapshot : AdapterSessionCurrencySnapshot where
  adapterSessionId := agent.adapterSessionId
  currentAdapterSessionId := agent.currentAdapterSessionId
  currentAdapterSessionIdState := agent.currentAdapterSessionIdState.getD .inherited

/-- The currency pair a session's lead publishes onto its session row, in the terms of that row. -/
def resolveLeadCurrencyMirror (sessionOrigin : Option String) :
    AdapterSessionCurrencyTarget :=
  let state := agent.currentAdapterSessionIdState.getD .inherited
  if state ≠ .inherited then ⟨agent.currentAdapterSessionId, state⟩
  else if agent.adapterSessionId = sessionOrigin then ⟨none, .inherited⟩
  else match agent.adapterSessionId with
    | none => ⟨none, .moved⟩
    | some leadOrigin => ⟨some leadOrigin, .confirmed⟩

/-- The session row with the currency of its lead. -/
def MakaioSession.withMirror (session : MakaioSession) (mirror : AdapterSessionCurrencyTarget) :
    MakaioSession :=
  { session with
    currentAdapterSessionId := mirror.currentAdapterSessionId
    currentAdapterSessionIdState := some mirror.currentAdapterSessionIdState }

/-! ### The recovery guard -/

/-- The runtime owner that a binding names. -/
def RuntimeBinding.runtimeOwner (binding : RuntimeBinding) : RuntimeOwner :=
  ⟨binding.ownerMachineId, binding.ownerInstanceId⟩

def recoveryOwnerGeneration (claim : Option AdapterSessionClaimRecord) :
    Option SessionOwnershipRecoveryOwnerGeneration :=
  claim.map fun claim =>
    ⟨claim.claimId, claim.claimToken, claim.fence, claim.ownerInstanceId, claim.status⟩

/-- A planned recovery against the rows that its claim finds.  `none` lets the claim proceed. -/
def classifyRecoveryGuard (payload : SessionOwnershipClaimRequest) (agent : MakaioSessionAgent)
    (holder : Option AdapterSessionClaimRecord) : Option SessionOwnershipClaimResult :=
  match payload.recoveryGuard with
  | none => none
  | some guard =>
    let currency := agentCurrencySnapshot agent
    let conflict := some <|
      SessionOwnershipClaimResult.recoveryConflict agent.status (recoveryOwnerGeneration holder)
    let expected := guard.expectedPreimage
    if agent.revisionOrZero ≠ guard.expectedRevision ∨
        agent.currencyFenceOrZero ≠ guard.expectedCurrencyFence ∨
        currency ≠ guard.expectedCurrency then
      some (.currencyChanged agent.revisionOrZero agent.currencyFenceOrZero currency)
    else if agent.status ≠ expected.status ∨ agent.adapterId ≠ expected.adapterId ∨
        agent.runtimeOwner ≠ expected.binding.map RuntimeBinding.runtimeOwner ∨
        agent.recoveryAttemptId ≠ expected.recoveryAttemptId then
      conflict
    else if agent.status ≠ guard.expectedStatus ∨
        recoveryOwnerGeneration holder ≠ guard.ownerGeneration then
      conflict
    else none

end Makaio.Ownership

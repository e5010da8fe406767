import Makaio.Ownership.Effects

set_option autoImplicit false

/-!
# What settles, movements and releases do to the maps

The second half of `Makaio.Ownership.Effects`.  A movement that is refused puts its predecessors back,
at the end of the claim map; what it restores is the rows, not their order.

## Main definitions

* `SameRows` — the same row under every key.
* `MaySettle` — the authority of a settle.
* `SettleEffect`, `MovementEffect` — what an operation can do.

## Main results

* `applySettle_effect`, `settleMovement_effect`.
* `releaseAgentClaims_get?`, `retireInstance_get?`.
-/

namespace Makaio.Ownership

open Foundations

variable {s s' : SessionStorageMemoryState} {host : HostValues}

/-- The same row under every key of every map. -/
structure SameRows (s s' : SessionStorageMemoryState) : Prop where
  sessions : ∀ id, s'.sessions.get? id = s.sessions.get? id
  agents : ∀ id, s'.agents.get? id = s.agents.get? id
  claims : ∀ id, s'.claims.get? id = s.claims.get? id
  runtimeInstances : ∀ key, s'.runtimeInstances.get? key = s.runtimeInstances.get? key

lemma SameRows.refl (s : SessionStorageMemoryState) : SameRows s s :=
  ⟨fun _ => rfl, fun _ => rfl, fun _ => rfl, fun _ => rfl⟩

/-! ### Settles -/

/-- The answer reports a write. -/
def SessionOwnershipSettleCurrencyResult.isSettled : SessionOwnershipSettleCurrencyResult → Bool
  | .settled _ _ _ => true
  | _ => false

/-- What a settle that writes was decided on. -/
structure MaySettle (s : SessionStorageMemoryState) (agent : MakaioSessionAgent)
    (payload : SessionOwnershipSettleCurrencyRequest) : Prop where
  live : agent.status ≠ .disposed
  claim : ∃ claim, findClaimByToken s.claims payload.claimToken = some claim ∧
    claim.agentId = payload.agentId ∧ claim.sessionId = agent.sessionId ∧ claim.status = .held ∧
    claim.fence = payload.fence
  fence : agent.currencyFenceOrZero ≤ payload.fence
  changes : ¬((agentCurrencySnapshot agent).toAdapterSessionCurrencyTarget = payload.target ∧
    agent.currencyFenceOrZero = payload.fence)
  revision : agent.revisionOrZero = payload.expectedRevision

variable {agent : MakaioSessionAgent} {payload : SessionOwnershipSettleMovementRequest}
  {ownerInstanceId providerSessionId : String}

lemma refuseSettle_none {payload : SessionOwnershipSettleCurrencyRequest}
    (h : refuseSettle s agent payload = none) : MaySettle s agent payload := by
  rw [refuseSettle] at h
  split_ifs at h with hdisposed hclaim hfence hsame hrevision
  rw [Option.any_eq_true] at hclaim
  obtain ⟨claim, hfind, hfields⟩ := hclaim
  exact ⟨hdisposed, ⟨claim, hfind, by simpa using hfields⟩, not_lt.mp hfence, hsame,
    not_not.mp hrevision⟩

lemma refuseSettle_some {payload : SessionOwnershipSettleCurrencyRequest}
    {result : SessionOwnershipSettleCurrencyResult} (h : refuseSettle s agent payload = some result) :
    result.isSettled = false := by
  rw [refuseSettle] at h
  split_ifs at h
  all_goals
    cases h
    rfl

/-- The maps after a settle has written an agent row and mirrored it onto the session it leads. -/
def SessionStorageMemoryState.settledBy (s : SessionStorageMemoryState) (now : ℕ)
    (agent : MakaioSessionAgent) (payload : SessionOwnershipSettleCurrencyRequest) :
    SessionStorageMemoryState :=
  let written := s.setAgent payload.agentId (agent.settled payload now)
  match s.sessions.get? agent.sessionId with
  | none => written
  | some session =>
    if session.leadAgentId = some payload.agentId then
      written.setSession agent.sessionId
        (session.withMirror (resolveLeadCurrencyMirror (agent.settled payload now)
          session.adapterSessionId))
    else written

section

variable (s : SessionStorageMemoryState) (now : ℕ) (agent : MakaioSessionAgent)
  (payload : SessionOwnershipSettleCurrencyRequest)

@[simp] lemma settledBy_agents : (s.settledBy now agent payload).agents =
      s.agents.set payload.agentId (agent.settled payload now) := by
  rw [SessionStorageMemoryState.settledBy]
  split
  · rfl
  · split_ifs <;> rfl

@[simp] lemma settledBy_claims : (s.settledBy now agent payload).claims = s.claims := by
  rw [SessionStorageMemoryState.settledBy]
  split
  · rfl
  · split_ifs <;> rfl

@[simp] lemma settledBy_runtimeInstances :
    (s.settledBy now agent payload).runtimeInstances = s.runtimeInstances := by
  rw [SessionStorageMemoryState.settledBy]
  split
  · rfl
  · split_ifs <;> rfl

/-- The session rows after a settle. -/
lemma settledBy_sessions (id : String) :
    (s.settledBy now agent payload).sessions.get? id = (s.sessions.get? id).map fun session =>
      if id = agent.sessionId ∧ session.leadAgentId = some payload.agentId then
        session.withMirror (resolveLeadCurrencyMirror (agent.settled payload now)
          session.adapterSessionId)
      else session := by
  rw [SessionStorageMemoryState.settledBy]
  cases hsession : s.sessions.get? agent.sessionId with
  | none =>
    by_cases hid : id = agent.sessionId
    · subst hid
      rw [hsession]
      exact hsession
    · have hno : ∀ session : MakaioSession,
          ¬(id = agent.sessionId ∧ session.leadAgentId = some payload.agentId) := fun _ h => hid h.1
      simp only [if_neg (hno _), Option.map_id']
      rfl
  | some session =>
    dsimp only
    by_cases hid : id = agent.sessionId
    · subst hid
      rw [hsession, Option.map_some]
      split_ifs with hlead hboth hboth
      · exact OrderedMap.get?_set_self _ _ _
      · exact absurd ⟨rfl, hlead⟩ hboth
      · exact absurd hboth.2 hlead
      · exact hsession
    · have hno : ∀ session : MakaioSession,
          ¬(id = agent.sessionId ∧ session.leadAgentId = some payload.agentId) := fun _ h => hid h.1
      simp only [if_neg (hno _), Option.map_id']
      split_ifs
      · exact OrderedMap.get?_set_of_ne _ _ hid
      · rfl

end

/-- What a settle can do. -/
inductive SettleEffect (s : SessionStorageMemoryState) (now : ℕ) (agent : MakaioSessionAgent)
    (payload : SessionOwnershipSettleCurrencyRequest) :
    SessionStorageMemoryState → Except OwnershipError SessionOwnershipSettleCurrencyResult → Prop
  | refused {result : SessionOwnershipSettleCurrencyResult} : result.isSettled = false →
      SettleEffect s now agent payload s (.ok result)
  | unpaired : ¬payload.target.Paired →
      SettleEffect s now agent payload s (.error (.currencyPairing payload.target))
  | settled {sessionSnapshotUpdated : Bool} : MaySettle s agent payload → payload.target.Paired →
      SettleEffect s now agent payload (s.settledBy now agent payload)
        (.ok (.settled (payload.expectedRevision + 1) ⟨payload.target, agent.adapterSessionId⟩
          sessionSnapshotUpdated))

/-- **What a settle can do.** -/
theorem applySettle_effect (s : SessionStorageMemoryState) (now : ℕ) (agent : MakaioSessionAgent)
    (payload : SessionOwnershipSettleCurrencyRequest) :
    SettleEffect s now agent payload (applySettle s now agent payload).1
      (applySettle s now agent payload).2 := by
  rw [applySettle]
  cases hrefuse : refuseSettle s agent payload with
  | some refusal => exact .refused (refuseSettle_some hrefuse)
  | none =>
    have hmay := refuseSettle_none hrefuse
    split_ifs with hpaired
    · have heffect (updated : Bool) : SettleEffect s now agent payload (s.settledBy now agent payload)
          (.ok (.settled (payload.expectedRevision + 1) ⟨payload.target, agent.adapterSessionId⟩
            updated)) := .settled hmay hpaired
      rw [SessionStorageMemoryState.settledBy] at heffect
      cases hsession : s.sessions.get? agent.sessionId with
      | none =>
        rw [hsession] at heffect
        exact heffect false
      | some session =>
        rw [hsession] at heffect
        dsimp only at heffect ⊢
        split_ifs at heffect ⊢
        · exact heffect true
        · exact heffect false
    · exact .unpaired hpaired

/-- What a settle request can do. -/
theorem settleCurrency_effect (s : SessionStorageMemoryState) (now : ℕ)
    (payload : SessionOwnershipSettleCurrencyRequest) :
    settleCurrency s now payload = (s, .ok .notFound) ∨
    ∃ agent, s.agents.get? payload.agentId = some agent ∧
      SettleEffect s now agent payload (settleCurrency s now payload).1
        (settleCurrency s now payload).2 := by
  rw [settleCurrency]
  cases hagent : s.agents.get? payload.agentId with
  | none => exact .inl rfl
  | some agent => exact .inr ⟨agent, rfl, applySettle_effect s now agent payload⟩

/-! ### The claims phase of a movement -/

/-- A movement retires a claim. -/
def SessionOwnershipSettleMovementRequest.retires (payload : SessionOwnershipSettleMovementRequest)
    (generation claim : AdapterSessionClaimRecord) : Bool :=
  match payload.movement with
  | .confirmed _ _ => claim.agentId = payload.agentId ∧ claim.status = .held ∧
    claim.claimId ≠ generation.claimId
  | .demote _ => false

variable {generation : AdapterSessionClaimRecord}
variable {claim : AdapterSessionClaimRecord} {currency : AdapterSessionCurrencyTarget}

/-- A movement does not retire its own generation. -/
lemma retires_self (h : claim.claimId = generation.claimId) :
    payload.retires generation claim = false := by
  rw [SessionOwnershipSettleMovementRequest.retires]
  split
  · simp [h]
  · rfl

lemma predecessors_eq (claims : OrderedMap String AdapterSessionClaimRecord)
    (payload : SessionOwnershipSettleMovementRequest) (generation : AdapterSessionClaimRecord) :
    predecessors claims payload generation = claims.values.filter (payload.retires generation) := by
  have hretires : payload.retires generation = fun claim => match payload.movement with
      | .confirmed _ _ => decide (claim.agentId = payload.agentId ∧ claim.status = .held ∧
        claim.claimId ≠ generation.claimId)
      | .demote _ => false := rfl
  rw [predecessors, hretires]
  cases payload.movement with
  | confirmed _ _ => rfl
  | demote _ => simp

lemma mem_predecessors {claims : OrderedMap String AdapterSessionClaimRecord} :
    claim ∈ predecessors claims payload generation ↔
      (∃ id, claims.get? id = some claim) ∧ payload.retires generation claim = true := by
  rw [predecessors_eq, List.mem_filter, OrderedMap.mem_values_iff]

variable (l : List AdapterSessionClaimRecord)

/-- Dropping claims one by one changes the claim map alone. -/
lemma foldl_deleteClaim (s : SessionStorageMemoryState) :
    l.foldl (fun s claim => s.deleteClaim claim.claimId) s =
      { s with claims := l.foldl (fun m claim => m.delete claim.claimId) s.claims } := by
  induction l generalizing s with
  | nil => rfl
  | cons claim l ih => rw [List.foldl_cons, ih, List.foldl_cons, SessionStorageMemoryState.deleteClaim]

/-- Storing claims one by one changes the claim map alone. -/
lemma foldl_setClaim (s : SessionStorageMemoryState) :
    l.foldl SessionStorageMemoryState.setClaim s =
      { s with claims := l.foldl (fun m claim => m.set claim.claimId claim) s.claims } := by
  induction l generalizing s with
  | nil => rfl
  | cons claim l ih => rw [List.foldl_cons, ih, List.foldl_cons, SessionStorageMemoryState.setClaim]

/-- Storing a claim under its key keeps the rows keyed. -/
lemma Keyed.setClaim (hs : Keyed s) (claim : AdapterSessionClaimRecord) : Keyed (s.setClaim claim) where
  agents := hs.agents
  runtimeInstances := hs.runtimeInstances
  claims id claim' h := by
    rw [SessionStorageMemoryState.setClaim, OrderedMap.get?_set] at h
    split_ifs at h with hid
    · cases h
      exact hid.symm
    · exact hs.claims id claim' h

/-- Registering an owner keeps the rows keyed. -/
lemma Keyed.ensure (hs : Keyed s) (instanceId machineId : String) (now : ℕ) :
    Keyed (ensureMemoryRuntimeInstance s instanceId machineId now) where
  agents := by
    rw [ensure_agents]
    exact hs.agents
  claims := by
    rw [ensure_claims]
    exact hs.claims
  runtimeInstances key record h := by
    cases hkey : s.runtimeInstances.get? (runtimeInstanceKey instanceId machineId) with
    | some _ =>
      rw [ensure_of_some hkey] at h
      exact hs.runtimeInstances key record h
    | none =>
      rw [ensure_of_none hkey] at h
      rw [OrderedMap.get?_set] at h
      split_ifs at h with hk
      · cases h
        exact hk
      · exact hs.runtimeInstances key record h

/-- The claims after the predecessors have been retired. -/
lemma retirePredecessors_claims (hs : Keyed s) (payload : SessionOwnershipSettleMovementRequest)
    (generation : AdapterSessionClaimRecord)
    (rollbackClaim : SessionStorageMemoryState → SessionStorageMemoryState) (id : String) :
    (retirePredecessors s payload generation rollbackClaim).1.claims.get? id =
      (s.claims.get? id).filter fun claim => !payload.retires generation claim := by
  rw [retirePredecessors, foldl_deleteClaim, predecessors_eq]
  exact OrderedMap.get?_foldl_delete_values hs.claims _ id

/-- The maps after the predecessors have been retired, the claims aside. -/
lemma retirePredecessors_frame (payload : SessionOwnershipSettleMovementRequest)
    (generation : AdapterSessionClaimRecord)
    (rollbackClaim : SessionStorageMemoryState → SessionStorageMemoryState) :
    (retirePredecessors s payload generation rollbackClaim).1 =
      { s with claims := (retirePredecessors s payload generation rollbackClaim).1.claims } := by
  rw [retirePredecessors, foldl_deleteClaim]

/-- Taking a retirement back restores the rows. -/
lemma retirePredecessors_rollback (hs : Keyed s) (payload : SessionOwnershipSettleMovementRequest)
    (generation : AdapterSessionClaimRecord)
    (rollbackClaim : SessionStorageMemoryState → SessionStorageMemoryState) :
    ∃ claims, (∀ id, claims.get? id = s.claims.get? id) ∧
      (retirePredecessors s payload generation rollbackClaim).2.rollback
        (retirePredecessors s payload generation rollbackClaim).1 =
      rollbackClaim { s with claims := claims } := by
  have hclaims := retirePredecessors_claims hs payload generation rollbackClaim
  have hframe := @retirePredecessors_frame s payload generation rollbackClaim
  generalize hretired : (retirePredecessors s payload generation rollbackClaim).1 = retired at *
  refine ⟨(predecessors s.claims payload generation).foldl
    (fun m claim => m.set claim.claimId claim) retired.claims, fun id => ?_, ?_⟩
  rotate_left
  · rw [retirePredecessors]
    dsimp only
    rw [foldl_setClaim, hframe]
  rw [OrderedMap.get?_foldl_set AdapterSessionClaimRecord.claimId (fun claim => claim) s.claims.get? _
    (fun claim hmem => ?_), hclaims]
  · split_ifs with hmem
    · rfl
    · cases hid : s.claims.get? id with
      | none => rfl
      | some claim =>
        rw [Option.filter_some, if_pos]
        rw [Bool.not_eq_true', ← Bool.not_eq_true]
        exact fun hretires => hmem (List.mem_map.mpr
          ⟨claim, mem_predecessors.mpr ⟨⟨id, hid⟩, hretires⟩, hs.claims id claim hid⟩)
  · obtain ⟨⟨id, hid⟩, -⟩ := mem_predecessors.mp hmem
    rwa [hs.claims id claim hid]

/-- The takeover that a movement asks for. -/
def SessionOwnershipSettleMovementRequest.takeover (payload : SessionOwnershipSettleMovementRequest)
    (ownerInstanceId : String) : MemoryTakeoverRequest :=
  ⟨payload.machineId, payload.agentId, ownerInstanceId, payload.topology, none⟩

/-- A movement mints a generation on a key that is free, or whose incumbent is not its own and may be
taken over. -/
def MayMint (s : SessionStorageMemoryState) (payload : SessionOwnershipSettleMovementRequest)
    (ownerInstanceId : String) (incumbent : Option AdapterSessionClaimRecord) : Prop :=
  ∀ existing, incumbent = some existing → isOwnGeneration payload ownerInstanceId existing = false ∧
    memoryMayTakeOver s (payload.takeover ownerInstanceId) existing = true

/-- The generation of a movement: the one its agent uses already, or a minted one. -/
inductive MovementClaim (s : SessionStorageMemoryState) (host : HostValues)
    (payload : SessionOwnershipSettleMovementRequest) (ownerInstanceId providerSessionId : String) :
    AdapterSessionClaimRecord → Prop
  | own {generation : AdapterSessionClaimRecord} :
      findClaimByKey s.claims payload.machineId payload.adapterId providerSessionId =
        some generation →
      isOwnGeneration payload ownerInstanceId generation = true →
      MovementClaim s host payload ownerInstanceId providerSessionId generation
  | minted {incumbent : Option AdapterSessionClaimRecord} :
      findClaimByKey s.claims payload.machineId payload.adapterId providerSessionId = incumbent →
      MayMint s payload ownerInstanceId incumbent →
      assertMovementTokenIsFree s payload.movement.claimToken
        (movementGeneration s host payload ownerInstanceId providerSessionId incumbent).claimId =
          .ok () →
      MovementClaim s host payload ownerInstanceId providerSessionId
        (movementGeneration s host payload ownerInstanceId providerSessionId incumbent)

/-- A claims phase that went through: its generation, the maps it left, and its undo. -/
structure PhaseTaken (s s' : SessionStorageMemoryState) (host : HostValues)
    (payload : SessionOwnershipSettleMovementRequest) (ownerInstanceId providerSessionId : String)
    (phase : MovementClaimsPhase) : Prop where
  claim : MovementClaim s host payload ownerInstanceId providerSessionId phase.generation
  frame : s' = { s with claims := s'.claims }
  claims : ∀ id, s'.claims.get? id = if id = phase.generation.claimId then some phase.generation
    else (s.claims.get? id).filter fun claim => !payload.retires phase.generation claim
  rollback : SameRows s (phase.rollback s')
  rollbackInstances : (phase.rollback s').runtimeInstances = s.runtimeInstances

/-- A generation that stands already, with the predecessors it replaces. -/
private lemma phaseTaken_own (hs : Keyed s)
    (hkey : findClaimByKey s.claims payload.machineId payload.adapterId providerSessionId = some generation)
    (hown : isOwnGeneration payload ownerInstanceId generation = true) :
    PhaseTaken s (retirePredecessors s payload generation fun s => s).1 host payload ownerInstanceId
      providerSessionId (retirePredecessors s payload generation fun s => s).2 := by
  obtain ⟨claims, hclaims, hrollback⟩ := retirePredecessors_rollback hs payload generation fun s => s
  refine ⟨.own hkey hown, retirePredecessors_frame _ _ _, fun id => ?_, ?_, ?_⟩
  · rw [retirePredecessors_claims hs]
    split_ifs with hid
    · obtain ⟨⟨id', hid'⟩, -⟩ := findClaimByKey_some hkey
      rw [hid, ← hs.claims id' generation hid'] at *
      simp [hid', retirePredecessors, retires_self]
    · rfl
  · rw [hrollback]
    exact ⟨fun _ => rfl, fun _ => rfl, hclaims, fun _ => rfl⟩
  · rw [hrollback]

/-- A minted generation, with the predecessors it replaces. -/
private lemma phaseTaken_minted (hs : Keyed s) (hfree : s.claims.get? host.claimId = none)
    {incumbent : Option AdapterSessionClaimRecord}
    (hgeneration : generation = movementGeneration s host payload ownerInstanceId providerSessionId incumbent)
    (hkey : findClaimByKey s.claims payload.machineId payload.adapterId providerSessionId = incumbent)
    (hmint : MayMint s payload ownerInstanceId incumbent)
    (hfreeToken : assertMovementTokenIsFree s payload.movement.claimToken generation.claimId = .ok ())
    {rollbackClaim : SessionStorageMemoryState → SessionStorageMemoryState}
    (hrollbackClaim : rollbackClaim = incumbent.elim
      (fun s => s.deleteClaim generation.claimId) fun incumbent s => s.setClaim incumbent) :
    PhaseTaken s (retirePredecessors (s.setClaim generation) payload generation rollbackClaim).1 host
      payload ownerInstanceId providerSessionId
      (retirePredecessors (s.setClaim generation) payload generation rollbackClaim).2 := by
  obtain ⟨claims, hclaims, hrollback⟩ :=
    retirePredecessors_rollback (hs.setClaim generation) payload generation rollbackClaim
  have hset (id : String) : (s.setClaim generation).claims.get? id =
      if id = generation.claimId then some generation else s.claims.get? id :=
    OrderedMap.get?_set _ _ _ _
  refine ⟨?_, ?_, fun id => ?_, ?_, ?_⟩
  · subst hgeneration
    exact .minted hkey hmint hfreeToken
  · rw [retirePredecessors_frame]
    rfl
  · rw [retirePredecessors_claims (hs.setClaim generation), hset]
    have hphase : (retirePredecessors (s.setClaim generation) payload generation
      rollbackClaim).2.generation = generation := rfl
    rw [hphase]
    split_ifs with hid
    · rw [Option.filter_some, if_pos]
      rw [retires_self rfl]
      rfl
    · rfl
  · rw [hrollback, hrollbackClaim]
    cases incumbent with
    | none =>
      have hid : generation.claimId = host.claimId := by rw [hgeneration]; rfl
      refine ⟨fun _ => rfl, fun _ => rfl, fun id => ?_, fun _ => rfl⟩
      refine (OrderedMap.get?_delete _ _ _).trans ?_
      rw [hclaims, hset]
      split_ifs with h
      · rw [h, hid, hfree]
      · rfl
    | some incumbent =>
      have hid : generation.claimId = incumbent.claimId := by rw [hgeneration]; rfl
      obtain ⟨⟨id', hid'⟩, -⟩ := findClaimByKey_some hkey
      have hstored : s.claims.get? incumbent.claimId = some incumbent := by
        rwa [hs.claims id' incumbent hid']
      refine ⟨fun _ => rfl, fun _ => rfl, fun id => ?_, fun _ => rfl⟩
      refine (OrderedMap.get?_set _ _ _ _).trans ?_
      rw [hclaims, hset, hid]
      split_ifs with h
      · rw [h, hstored]
      · rfl
  · rw [hrollback, hrollbackClaim]
    cases incumbent <;> rfl

/-- What the claims phase of a movement can do. -/
lemma runMovementClaimsPhase_cases (hs : Keyed s) (hfree : s.claims.get? host.claimId = none)
    (payload : SessionOwnershipSettleMovementRequest) (ownerInstanceId providerSessionId : String) :
    (∃ incumbent, findClaimByKey s.claims payload.machineId payload.adapterId providerSessionId =
        incumbent ∧ MayMint s payload ownerInstanceId incumbent ∧
      assertMovementTokenIsFree s payload.movement.claimToken
        (movementGeneration s host payload ownerInstanceId providerSessionId incumbent).claimId =
          .error (.claimTokenInUse payload.movement.claimToken) ∧
      runMovementClaimsPhase s host payload ownerInstanceId providerSessionId =
        (s, .error (.claimTokenInUse payload.movement.claimToken))) ∨
    (∃ holder, runMovementClaimsPhase s host payload ownerInstanceId providerSessionId =
      (s, .ok (.inl (.alreadyClaimed holder)))) ∨
    ∃ s' phase, runMovementClaimsPhase s host payload ownerInstanceId providerSessionId =
        (s', .ok (.inr phase)) ∧
      PhaseTaken s s' host payload ownerInstanceId providerSessionId phase := by
  rw [runMovementClaimsPhase]
  generalize hkey : findClaimByKey s.claims payload.machineId payload.adapterId providerSessionId =
    incumbent
  cases hown : incumbent.filter (isOwnGeneration payload ownerInstanceId) with
  | some generation =>
    obtain ⟨rfl, hgeneration⟩ := Option.filter_eq_some_iff.mp hown
    exact .inr (.inr ⟨_, _, rfl, phaseTaken_own hs hkey hgeneration⟩)
  | none =>
    dsimp only
    split
    · exact .inr (.inl ⟨_, rfl⟩)
    · rename_i hmay
      have hmint : MayMint s payload ownerInstanceId incumbent := by
        rintro existing rfl
        rw [Option.filter_eq_none_iff] at hown hmay
        exact ⟨by simpa using hown existing rfl, by
          simpa [SessionOwnershipSettleMovementRequest.takeover] using hmay existing rfl⟩
      cases hfreeToken : assertMovementTokenIsFree s payload.movement.claimToken
          (movementGeneration s host payload ownerInstanceId providerSessionId incumbent).claimId with
      | error error =>
        have herror : error = .claimTokenInUse payload.movement.claimToken := by
          rw [assertMovementTokenIsFree] at hfreeToken
          split at hfreeToken
          · cases hfreeToken
          · split_ifs at hfreeToken
            cases hfreeToken
            rfl
        subst herror
        exact .inl ⟨incumbent, rfl, hmint, hfreeToken, rfl⟩
      | ok _ =>
        refine .inr (.inr ⟨_, _, rfl, phaseTaken_minted hs hfree rfl hkey hmint hfreeToken ?_⟩)
        cases incumbent <;> rfl

/-! ### Movements -/

/-- The answer reports a write. -/
def SessionOwnershipSettleMovementResult.isSettled : SessionOwnershipSettleMovementResult → Bool
  | .settled _ _ _ _ _ => true
  | _ => false

/-- The maps with the owner of a movement registered. -/
def movementEnsured (s : SessionStorageMemoryState) (host : HostValues)
    (payload : SessionOwnershipSettleMovementRequest) (ownerInstanceId : String) :
    SessionStorageMemoryState :=
  ensureMemoryRuntimeInstance s ownerInstanceId payload.machineId host.now

def SessionOwnershipSettleMovementRequest.ownerKey (payload : SessionOwnershipSettleMovementRequest)
    (ownerInstanceId : String) : String × String :=
  runtimeInstanceKey ownerInstanceId payload.machineId

/-- A movement that fails on a token that another generation carries: its agent is a member that is not
disposed, there is something to move, and it would have to mint a generation. -/
structure MovementTokenRejected (s : SessionStorageMemoryState) (host : HostValues)
    (payload : SessionOwnershipSettleMovementRequest) (ownerInstanceId : String)
    (agent : MakaioSessionAgent) (providerSessionId : String) (currency : AdapterSessionCurrencyTarget)
    (incumbent : Option AdapterSessionClaimRecord) : Prop where
  owner_eq : payload.ownerInstance = some ownerInstanceId
  agent_eq : s.agents.get? payload.agentId = some agent
  member : agent.sessionId = payload.sessionId
  live : agent.status ≠ .disposed
  target : resolveMovementTarget payload.movement agent = some (providerSessionId, currency)
  incumbent_eq :
    findClaimByKey s.claims payload.machineId payload.adapterId providerSessionId = incumbent
  mint : MayMint (movementEnsured s host payload ownerInstanceId) payload ownerInstanceId incumbent
  token : assertMovementTokenIsFree s payload.movement.claimToken
    ((incumbent.map AdapterSessionClaimRecord.claimId).getD host.claimId) =
      .error (.claimTokenInUse payload.movement.claimToken)

/-- The settle that a movement performs. -/
def SessionOwnershipSettleMovementRequest.settle (payload : SessionOwnershipSettleMovementRequest)
    (generation : AdapterSessionClaimRecord) (currency : AdapterSessionCurrencyTarget) :
    SessionOwnershipSettleCurrencyRequest :=
  ⟨payload.agentId, generation.claimToken, generation.fence, payload.expectedRevision, currency⟩

/-- The generation with a legacy owner filled in. -/
def AdapterSessionClaimRecord.adoptedBy (generation : AdapterSessionClaimRecord)
    (ownerInstanceId : String) : AdapterSessionClaimRecord :=
  if generation.ownerInstanceId.isSome then generation
  else { generation with ownerInstanceId := some ownerInstanceId }

/-- A movement that settles: what it was decided on, and the rows it writes. -/
structure MovementSettled (s s' : SessionStorageMemoryState) (host : HostValues)
    (payload : SessionOwnershipSettleMovementRequest) (ownerInstanceId : String)
    (agent : MakaioSessionAgent) (providerSessionId : String) (currency : AdapterSessionCurrencyTarget)
    (generation : AdapterSessionClaimRecord) : Prop where
  owner_eq : payload.ownerInstance = some ownerInstanceId
  agent_eq : s.agents.get? payload.agentId = some agent
  member : agent.sessionId = payload.sessionId
  live : agent.status ≠ .disposed
  target : resolveMovementTarget payload.movement agent = some (providerSessionId, currency)
  claim : MovementClaim (movementEnsured s host payload ownerInstanceId) host payload ownerInstanceId
    providerSessionId generation
  fence : agent.currencyFenceOrZero ≤ generation.fence
  revision : agent.revisionOrZero = payload.expectedRevision
  agents : s'.agents =
    s.agents.set payload.agentId (agent.settled (payload.settle generation currency) host.now)
  sessions : ∀ id, s'.sessions.get? id =
    (s.settledBy host.now agent (payload.settle generation currency)).sessions.get? id
  claims : ∀ id, s'.claims.get? id =
    if id = generation.claimId then some (generation.adoptedBy ownerInstanceId)
    else (s.claims.get? id).filter fun claim => !payload.retires generation claim
  runtimeInstances : s'.runtimeInstances = (movementEnsured s host payload ownerInstanceId).runtimeInstances

/-- What a movement request can do. -/
inductive MovementEffect (s : SessionStorageMemoryState) (host : HostValues)
    (payload : SessionOwnershipSettleMovementRequest) :
    SessionStorageMemoryState → Except OwnershipError SessionOwnershipSettleMovementResult → Prop
  | invalid : payload.ownerInstance = none →
      MovementEffect s host payload s (.error (.invalidRequest (movementRequestIssues payload)))
  | refused {s' : SessionStorageMemoryState} {result : SessionOwnershipSettleMovementResult} :
      SameRows s s' → result.isSettled = false → MovementEffect s host payload s' (.ok result)
  | tokenInUse {ownerInstanceId providerSessionId : String} {agent : MakaioSessionAgent}
      {currency : AdapterSessionCurrencyTarget} {incumbent : Option AdapterSessionClaimRecord} :
      MovementTokenRejected s host payload ownerInstanceId agent providerSessionId currency incumbent →
      MovementEffect s host payload (movementEnsured s host payload ownerInstanceId)
        (.error (.claimTokenInUse payload.movement.claimToken))
  | settled {s' : SessionStorageMemoryState} {ownerInstanceId providerSessionId : String}
      {agent : MakaioSessionAgent} {currency : AdapterSessionCurrencyTarget}
      {generation : AdapterSessionClaimRecord} {updated : Bool} {released : List String} :
      MovementSettled s s' host payload ownerInstanceId agent providerSessionId currency generation →
      MovementEffect s host payload s' (.ok (.settled (payload.expectedRevision + 1)
        ⟨currency, agent.adapterSessionId⟩ updated released (generation.adoptedBy ownerInstanceId)))

/-- A movement writes a paired currency. -/
lemma resolveMovementTarget_paired {movement : OwnershipMovement} {providerSessionId : String}
    (h : resolveMovementTarget movement agent = some (providerSessionId, currency)) :
    currency.Paired := by
  cases movement with
  | confirmed psid token =>
    cases h
    simp [AdapterSessionCurrencyTarget.Paired]
  | demote token =>
    obtain ⟨_, -, hcurrency⟩ := Option.map_eq_some_iff.mp h
    cases hcurrency
    simp [AdapterSessionCurrencyTarget.Paired]

/-- Giving up the owner after a rollback restores the rows. -/
private lemma sameRows_drop {ownerInstanceId : String}
    (h : SameRows (movementEnsured s host payload ownerInstanceId) s')
    (hinstances : s'.runtimeInstances = (movementEnsured s host payload ownerInstanceId).runtimeInstances) :
    SameRows s (s'.dropRuntimeInstance (s.runtimeInstances.has (payload.ownerKey ownerInstanceId))
      (payload.ownerKey ownerInstanceId)) := by
  have hfields (t : SessionStorageMemoryState) (b : Bool) (k : String × String) :
      t.dropRuntimeInstance b k =
        { t with
          runtimeInstances := if b then t.runtimeInstances else t.runtimeInstances.delete k } := by
    rw [SessionStorageMemoryState.dropRuntimeInstance]
    split_ifs <;> rfl
  have hdrop := congrArg SessionStorageMemoryState.runtimeInstances
    (@drop_ensure s ownerInstanceId payload.machineId host.now)
  rw [hfields] at hdrop ⊢
  refine ⟨fun id => ?_, fun id => ?_, fun id => ?_, fun key => ?_⟩
  · rw [h.sessions, movementEnsured, ensure_sessions]
  · rw [h.agents, movementEnsured, ensure_agents]
  · rw [h.claims, movementEnsured, ensure_claims]
  · rw [hinstances]
    exact congrArg (OrderedMap.get? · key) hdrop

/-- Adopting a generation changes the claim map alone. -/
lemma adoptSettledLegacyGeneration_eq (generation : AdapterSessionClaimRecord)
    (ownerInstanceId : String) :
    adoptSettledLegacyGeneration s generation ownerInstanceId =
      ({ s with
        claims := if generation.ownerInstanceId.isSome then s.claims
          else s.claims.set generation.claimId (generation.adoptedBy ownerInstanceId) },
        generation.adoptedBy ownerInstanceId) := by
  rw [adoptSettledLegacyGeneration, AdapterSessionClaimRecord.adoptedBy]
  split_ifs <;> rfl

/-- The settle of a movement whose claims phase went through. -/
private lemma settleThroughPhase_effect {phase : MovementClaimsPhase}
    (howner : payload.ownerInstance = some ownerInstanceId)
    (hagent : s.agents.get? payload.agentId = some agent) (hmember : agent.sessionId = payload.sessionId)
    (hlive : agent.status ≠ .disposed)
    (htarget : resolveMovementTarget payload.movement agent = some (providerSessionId, currency))
    (hphase : PhaseTaken (movementEnsured s host payload ownerInstanceId) s' host payload
      ownerInstanceId providerSessionId phase) :
    ∃ s'' r, MovementEffect s host payload s'' r ∧
      settleThroughPhase s' host.now agent payload ownerInstanceId
        (s.runtimeInstances.has (payload.ownerKey ownerInstanceId)) currency phase = (s'', r) := by
  rw [settleThroughPhase]
  have hsettle := applySettle_effect s' host.now agent (payload.settle phase.generation currency)
  generalize hd : applySettle s' host.now agent (payload.settle phase.generation currency) = d at hsettle
  obtain ⟨s₁, r⟩ := d
  rw [SessionOwnershipSettleMovementRequest.settle] at hd
  rw [hd]
  dsimp only at hsettle
  cases hsettle with
  | @refused result hresult =>
    have hsame := sameRows_drop hphase.rollback hphase.rollbackInstances
    cases result with
    | settled _ _ _ => cases hresult
    | _ => exact ⟨_, _, .refused hsame rfl, rfl⟩
  | unpaired hpaired => exact absurd (resolveMovementTarget_paired htarget) hpaired
  | settled hmay hpaired =>
    have hagents : s'.agents = s.agents := by
      rw [hphase.frame, movementEnsured, ensure_agents]
    have hsessions : s'.sessions = s.sessions := by
      rw [hphase.frame, movementEnsured, ensure_sessions]
    dsimp only
    rw [adoptSettledLegacyGeneration_eq]
    refine ⟨_, _, ?_, rfl⟩
    refine .settled ⟨howner, hagent, hmember, hlive, htarget, hphase.claim, hmay.fence, hmay.revision,
      ?_, fun id => ?_, fun id => ?_, ?_⟩
    · dsimp only
      rw [settledBy_agents, hagents]
      rfl
    · dsimp only
      rw [settledBy_sessions, settledBy_sessions, hsessions]
      rfl
    · dsimp only
      rw [settledBy_claims, AdapterSessionClaimRecord.adoptedBy]
      split_ifs with howned hid hid
      · rw [hphase.claims, if_pos hid]
      · rw [hphase.claims, if_neg hid, movementEnsured, ensure_claims]
      · rw [hid, OrderedMap.get?_set_self]
      · rw [OrderedMap.get?_set_of_ne _ _ hid, hphase.claims, if_neg hid, movementEnsured,
          ensure_claims]
    · dsimp only
      rw [settledBy_runtimeInstances, hphase.frame]

/-- **What a movement can do.** -/
theorem settleMovement_effect (hs : Keyed s) (hfree : s.claims.get? host.claimId = none)
    (payload : SessionOwnershipSettleMovementRequest) :
    MovementEffect s host payload (settleMovement s host payload).1
      (settleMovement s host payload).2 := by
  suffices h : ∃ s'' r, MovementEffect s host payload s'' r ∧
      settleMovement s host payload = (s'', r) by
    obtain ⟨s'', r, heffect, heq⟩ := h
    rw [heq]
    exact heffect
  have hrefused {result : SessionOwnershipSettleMovementResult} (hresult : result.isSettled = false) :
      MovementEffect s host payload s (.ok result) := .refused (SameRows.refl s) hresult
  rw [settleMovement]
  cases howner : payload.ownerInstance with
  | none => exact ⟨_, _, .invalid howner, rfl⟩
  | some ownerInstanceId =>
    dsimp only
    rw [drop_ensure]
    cases hagent : s.agents.get? payload.agentId with
    | none => exact ⟨_, _, hrefused rfl, rfl⟩
    | some agent =>
      dsimp only
      split_ifs with hmember hdisposed
      · exact ⟨_, _, hrefused rfl, rfl⟩
      · exact ⟨_, _, hrefused rfl, rfl⟩
      cases htarget : resolveMovementTarget payload.movement agent with
      | none => exact ⟨_, _, hrefused rfl, rfl⟩
      | some target =>
        obtain ⟨providerSessionId, currency⟩ := target
        dsimp only
        have hphase := @runMovementClaimsPhase_cases (movementEnsured s host payload ownerInstanceId)
          host (hs.ensure _ _ _) (by rw [movementEnsured, ensure_claims]; exact hfree) payload
          ownerInstanceId providerSessionId
        rcases hphase with ⟨incumbent, hkey, hmint, htoken, heq⟩ | ⟨holder, heq⟩ |
          ⟨s₁, phase, heq, htaken⟩
        · rw [movementEnsured] at heq
          rw [heq]
          refine ⟨_, _, .tokenInUse ⟨howner, hagent, not_not.mp hmember, hdisposed, htarget, ?_, hmint,
            ?_⟩, rfl⟩
          · rw [← hkey, movementEnsured, ensure_claims]
          · rw [← htoken, assertMovementTokenIsFree, assertMovementTokenIsFree, movementEnsured,
              ensure_claims]
            rfl
        · rw [movementEnsured] at heq
          rw [heq]
          exact ⟨_, _, hrefused rfl, congrArg (·, _) drop_ensure⟩
        · rw [movementEnsured] at heq
          rw [heq]
          exact settleThroughPhase_effect howner hagent (not_not.mp hmember) hdisposed htarget htaken

/-! ### Giving claims up -/

def AdapterSessionClaimDisposition.leaves (disposition : AdapterSessionClaimDisposition) (now : ℕ)
    (claim : AdapterSessionClaimRecord) : Option AdapterSessionClaimRecord :=
  disposition.mark.map fun status => claim.marked status now

/-- The claims that a release of an agent's claims is about. -/
def SessionOwnershipReleaseAgentClaimsRequest.covers
    (payload : SessionOwnershipReleaseAgentClaimsRequest) (claim : AdapterSessionClaimRecord) : Bool :=
  claim.agentId = payload.agentId ∧ (payload.claimToken.all fun token => claim.claimToken = token)

/-- A disposition marks a claim as no longer held. -/
lemma mark_ne_held {disposition : AdapterSessionClaimDisposition} {status : AdapterSessionClaimStatus}
    (h : disposition.mark = some status) : status ≠ .held := by
  cases disposition <;> cases h <;> decide

/-- The maps after a release of an agent's claims. -/
lemma releaseAgentClaims_claims (hs : Keyed s) (now : ℕ)
    (payload : SessionOwnershipReleaseAgentClaimsRequest) (id : String) :
    (releaseAgentClaims s now payload).1.claims.get? id = (s.claims.get? id).bind fun claim =>
      if payload.covers claim then payload.disposition.leaves now claim else some claim := by
  rw [releaseAgentClaims]
  dsimp only
  split
  · rename_i hmark
    rw [foldl_deleteClaim]
    refine (OrderedMap.get?_foldl_delete_values hs.claims payload.covers id).trans ?_
    simp only [AdapterSessionClaimDisposition.leaves, hmark, Option.map_none]
    cases s.claims.get? id with
    | none => rfl
    | some claim => simp only [Option.filter_some, Option.bind_some]; cases payload.covers claim <;> rfl
  · rename_i status hmark
    rw [foldl_setClaim, List.foldl_map]
    refine (OrderedMap.get?_foldl_set_values hs.claims payload.covers
      (fun claim => claim.marked status now) id).trans ?_
    simp only [AdapterSessionClaimDisposition.leaves, hmark, Option.map_some]
    cases s.claims.get? id with
    | none => rfl
    | some claim => simp only [Option.map_some, Option.bind_some]; split_ifs <;> rfl

/-- A release of an agent's claims changes the claim map alone. -/
lemma releaseAgentClaims_frame (now : ℕ) (payload : SessionOwnershipReleaseAgentClaimsRequest) :
    (releaseAgentClaims s now payload).1 =
      { s with claims := (releaseAgentClaims s now payload).1.claims } := by
  rw [releaseAgentClaims]
  dsimp only
  split
  · rw [foldl_deleteClaim]
  · rw [foldl_setClaim]

/-- A release changes the claim map alone. -/
lemma release_frame (now : ℕ) (payload : SessionOwnershipReleaseRequest) :
    (release s now payload).1 = { s with claims := (release s now payload).1.claims } := by
  rw [release]
  split
  · rfl
  · split_ifs
    · rfl
    · split <;> rfl

/-- What a release can do. -/
lemma release_cases (hs : Keyed s) (now : ℕ) (payload : SessionOwnershipReleaseRequest) :
    (release s now payload).1 = s ∨
    ∃ claim, findClaimByToken s.claims payload.claimToken = some claim ∧
      s.claims.get? claim.claimId = some claim ∧ claim.agentId = payload.agentId ∧
      ∀ id, (release s now payload).1.claims.get? id =
        if id = claim.claimId then payload.disposition.leaves now claim else s.claims.get? id := by
  rw [release]
  cases hfind : findClaimByToken s.claims payload.claimToken with
  | none => exact .inl rfl
  | some claim =>
    obtain ⟨⟨id, hid⟩, -⟩ := findClaimByToken_some hfind
    have hclaim : s.claims.get? claim.claimId = some claim := by rwa [hs.claims id claim hid]
    dsimp only
    split_ifs with hagent
    · exact .inl rfl
    · refine .inr ⟨claim, rfl, hclaim, not_not.mp hagent, ?_⟩
      rw [AdapterSessionClaimDisposition.leaves]
      cases payload.disposition.mark with
      | none => exact OrderedMap.get?_delete _ _
      | some status => exact fun id => OrderedMap.get?_set _ _ _ _

/-! ### Retirement -/

/-- A runtime instance with its retirement filled in, when it is the one named. -/
def RuntimeInstanceRecord.retiredBy (record : RuntimeInstanceRecord) (instanceId : String) (now : ℕ) :
    RuntimeInstanceRecord :=
  if record.instanceId = instanceId ∧ record.retiredAt = none then
    { record with retiredAt := some now }
  else record

/-- Storing instances one by one changes their map alone. -/
private lemma foldl_retire (l : List ((String × String) × RuntimeInstanceRecord)) (now : ℕ)
    (s : SessionStorageMemoryState) :
    l.foldl (fun s entry =>
      { s with runtimeInstances :=
          s.runtimeInstances.set entry.1 { entry.2 with retiredAt := some now } }) s =
      { s with
        runtimeInstances := l.foldl (fun m entry =>
          m.set entry.1 { entry.2 with retiredAt := some now }) s.runtimeInstances } := by
  induction l generalizing s with
  | nil => rfl
  | cons entry l ih => rw [List.foldl_cons, ih, List.foldl_cons]

/-- A retirement changes the map of instances alone. -/
lemma retireInstance_frame (now : ℕ) (instanceId : String) :
    (retireInstance s now instanceId).1 =
      { s with runtimeInstances := (retireInstance s now instanceId).1.runtimeInstances } := by
  rw [retireInstance]
  rw [foldl_retire]

/-- The runtime instances after a retirement. -/
lemma retireInstance_runtimeInstances (now : ℕ) (instanceId : String) (key : String × String) :
    (retireInstance s now instanceId).1.runtimeInstances.get? key =
      (s.runtimeInstances.get? key).map fun record => record.retiredBy instanceId now := by
  rw [retireInstance]
  rw [foldl_retire]
  refine (OrderedMap.get?_foldl_set_filter s.runtimeInstances
    (fun entry => entry.2.instanceId = instanceId ∧ entry.2.retiredAt = none)
    (fun record => { record with retiredAt := some now }) key).trans ?_
  simp only [RuntimeInstanceRecord.retiredBy, decide_eq_true_eq]

end Makaio.Ownership

import Makaio.Ownership.MemorySettle

set_option autoImplicit false

/-!
# What ownership requests do to the maps

For each operation, everything it can do, once: the maps after it and the facts it was decided on.

## Main definitions

* `Keyed` — rows stand under their own keys.
* `Designation` — what a successful sessions phase writes.
* `ClaimsPhase` — what a successful claims phase writes.
* `ClaimEffect`, `SettleEffect`, `MovementEffect` —
  what an operation can do.

## Main results

* `runClaim_effect`, `applySettle_effect`,
  `settleMovement_effect` — the operations do nothing else.
-/

namespace Makaio.Ownership

open Foundations

variable {s s' : SessionStorageMemoryState} {host : HostValues}

/-- Rows stand under their own keys. -/
structure Keyed (s : SessionStorageMemoryState) : Prop where
  agents : ∀ id agent, s.agents.get? id = some agent → agent.agentId = id
  claims : ∀ id claim, s.claims.get? id = some claim → claim.claimId = id
  runtimeInstances : ∀ key record, s.runtimeInstances.get? key = some record →
    key = runtimeInstanceKey record.instanceId record.machineId

/-! ### Lookup -/

variable {claim : AdapterSessionClaimRecord} {claims : OrderedMap String AdapterSessionClaimRecord}
  {agent : MakaioSessionAgent} {payload : SessionOwnershipClaimRequest} {result : SessionOwnershipClaimResult}
  {incumbent : Option AdapterSessionClaimRecord} {keyed : KeyedClaimRequest}
  {existing : AdapterSessionClaimRecord}
variable {providerSessionId id : String} {key : String × String} {record : RuntimeInstanceRecord}
variable {adapterId claimToken agentId : String} {led : Bool} {prev : Option String}
  {r : Except OwnershipError SessionOwnershipClaimResult}

lemma findClaimByKey_some {machineId : String}
    (h : findClaimByKey claims machineId adapterId providerSessionId = some claim) :
    (∃ id, claims.get? id = some claim) ∧ claim.machineId = machineId ∧ claim.adapterId = adapterId ∧
      claim.providerSessionId = providerSessionId :=
  ⟨OrderedMap.mem_values_iff.mp (List.mem_of_find?_eq_some h), by simpa using List.find?_some h⟩

lemma findClaimByKey_none {machineId : String}
    (h : findClaimByKey claims machineId adapterId providerSessionId = none)
    (hclaim : claims.get? id = some claim) :
    ¬(claim.machineId = machineId ∧ claim.adapterId = adapterId ∧
      claim.providerSessionId = providerSessionId) := by
  have hall := List.find?_eq_none.mp h claim (OrderedMap.mem_values_iff.mpr ⟨id, hclaim⟩)
  simpa using hall

lemma findClaimByToken_some (h : findClaimByToken claims claimToken = some claim) :
    (∃ id, claims.get? id = some claim) ∧ claim.claimToken = claimToken :=
  ⟨OrderedMap.mem_values_iff.mp (List.mem_of_find?_eq_some h), by simpa using List.find?_some h⟩

lemma findClaimByToken_none (h : findClaimByToken claims claimToken = none)
    (hclaim : claims.get? id = some claim) :
    claim.claimToken ≠ claimToken := by
  have hall := List.find?_eq_none.mp h claim (OrderedMap.mem_values_iff.mpr ⟨id, hclaim⟩)
  simpa using hall

/-! ### Allocation -/

/-- A running maximum is at least where it started, and at least each value it has seen. -/
private lemma le_foldl_max {α : Type} (p : α → Prop) [DecidablePred p] (f : α → ℕ) (l : List α) :
    ∀ init : ℕ, init ≤ l.foldl (fun highest a => if p a ∧ highest < f a then f a else highest) init ∧
      ∀ a ∈ l, p a →
        f a ≤ l.foldl (fun highest a => if p a ∧ highest < f a then f a else highest) init := by
  induction l with
  | nil => simp
  | cons b l ih =>
    intro init
    rw [List.foldl_cons]
    obtain ⟨hinit, hmem⟩ := ih (if p b ∧ init < f b then f b else init)
    have hb : init ≤ (if p b ∧ init < f b then f b else init) ∧
        (p b → f b ≤ if p b ∧ init < f b then f b else init) := by
      split_ifs with h
      · exact ⟨h.2.le, fun _ => le_rfl⟩
      · exact ⟨le_rfl, fun hp => not_lt.mp fun hlt => h ⟨hp, hlt⟩⟩
    refine ⟨hb.1.trans hinit, fun a ha hp => ?_⟩
    rcases List.mem_cons.mp ha with rfl | ha
    · exact (hb.2 hp).trans hinit
    · exact hmem a ha hp

lemma fence_le_maxLiveClaimFence (h : claims.get? id = some claim) :
    claim.fence ≤ maxLiveClaimFence claims claim.agentId :=
  (le_foldl_max (fun c : AdapterSessionClaimRecord => c.agentId = claim.agentId)
    AdapterSessionClaimRecord.fence claims.values 0).2 claim
    (OrderedMap.mem_values_iff.mpr ⟨id, h⟩) rfl

/-- An allocated fence is above the floor. -/
lemma floor_lt_allocateFence (s : SessionStorageMemoryState) (agentId : String) (floor : ℕ) :
    floor < allocateFence s agentId floor := by
  rw [allocateFence]
  omega

/-- An allocated fence is above every fence the agent carries. -/
lemma fence_lt_allocateFence (floor : ℕ) (h : s.claims.get? id = some claim)
    (hagent : claim.agentId = agentId) :
    claim.fence < allocateFence s agentId floor := by
  have hle := fence_le_maxLiveClaimFence h
  rw [hagent] at hle
  rw [allocateFence]
  omega

/-- An allocated fence is above the currency fence of its agent. -/
lemma currencyFence_lt_allocateFence (floor : ℕ) (h : s.agents.get? agentId = some agent) :
    agent.currencyFenceOrZero < allocateFence s agentId floor := by
  rw [allocateFence, h, Option.map_some, Option.getD_some]
  omega

/-- The next incarnation of a machine is above all of them. -/
lemma incarnation_lt_nextIncarnation (h : s.runtimeInstances.get? key = some record) :
    record.incarnation < nextIncarnation s record.machineId := by
  have hle := (le_foldl_max (fun r : RuntimeInstanceRecord => r.machineId = record.machineId)
    (fun r => r.incarnation + 1) s.runtimeInstances.values 1).2 record
    (OrderedMap.mem_values_iff.mpr ⟨key, h⟩) rfl
  simp only [Nat.lt_add_one_iff] at hle
  exact hle

section Ensure

variable {instanceId machineId : String} {now : ℕ}

@[simp] lemma ensure_sessions :
    (ensureMemoryRuntimeInstance s instanceId machineId now).sessions = s.sessions := by
  rw [ensureMemoryRuntimeInstance]
  split <;> rfl

@[simp] lemma ensure_agents :
    (ensureMemoryRuntimeInstance s instanceId machineId now).agents = s.agents := by
  rw [ensureMemoryRuntimeInstance]
  split <;> rfl

@[simp] lemma ensure_claims :
    (ensureMemoryRuntimeInstance s instanceId machineId now).claims = s.claims := by
  rw [ensureMemoryRuntimeInstance]
  split <;> rfl

@[simp] lemma allocateFence_ensure (agentId : String) (floor : ℕ) :
    allocateFence (ensureMemoryRuntimeInstance s instanceId machineId now) agentId floor =
      allocateFence s agentId floor := by
  rw [allocateFence, allocateFence, ensure_agents, ensure_claims]

/-- The row of an owner that is already registered. -/
lemma ensure_of_some (h : s.runtimeInstances.get? (runtimeInstanceKey instanceId machineId) = some record) :
    ensureMemoryRuntimeInstance s instanceId machineId now = s := by
  rw [ensureMemoryRuntimeInstance, h]

/-- The row of a new owner. -/
lemma ensure_of_none
    (h : s.runtimeInstances.get? (runtimeInstanceKey instanceId machineId) = none) :
    ensureMemoryRuntimeInstance s instanceId machineId now =
      { s with
        runtimeInstances := s.runtimeInstances.set (runtimeInstanceKey instanceId machineId)
          (allocatedInstance s instanceId machineId now) } := by
  rw [ensureMemoryRuntimeInstance, h]

/-- An owner has a row once it is ensured. -/
lemma exists_ensure (s : SessionStorageMemoryState) (instanceId machineId : String) (now : ℕ) :
    ∃ record, (ensureMemoryRuntimeInstance s instanceId machineId now).runtimeInstances.get?
      (runtimeInstanceKey instanceId machineId) = some record := by
  cases h : s.runtimeInstances.get? (runtimeInstanceKey instanceId machineId) with
  | some record => exact ⟨record, by rw [ensure_of_some h, h]⟩
  | none => exact ⟨_, by rw [ensure_of_none h]; exact OrderedMap.get?_set_self _ _ _⟩

/-- Ensuring an owner keeps every row. -/
lemma ensure_get?_of_some (h : s.runtimeInstances.get? key = some record) :
    (ensureMemoryRuntimeInstance s instanceId machineId now).runtimeInstances.get? key =
      some record := by
  cases hkey : s.runtimeInstances.get? (runtimeInstanceKey instanceId machineId) with
  | some _ => rw [ensure_of_some hkey, h]
  | none =>
    rw [ensure_of_none hkey]
    rw [OrderedMap.get?_set_of_ne _ _ fun heq => by rw [heq, hkey] at h; cases h]
    exact h

/-- Giving up an owner that has just been registered restores the maps. -/
lemma drop_ensure :
    (ensureMemoryRuntimeInstance s instanceId machineId now).dropRuntimeInstance
      (s.runtimeInstances.has (runtimeInstanceKey instanceId machineId))
      (runtimeInstanceKey instanceId machineId) = s := by
  rw [SessionStorageMemoryState.dropRuntimeInstance]
  cases hkey : s.runtimeInstances.get? (runtimeInstanceKey instanceId machineId) with
  | some record => rw [if_pos (OrderedMap.has_iff.mpr ⟨record, hkey⟩), ensure_of_some hkey]
  | none =>
    rw [if_neg, ensure_of_none hkey]
    · rw [OrderedMap.delete_set _ _ hkey]
    · intro hhas
      obtain ⟨record, hrecord⟩ := OrderedMap.has_iff.mp hhas
      rw [hkey] at hrecord
      cases hrecord

end Ensure

/-! ### The sessions phase -/

/-- A sessions phase goes through on an active session, and on a closed one if it cannot revive it. -/
def AdmitsDesignation (session : MakaioSession) (payload : SessionOwnershipClaimRequest) : Prop :=
  session.status = .active ∨
    (session.status = .closed ∧ isInactiveSafeLeadDesignationMutation payload = true)

/-- What a sessions phase that goes through has written. -/
inductive Designation (s : SessionStorageMemoryState) (payload : SessionOwnershipClaimRequest)
    (agent : MakaioSessionAgent) : SessionStorageMemoryState → Bool → Option String → Prop
  | untouched {session : MakaioSession} : s.sessions.get? payload.sessionId = some session →
      AdmitsDesignation session payload →
      Designation s payload agent s false session.leadAgentId
  | cleared {session : MakaioSession} {designation : SessionOwnershipLeadDesignationMutation} :
      s.sessions.get? payload.sessionId = some session →
      payload.designateLead = some designation → designation.clear = true →
      Designation s payload agent
        (s.setSession payload.sessionId { session with leadAgentId := none }) true session.leadAgentId
  | promoted {session : MakaioSession} {designation : SessionOwnershipLeadDesignationMutation} :
      s.sessions.get? payload.sessionId = some session →
      payload.designateLead = some designation → designation.clear = false →
      agent.status ≠ .disposed →
      Designation s payload agent
        (s.setSession payload.sessionId ({ session with leadAgentId := some agent.agentId }.withMirror
          (resolveLeadCurrencyMirror agent session.adapterSessionId))) true session.leadAgentId

/-- A sessions phase goes through with one of the designations, or writes nothing. -/
lemma designateLead_cases {lead : LeadOutcome} (h : designateLead s payload agent = (s', lead)) :
    (∃ leadDesignated previousLeadAgentId, lead = .ok leadDesignated previousLeadAgentId ∧
      Designation s payload agent s' leadDesignated previousLeadAgentId) ∨
    (s' = s ∧ ∃ currentLeadAgentId, lead = .conflict currentLeadAgentId) ∨
    (s' = s ∧ ∃ result, lead = .refused result ∧ result.taken = false) := by
  rw [designateLead] at h
  cases hsession : s.sessions.get? payload.sessionId with
  | none =>
    rw [hsession] at h
    cases h
    exact .inr (.inr ⟨rfl, _, rfl, rfl⟩)
  | some session =>
    rw [hsession] at h
    dsimp only at h
    split_ifs at h with hstatus
    · cases h
      exact .inr (.inr ⟨rfl, _, rfl, rfl⟩)
    have hadmits : AdmitsDesignation session payload := by
      rw [AdmitsDesignation]
      tauto
    cases hlead : payload.designateLead with
    | none =>
      rw [hlead] at h
      cases h
      exact .inl ⟨_, _, rfl, .untouched hsession hadmits⟩
    | some designation =>
      rw [hlead] at h
      dsimp only at h
      split_ifs at h with hdisposed halready hexpected hclear
      · cases h
        exact .inr (.inr ⟨rfl, _, rfl, rfl⟩)
      · cases h
        exact .inl ⟨_, _, rfl, .untouched hsession hadmits⟩
      · cases h
        exact .inr (.inl ⟨rfl, _, rfl⟩)
      · cases h
        exact .inl ⟨_, _, rfl, .cleared hsession hlead hclear⟩
      · cases h
        exact .inl ⟨_, _, rfl, .promoted hsession hlead (by simpa using hclear)
          fun hd => hdisposed ⟨hclear, hd⟩⟩

/-- The sessions phase writes session rows only. -/
lemma Designation.frame {leadDesignated : Bool} {previousLeadAgentId : Option String}
    (h : Designation s payload agent s' leadDesignated previousLeadAgentId) :
    s'.agents = s.agents ∧ s'.claims = s.claims ∧ s'.runtimeInstances = s.runtimeInstances := by
  cases h <;> exact ⟨rfl, rfl, rfl⟩

/-! ### Valid claim requests -/

/-- What the schema of a claim request makes sure of. -/
structure ValidClaimRequest (payload : SessionOwnershipClaimRequest) : Prop where
  keyed : payload.providerSessionId.isSome → payload.ownerInstance.isSome
  guardOwner : payload.recoveryGuard.isSome → payload.ownerInstance.isSome
  guardAttempt : payload.recoveryGuard.isSome → payload.recoveryAttemptId.isSome
  guardLead : payload.recoveryGuard.isSome → payload.designateLead = none
  clearKeyless : ∀ designation, payload.designateLead = some designation →
    designation.clear = true → payload.providerSessionId = none

lemma issueWhen_eq_nil {violated : Bool} {path message : String} :
    issueWhen violated path message = [] ↔ violated = false := by
  cases violated <;> simp [issueWhen]

lemma validClaimRequest (h : claimRequestIssues payload = []) : ValidClaimRequest payload := by
  simp only [claimRequestIssues, validateLeadDesignationMutation, List.append_eq_nil_iff,
    issueWhen_eq_nil] at h
  obtain ⟨⟨⟨⟨⟨-, hviolation, hlead⟩, hkeyed⟩, howner⟩, hattempt⟩, -⟩ := h
  have hviolation : getLeadDesignationMutationViolation payload = none := by
    simpa using hviolation
  refine ⟨fun h => ?_, fun h => ?_, fun h => ?_, fun h => ?_, fun designation hd hclear => ?_⟩
  · cases ho : payload.ownerInstance <;> simp_all
  · cases ho : payload.ownerInstance <;> simp_all
  · cases ho : payload.recoveryAttemptId <;> simp_all
  · cases ho : payload.designateLead <;> simp_all
  · rw [getLeadDesignationMutationViolation, hd] at hviolation
    dsimp only at hviolation
    split_ifs at hviolation with h₁ h₂ h₃
    have hpure : isPureLeadRelinquishment payload = true := by
      rw [hclear] at h₂
      simpa using h₂
    rw [isPureLeadRelinquishment, hd] at hpure
    simp only [hasPureDesignationShape, Bool.and_eq_true, Option.isNone_iff_eq_none] at hpure
    exact hpure.2.1.1.1.1

/-! ### The claims phase -/

/-- The maps with the owner of a guarded keyless request registered. -/
def guardedOwner (s : SessionStorageMemoryState) (host : HostValues)
    (payload : SessionOwnershipClaimRequest) : SessionStorageMemoryState :=
  match payload.recoveryGuard, payload.ownerInstance with
  | some _, some instanceId => ensureMemoryRuntimeInstance s instanceId payload.machineId host.now
  | _, _ => s

/-- The keyed form of a request. -/
structure IsKeyed (payload : SessionOwnershipClaimRequest) (keyed : KeyedClaimRequest) : Prop where
  payload_eq : keyed.payload = payload
  providerSession : payload.providerSessionId = some keyed.providerSessionId
  owner : payload.ownerInstance = some keyed.ownerInstanceId

/-- The takeover that a claim request asks for. -/
def KeyedClaimRequest.takeover (keyed : KeyedClaimRequest) : MemoryTakeoverRequest :=
  ⟨keyed.payload.machineId, keyed.payload.agentId, keyed.ownerInstanceId, keyed.payload.topology,
    keyed.payload.supersedes⟩

/-- The maps with the owner of a keyed request registered. -/
def KeyedClaimRequest.ensured (keyed : KeyedClaimRequest) (s : SessionStorageMemoryState)
    (host : HostValues) : SessionStorageMemoryState :=
  ensureMemoryRuntimeInstance s keyed.ownerInstanceId keyed.payload.machineId host.now

/-- What a claims phase that goes through has written: the maps, whether the generation is new, and
the generation. -/
inductive ClaimsPhase (s : SessionStorageMemoryState) (host : HostValues)
    (payload : SessionOwnershipClaimRequest) (agent : MakaioSessionAgent) :
    SessionStorageMemoryState → Bool → Option AdapterSessionClaimRecord → Prop
  | keyless :
      payload.providerSessionId = none →
      (agent.status = .disposed → (payload.designateLead.any fun d => d.clear) = true) →
      ClaimsPhase s host payload agent (guardedOwner s host payload) true none
  | acquired {keyed : KeyedClaimRequest} :
      IsKeyed payload keyed → agent.status ≠ .disposed →
      requestedHolder s payload = none → findClaimByToken s.claims payload.claimToken = none →
      ClaimsPhase s host payload agent
        ((keyed.ensured s host).setClaim (acquiredClaim (keyed.ensured s host) host keyed)) true
        (some (acquiredClaim (keyed.ensured s host) host keyed))
  | takenOver {keyed : KeyedClaimRequest} {existing : AdapterSessionClaimRecord} :
      IsKeyed payload keyed → agent.status ≠ .disposed →
      requestedHolder s payload = some existing → existing.claimToken ≠ payload.claimToken →
      memoryMayTakeOver (keyed.ensured s host) keyed.takeover existing = true →
      (∀ holder, findClaimByToken s.claims payload.claimToken = some holder →
        holder.claimId = existing.claimId) →
      ClaimsPhase s host payload agent
        ((keyed.ensured s host).setClaim
          (takenOverClaim (keyed.ensured s host) host keyed existing)) true
        (some (takenOverClaim (keyed.ensured s host) host keyed existing))
  | repeated {keyed : KeyedClaimRequest} {existing : AdapterSessionClaimRecord} :
      IsKeyed payload keyed → agent.status ≠ .disposed →
      requestedHolder s payload = some existing → existing.claimToken = payload.claimToken →
      existing.agentId = payload.agentId → existing.sessionId = payload.sessionId →
      existing.status = .held →
      (∀ holder, findClaimByToken s.claims payload.claimToken = some holder →
        holder.claimId = existing.claimId) →
      ClaimsPhase s host payload agent s false (some existing)

/-- A claim request that fails on a token that another generation carries: it is valid, gets past its
guard, may work on the generation that holds the key, and names an existing member that is not
disposed. -/
structure TokenRejected (s : SessionStorageMemoryState) (host : HostValues)
    (payload : SessionOwnershipClaimRequest) (keyed : KeyedClaimRequest) : Prop where
  isKeyed : IsKeyed payload keyed
  valid : claimRequestIssues payload = []
  unguarded : ((s.agents.get? payload.agentId).bind fun agent =>
    classifyRecoveryGuard payload agent (requestedHolder s payload)) = none
  incumbent : ∀ existing, requestedHolder s payload = some existing →
    (existing.claimToken = payload.claimToken ∧ existing.agentId = payload.agentId ∧
      existing.sessionId = payload.sessionId ∧ existing.status = .held) ∨
    (existing.claimToken ≠ payload.claimToken ∧
      memoryMayTakeOver (keyed.ensured s host) keyed.takeover existing = true)
  targets : resolveClaimTargets s payload (requestedHolder s payload) =
    .error (.claimTokenInUse payload.claimToken)

/-- The answer to a claim that was taken or recognized. -/
def takenClaim (fresh : Bool) (claim : Option AdapterSessionClaimRecord)
    (recovery : Option SessionOwnershipRecoveryReservation) (leadDesignated : Bool)
    (previousLeadAgentId : Option String) : SessionOwnershipClaimResult :=
  if fresh then .claimed claim recovery leadDesignated previousLeadAgentId
  else .idempotent claim recovery leadDesignated previousLeadAgentId

/-- The maps after the lifecycle half of a claim that went through. -/
def SessionStorageMemoryState.recovered (s : SessionStorageMemoryState) (host : HostValues)
    (payload : SessionOwnershipClaimRequest) (agent : MakaioSessionAgent) :
    SessionStorageMemoryState :=
  match payload.recoveryGuard, payload.recoveryAttemptId, payload.ownerInstance with
  | some _, some recoveryAttemptId, some instanceId => s.setAgent payload.agentId
    { agent with
      status := .starting
      adapterId := payload.adapterId
      runtimeOwner := some ⟨payload.machineId, instanceId⟩
      recoveryAttemptId := some recoveryAttemptId
      lastActivityAt := host.now }
  | _, _, _ => s

/-- The reservation that a claim that went through reports. -/
def recoveryReservation (payload : SessionOwnershipClaimRequest) (agent : MakaioSessionAgent) :
    Option SessionOwnershipRecoveryReservation :=
  match payload.recoveryGuard, payload.recoveryAttemptId with
  | some _, some recoveryAttemptId => some ⟨recoveryAttemptId, recoveryPreimage agent⟩
  | _, _ => none

/-- What a claim request can do. -/
inductive ClaimEffect (s : SessionStorageMemoryState) (host : HostValues)
    (payload : SessionOwnershipClaimRequest) :
    SessionStorageMemoryState → Except OwnershipError SessionOwnershipClaimResult → Prop
  | invalid : claimRequestIssues payload ≠ [] →
      ClaimEffect s host payload s (.error (.invalidRequest (claimRequestIssues payload)))
  | refused {result : SessionOwnershipClaimResult} : result.taken = false →
      ClaimEffect s host payload s (.ok result)
  | tokenInUse {keyed : KeyedClaimRequest} : TokenRejected s host payload keyed →
      ClaimEffect s host payload (keyed.ensured s host)
        (.error (.claimTokenInUse payload.claimToken))
  | taken {agent : MakaioSessionAgent} {s₁ s₂ : SessionStorageMemoryState} {fresh leadDesignated : Bool}
      {claim : Option AdapterSessionClaimRecord} {previousLeadAgentId : Option String} :
      claimRequestIssues payload = [] → s.agents.get? payload.agentId = some agent →
      agent.sessionId = payload.sessionId →
      classifyRecoveryGuard payload agent (requestedHolder s payload) = none →
      ClaimsPhase s host payload agent s₁ fresh claim →
      Designation s₁ payload agent s₂ leadDesignated previousLeadAgentId →
      ClaimEffect s host payload (s₂.recovered host payload agent)
        (.ok (takenClaim fresh claim (recoveryReservation payload agent) leadDesignated
          previousLeadAgentId))

/-! ### The claim operation -/

/-- A refusal has no lifecycle half. -/
lemma finishRecoveryClaim_of_not_taken {agent : Option MakaioSessionAgent} (h : result.taken = false) :
    finishRecoveryClaim s host agent payload result = (s, .ok result) := by
  cases agent with
  | none => rfl
  | some agent =>
    rw [finishRecoveryClaim]
    rw [if_neg]
    simp [h]

/-- The lifecycle half of a claim that went through. -/
lemma finishRecoveryClaim_of_taken (hvalid : ValidClaimRequest payload) {fresh : Bool}
    {claim : Option AdapterSessionClaimRecord} :
    finishRecoveryClaim s host (some agent) payload (takenClaim fresh claim none led prev) =
      (s.recovered host payload agent,
        .ok (takenClaim fresh claim (recoveryReservation payload agent) led prev)) := by
  have htaken : (takenClaim fresh claim none led prev).taken = true := by
    cases fresh <;> rfl
  rw [finishRecoveryClaim, SessionStorageMemoryState.recovered, recoveryReservation]
  cases hguard : payload.recoveryGuard with
  | none => simp
  | some guard =>
    obtain ⟨attempt, hattempt⟩ := Option.isSome_iff_exists.mp (hvalid.guardAttempt (by simp [hguard]))
    obtain ⟨owner, howner⟩ := Option.isSome_iff_exists.mp (hvalid.guardOwner (by simp [hguard]))
    rw [if_pos ⟨rfl, htaken⟩, hattempt, howner]
    cases fresh <;> rfl

/-- The rows that a claim references, resolved. -/
lemma resolveClaimTargets_ok (h : resolveClaimTargets s payload incumbent = .ok (.ok agent)) :
    s.agents.get? payload.agentId = some agent ∧ agent.sessionId = payload.sessionId ∧
      agent.status ≠ .disposed ∧
      ∀ holder, findClaimByToken s.claims payload.claimToken = some holder →
        some holder.claimId = incumbent.map AdapterSessionClaimRecord.claimId := by
  rw [resolveClaimTargets] at h
  cases hs : s.sessions.get? payload.sessionId with
  | none => simp [hs] at h
  | some session =>
    cases ha : s.agents.get? payload.agentId with
    | none => simp [hs, ha] at h
    | some agent' =>
      rw [hs, ha] at h
      dsimp only at h
      split_ifs at h with hmember hdisposed
      · cases h
      · cases h
      cases ht : findClaimByToken s.claims payload.claimToken with
      | none =>
        rw [ht] at h
        cases h
        exact ⟨rfl, not_not.mp hmember, hdisposed, fun holder hh => by cases hh⟩
      | some holder =>
        rw [ht] at h
        dsimp only at h
        split_ifs at h with hid
        cases h
        exact ⟨rfl, not_not.mp hmember, hdisposed, fun holder' hh => by
          cases hh
          exact not_not.mp hid⟩

/-- The refusal of the rows that a claim references. -/
lemma resolveClaimTargets_refused (h : resolveClaimTargets s payload incumbent = .ok (.refused result)) :
    result.taken = false := by
  rw [resolveClaimTargets] at h
  split at h
  · cases h
    rfl
  · cases h
    rfl
  · split_ifs at h
    · cases h
      rfl
    · cases h
      rfl
    · split at h
      · cases h
      · split_ifs at h
        cases h

/-- The error of the rows that a claim references. -/
lemma resolveClaimTargets_error {error : OwnershipError}
    (h : resolveClaimTargets s payload incumbent = .error error) :
    error = .claimTokenInUse payload.claimToken := by
  rw [resolveClaimTargets] at h
  split at h
  · cases h
  · cases h
  · split_ifs at h
    split at h
    · cases h
    · split_ifs at h
      cases h
      rfl

/-- Resolving targets does not look at runtime instances. -/
@[simp] lemma resolveClaimTargets_ensured :
    resolveClaimTargets (keyed.ensured s host) payload incumbent =
      resolveClaimTargets s payload incumbent := by
  simp only [resolveClaimTargets, KeyedClaimRequest.ensured, ensure_sessions, ensure_agents,
    ensure_claims]

/-- Undoing a claim on a fresh row. -/
lemma deleteClaim_setClaim (h : s.claims.get? claim.claimId = none) :
    (s.setClaim claim).deleteClaim claim.claimId = s := by
  rw [SessionStorageMemoryState.deleteClaim, SessionStorageMemoryState.setClaim]
  rw [OrderedMap.delete_set _ _ h]

/-- Undoing a claim on the row of an incumbent. -/
lemma setClaim_setClaim {claim existing : AdapterSessionClaimRecord}
    (hid : claim.claimId = existing.claimId)
    (h : s.claims.get? existing.claimId = some existing) : (s.setClaim claim).setClaim existing = s := by
  rw [SessionStorageMemoryState.setClaim, SessionStorageMemoryState.setClaim]
  rw [hid, OrderedMap.set_set, OrderedMap.set_eq_self h]

/-- What a claims phase that allocates a generation can do: it takes the generation, or refuses and
writes nothing, or fails on the token. -/
inductive Allocation (s : SessionStorageMemoryState) (payload : SessionOwnershipClaimRequest)
    (incumbent : Option AdapterSessionClaimRecord) (claim : AdapterSessionClaimRecord) :
    SessionStorageMemoryState → Except OwnershipError SessionOwnershipClaimResult → Prop
  | failed : resolveClaimTargets s payload incumbent = .error (.claimTokenInUse payload.claimToken) →
      Allocation s payload incumbent claim s (.error (.claimTokenInUse payload.claimToken))
  | refused {result : SessionOwnershipClaimResult} : result.taken = false →
      Allocation s payload incumbent claim s (.ok result)
  | taken {agent : MakaioSessionAgent} {s' : SessionStorageMemoryState} {leadDesignated : Bool}
      {previousLeadAgentId : Option String} :
      resolveClaimTargets s payload incumbent = .ok (.ok agent) →
      Designation (s.setClaim claim) payload agent s' leadDesignated previousLeadAgentId →
      Allocation s payload incumbent claim s'
        (.ok (takenClaim true (some claim) none leadDesignated previousLeadAgentId))

lemma acquireFreeKey_allocation (hfree : s.claims.get? host.claimId = none) :
    Allocation s keyed.payload none (acquiredClaim s host keyed) (acquireFreeKey s host keyed).1
      (acquireFreeKey s host keyed).2 := by
  rw [acquireFreeKey]
  cases htargets : resolveClaimTargets s keyed.payload none with
  | error error =>
    obtain rfl := resolveClaimTargets_error htargets
    exact .failed htargets
  | ok targets =>
    cases targets with
    | refused result => exact .refused (resolveClaimTargets_refused htargets)
    | ok agent =>
      dsimp only
      generalize hd : designateLead (s.setClaim (acquiredClaim s host keyed)) keyed.payload agent = d
      obtain ⟨s', lead⟩ := d
      have hfree' : s.claims.get? (acquiredClaim s host keyed).claimId = none := hfree
      have hundo : (s.setClaim (acquiredClaim s host keyed)).deleteClaim host.claimId = s :=
        deleteClaim_setClaim hfree'
      rcases designateLead_cases hd with ⟨led, prev, rfl, hlead⟩ | ⟨rfl, current, rfl⟩ |
        ⟨rfl, result, rfl, hresult⟩
      · exact .taken htargets hlead
      · dsimp only
        rw [hundo]
        exact .refused rfl
      · dsimp only
        rw [hundo]
        exact .refused hresult

lemma takeOverClaim_allocation (hexisting : s.claims.get? existing.claimId = some existing) :
    Allocation s keyed.payload (some existing) (takenOverClaim s host keyed existing)
      (takeOverClaim s host keyed existing).1 (takeOverClaim s host keyed existing).2 := by
  rw [takeOverClaim]
  cases htargets : resolveClaimTargets s keyed.payload (some existing) with
  | error error =>
    obtain rfl := resolveClaimTargets_error htargets
    exact .failed htargets
  | ok targets =>
    cases targets with
    | refused result => exact .refused (resolveClaimTargets_refused htargets)
    | ok agent =>
      dsimp only
      generalize hd : designateLead (s.setClaim (takenOverClaim s host keyed existing)) keyed.payload
        agent = d
      obtain ⟨s', lead⟩ := d
      have hundo : (s.setClaim (takenOverClaim s host keyed existing)).setClaim existing = s :=
        setClaim_setClaim rfl hexisting
      rcases designateLead_cases hd with ⟨led, prev, rfl, hlead⟩ | ⟨rfl, current, rfl⟩ |
        ⟨rfl, result, rfl, hresult⟩
      · exact .taken htargets hlead
      · dsimp only
        rw [hundo]
        exact .refused rfl
      · dsimp only
        rw [hundo]
        exact .refused hresult

/-- What a retry can do. -/
lemma repeatClaim_cases (h : repeatClaim s payload existing = (s', r)) :
    (existing.status = .held ∧ resolveClaimTargets s payload (some existing) =
      .error (.claimTokenInUse payload.claimToken) ∧ s' = s ∧
      r = .error (.claimTokenInUse payload.claimToken)) ∨
    (s' = s ∧ ∃ result, r = .ok result ∧ result.taken = false) ∨
    (existing.status = .held ∧ ∃ agent led prev,
      resolveClaimTargets s payload (some existing) = .ok (.ok agent) ∧
      Designation s payload agent s' led prev ∧
      r = .ok (takenClaim false (some existing) none led prev)) := by
  rw [repeatClaim] at h
  split_ifs at h with hstatus
  · cases h
    exact .inr (.inl ⟨rfl, _, rfl, rfl⟩)
  have hheld : existing.status = .held := not_not.mp hstatus
  cases htargets : resolveClaimTargets s payload (some existing) with
  | error error =>
    rw [htargets] at h
    cases h
    obtain rfl := resolveClaimTargets_error htargets
    exact .inl ⟨hheld, rfl, rfl, rfl⟩
  | ok targets =>
    rw [htargets] at h
    cases targets with
    | refused result =>
      cases h
      exact .inr (.inl ⟨rfl, _, rfl, resolveClaimTargets_refused htargets⟩)
    | ok agent =>
      dsimp only at h
      generalize hd : designateLead s payload agent = d at h
      obtain ⟨s₁, lead⟩ := d
      rcases designateLead_cases hd with ⟨led, prev, rfl, hlead⟩ | ⟨rfl, current, rfl⟩ |
        ⟨rfl, result, rfl, hresult⟩
      · cases h
        exact .inr (.inr ⟨hheld, agent, led, prev, rfl, hlead, rfl⟩)
      · cases h
        exact .inr (.inl ⟨rfl, _, rfl, rfl⟩)
      · cases h
        exact .inr (.inl ⟨rfl, _, rfl, hresult⟩)

lemma dropUnlessClaimed_of_not_taken {existed : Bool} (h : result.taken = false) :
    dropUnlessClaimed existed key s result = s.dropRuntimeInstance existed key := by
  cases result <;> first | rfl | cases h

/-- The row on the key that a request names. -/
lemma requestedHolder_get? (hs : Keyed s) (h : requestedHolder s payload = some existing) :
    s.claims.get? existing.claimId = some existing := by
  rw [requestedHolder, Option.bind_eq_some_iff] at h
  obtain ⟨psid, -, hfind⟩ := h
  obtain ⟨⟨id, hid⟩, -⟩ := findClaimByKey_some hfind
  rwa [hs.claims id existing hid]

/-- The row on the key that a request names is on that key. -/
lemma requestedHolder_key (h : requestedHolder s payload = some existing) :
    existing.machineId = payload.machineId ∧ existing.adapterId = payload.adapterId ∧
      payload.providerSessionId = some existing.providerSessionId := by
  rw [requestedHolder, Option.bind_eq_some_iff] at h
  obtain ⟨psid, hpsid, hfind⟩ := h
  obtain ⟨-, hm, ha, hp⟩ := findClaimByKey_some hfind
  exact ⟨hm, ha, hp ▸ hpsid⟩

/-- The maps of a request after the ensuring of its owner have been given up. -/
lemma drop_ensured :
    (keyed.ensured s host).dropRuntimeInstance
      (s.runtimeInstances.has (runtimeInstanceKey keyed.ownerInstanceId keyed.payload.machineId))
      (runtimeInstanceKey keyed.ownerInstanceId keyed.payload.machineId) = s := drop_ensure

/-- A retry gives up the owner it has registered and keeps what its sessions phase wrote. -/
lemma Designation.drop (h : Designation (keyed.ensured s host) payload agent s' led prev) :
    Designation s payload agent (s'.dropRuntimeInstance
      (s.runtimeInstances.has (runtimeInstanceKey keyed.ownerInstanceId keyed.payload.machineId))
      (runtimeInstanceKey keyed.ownerInstanceId keyed.payload.machineId)) led prev := by
  have hsessions : (keyed.ensured s host).sessions = s.sessions := ensure_sessions
  have hset : ∀ id session, ((keyed.ensured s host).setSession id session).dropRuntimeInstance
      (s.runtimeInstances.has (runtimeInstanceKey keyed.ownerInstanceId keyed.payload.machineId))
      (runtimeInstanceKey keyed.ownerInstanceId keyed.payload.machineId) = s.setSession id session := by
    intro id session
    have hdrop := congrArg (fun t : SessionStorageMemoryState => t.setSession id session)
      (drop_ensured : (keyed.ensured s host).dropRuntimeInstance _ _ = s)
    rw [← hdrop]
    simp only [SessionStorageMemoryState.dropRuntimeInstance, SessionStorageMemoryState.setSession]
    split_ifs <;> rfl
  cases h with
  | untouched hsession hadmits =>
    rw [drop_ensured]
    exact .untouched (hsessions ▸ hsession) hadmits
  | cleared hsession hlead hclear =>
    rw [hset]
    exact .cleared (hsessions ▸ hsession) hlead hclear
  | promoted hsession hlead hclear hdisposed =>
    rw [hset]
    exact .promoted (hsessions ▸ hsession) hlead hclear hdisposed

/-- An allocation of a keyed request, with its owner given up on a refusal and its lifecycle half on
success. -/
private lemma Allocation.finish {agent : Option MakaioSessionAgent} (hvalid : claimRequestIssues payload = [])
    (hagent : s.agents.get? payload.agentId = agent) (hguard : (agent.bind fun agent =>
      classifyRecoveryGuard payload agent (requestedHolder s payload)) = none)
    (h : Allocation (keyed.ensured s host) payload incumbent claim s' r)
    (hrejected : resolveClaimTargets s payload incumbent =
      .error (.claimTokenInUse payload.claimToken) → TokenRejected s host payload keyed)
    (hphase : ∀ agent, agent.status ≠ .disposed →
      (∀ holder, findClaimByToken s.claims payload.claimToken = some holder →
        some holder.claimId = incumbent.map AdapterSessionClaimRecord.claimId) →
      ClaimsPhase s host payload agent ((keyed.ensured s host).setClaim claim) true (some claim)) :
    ∃ s'' r', ClaimEffect s host payload s'' r' ∧
      (match (s', r) with
        | (t, .error error) => (t, .error error)
        | (t, .ok result) => finishRecoveryClaim (dropUnlessClaimed
            (s.runtimeInstances.has (runtimeInstanceKey keyed.ownerInstanceId keyed.payload.machineId))
            (runtimeInstanceKey keyed.ownerInstanceId keyed.payload.machineId) t result) host
            agent payload result) = (s'', r') := by
  cases h with
  | failed htargets =>
    rw [resolveClaimTargets_ensured] at htargets
    exact ⟨_, _, .tokenInUse (hrejected htargets), rfl⟩
  | refused hresult =>
    refine ⟨_, _, .refused hresult, ?_⟩
    dsimp only
    rw [dropUnlessClaimed_of_not_taken hresult, drop_ensured,
      finishRecoveryClaim_of_not_taken hresult]
  | @taken agent' s₁ led prev htargets hlead =>
    rw [resolveClaimTargets_ensured] at htargets
    obtain ⟨hagent', hmember, hdisposed, htoken⟩ := resolveClaimTargets_ok htargets
    obtain rfl : agent = some agent' := hagent.symm.trans hagent'
    refine ⟨_, _, .taken hvalid hagent' hmember hguard
      (hphase agent' hdisposed htoken) hlead, ?_⟩
    exact finishRecoveryClaim_of_taken (validClaimRequest hvalid)

/-- What a keyed claim can do. -/
private lemma runKeyedClaim_effect (hs : Keyed s) (hfree : s.claims.get? host.claimId = none)
    (hvalid : claimRequestIssues payload = []) (hkey : payload.providerSessionId = some providerSessionId)
    {agent : Option MakaioSessionAgent} (hagent : s.agents.get? payload.agentId = agent)
    (hguard : (agent.bind fun agent =>
      classifyRecoveryGuard payload agent (requestedHolder s payload)) = none) :
    ∃ s'' r', ClaimEffect s host payload s'' r' ∧
      runKeyedClaim s host payload providerSessionId agent (requestedHolder s payload) = (s'', r') := by
  obtain ⟨instanceId, howner⟩ := Option.isSome_iff_exists.mp
    ((validClaimRequest hvalid).keyed (by rw [hkey]; rfl))
  set keyed : KeyedClaimRequest := ⟨payload, providerSessionId, instanceId⟩ with hkeyedDef
  have hkeyed : IsKeyed payload keyed := ⟨rfl, hkey, howner⟩
  have hguard' : ((s.agents.get? payload.agentId).bind fun agent =>
      classifyRecoveryGuard payload agent (requestedHolder s payload)) = none := by rwa [hagent]
  have hclaims : (keyed.ensured s host).claims = s.claims := ensure_claims
  rw [runKeyedClaim, howner]
  cases hholder : requestedHolder s payload with
  | none =>
    have halloc := @acquireFreeKey_allocation (keyed.ensured s host) host keyed
      (by rw [hclaims]; exact hfree)
    refine Allocation.finish hvalid hagent hguard halloc (fun htargets => ?_)
      fun agent hdisposed htoken => ?_
    · exact ⟨hkeyed, hvalid, hguard', fun existing h => absurd (hholder.symm.trans h) (by simp),
        by rw [hholder]; exact htargets⟩
    · refine .acquired hkeyed hdisposed hholder ?_
      cases ht : findClaimByToken s.claims payload.claimToken with
      | none => rfl
      | some holder => cases htoken holder ht
  | some existing =>
    have hexisting := requestedHolder_get? hs hholder
    dsimp only
    split_ifs with htoken hsame htake
    · -- a retry of the generation that holds the key
      generalize hrepeat : repeatClaim (keyed.ensured s host) payload existing = d
      obtain ⟨s₁, r⟩ := d
      have hrepeat' : repeatClaim (ensureMemoryRuntimeInstance s instanceId payload.machineId host.now)
          payload existing = (s₁, r) := hrepeat
      rw [hrepeat']
      rcases repeatClaim_cases hrepeat with ⟨hheld, htargets, rfl, rfl⟩ | ⟨rfl, result, rfl, hresult⟩ |
        ⟨hheld, agent', led, prev, htargets, hlead, rfl⟩
      · rw [resolveClaimTargets_ensured] at htargets
        refine ⟨_, _, .tokenInUse ⟨hkeyed, hvalid, hguard', fun existing' h => ?_, ?_⟩, rfl⟩
        · rw [hholder] at h
          cases h
          exact .inl ⟨htoken, hsame.1, hsame.2, hheld⟩
        · rw [hholder]
          exact htargets
      · refine ⟨_, _, .refused hresult, ?_⟩
        dsimp only
        rw [finishRecoveryClaim_of_not_taken hresult]
        exact congrArg (·, _) drop_ensured
      · rw [resolveClaimTargets_ensured] at htargets
        obtain ⟨hagent', hmember, hdisposed, htok⟩ := resolveClaimTargets_ok htargets
        obtain rfl : agent = some agent' := hagent.symm.trans hagent'
        rw [hholder] at hguard
        refine ⟨_, _, .taken hvalid hagent' hmember (by rw [hholder]; exact hguard)
          (.repeated hkeyed hdisposed hholder htoken hsame.1 hsame.2 hheld fun holder hh =>
            Option.some.inj (htok holder hh)) hlead.drop, ?_⟩
        exact finishRecoveryClaim_of_taken (validClaimRequest hvalid)
    · exact ⟨_, _, .refused rfl, congrArg (·, _) drop_ensure⟩
    · -- a takeover
      have halloc := @takeOverClaim_allocation (keyed.ensured s host) host keyed existing
        (by rw [hclaims]; exact hexisting)
      refine Allocation.finish hvalid hagent hguard halloc (fun htargets => ?_)
        fun agent hdisposed htok => ?_
      · refine ⟨hkeyed, hvalid, hguard', fun existing' h => ?_, by rw [hholder]; exact htargets⟩
        rw [hholder] at h
        cases h
        exact .inr ⟨htoken, htake⟩
      · exact .takenOver hkeyed hdisposed hholder htoken htake fun holder hh =>
          Option.some.inj (htok holder hh)
    · exact ⟨_, _, .refused rfl, congrArg (·, _) drop_ensure⟩

/-- What a keyless reservation can do. -/
private lemma runKeylessReservation_cases (h : runKeylessReservation s payload = (s', result)) :
    (s' = s ∧ result.taken = false) ∨
    ∃ agent led prev, s.agents.get? payload.agentId = some agent ∧
      agent.sessionId = payload.sessionId ∧
      (agent.status = .disposed → (payload.designateLead.any fun d => d.clear) = true) ∧
      Designation s payload agent s' led prev ∧ result = takenClaim true none none led prev := by
  rw [runKeylessReservation] at h
  cases hagent : s.agents.get? payload.agentId with
  | none =>
    rw [hagent] at h
    cases h
    exact .inl ⟨rfl, rfl⟩
  | some agent =>
    rw [hagent] at h
    dsimp only at h
    split_ifs at h with hmember hdisposed
    · cases h
      exact .inl ⟨rfl, rfl⟩
    · cases h
      exact .inl ⟨rfl, rfl⟩
    generalize hd : designateLead s payload agent = d at h
    obtain ⟨s₁, lead⟩ := d
    rcases designateLead_cases hd with ⟨led, prev, rfl, hlead⟩ | ⟨rfl, current, rfl⟩ |
      ⟨rfl, result, rfl, hresult⟩
    · cases h
      refine .inr ⟨agent, led, prev, rfl, not_not.mp hmember, fun hd => ?_, hlead, rfl⟩
      by_contra hclear
      exact hdisposed ⟨hd, hclear⟩
    · cases h
      exact .inl ⟨rfl, rfl⟩
    · cases h
      exact .inl ⟨rfl, hresult⟩

/-- What a keyless claim can do. -/
private lemma runKeylessClaim_effect (hvalid : claimRequestIssues payload = [])
    (hkey : payload.providerSessionId = none) {agent : Option MakaioSessionAgent}
    (hagent : s.agents.get? payload.agentId = agent) (hguard : (agent.bind fun agent =>
      classifyRecoveryGuard payload agent (requestedHolder s payload)) = none) :
    ∃ s'' r', ClaimEffect s host payload s'' r' ∧
      runKeylessClaim s host payload agent = (s'', r') := by
  have hv := validClaimRequest hvalid
  have hagents : (guardedOwner s host payload).agents = s.agents := by
    rw [guardedOwner]
    split <;> simp
  have htaken : ∀ {agent' : MakaioSessionAgent} {s₁ : SessionStorageMemoryState} {led prev},
      (guardedOwner s host payload).agents.get? payload.agentId = some agent' →
      agent'.sessionId = payload.sessionId →
      (agent'.status = .disposed → (payload.designateLead.any fun d => d.clear) = true) →
      Designation (guardedOwner s host payload) payload agent' s₁ led prev →
      ∃ s'' r', ClaimEffect s host payload s'' r' ∧
        finishRecoveryClaim s₁ host agent payload (takenClaim true none none led prev) =
          (s'', r') := by
    intro agent' s₁ led prev hagent' hmember hdisposed hlead
    rw [hagents] at hagent'
    obtain rfl : agent = some agent' := hagent.symm.trans hagent'
    exact ⟨_, _, .taken hvalid hagent' hmember hguard (.keyless hkey hdisposed) hlead,
      finishRecoveryClaim_of_taken hv⟩
  rw [runKeylessClaim]
  split
  · rename_i guard instanceId hg howner
    have howned : guardedOwner s host payload =
        ensureMemoryRuntimeInstance s instanceId payload.machineId host.now := by
      rw [guardedOwner, hg, howner]
    rw [howned] at htaken
    generalize hr : runKeylessReservation
      (ensureMemoryRuntimeInstance s instanceId payload.machineId host.now) payload = d
    obtain ⟨s₁, result⟩ := d
    rcases runKeylessReservation_cases hr with ⟨rfl, hresult⟩ |
      ⟨agent', led, prev, hagent', hmember, hdisposed, hlead, rfl⟩
    · refine ⟨_, _, .refused hresult, ?_⟩
      dsimp only
      rw [dropUnlessClaimed_of_not_taken hresult, drop_ensure,
        finishRecoveryClaim_of_not_taken hresult]
    · exact htaken hagent' hmember hdisposed hlead
  · rename_i hnone
    have howned : guardedOwner s host payload = s := by
      rw [guardedOwner]
      split
      · rename_i g o hg ho
        exact absurd ho (hnone g o hg)
      · rfl
    rw [howned] at htaken
    generalize hr : runKeylessReservation s payload = d
    obtain ⟨s₁, result⟩ := d
    rcases runKeylessReservation_cases hr with ⟨rfl, hresult⟩ |
      ⟨agent', led, prev, hagent', hmember, hdisposed, hlead, rfl⟩
    · exact ⟨_, _, .refused hresult, finishRecoveryClaim_of_not_taken hresult⟩
    · exact htaken hagent' hmember hdisposed hlead

/-- A refusal of the guard is a refusal. -/
lemma classifyRecoveryGuard_not_taken {holder : Option AdapterSessionClaimRecord}
    (h : classifyRecoveryGuard payload agent holder = some result) : result.taken = false := by
  rw [classifyRecoveryGuard] at h
  split at h
  · cases h
  · dsimp only at h
    split_ifs at h
    all_goals
      cases h
      rfl

/-- **What a claim can do.** -/
theorem runClaim_effect (hs : Keyed s) (hfree : s.claims.get? host.claimId = none)
    (payload : SessionOwnershipClaimRequest) :
    ClaimEffect s host payload (runClaim s host payload).1 (runClaim s host payload).2 := by
  suffices h : ∃ s'' r', ClaimEffect s host payload s'' r' ∧ runClaim s host payload = (s'', r') by
    obtain ⟨s'', r', heffect, heq⟩ := h
    rw [heq]
    exact heffect
  rw [runClaim]
  split_ifs with hissues
  · exact ⟨_, _, .invalid hissues, rfl⟩
  have hvalid : claimRequestIssues payload = [] := not_not.mp hissues
  dsimp only
  cases hguard : (s.agents.get? payload.agentId).bind fun agent =>
      classifyRecoveryGuard payload agent (requestedHolder s payload) with
  | some refusal =>
    obtain ⟨agent, -, hrefusal⟩ := Option.bind_eq_some_iff.mp hguard
    exact ⟨_, _, .refused (classifyRecoveryGuard_not_taken hrefusal), rfl⟩
  | none =>
    dsimp only
    cases hkey : payload.providerSessionId with
    | none => exact runKeylessClaim_effect hvalid hkey rfl hguard
    | some providerSessionId => exact runKeyedClaim_effect hs hfree hvalid hkey rfl hguard

end Makaio.Ownership

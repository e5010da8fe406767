import Makaio.Ownership.RuntimeIdentity

set_option autoImplicit false

/-!
# Recovery attempts

A guarded claim replaces a snapshot of its agent by an attempt, and `finalizeRecovery` ends the attempt
that is recorded.  Attempts may supersede one another while the agent is starting, so the attempts that
can still be recorded form a stack: a claim pushes, a rollback pops, a terminal status clears it.

## Main definitions

* `RecoveryHistory` — a store with the recovery past of one agent.
* `RecoveryStep` — what a request may do to the recovery of that agent.
* `Linked` — a stack of attempts, linked by the preimages that were returned.

## Main results

* `recovery_fenced` — attempts are fenced, over every history.
* `recovery_replanned` — two claims from one snapshot, with a rollback in between.
-/

namespace Makaio.Ownership

open Foundations

/-! ### Histories -/

/-- The reservation that an answer returns. -/
def SessionOwnershipClaimResult.recovery :
    SessionOwnershipClaimResult → Option SessionOwnershipRecoveryReservation
  | .claimed _ recovery _ _ => recovery
  | .idempotent _ recovery _ _ => recovery
  | _ => none

/-- A store, and the recovery past of one agent: the attempts that were recorded on it; the reservations
that were returned, each with the row it replaced; the guards of the claims that succeeded since the last
finalization that applied; the attempts whose finalization applied; and whether every rollback that
applied carried the preimage returned for its attempt. -/
structure RecoveryHistory where
  store : SessionStorageMemoryState
  usedAttempts : List String
  issued : List (SessionOwnershipRecoveryReservation × MakaioSessionAgent)
  spent : List SessionOwnershipRecoveryGuard
  finished : List String
  faithful : Bool

/-- The attempt that is recorded on an agent. -/
def recordedAttempt (s : SessionStorageMemoryState) (agentId : String) : Option String :=
  (s.agents.get? agentId).bind MakaioSessionAgent.recoveryAttemptId

/-- Nothing has happened yet. -/
def RecoveryHistory.Initial (agentId : String) (h : RecoveryHistory) : Prop :=
  Keyed h.store ∧ h.usedAttempts = (recordedAttempt h.store agentId).toList ∧ h.issued = [] ∧
    h.spent = [] ∧ h.finished = [] ∧ h.faithful = true

/-- A rollback carries a preimage that was returned for its attempt. -/
def RecoveryHistory.carriesIssued (h : RecoveryHistory)
    (payload : SessionOwnershipFinalizeRecoveryRequest) : Bool :=
  match payload.action with
  | .rollback preimage => h.issued.any fun entry => entry.1 = ⟨payload.attemptId, preimage⟩
  | _ => true

/-- The history with the store that a request leaves. -/
def RecoveryHistory.withStore (h : RecoveryHistory) (agentId : String)
    (store : SessionStorageMemoryState) : RecoveryHistory :=
  { h with
    store
    usedAttempts := h.usedAttempts ++ (recordedAttempt store agentId).toList }

/-- The history after a request. -/
def RecoveryHistory.step (agentId : String) (h : RecoveryHistory) (a : HostValues × OwnershipRequest) :
    Option RecoveryHistory :=
  let outcome := execute h.store a.1 a.2
  let next := h.withStore agentId outcome.1
  match a.2, outcome.2 with
  | .claim payload, .ok (.claim result) =>
    match payload.recoveryGuard, result.recovery, h.store.agents.get? agentId with
    | some guard, some reservation, some agent =>
      if payload.agentId = agentId then
        some { next with
          issued := h.issued ++ [(reservation, agent)]
          spent := h.spent ++ [guard] }
      else some next
    | _, _, _ => some next
  | .finalizeRecovery payload, .ok (.finalizeRecovery true) =>
    if payload.agentId = agentId then
      some { next with
        spent := []
        finished := h.finished ++ [payload.attemptId]
        faithful := h.faithful && h.carriesIssued payload }
    else some next
  | _, _ => some next

/-- The host draws a fresh claim identifier, and a guarded claim for the agent a fresh attempt. -/
def RecoveryHistory.Fresh (agentId : String) (h : RecoveryHistory) (a : HostValues × OwnershipRequest) :
    Prop :=
  FreshHost h.store a ∧ ∀ payload attempt, a.2 = .claim payload → payload.agentId = agentId →
    payload.recoveryAttemptId = some attempt → attempt ∉ h.usedAttempts

/-! ### Statements -/

/-- The lifecycle columns of two rows of an agent agree. -/
structure SameLifecycle (agent row : MakaioSessionAgent) : Prop where
  status : agent.status = row.status
  adapterId : agent.adapterId = row.adapterId
  runtimeOwner : agent.runtimeOwner = row.runtimeOwner
  recoveryAttemptId : agent.recoveryAttemptId = row.recoveryAttemptId

/-- What a request may do to the recovery of an agent. -/
structure RecoveryStep (agentId : String) (h : RecoveryHistory) (r : OwnershipRequest)
    (s' : SessionStorageMemoryState) (answer : Except OwnershipError OwnershipAnswer) : Prop where
  /-- A guarded claim that succeeds was not planned from a snapshot that another one has replaced. -/
  claims : ∀ payload guard result reservation, r = .claim payload → payload.agentId = agentId →
    payload.recoveryGuard = some guard → answer = .ok (.claim result) →
    result.recovery = some reservation →
    ∀ guard' ∈ h.spent, guard'.expectedPreimage ≠ guard.expectedPreimage
  /-- A finalization applies to the recorded attempt with its binding, and once. -/
  applies : ∀ payload, r = .finalizeRecovery payload → payload.agentId = agentId →
    answer = .ok (.finalizeRecovery true) →
    (∃ agent, h.store.agents.get? agentId = some agent ∧ holdsRecovery agent payload = true) ∧
    (h.faithful = true → payload.attemptId ∉ h.finished)
  /-- A rollback with the preimage that was returned restores the row that the claim replaced. -/
  restores : ∀ payload reservation row, r = .finalizeRecovery payload → payload.agentId = agentId →
    answer = .ok (.finalizeRecovery true) → (reservation, row) ∈ h.issued →
    payload.attemptId = reservation.attemptId → payload.action = .rollback reservation.preimage →
    ∃ agent', s'.agents.get? agentId = some agent' ∧ SameLifecycle agent' row
  /-- A finalization of another attempt changes nothing. -/
  delayed : ∀ payload agent, r = .finalizeRecovery payload → payload.agentId = agentId →
    h.store.agents.get? agentId = some agent → agent.recoveryAttemptId ≠ some payload.attemptId →
    answer = .ok (.finalizeRecovery false) ∧ s' = h.store

/-! ### One request -/

variable {agent : MakaioSessionAgent} {payload : SessionOwnershipFinalizeRecoveryRequest}
variable {guard : SessionOwnershipRecoveryGuard}

section Step

variable {s : SessionStorageMemoryState} {host : HostValues} {r : OwnershipRequest} {agentId : String}

/-- A claim reserves its agent and returns the reservation, or keeps every agent row and returns none. -/
lemma claim_recovery (hs : Keyed s) (hfree : s.claims.get? host.claimId = none)
    (payload : SessionOwnershipClaimRequest) :
    ((∀ result, (runClaim s host payload).2 = .ok result → result.recovery = none) ∧
      (runClaim s host payload).1.agents = s.agents) ∨
    ∃ guard attempt instanceId agent result, payload.recoveryGuard = some guard ∧
      payload.recoveryAttemptId = some attempt ∧ s.agents.get? payload.agentId = some agent ∧
      classifyRecoveryGuard payload agent (requestedHolder s payload) = none ∧
      (runClaim s host payload).2 = .ok result ∧
      result.recovery = some ⟨attempt, recoveryPreimage agent⟩ ∧
      (runClaim s host payload).1.agents =
        s.agents.set payload.agentId (agent.reservedBy host payload attempt instanceId) := by
  have heffect := runClaim_effect hs hfree payload
  generalize (runClaim s host payload).1 = s', (runClaim s host payload).2 = answer at heffect ⊢
  cases heffect with
  | invalid _ => exact .inl ⟨fun result h => (nomatch h), rfl⟩
  | @refused result hrefused =>
    refine .inl ⟨fun result' h => ?_, rfl⟩
    cases h
    cases result <;> first | rfl | cases hrefused
  | tokenInUse _ => exact .inl ⟨fun result h => (nomatch h), ensured_agents _⟩
  | @taken agent s₁ s₂ fresh led claim prev hvalid hagent hmember hexpected hphase hlead =>
    have hagents : s₂.agents = s.agents := hlead.frame.1.trans hphase.agents
    cases hguard : payload.recoveryGuard with
    | none =>
      refine .inl ⟨fun result h => ?_, ?_⟩
      · cases h
        rw [recoveryReservation, hguard]
        cases fresh <;> rfl
      · rw [SessionStorageMemoryState.recovered, hguard]
        exact hagents
    | some guard =>
      have hv := validClaimRequest hvalid
      obtain ⟨attempt, hattempt⟩ := Option.isSome_iff_exists.mp (hv.guardAttempt (by rw [hguard]; rfl))
      obtain ⟨instanceId, hinstance⟩ := Option.isSome_iff_exists.mp (hv.guardOwner (by rw [hguard]; rfl))
      refine .inr ⟨guard, attempt, instanceId, agent, _, rfl, hattempt, hagent, hexpected, rfl, ?_, ?_⟩
      · rw [recoveryReservation, hguard, hattempt]
        cases fresh <;> rfl
      · rw [SessionStorageMemoryState.recovered, hguard, hattempt, hinstance, ← hagents]
        rfl

/-- A finalization that applies ends the recorded attempt. -/
lemma finalizeRecovery_true (h : (finalizeRecovery s host.now payload).2 = true) :
    ∃ agent, s.agents.get? payload.agentId = some agent ∧ holdsRecovery agent payload = true ∧
      (finalizeRecovery s host.now payload).1 =
        s.setAgent payload.agentId (agent.finalized payload.action host.now) := by
  rw [finalizeRecovery] at h ⊢
  cases hagent : s.agents.get? payload.agentId with
  | none =>
    rw [hagent] at h
    cases h
  | some agent =>
    rw [hagent] at h
    dsimp only at h ⊢
    split_ifs at h ⊢ with hholds
    exact ⟨agent, rfl, hholds, rfl⟩

/-- A finalization that does not apply changes nothing. -/
lemma finalizeRecovery_false (h : (finalizeRecovery s host.now payload).2 = false) :
    (finalizeRecovery s host.now payload).1 = s := by
  rw [finalizeRecovery] at h ⊢
  cases hagent : s.agents.get? payload.agentId with
  | none => rfl
  | some agent =>
    rw [hagent] at h
    dsimp only at h ⊢
    split_ifs at h ⊢
    rfl

/-- **A rollback to the preimage of a row restores its lifecycle columns.** -/
lemma finalized_rollback_recoveryPreimage (agent row : MakaioSessionAgent) (now : ℕ) :
    SameLifecycle (agent.finalized (.rollback (recoveryPreimage row)) now) row := by
  refine ⟨rfl, rfl, ?_, rfl⟩
  rw [MakaioSessionAgent.finalized, recoveryPreimage]
  cases row.runtimeOwner <;> rfl

/-- A guard lets a claim pass only while the attempt it expects is recorded. -/
lemma expected_attempt {payload : SessionOwnershipClaimRequest} {holder : Option AdapterSessionClaimRecord}
    (hguard : payload.recoveryGuard = some guard) (h : classifyRecoveryGuard payload agent holder = none) :
    agent.recoveryAttemptId = guard.expectedPreimage.recoveryAttemptId := by
  rw [classifyRecoveryGuard, hguard] at h
  dsimp only at h
  split_ifs at h with hcurrency hpreimage hstatus
  by_contra hne
  exact hpreimage (.inr (.inr (.inr hne)))

end Step

/-! ### The stack of attempts -/

/-- A stack of attempts: each was returned with the attempt below it as its preimage. -/
def Linked (issued : List (SessionOwnershipRecoveryReservation × MakaioSessionAgent)) :
    List String → Prop
  | [] => True
  | attempt :: rest => (∀ entry ∈ issued, entry.1.attemptId = attempt →
      entry.1.preimage.recoveryAttemptId = rest.head?) ∧ Linked issued rest

/-- A reservation of an attempt outside the stack keeps it linked. -/
lemma Linked.append {issued : List (SessionOwnershipRecoveryReservation × MakaioSessionAgent)}
    {entry : SessionOwnershipRecoveryReservation × MakaioSessionAgent} {stack : List String}
    (h : Linked issued stack) (hfresh : entry.1.attemptId ∉ stack) :
    Linked (issued ++ [entry]) stack := by
  induction stack with
  | nil => trivial
  | cons attempt rest ih =>
    obtain ⟨hhead, hrest⟩ := h
    rw [List.mem_cons, not_or] at hfresh
    refine ⟨fun e he heq => ?_, ih hrest hfresh.2⟩
    rcases List.mem_append.mp he with he | he
    · exact hhead e he heq
    · rw [List.mem_singleton] at he
      subst he
      exact absurd heq hfresh.1

/-- A stack of used, unfinished attempts with the recorded one on top. -/
structure Stacked (h : RecoveryHistory) (recorded : Option String) (stack : List String) : Prop where
  top : recorded = stack.head?
  nodup : stack.Nodup
  used : ∀ attempt ∈ stack, attempt ∈ h.usedAttempts
  unfinished : ∀ attempt ∈ stack, attempt ∉ h.finished
  linked : Linked h.issued stack

/-- The invariant of histories. -/
structure RecoveryHistory.Inv (agentId : String) (h : RecoveryHistory) : Prop where
  keyed : Keyed h.store
  recordedUsed : ∀ attempt, recordedAttempt h.store agentId = some attempt → attempt ∈ h.usedAttempts
  finishedUsed : ∀ attempt ∈ h.finished, attempt ∈ h.usedAttempts
  issuedUsed : ∀ entry ∈ h.issued, entry.1.attemptId ∈ h.usedAttempts
  issuedPreimage : ∀ entry ∈ h.issued, entry.1.preimage = recoveryPreimage entry.2
  spent : ∀ guard ∈ h.spent,
    recordedAttempt h.store agentId ≠ guard.expectedPreimage.recoveryAttemptId ∧
      ∀ attempt, guard.expectedPreimage.recoveryAttemptId = some attempt → attempt ∈ h.usedAttempts
  stacked : h.faithful = true → ∃ stack, Stacked h (recordedAttempt h.store agentId) stack

lemma RecoveryHistory.inv_of_initial {agentId : String} {h : RecoveryHistory}
    (hinit : h.Initial agentId) : h.Inv agentId := by
  obtain ⟨hkeyed, hused, hissued, hspent, hfinished, -⟩ := hinit
  refine ⟨hkeyed, fun attempt hrec => ?_, ?_, ?_, ?_, ?_, fun _ => ?_⟩
  · simp [hused, hrec]
  · simp [hfinished]
  · simp [hissued]
  · simp [hissued]
  · simp [hspent]
  · cases hrec : recordedAttempt h.store agentId with
    | none => exact ⟨[], rfl, List.nodup_nil, by simp, by simp, trivial⟩
    | some attempt =>
      refine ⟨[attempt], rfl, List.nodup_singleton _, ?_, ?_, ?_, trivial⟩
      · simp [hused, hrec]
      · simp [hfinished]
      · simp [hissued]

section Run

variable {agentId : String} {h : RecoveryHistory} {host : HostValues} {r : OwnershipRequest}
variable {store : SessionStorageMemoryState}

/-- A request that keeps the recorded attempt keeps the invariant. -/
private lemma RecoveryHistory.Inv.of_kept (hinv : h.Inv agentId) (hkeyed : Keyed store)
    (hkept : recordedAttempt store agentId = recordedAttempt h.store agentId) :
    (h.withStore agentId store).Inv agentId := by
  refine ⟨hkeyed, fun attempt hrec => ?_, fun attempt hmem => ?_, fun entry hmem => ?_,
    hinv.issuedPreimage, fun guard hmem => ⟨?_, fun attempt hexp => ?_⟩, fun hfaithful => ?_⟩
  · exact List.mem_append_left _ (hinv.recordedUsed attempt (hkept ▸ hrec))
  · exact List.mem_append_left _ (hinv.finishedUsed attempt hmem)
  · exact List.mem_append_left _ (hinv.issuedUsed entry hmem)
  · exact hkept ▸ (hinv.spent guard hmem).1
  · exact List.mem_append_left _ ((hinv.spent guard hmem).2 attempt hexp)
  · obtain ⟨stack, htop, hnodup, hused, hunfinished, hlinked⟩ := hinv.stacked hfaithful
    exact ⟨stack, hkept.trans htop, hnodup,
      fun attempt hmem => List.mem_append_left _ (hused attempt hmem), hunfinished, hlinked⟩

/-- A claim that reserves the agent pushes its attempt. -/
private lemma RecoveryHistory.Inv.of_claimed (hinv : h.Inv agentId) (hkeyed : Keyed store) {attempt : String}
    (hfresh : attempt ∉ h.usedAttempts) (hrecorded : recordedAttempt store agentId = some attempt)
    (hbefore : recordedAttempt h.store agentId = agent.recoveryAttemptId)
    (hexpected : agent.recoveryAttemptId = guard.expectedPreimage.recoveryAttemptId) :
    RecoveryHistory.Inv agentId { h.withStore agentId store with
      issued := h.issued ++ [(⟨attempt, recoveryPreimage agent⟩, agent)]
      spent := h.spent ++ [guard] } := by
  have hlast : attempt ∈ (h.withStore agentId store).usedAttempts :=
    List.mem_append_right _ (by simp [hrecorded])
  have hspentOf (guard' : SessionOwnershipRecoveryGuard)
      (hused : ∀ a, guard'.expectedPreimage.recoveryAttemptId = some a → a ∈ h.usedAttempts) :
      recordedAttempt store agentId ≠ guard'.expectedPreimage.recoveryAttemptId ∧
        ∀ a, guard'.expectedPreimage.recoveryAttemptId = some a →
          a ∈ (h.withStore agentId store).usedAttempts := by
    refine ⟨fun heq => ?_, fun a ha => List.mem_append_left _ (hused a ha)⟩
    exact hfresh (hused attempt (heq.symm.trans hrecorded))
  refine ⟨hkeyed, fun a ha => ?_, fun a hmem => ?_, fun entry hmem => ?_, fun entry hmem => ?_,
    fun guard' hmem => ?_, fun hfaithful => ?_⟩
  · obtain rfl : attempt = a := Option.some.inj (hrecorded.symm.trans ha)
    exact hlast
  · exact List.mem_append_left _ (hinv.finishedUsed a hmem)
  · rcases List.mem_append.mp hmem with hmem | hmem
    · exact List.mem_append_left _ (hinv.issuedUsed entry hmem)
    · rw [List.mem_singleton] at hmem
      subst hmem
      exact hlast
  · rcases List.mem_append.mp hmem with hmem | hmem
    · exact hinv.issuedPreimage entry hmem
    · rw [List.mem_singleton] at hmem
      subst hmem
      rfl
  · rcases List.mem_append.mp hmem with hmem | hmem
    · exact hspentOf guard' (hinv.spent guard' hmem).2
    · rw [List.mem_singleton] at hmem
      subst hmem
      exact hspentOf guard' fun a ha => hinv.recordedUsed a (hbefore.trans (hexpected.trans ha))
  · obtain ⟨stack, htop, hnodup, hused, hunfinished, hlinked⟩ := hinv.stacked hfaithful
    have hout : attempt ∉ stack := fun hmem => hfresh (hused attempt hmem)
    refine ⟨attempt :: stack, hrecorded, List.nodup_cons.mpr ⟨hout, hnodup⟩, ?_, ?_, ?_,
      hlinked.append hout⟩
    · intro a hmem
      rcases List.mem_cons.mp hmem with rfl | hmem
      · exact hlast
      · exact List.mem_append_left _ (hused a hmem)
    · intro a hmem
      rcases List.mem_cons.mp hmem with rfl | hmem
      · exact fun hfin => hfresh (hinv.finishedUsed a hfin)
      · exact hunfinished a hmem
    · intro entry hmem heq
      rcases List.mem_append.mp hmem with hmem | hmem
      · exact absurd (heq ▸ hinv.issuedUsed entry hmem) hfresh
      · rw [List.mem_singleton] at hmem
        subst hmem
        exact hbefore.symm.trans htop

/-- A finalization that applies pops its attempt, or clears the stack. -/
private lemma RecoveryHistory.Inv.of_finalized (hinv : h.Inv agentId) (hkeyed : Keyed store)
    (hagent : h.store.agents.get? agentId = some agent) (hholds : holdsRecovery agent payload = true)
    (hstore : store.agents.get? agentId = some (agent.finalized payload.action host.now)) :
    RecoveryHistory.Inv agentId { h.withStore agentId store with
      spent := []
      finished := h.finished ++ [payload.attemptId]
      faithful := h.faithful && h.carriesIssued payload } := by
  have hrecorded : recordedAttempt h.store agentId = some payload.attemptId := by
    rw [holdsRecovery, decide_eq_true_eq] at hholds
    rw [recordedAttempt, hagent]
    exact hholds.2.1
  have hused : payload.attemptId ∈ h.usedAttempts := hinv.recordedUsed _ hrecorded
  refine ⟨hkeyed, fun a ha => ?_, fun a hmem => ?_, fun entry hmem => ?_, hinv.issuedPreimage,
    fun guard' hmem => (by cases hmem), fun hfaithful => ?_⟩
  · have ha : recordedAttempt store agentId = some a := ha
    refine List.mem_append_right _ ?_
    rw [ha]
    exact List.mem_singleton.mpr rfl
  · refine List.mem_append_left _ ?_
    rcases List.mem_append.mp hmem with hmem | hmem
    · exact hinv.finishedUsed a hmem
    · rw [List.mem_singleton] at hmem
      exact hmem ▸ hused
  · exact List.mem_append_left _ (hinv.issuedUsed entry hmem)
  · rw [Bool.and_eq_true] at hfaithful
    obtain ⟨stack, htop, hnodup, hstackUsed, hunfinished, hlinked⟩ := hinv.stacked hfaithful.1
    have hcleared (hnone : recordedAttempt store agentId = none) :
        ∃ stack, Stacked { h.withStore agentId store with
          spent := []
          finished := h.finished ++ [payload.attemptId]
          faithful := h.faithful && h.carriesIssued payload } (recordedAttempt store agentId) stack :=
      ⟨[], hnone, List.nodup_nil, by simp, by simp, trivial⟩
    cases haction : payload.action with
    | succeeded | failed =>
      refine hcleared ?_
      rw [recordedAttempt, hstore, haction]
      rfl
    | rollback preimage =>
      have hcarries := hfaithful.2
      rw [RecoveryHistory.carriesIssued, haction] at hcarries
      obtain ⟨entry, hentry, heq⟩ := List.any_eq_true.mp hcarries
      rw [decide_eq_true_eq] at heq
      obtain ⟨top, rest, rfl⟩ : ∃ top rest, stack = top :: rest := by
        cases stack with
        | nil => exact absurd (hrecorded.symm.trans htop) (by simp)
        | cons top rest => exact ⟨top, rest, rfl⟩
      obtain rfl : payload.attemptId = top := Option.some.inj (hrecorded.symm.trans htop)
      obtain ⟨hlink, hrest⟩ := hlinked
      rw [List.nodup_cons] at hnodup
      have hpopped : recordedAttempt store agentId = rest.head? := by
        have hbelow := hlink entry hentry (by rw [heq])
        rw [heq] at hbelow
        rw [recordedAttempt, hstore, haction]
        exact hbelow
      refine ⟨rest, hpopped, hnodup.2, fun a hmem => ?_, fun a hmem hfin => ?_, hrest⟩
      · exact List.mem_append_left _ (hstackUsed a (List.mem_cons_of_mem _ hmem))
      · rcases List.mem_append.mp hfin with hfin | hfin
        · exact hunfinished a (List.mem_cons_of_mem _ hmem) hfin
        · rw [List.mem_singleton] at hfin
          exact hnodup.1 (hfin ▸ hmem)

/-- Rows of agents that agree record the same attempt. -/
private lemma recordedAttempt_congr {s s' : SessionStorageMemoryState}
    (h : s'.agents.get? agentId = s.agents.get? agentId) :
    recordedAttempt s' agentId = recordedAttempt s agentId := by
  rw [recordedAttempt, recordedAttempt, h]

variable {h' : RecoveryHistory}

/-- The history after a claim. -/
private lemma RecoveryHistory.Inv.step_claim (hinv : h.Inv agentId) {payload : SessionOwnershipClaimRequest}
    (hfresh : h.Fresh agentId (host, .claim payload))
    (hstep : h.step agentId (host, .claim payload) = some h') :
    h'.Inv agentId := by
  have hkeyed := keyed_execute hinv.keyed hfresh.1 (.claim payload)
  have hstore : (execute h.store host (.claim payload)).1 = (runClaim h.store host payload).1 := rfl
  have hanswer : (execute h.store host (.claim payload)).2 =
      (runClaim h.store host payload).2.map .claim := rfl
  rw [RecoveryHistory.step] at hstep
  rw [hanswer] at hstep
  rw [hstore] at hkeyed hstep
  rcases @claim_recovery h.store host hinv.keyed hfresh.1 payload with ⟨hnone, hagents⟩ |
    ⟨guard, attempt, instanceId, agent, result, hguard, hattempt, hagent, hexpected, hresult, hrecovery,
      hagents⟩
  · have hkept : h' = h.withStore agentId (runClaim h.store host payload).1 := by
      cases hrun : (runClaim h.store host payload).2 with
      | error error =>
        rw [hrun] at hstep
        exact (Option.some.inj hstep).symm
      | ok result =>
        rw [hrun] at hstep
        simp only [Except.map, hnone result hrun] at hstep
        split at hstep
        · rename_i hcontra _
          cases hcontra
        · exact (Option.some.inj hstep).symm
    rw [hkept]
    exact hinv.of_kept hkeyed (recordedAttempt_congr (by rw [hagents]))
  · rw [hresult] at hstep
    simp only [Except.map, hguard, hrecovery] at hstep
    have hget (id : String) : (runClaim h.store host payload).1.agents.get? id =
        if id = payload.agentId then some (agent.reservedBy host payload attempt instanceId)
        else h.store.agents.get? id := by
      rw [hagents, OrderedMap.get?_set]
    by_cases hid : payload.agentId = agentId
    · subst hid
      rw [hagent] at hstep
      simp only [if_true, Option.some.injEq] at hstep
      subst hstep
      refine hinv.of_claimed hkeyed (hfresh.2 payload attempt rfl rfl hattempt) ?_ ?_
        (expected_attempt hguard hexpected)
      · rw [recordedAttempt, hget, if_pos rfl]
        rfl
      · rw [recordedAttempt, hagent]
        rfl
    · have hkept : h' = h.withStore agentId (runClaim h.store host payload).1 := by
        cases hrow : h.store.agents.get? agentId with
        | none =>
          rw [hrow] at hstep
          exact (Option.some.inj hstep).symm
        | some row =>
          rw [hrow] at hstep
          simp only [if_neg hid, Option.some.injEq] at hstep
          exact hstep.symm
      rw [hkept]
      exact hinv.of_kept hkeyed (recordedAttempt_congr (by rw [hget, if_neg (Ne.symm hid)]))

/-- The history after a finalization. -/
private lemma RecoveryHistory.Inv.step_finalize (hinv : h.Inv agentId)
    (hfresh : h.Fresh agentId (host, .finalizeRecovery payload))
    (hstep : h.step agentId (host, .finalizeRecovery payload) = some h') : h'.Inv agentId := by
  have hkeyed := keyed_execute hinv.keyed hfresh.1 (.finalizeRecovery payload)
  have hstore : (execute h.store host (.finalizeRecovery payload)).1 =
      (finalizeRecovery h.store host.now payload).1 := rfl
  have hanswer : (execute h.store host (.finalizeRecovery payload)).2 =
      .ok (.finalizeRecovery (finalizeRecovery h.store host.now payload).2) := rfl
  rw [RecoveryHistory.step] at hstep
  rw [hanswer] at hstep
  rw [hstore] at hkeyed hstep
  cases happlied : (finalizeRecovery h.store host.now payload).2 with
  | false =>
    rw [happlied] at hstep
    simp only [Option.some.injEq] at hstep
    subst hstep
    exact hinv.of_kept hkeyed (by rw [finalizeRecovery_false happlied])
  | true =>
    rw [happlied] at hstep
    obtain ⟨agent, hagent, hholds, hset⟩ := finalizeRecovery_true happlied
    have hget (id : String) : (finalizeRecovery h.store host.now payload).1.agents.get? id =
        if id = payload.agentId then some (agent.finalized payload.action host.now)
        else h.store.agents.get? id := by
      rw [hset, SessionStorageMemoryState.setAgent, OrderedMap.get?_set]
    by_cases hid : payload.agentId = agentId
    · subst hid
      simp only [if_true, Option.some.injEq] at hstep
      subst hstep
      exact hinv.of_finalized hkeyed hagent hholds (by rw [hget, if_pos rfl])
    · simp only [if_neg hid, Option.some.injEq] at hstep
      subst hstep
      exact hinv.of_kept hkeyed (recordedAttempt_congr (by rw [hget, if_neg (Ne.symm hid)]))

/-- A request that is no claim and no finalization keeps the recorded attempt. -/
private lemma recordedAttempt_of_other (hs : Keyed h.store)
    (hfree : h.store.claims.get? host.claimId = none) (hclaim : ∀ payload, r ≠ .claim payload)
    (hfinalize : ∀ payload, r ≠ .finalizeRecovery payload) :
    recordedAttempt (execute h.store host r).1 agentId = recordedAttempt h.store agentId := by
  have hchange := execute_agents hs hfree r agentId
  rw [recordedAttempt, recordedAttempt]
  generalize h.store.agents.get? agentId = old, (execute h.store host r).1.agents.get? agentId = new
    at hchange
  cases hchange with
  | kept _ | settled _ _ _ _ _ => rfl
  | recovered _ hr _ _ _ _ _ _ => exact absurd hr (hclaim _)
  | finalized _ hr _ _ => exact absurd hr (hfinalize _)

/-- **One request keeps the invariant.** -/
lemma RecoveryHistory.Inv.step (hinv : h.Inv agentId) (hfresh : h.Fresh agentId (host, r))
    (hstep : h.step agentId (host, r) = some h') : h'.Inv agentId := by
  have hother (hclaim : ∀ payload, r ≠ .claim payload)
      (hfinalize : ∀ payload, r ≠ .finalizeRecovery payload)
      (hnext : h.step agentId (host, r) = some (h.withStore agentId (execute h.store host r).1)) :
      h'.Inv agentId := by
    rw [hnext, Option.some.injEq] at hstep
    subst hstep
    exact hinv.of_kept (keyed_execute hinv.keyed hfresh.1 r)
      (recordedAttempt_of_other hinv.keyed hfresh.1 hclaim hfinalize)
  cases r with
  | claim payload => exact hinv.step_claim hfresh hstep
  | finalizeRecovery payload => exact hinv.step_finalize hfresh hstep
  | settleCurrency payload | settleMovement payload | release payload | releaseAgentClaims payload
  | retireInstance instanceId => exact hother (by simp) (by simp) rfl

/-- A finalization that is answered with success was applied. -/
lemma finalizeRecovery_of_answer
    (hanswer : (execute h.store host (.finalizeRecovery payload)).2 = .ok (.finalizeRecovery true)) :
    (finalizeRecovery h.store host.now payload).2 = true := by
  simpa [execute] using hanswer

/-- **What the invariant allows a request to do.** -/
lemma RecoveryHistory.Inv.recoveryStep (hinv : h.Inv agentId) (hfresh : h.Fresh agentId (host, r)) :
    RecoveryStep agentId h r (execute h.store host r).1 (execute h.store host r).2 where
  claims payload guard result reservation hr hid hguard hanswer hrecovery guard' hspent heq := by
    subst hr hid
    have hrun : (runClaim h.store host payload).2 = .ok result := by
      have hmap : (runClaim h.store host payload).2.map OwnershipAnswer.claim = .ok (.claim result) :=
        hanswer
      cases hres : (runClaim h.store host payload).2 with
      | error error =>
        rw [hres] at hmap
        cases hmap
      | ok result' =>
        rw [hres] at hmap
        cases hmap
        rfl
    rcases @claim_recovery h.store host hinv.keyed hfresh.1 payload with ⟨hnone, -⟩ |
      ⟨guard₀, attempt, instanceId, agent, result₀, hguard₀, -, hagent, hexpected, -, -, -⟩
    · rw [hnone result hrun] at hrecovery
      cases hrecovery
    · obtain rfl : guard = guard₀ := Option.some.inj (hguard.symm.trans hguard₀)
      refine (hinv.spent guard' hspent).1 ?_
      rw [heq, ← expected_attempt hguard hexpected, recordedAttempt, hagent]
      rfl
  applies payload hr hid hanswer := by
    subst hr hid
    have happlied := finalizeRecovery_of_answer hanswer
    obtain ⟨agent, hagent, hholds, -⟩ := finalizeRecovery_true happlied
    refine ⟨⟨agent, hagent, hholds⟩, fun hfaithful hfinished => ?_⟩
    obtain ⟨stack, htop, -, -, hunfinished, -⟩ := hinv.stacked hfaithful
    rw [holdsRecovery, decide_eq_true_eq] at hholds
    rw [recordedAttempt, hagent, Option.bind_some, hholds.2.1] at htop
    exact hunfinished _ (List.mem_of_mem_head? htop.symm) hfinished
  restores payload reservation row hr hid hanswer hissued _ haction := by
    subst hr hid
    have happlied := finalizeRecovery_of_answer hanswer
    obtain ⟨agent, -, -, hset⟩ := finalizeRecovery_true happlied
    have hstore : (execute h.store host (.finalizeRecovery payload)).1 =
        (finalizeRecovery h.store host.now payload).1 := rfl
    refine ⟨agent.finalized payload.action host.now, ?_, ?_⟩
    · rw [hstore, hset]
      exact OrderedMap.get?_set_self _ _ _
    · rw [haction, hinv.issuedPreimage _ hissued]
      exact finalized_rollback_recoveryPreimage agent row host.now
  delayed payload agent hr hid hagent hother := by
    subst hr hid
    have hholds : holdsRecovery agent payload = false := by
      rw [holdsRecovery, decide_eq_false_iff_not]
      exact fun h => hother h.2.1
    have hfinalize : finalizeRecovery h.store host.now payload = (h.store, false) := by
      rw [finalizeRecovery, hagent]
      dsimp only
      rw [hholds]
      rfl
    rw [execute, hfinalize]
    exact ⟨rfl, rfl⟩

end Run

/-- **Recovery attempts are fenced**, over every history of one agent whose guarded claims present fresh
attempts: between two finalizations that apply, at most one guarded claim of a snapshot succeeds; a
finalization applies only to the recorded attempt with its binding, and at most once per attempt as long
as rollbacks carry the preimages that were returned; such a rollback restores the lifecycle columns; and
a finalization of another attempt than the recorded one changes nothing.

**Proof sketch.** A claim records a fresh attempt, so the attempt that a replaced snapshot names is not
recorded again before a finalization applies.  The attempts that rollbacks can restore form a stack with
the recorded one on top: a claim pushes a fresh attempt and a finalization removes the top, so a finished
attempt is not on it. -/
theorem recovery_fenced {agentId : String} {h : RecoveryHistory}
    (hreach : Reach (RecoveryHistory.Initial agentId) (RecoveryHistory.step agentId)
      (RecoveryHistory.Fresh agentId) h) (host : HostValues) (r : OwnershipRequest)
    (hfresh : h.Fresh agentId (host, r)) :
    RecoveryStep agentId h r (execute h.store host r).1 (execute h.store host r).2 := by
  have hinv : h.Inv agentId := hreach.invariant (RecoveryHistory.Inv agentId)
    (fun _ => RecoveryHistory.inv_of_initial) fun _ _ _ hinv hok hstep => hinv.step hok hstep
  exact hinv.recoveryStep hfresh

/-! ### Sample runs -/

/-- A keyless recovery of the member, planned from its idle row. -/
def sampleReservation (attempt : String) : SessionOwnershipClaimRequest :=
  { sampleClaim with
    providerSessionId := none
    recoveryAttemptId := some attempt
    recoveryGuard := some
      { expectedStatus := .idle
        expectedPreimage := ⟨.idle, "adapter", none, none⟩
        expectedRevision := 0
        expectedCurrencyFence := 0
        expectedCurrency := ⟨⟨none, .inherited⟩, none⟩
        ownerGeneration := none } }

/-- The end of an attempt of that recovery. -/
def sampleFinalization (attempt : String) (action : SessionOwnershipRecoveryTerminalAction) :
    SessionOwnershipFinalizeRecoveryRequest :=
  ⟨"agent", attempt, ⟨"adapter", "machine", "process"⟩, action⟩

/-- Once the member is reserved, the end of another attempt changes nothing. -/
theorem recovery_fenced_delayed : ∃ h : RecoveryHistory,
    recordedAttempt h.store "agent" = some "attempt" ∧
    execute h.store ⟨"unused", 2⟩ (.finalizeRecovery (sampleFinalization "earlier" .failed)) =
      (h.store, .ok (.finalizeRecovery false)) := by
  have hinitial : RecoveryHistory.Initial "agent" ⟨sampleStore, [], [], [], [], true⟩ :=
    ⟨keyed_sampleStore, rfl, rfl, rfl, rfl, rfl⟩
  have hreserved : Reach (RecoveryHistory.Initial "agent") (RecoveryHistory.step "agent")
      (RecoveryHistory.Fresh "agent") _ :=
    .next (a := (⟨"unused", 1⟩, .claim (sampleReservation "attempt"))) (.start hinitial)
      ⟨rfl, fun _ _ _ _ _ => List.not_mem_nil⟩ rfl
  have hstep := recovery_fenced hreserved ⟨"unused", 2⟩
    (.finalizeRecovery (sampleFinalization "earlier" .failed))
    ⟨rfl, fun _ _ h => (nomatch h)⟩
  obtain ⟨hanswer, hstore⟩ := hstep.delayed _ _ rfl rfl rfl (by decide)
  exact ⟨_, by decide, Prod.ext hstore hanswer⟩

/-- A claim reserves its agent. -/
def recovers (s : SessionStorageMemoryState) (host : HostValues)
    (payload : SessionOwnershipClaimRequest) : Bool :=
  match (runClaim s host payload).2 with
  | .ok result => result.recovery.isSome
  | .error _ => false

/-- After a rollback, a second claim planned from the same snapshot succeeds; and a rollback whose preimage
names its own attempt applies twice. -/
theorem recovery_replanned :
    (¬∀ s host claim finalization claim', Keyed s → claim.recoveryGuard = claim'.recoveryGuard →
      claim.recoveryAttemptId ≠ claim'.recoveryAttemptId → recovers s host claim = true →
      recovers (execute (execute s host (.claim claim)).1 host (.finalizeRecovery finalization)).1 host
        claim' = false) ∧
    ¬∀ s host claim finalization finalization', Keyed s → recovers s host claim = true →
      finalization.attemptId = finalization'.attemptId →
      (execute (execute s host (.claim claim)).1 host (.finalizeRecovery finalization)).2 =
        .ok (.finalizeRecovery true) →
      (execute (execute (execute s host (.claim claim)).1 host (.finalizeRecovery finalization)).1 host
        (.finalizeRecovery finalization')).2 ≠ .ok (.finalizeRecovery true) := by
  refine ⟨fun hall => ?_, fun hall => ?_⟩
  · have hsecond := hall sampleStore ⟨"unused", 1⟩ (sampleReservation "attempt")
      (sampleFinalization "attempt" (.rollback ⟨.idle, "adapter", none, none⟩))
      (sampleReservation "attempt2") keyed_sampleStore rfl (by decide) (by decide)
    cases hsecond
  · refine hall sampleStore ⟨"unused", 1⟩ (sampleReservation "attempt")
      (sampleFinalization "attempt" (.rollback
        ⟨.starting, "adapter", some ⟨"adapter", "machine", "process"⟩, some "attempt"⟩))
      (sampleFinalization "attempt" .succeeded) keyed_sampleStore (by decide) rfl rfl rfl

end Makaio.Ownership

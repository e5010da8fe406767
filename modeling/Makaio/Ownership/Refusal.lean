import Makaio.Ownership.Exclusivity

set_option autoImplicit false

/-!
# Refused operations change nothing

A claim registers the process that asks before anything is decided.  Refusals take the registration
back; the error of a token that another claim carries is thrown through them, and leaves it.

## Main definitions

* `mayWrite` — the answers that report a write.
* `LeavesOwner` — the requests that fail on a token after they have registered an owner.

## Main results

* `refusal_unchanged_iff` — refusals change nothing, exactly when the request is not
  one of those.
* `refusal_changes_instances` — one of those.
-/

namespace Makaio.Ownership

open Foundations

variable {s s' : SessionStorageMemoryState} {host : HostValues} {r : OwnershipRequest}

/-- The answers after which the maps may differ: writes, recognized claims that designate or recover,
and the operations that are no claims or settles. -/
def mayWrite (r : OwnershipRequest) (answer : Except OwnershipError OwnershipAnswer) : Bool :=
  match r with
  | .claim payload =>
    match answer with
    | .ok (.claim (.claimed _ _ _ _)) => true
    | .ok (.claim (.idempotent _ _ _ _)) =>
      payload.designateLead.isSome || payload.recoveryGuard.isSome
    | _ => false
  | .settleCurrency _ =>
    match answer with
    | .ok (.settleCurrency (.settled _ _ _)) => true
    | _ => false
  | .settleMovement _ =>
    match answer with
    | .ok (.settleMovement (.settled _ _ _ _ _)) => true
    | _ => false
  | _ => true

/-! ### Reused tokens -/

/-- A process has no row for a machine. -/
def Unregistered (s : SessionStorageMemoryState) (instanceId machineId : String) : Prop :=
  s.runtimeInstances.get? (runtimeInstanceKey instanceId machineId) = none

/-- A claim is carried by a row other than the incumbent's. -/
def CarriedElsewhere (s : SessionStorageMemoryState) (claimToken : String)
    (incumbent : Option AdapterSessionClaimRecord) : Prop :=
  ∃ holder, findClaimByToken s.claims claimToken = some holder ∧
    some holder.claimId ≠ incumbent.map AdapterSessionClaimRecord.claimId

/-- A keyed claim of a process without a row that gets as far as its token, which another claim carries:
the request is valid, its session and its agent exist, the guard lets it pass, and it retries or may take
over the incumbent, if there is one. -/
structure ClaimLeavesOwner (s : SessionStorageMemoryState) (host : HostValues)
    (payload : SessionOwnershipClaimRequest) (keyed : KeyedClaimRequest) : Prop where
  isKeyed : IsKeyed payload keyed
  valid : claimRequestIssues payload = []
  unregistered : Unregistered s keyed.ownerInstanceId payload.machineId
  session : ∃ session, s.sessions.get? payload.sessionId = some session
  agent : ∃ agent, s.agents.get? payload.agentId = some agent ∧ agent.sessionId = payload.sessionId ∧
    agent.status ≠ .disposed ∧ classifyRecoveryGuard payload agent (requestedHolder s payload) = none
  incumbent : ∀ existing, requestedHolder s payload = some existing →
    (existing.claimToken = payload.claimToken ∧ existing.agentId = payload.agentId ∧
      existing.sessionId = payload.sessionId ∧ existing.status = .held) ∨
    (existing.claimToken ≠ payload.claimToken ∧
      memoryMayTakeOver (keyed.ensured s host) keyed.takeover existing = true)
  token : CarriedElsewhere s payload.claimToken (requestedHolder s payload)

/-- A movement of a process without a row that gets as far as its token, which another claim carries: its
agent is a member that is not disposed and has something to move, and it has to mint a generation. -/
structure MovementLeavesOwner (s : SessionStorageMemoryState) (host : HostValues)
    (payload : SessionOwnershipSettleMovementRequest) (ownerInstanceId : String)
    (agent : MakaioSessionAgent) (providerSessionId : String) (currency : AdapterSessionCurrencyTarget)
    (incumbent : Option AdapterSessionClaimRecord) : Prop where
  owner_eq : payload.ownerInstance = some ownerInstanceId
  unregistered : Unregistered s ownerInstanceId payload.machineId
  agent_eq : s.agents.get? payload.agentId = some agent
  member : agent.sessionId = payload.sessionId
  live : agent.status ≠ .disposed
  target : resolveMovementTarget payload.movement agent = some (providerSessionId, currency)
  incumbent_eq :
    findClaimByKey s.claims payload.machineId payload.adapterId providerSessionId = incumbent
  mint : MayMint (movementEnsured s host payload ownerInstanceId) payload ownerInstanceId incumbent
  token : ∃ holder, findClaimByToken s.claims payload.movement.claimToken = some holder ∧
    holder.claimId ≠ (incumbent.map AdapterSessionClaimRecord.claimId).getD host.claimId

/-- The request fails on a token that another claim carries, after it has registered its owner. -/
def LeavesOwner (s : SessionStorageMemoryState) (host : HostValues) (r : OwnershipRequest) : Prop :=
  match r with
  | .claim payload => ∃ keyed, ClaimLeavesOwner s host payload keyed
  | .settleMovement payload => ∃ ownerInstanceId agent providerSessionId currency incumbent,
    MovementLeavesOwner s host payload ownerInstanceId agent providerSessionId currency incumbent
  | _ => False

variable {payload : SessionOwnershipClaimRequest}
variable {incumbent : Option AdapterSessionClaimRecord} {agent : MakaioSessionAgent}
  {instanceId machineId : String} {now : ℕ}

/-- When the rows that a claim references fail on its token. -/
lemma resolveClaimTargets_error_iff :
    resolveClaimTargets s payload incumbent = .error (.claimTokenInUse payload.claimToken) ↔
      (∃ session, s.sessions.get? payload.sessionId = some session) ∧
      (∃ agent, s.agents.get? payload.agentId = some agent ∧ agent.sessionId = payload.sessionId ∧
        agent.status ≠ .disposed) ∧ CarriedElsewhere s payload.claimToken incumbent := by
  rw [resolveClaimTargets, CarriedElsewhere]
  cases s.sessions.get? payload.sessionId with
  | none => simp
  | some session =>
    cases s.agents.get? payload.agentId with
    | none => simp
    | some agent =>
      dsimp only
      split_ifs with hmember hdisposed
      · simp [hmember]
      · simp [hdisposed]
      · cases findClaimByToken s.claims payload.claimToken with
        | none => simp
        | some holder =>
          dsimp only
          split_ifs with hid
          · exact ⟨fun _ => ⟨⟨_, rfl⟩, ⟨_, rfl, not_not.mp hmember, hdisposed⟩, _, rfl, hid⟩,
              fun _ => rfl⟩
          · refine ⟨fun h => (by cases h), ?_⟩
            rintro ⟨_, _, holder', hholder, hne⟩
            cases hholder
            exact absurd hne hid

variable {keyed : KeyedClaimRequest}

/-- A claim that fails on its token. -/
lemma runClaim_of_tokenRejected (h : TokenRejected s host payload keyed) :
    runClaim s host payload =
      (keyed.ensured s host, .error (.claimTokenInUse payload.claimToken)) := by
  obtain ⟨hkeyed, hvalid, hguard, hincumbent, htargets⟩ := h
  obtain ⟨rfl, hpsid, howner⟩ := hkeyed
  have htargets' := htargets
  rw [← @resolveClaimTargets_ensured s host _ _ keyed] at htargets'
  rw [runClaim, if_neg (not_not.mpr hvalid)]
  dsimp only
  rw [hguard, hpsid]
  dsimp only
  rw [runKeyedClaim, howner]
  cases hholder : requestedHolder s keyed.payload with
  | none =>
    rw [hholder] at htargets'
    have hacquire : acquireFreeKey (keyed.ensured s host) host keyed =
        (keyed.ensured s host, .error (.claimTokenInUse keyed.payload.claimToken)) := by
      rw [acquireFreeKey]
      rw [htargets']
    rw [KeyedClaimRequest.ensured] at hacquire
    dsimp only
    rw [hacquire]
    rfl
  | some existing =>
    rw [hholder] at htargets'
    dsimp only
    rcases hincumbent existing hholder with ⟨htoken, hagent, hsession, hheld⟩ | ⟨hne, hmay⟩
    · have hrepeat : repeatClaim (keyed.ensured s host) keyed.payload existing =
          (keyed.ensured s host, .error (.claimTokenInUse keyed.payload.claimToken)) := by
        rw [repeatClaim, if_neg (not_not.mpr hheld), htargets']
      rw [KeyedClaimRequest.ensured] at hrepeat
      rw [if_pos htoken, if_pos ⟨hagent, hsession⟩, hrepeat]
      rfl
    · have htakeover : takeOverClaim (keyed.ensured s host) host keyed existing =
          (keyed.ensured s host, .error (.claimTokenInUse keyed.payload.claimToken)) := by
        rw [takeOverClaim]
        dsimp only
        rw [htargets']
      rw [KeyedClaimRequest.ensured] at htakeover
      rw [KeyedClaimRequest.ensured, KeyedClaimRequest.takeover] at hmay
      rw [if_neg hne, if_pos hmay, htakeover]
      rfl

/-- A movement that fails on its token. -/
lemma settleMovement_of_tokenRejected {payload : SessionOwnershipSettleMovementRequest}
    {ownerInstanceId providerSessionId : String} {currency : AdapterSessionCurrencyTarget}
    (h : MovementTokenRejected s host payload ownerInstanceId agent providerSessionId currency incumbent) :
    settleMovement s host payload = (movementEnsured s host payload ownerInstanceId,
      .error (.claimTokenInUse payload.movement.claimToken)) := by
  obtain ⟨howner, hagent, hmember, hlive, htarget, hincumbent, hmint, htoken⟩ := h
  have hclaims : (movementEnsured s host payload ownerInstanceId).claims = s.claims := ensure_claims
  have hphase : runMovementClaimsPhase (movementEnsured s host payload ownerInstanceId) host payload
      ownerInstanceId providerSessionId = (movementEnsured s host payload ownerInstanceId,
        .error (.claimTokenInUse payload.movement.claimToken)) := by
    have hown : incumbent.filter (isOwnGeneration payload ownerInstanceId) = none := by
      rw [Option.filter_eq_none_iff]
      exact fun existing hex => by simpa using (hmint existing hex).1
    have hmay : (incumbent.filter fun incumbent => !memoryMayTakeOver
        (movementEnsured s host payload ownerInstanceId)
          (payload.takeover ownerInstanceId) incumbent) = none := by
      rw [Option.filter_eq_none_iff]
      exact fun existing hex => by simpa using (hmint existing hex).2
    rw [SessionOwnershipSettleMovementRequest.takeover] at hmay
    rw [runMovementClaimsPhase, hclaims, hincumbent]
    rw [hown]
    rw [hmay]
    rw [movementGeneration]
    dsimp only
    rw [assertMovementTokenIsFree] at htoken ⊢
    rw [hclaims, htoken]
  rw [movementEnsured] at hphase
  rw [settleMovement, howner]
  rw [hagent]
  dsimp only
  rw [if_neg (not_not.mpr hmember), if_neg hlive, htarget]
  dsimp only
  rw [hphase]
  rfl

/-- A claim that leaves its owner fails on its token. -/
lemma ClaimLeavesOwner.rejected (h : ClaimLeavesOwner s host payload keyed) :
    TokenRejected s host payload keyed := by
  obtain ⟨agent, hagent, hmember, hlive, hguard⟩ := h.agent
  refine ⟨h.isKeyed, h.valid, ?_, h.incumbent, resolveClaimTargets_error_iff.mpr
    ⟨h.session, ⟨agent, hagent, hmember, hlive⟩, h.token⟩⟩
  rw [hagent]
  exact hguard

/-- A claim that fails on its token leaves its owner, unless that is registered. -/
lemma TokenRejected.leavesOwner (h : TokenRejected s host payload keyed)
    (hunregistered : Unregistered s keyed.ownerInstanceId payload.machineId) :
    ClaimLeavesOwner s host payload keyed := by
  obtain ⟨hsession, ⟨agent, hagent, hmember, hlive⟩, htoken⟩ :=
    resolveClaimTargets_error_iff.mp h.targets
  have hguard := h.unguarded
  rw [hagent] at hguard
  exact ⟨h.isKeyed, h.valid, hunregistered, hsession, ⟨agent, hagent, hmember, hlive, hguard⟩,
    h.incumbent, htoken⟩

/-- When a movement token names another claim. -/
lemma assertMovementTokenIsFree_error_iff {claimToken claimId : String} :
    assertMovementTokenIsFree s claimToken claimId = .error (.claimTokenInUse claimToken) ↔
      ∃ holder, findClaimByToken s.claims claimToken = some holder ∧ holder.claimId ≠ claimId := by
  rw [assertMovementTokenIsFree]
  cases findClaimByToken s.claims claimToken with
  | none => simp
  | some holder =>
    dsimp only
    split_ifs with hid
    · simp [hid]
    · simp [hid]

/-- A row of the owner is new when it had none. -/
lemma not_sameRows_ensure (h : Unregistered s instanceId machineId) :
    ¬SameRows s (ensureMemoryRuntimeInstance s instanceId machineId now) := fun hsame => by
  obtain ⟨record, hrecord⟩ := exists_ensure s instanceId machineId now
  rw [hsame.runtimeInstances, h] at hrecord
  cases hrecord

/-- An owner that has a row is not registered again. -/
lemma ensure_of_not_unregistered (h : ¬Unregistered s instanceId machineId) :
    ensureMemoryRuntimeInstance s instanceId machineId now = s := by
  obtain ⟨record, hrecord⟩ := Option.ne_none_iff_exists'.mp h
  exact ensure_of_some hrecord

/-- A claim that is recognized, and designates and recovers nothing, writes nothing. -/
private lemma taken_unchanged {s₁ s₂ : SessionStorageMemoryState} {fresh led : Bool}
    {claim : Option AdapterSessionClaimRecord} {recovery : Option SessionOwnershipRecoveryReservation}
    {prev : Option String} (hphase : ClaimsPhase s host payload agent s₁ fresh claim)
    (hlead : Designation s₁ payload agent s₂ led prev)
    (hquiet : mayWrite (.claim payload) (.ok (.claim (takenClaim fresh claim recovery led prev))) = false) :
    s₂.recovered host payload agent = s := by
  cases fresh with
  | true => cases hquiet
  | false =>
    simp only [takenClaim, mayWrite, Bool.false_eq_true, if_false, Bool.or_eq_false_iff,
      Option.isSome_eq_false_iff, Option.isNone_iff_eq_none] at hquiet
    obtain ⟨hdesignate, hguard⟩ := hquiet
    rw [SessionStorageMemoryState.recovered, hguard]
    cases hphase with
    | repeated _ _ _ _ _ _ _ _ =>
      cases hlead with
      | untouched _ _ => rfl
      | cleared _ hd _ | promoted _ hd _ _ => cases hdesignate.symm.trans hd

/-- **Refused operations change nothing, exactly when** the request does not register an owner and then
fail on a token that another claim carries.

**Proof sketch.** Every outcome but a write and that error leaves the rows as they were.  The error is
thrown after the owner of the request has got its row, so it leaves the rows as they were exactly when
the owner had one before. -/
theorem refusal_unchanged_iff (hreach : Reach Keyed ownershipStep FreshHost s)
    (hfresh : FreshHost s (host, r)) :
    (mayWrite r (execute s host r).2 = false → SameRows s (execute s host r).1) ↔
      ¬LeavesOwner s host r := by
  have hs : Keyed s := hreach.invariant Keyed (fun _ h => h) fun s a t hs hok hstep => by
    rw [ownershipStep, Option.some.injEq] at hstep
    exact hstep ▸ keyed_execute hs hok a.2
  constructor
  · intro hquiet hleaves
    cases r with
    | claim payload =>
      obtain ⟨keyed, hleaves⟩ := hleaves
      have hexecute : execute s host (.claim payload) =
          (keyed.ensured s host, .error (.claimTokenInUse payload.claimToken)) := by
        rw [execute, runClaim_of_tokenRejected hleaves.rejected]
        rfl
      rw [hexecute] at hquiet
      have hunregistered := hleaves.unregistered
      obtain ⟨rfl, -, -⟩ := hleaves.isKeyed
      exact not_sameRows_ensure hunregistered (hquiet rfl)
    | settleMovement payload =>
      obtain ⟨owner, agent, psid, currency, incumbent, hleaves⟩ := hleaves
      have hrejected : MovementTokenRejected s host payload owner agent psid currency incumbent :=
        ⟨hleaves.owner_eq, hleaves.agent_eq, hleaves.member, hleaves.live, hleaves.target,
          hleaves.incumbent_eq, hleaves.mint, assertMovementTokenIsFree_error_iff.mpr hleaves.token⟩
      have hexecute : execute s host (.settleMovement payload) =
          (movementEnsured s host payload owner,
            .error (.claimTokenInUse payload.movement.claimToken)) := by
        rw [execute, settleMovement_of_tokenRejected hrejected]
        rfl
      rw [hexecute] at hquiet
      exact not_sameRows_ensure hleaves.unregistered (hquiet rfl)
    | _ => exact hleaves
  · intro hleaves hquiet
    cases r with
    | claim payload =>
      have heffect := runClaim_effect hs hfresh payload
      rw [execute] at hquiet ⊢
      dsimp only at hquiet ⊢
      generalize (runClaim s host payload).1 = s', (runClaim s host payload).2 = answer
        at heffect hquiet
      cases heffect with
      | invalid _ | refused _ => exact SameRows.refl s
      | @tokenInUse keyed h =>
        have hregistered : ¬Unregistered s keyed.ownerInstanceId payload.machineId := fun hu =>
          hleaves ⟨keyed, h.leavesOwner hu⟩
        obtain ⟨rfl, -, -⟩ := h.isKeyed
        rw [KeyedClaimRequest.ensured, ensure_of_not_unregistered hregistered]
        exact SameRows.refl s
      | taken _ _ _ _ hphase hlead =>
        rw [taken_unchanged hphase hlead hquiet]
        exact SameRows.refl s
    | settleCurrency payload =>
      rw [execute] at hquiet ⊢
      dsimp only at hquiet ⊢
      rcases settleCurrency_effect s host.now payload with h | ⟨agent, -, heffect⟩
      · rw [h]
        exact SameRows.refl s
      · generalize (settleCurrency s host.now payload).1 = s',
          (settleCurrency s host.now payload).2 = answer at heffect hquiet
        cases heffect with
        | refused _ | unpaired _ => exact SameRows.refl s
        | settled _ _ => cases hquiet
    | settleMovement payload =>
      have heffect := settleMovement_effect hs hfresh payload
      rw [execute] at hquiet ⊢
      dsimp only at hquiet ⊢
      generalize (settleMovement s host payload).1 = s', (settleMovement s host payload).2 = answer
        at heffect hquiet
      cases heffect with
      | invalid _ => exact SameRows.refl s
      | refused hsame _ => exact hsame
      | @tokenInUse owner psid agent currency incumbent h =>
        have hregistered : ¬Unregistered s owner payload.machineId := fun hu =>
          hleaves ⟨owner, agent, psid, currency, incumbent, h.owner_eq, hu, h.agent_eq, h.member, h.live,
            h.target, h.incumbent_eq, h.mint, assertMovementTokenIsFree_error_iff.mp h.token⟩
        rw [movementEnsured, ensure_of_not_unregistered hregistered]
        exact SameRows.refl s
      | settled _ => cases hquiet
    | _ => cases hquiet

/-- A claim for an agent that does not exist is refused, and changes nothing. -/
theorem refusal_unchanged_unknown_agent :
    SameRows sampleStore
      (execute sampleStore ⟨"claim", 1⟩ (.claim { sampleClaim with agentId := "other" })).1 := by
  refine (refusal_unchanged_iff (.start keyed_sampleStore) rfl).mpr ?_ (by decide)
  rintro ⟨keyed, hleaves⟩
  obtain ⟨agent, hagent, -⟩ := hleaves.agent
  cases hagent

/-- A second claim presents the token of the first, on another provider session and for a process without
a row: it fails, and the process has a row. -/
theorem refusal_changes_instances :
    ¬∀ s host r, Reach Keyed ownershipStep FreshHost s → FreshHost s (host, r) →
      mayWrite r (execute s host r).2 = false → SameRows s (execute s host r).1 := by
  intro hall
  have hclaimed : Reach Keyed ownershipStep FreshHost
      (execute sampleStore ⟨"claim", 1⟩ (.claim sampleClaim)).1 :=
    .next (a := (⟨"claim", 1⟩, .claim sampleClaim)) (.start keyed_sampleStore) rfl rfl
  have hsame := hall _ ⟨"claim2", 2⟩ (.claim { sampleClaim with
    providerSessionId := some "provider2", ownerInstance := some "process2" }) hclaimed (by decide)
    (by decide)
  have hrow := hsame.runtimeInstances (runtimeInstanceKey "process2" "machine")
  cases hrow

end Makaio.Ownership

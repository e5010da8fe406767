import Makaio.Ownership.Refusal

set_option autoImplicit false

/-!
# The currency of a lead, and disposed agents

A session row carries the currency of its lead in its own terms: `inherited` means the origin of the
session there, and the origin of the agent on the agent row.  Two writers keep the two rows together: a
designation copies the currency of the new lead, and a settle of the lead copies what it has written.

## Main definitions

* `Mirrors` — the two rows resume the same provider session.
* `SessionsStep` — what a request does to the session rows.
* `Absorbed` — a request leaves a disposed agent alone.

## Main results

* `execute_sessions` — the session rows after a request.
* `lead_mirrored` — sessions mirror their leads, and disposed agents are left alone.
-/

namespace Makaio.Ownership

open Foundations

variable {s s' : SessionStorageMemoryState} {host : HostValues} {r : OwnershipRequest}

/-! ### The mirror -/

/-- The currency on a session row, in the terms of that row. -/
def sessionCurrencySnapshot (session : MakaioSession) : AdapterSessionCurrencySnapshot where
  adapterSessionId := session.adapterSessionId
  currentAdapterSessionId := session.currentAdapterSessionId
  currentAdapterSessionIdState := session.currentAdapterSessionIdState.getD .inherited

/-- A session row and the row of its lead resume the same provider session, and both are paired. -/
structure Mirrors (session : MakaioSession) (agent : MakaioSessionAgent) : Prop where
  resumes : resolveResumableAdapterSessionId (sessionCurrencySnapshot session) =
    resolveResumableAdapterSessionId (agentCurrencySnapshot agent)
  session : (sessionCurrencySnapshot session).Paired
  agent : (agentCurrencySnapshot agent).Paired

/-- Every session whose lead is one of its agents mirrors it. -/
def LeadsMirrored (s : SessionStorageMemoryState) : Prop :=
  ∀ id session agentId agent, s.sessions.get? id = some session →
    session.leadAgentId = some agentId → s.agents.get? agentId = some agent → agent.sessionId = id →
    Mirrors session agent

/-- Every agent row is paired, as the rows are that the agent handlers store. -/
def AgentsPaired (s : SessionStorageMemoryState) : Prop :=
  ∀ id agent, s.agents.get? id = some agent → (agentCurrencySnapshot agent).Paired

variable {agent : MakaioSessionAgent}

/-- What a lead publishes is paired, when its own currency is. -/
lemma resolveLeadCurrencyMirror_paired (sessionOrigin : Option String)
    (h : (agentCurrencySnapshot agent).Paired) :
    (resolveLeadCurrencyMirror agent sessionOrigin).Paired := by
  rw [resolveLeadCurrencyMirror]
  split_ifs
  · exact h
  · simp [AdapterSessionCurrencyTarget.Paired]
  · cases agent.adapterSessionId <;> simp [AdapterSessionCurrencyTarget.Paired]

/-- What a lead publishes resumes, from the origin of the session, what the lead resumes. -/
lemma resolveLeadCurrencyMirror_resumes (agent : MakaioSessionAgent) (sessionOrigin : Option String) :
    resolveResumableAdapterSessionId ⟨resolveLeadCurrencyMirror agent sessionOrigin, sessionOrigin⟩ =
      resolveResumableAdapterSessionId (agentCurrencySnapshot agent) := by
  rw [resolveLeadCurrencyMirror, agentCurrencySnapshot]
  cases hstate : agent.currentAdapterSessionIdState.getD .inherited with
  | inherited =>
    rw [if_neg (not_not.mpr rfl)]
    split_ifs with horigin
    · exact horigin.symm
    · cases agent.adapterSessionId <;> rfl
  | moved | confirmed => rfl

variable {session : MakaioSession} {id : String}

/-- **What a lead publishes mirrors it.** -/
lemma mirrors_withMirror (h : (agentCurrencySnapshot agent).Paired) :
    Mirrors (session.withMirror (resolveLeadCurrencyMirror agent session.adapterSessionId)) agent :=
  ⟨resolveLeadCurrencyMirror_resumes agent session.adapterSessionId,
    resolveLeadCurrencyMirror_paired session.adapterSessionId h, h⟩

/-- The mirror is about the currency columns alone. -/
lemma Mirrors.congr {session' : MakaioSession} {agent agent' : MakaioSessionAgent} (h : Mirrors session agent)
    (hsession : sessionCurrencySnapshot session' = sessionCurrencySnapshot session)
    (hagent : agentCurrencySnapshot agent' = agentCurrencySnapshot agent) : Mirrors session' agent' := by
  refine ⟨?_, ?_, ?_⟩
  · rw [hsession, hagent]
    exact h.resumes
  · rw [hsession]
    exact h.session
  · rw [hagent]
    exact h.agent

/-! ### Session rows -/

/-- The session rows before and after a request: kept; the designation of one session cleared, or moved
to one of its agents that is not disposed; or the row of one session mirrored from its lead, whose
currency the request has written. -/
inductive SessionsStep (s s' : SessionStorageMemoryState) (host : HostValues)
    (wrote : Option (String × String × ℕ)) : Prop
  | kept : wrote = none → (∀ id, s'.sessions.get? id = s.sessions.get? id) → SessionsStep s s' host wrote
  | cleared {sessionId : String} {session : MakaioSession} : wrote = none →
      s.sessions.get? sessionId = some session →
      s'.sessions = s.sessions.set sessionId { session with leadAgentId := none } →
      SessionsStep s s' host wrote
  | promoted {sessionId : String} {session : MakaioSession} {agent : MakaioSessionAgent} :
      wrote = none → s.sessions.get? sessionId = some session →
      s.agents.get? agent.agentId = some agent → agent.status ≠ .disposed →
      s'.sessions = s.sessions.set sessionId
        ({ session with leadAgentId := some agent.agentId }.withMirror
          (resolveLeadCurrencyMirror agent session.adapterSessionId)) →
      SessionsStep s s' host wrote
  | settled {agent : MakaioSessionAgent} {settle : SessionOwnershipSettleCurrencyRequest} :
      wrote = some (settle.agentId, settle.claimToken, settle.fence) →
      s.agents.get? settle.agentId = some agent → settle.target.Paired →
      s'.agents = s.agents.set settle.agentId (agent.settled settle host.now) →
      (∀ id, s'.sessions.get? id = (s.settledBy host.now agent settle).sessions.get? id) →
      SessionsStep s s' host wrote

/-- **What a request does to the session rows.** -/
theorem execute_sessions (hs : Keyed s) (hfree : s.claims.get? host.claimId = none)
    (r : OwnershipRequest) :
    SessionsStep s (execute s host r).1 host (wroteUnder r (execute s host r).2) := by
  have heffect := execute_effect hs hfree r
  generalize (execute s host r).1 = s', wroteUnder r (execute s host r).2 = wrote at heffect ⊢
  cases heffect with
  | unchanged h => exact .kept rfl h.sessions
  | registered _ => exact .kept rfl fun _ => by rw [ensure_sessions]
  | claimed _ hagent _ hphase hlead =>
    have hid := hs.agents _ _ hagent
    cases hlead with
    | untouched _ _ => exact .kept rfl fun _ => by rw [recovered_sessions, hphase.sessions]
    | cleared hsession _ _ =>
      rw [hphase.sessions] at hsession
      refine .cleared rfl hsession ?_
      rw [recovered_sessions, SessionStorageMemoryState.setSession, hphase.sessions]
    | promoted hsession _ _ hlive =>
      rw [hphase.sessions] at hsession
      refine .promoted rfl hsession (hid ▸ hagent) hlive ?_
      rw [recovered_sessions, SessionStorageMemoryState.setSession, hphase.sessions]
  | settled hagent _ hpaired => exact .settled rfl hagent hpaired (settledBy_agents _ _ _ _) fun _ => rfl
  | @moved payload _ _ _ agent currency generation h =>
    exact @SessionsStep.settled _ _ _ _ agent (payload.settle generation currency) rfl h.agent_eq
      (resolveMovementTarget_paired h.target) h.agents h.sessions
  | released _ _ | retired _ | finalized _ _ => exact .kept rfl fun _ => rfl

/-! ### One step -/

/-- An agent whose currency no write touches keeps its session and its currency. -/
lemma AgentChange.currency {wrote : Option (String × String × ℕ)} {old : Option MakaioSessionAgent}
    (h : AgentChange s host r wrote id old (some agent)) (hwrote : ∀ w, wrote = some w → w.1 ≠ id) :
    ∃ agent', old = some agent' ∧ agent.sessionId = agent'.sessionId ∧
      agentCurrencySnapshot agent = agentCurrencySnapshot agent' := by
  cases h with
  | kept _ => exact ⟨agent, rfl, rfl, rfl⟩
  | settled hw _ _ _ _ => exact absurd rfl (hwrote _ hw)
  | recovered _ _ _ _ _ _ _ _ => exact ⟨_, rfl, rfl, rfl⟩
  | @finalized payload agent' _ _ _ _ =>
    refine ⟨agent', rfl, ?_⟩
    cases payload.action <;> exact ⟨rfl, rfl⟩

/-- **Agent rows stay paired.** -/
lemma agentsPaired_step (hs : Keyed s) (hfree : s.claims.get? host.claimId = none)
    (h : AgentsPaired s) : AgentsPaired (execute s host r).1 := by
  intro id agent hagent
  have hchange := execute_agents hs hfree r id
  have hold := h id
  rw [hagent] at hchange
  generalize s.agents.get? id = old at hchange hold
  cases hchange with
  | kept _ => exact hold agent rfl
  | settled _ _ _ _ hpaired => exact hpaired
  | @recovered _ agent' _ _ _ _ _ _ _ _ _ _ => exact hold agent' rfl
  | @finalized payload agent' _ _ _ _ =>
    have hpaired := hold agent' rfl
    cases payload.action <;> exact hpaired

/-- A kept session row mirrors its lead as long as no write touches it. -/
private lemma mirrors_of_kept (hs : Keyed s) (hfree : s.claims.get? host.claimId = none) (h : LeadsMirrored s)
    (hwrote : wroteUnder r (execute s host r).2 = none) {agentId : String}
    (hsession : s.sessions.get? id = some session) (hlead : session.leadAgentId = some agentId)
    (hagent : (execute s host r).1.agents.get? agentId = some agent) (hmember : agent.sessionId = id) :
    Mirrors session agent := by
  have hchange := execute_agents hs hfree r agentId
  rw [hagent, hwrote] at hchange
  obtain ⟨agent', hold, hsessionId, hcurrency⟩ := hchange.currency fun w hw => nomatch hw
  exact (h id session agentId agent' hsession hlead hold (hsessionId.symm.trans hmember)).congr rfl
    hcurrency

/-- **Sessions keep mirroring their leads.** -/
lemma leadsMirrored_step (hs : Keyed s) (hfree : s.claims.get? host.claimId = none)
    (hpaired : AgentsPaired s) (h : LeadsMirrored s) : LeadsMirrored (execute s host r).1 := by
  intro id session agentId agent hsession hlead hagent hmember
  cases execute_sessions hs hfree r with
  | kept hwrote hkeep =>
    rw [hkeep] at hsession
    exact mirrors_of_kept hs hfree h hwrote hsession hlead hagent hmember
  | @cleared sessionId session₀ hwrote _ hset =>
    rw [hset, OrderedMap.get?_set] at hsession
    split_ifs at hsession with hid
    · cases hsession
      cases hlead
    · exact mirrors_of_kept hs hfree h hwrote hsession hlead hagent hmember
  | @promoted sessionId session₀ agent₀ hwrote _ hagent₀ _ hset =>
    rw [hset, OrderedMap.get?_set] at hsession
    split_ifs at hsession with hid
    · cases hsession
      obtain rfl : agent₀.agentId = agentId := Option.some.inj hlead
      have hchange := execute_agents hs hfree r agent₀.agentId
      rw [hagent, hwrote] at hchange
      obtain ⟨agent', hold, -, hcurrency⟩ := hchange.currency fun w hw => by cases hw
      rw [hagent₀, Option.some.injEq] at hold
      subst hold
      exact (mirrors_withMirror (hpaired _ _ hagent₀)).congr rfl hcurrency
    · exact mirrors_of_kept hs hfree h hwrote hsession hlead hagent hmember
  | @settled agent₀ settle _ hagent₀ hsettle hagents hsessions =>
    rw [hsessions, settledBy_sessions] at hsession
    obtain ⟨session₀, hsession₀, rfl⟩ := Option.map_eq_some_iff.mp hsession
    rw [hagents, OrderedMap.get?_set] at hagent
    split_ifs at hlead hagent ⊢ with hself hid hid
    · -- the lead itself was settled
      cases hagent
      exact mirrors_withMirror hsettle
    · exact absurd (Option.some.inj (hlead.symm.trans hself.2)) hid
    · -- another session names the settled agent as its lead
      cases hagent
      exact absurd ⟨hmember.symm, hid ▸ hlead⟩ hself
    · exact h id session₀ agentId agent hsession₀ hlead hagent hmember

/-- A request leaves a disposed agent alone: its row is kept, it gains no claim, and it becomes the lead
of no session. -/
structure Absorbed (s s' : SessionStorageMemoryState) (id : String) (agent : MakaioSessionAgent) :
    Prop where
  row : s'.agents.get? id = some agent
  claims : ∀ claimId claim, s'.claims.get? claimId = some claim → claim.agentId = id →
    ∃ claim', s.claims.get? claimId = some claim' ∧ claim'.agentId = id ∧
      claim'.claimToken = claim.claimToken ∧ claim'.fence = claim.fence
  lead : ∀ sessionId session, s'.sessions.get? sessionId = some session →
    session.leadAgentId = some id →
    ∃ session', s.sessions.get? sessionId = some session' ∧ session'.leadAgentId = some id

/-- **A disposed agent is left alone.** -/
lemma absorbed_step (hs : Keyed s) (hfree : s.claims.get? host.claimId = none)
    (hagent : s.agents.get? id = some agent) (hdisposed : agent.status = .disposed) :
    Absorbed s (execute s host r).1 id agent where
  row := by
    have hchange := execute_agents hs hfree r id
    rw [hagent] at hchange
    generalize (execute s host r).1.agents.get? id = after at hchange
    cases hchange with
    | kept _ => rfl
    | settled _ hlive _ _ _ | recovered _ _ _ _ _ _ _ hlive => exact absurd hdisposed hlive
    | finalized _ _ _ hholds =>
      rw [holdsRecovery, decide_eq_true_eq, hdisposed] at hholds
      cases hholds.1
  claims claimId claim hclaim howned := by
    have hedited (h : Edited r (s.claims.get? claimId) ((execute s host r).1.claims.get? claimId)) :
        ∃ claim', s.claims.get? claimId = some claim' ∧ claim'.agentId = id ∧
          claim'.claimToken = claim.claimToken ∧ claim'.fence = claim.fence := by
      obtain ⟨claim', hold, hcontinues⟩ := Edited.some (hclaim ▸ h)
      exact ⟨claim', hold, hcontinues.agentId.symm.trans howned, hcontinues.claimToken.symm,
        hcontinues.fence.symm⟩
    cases execute_claims hs hfree r with
    | edited hall => exact hedited (hall claimId)
    | @generated _ _ generation hg hself hothers =>
      by_cases hid : claimId = generation.claimId
      · rw [hid, hself, Option.some.injEq] at hclaim
        subst hclaim
        obtain ⟨agent', hagent', hlive⟩ := hg.live
        rw [howned, hagent, Option.some.injEq] at hagent'
        exact absurd (hagent' ▸ hdisposed) hlive
      · exact hedited (hothers claimId hid)
  lead sessionId session hsession hlead := by
    cases execute_sessions hs hfree r with
    | kept _ hkeep => exact ⟨session, hkeep sessionId ▸ hsession, hlead⟩
    | @cleared sessionId₀ session₀ _ _ hset =>
      rw [hset, OrderedMap.get?_set] at hsession
      split_ifs at hsession with hid
      · cases hsession
        cases hlead
      · exact ⟨session, hsession, hlead⟩
    | @promoted sessionId₀ session₀ agent₀ _ _ hagent₀ hlive hset =>
      rw [hset, OrderedMap.get?_set] at hsession
      split_ifs at hsession with hid
      · cases hsession
        obtain rfl : agent₀.agentId = id := Option.some.inj hlead
        rw [hagent, Option.some.injEq] at hagent₀
        exact absurd (hagent₀ ▸ hdisposed) hlive
      · exact ⟨session, hsession, hlead⟩
    | settled _ _ _ _ hsessions =>
      rw [hsessions, settledBy_sessions] at hsession
      obtain ⟨session₀, hsession₀, rfl⟩ := Option.map_eq_some_iff.mp hsession
      refine ⟨session₀, hsession₀, ?_⟩
      split_ifs at hlead
      · exact hlead
      · exact hlead

/-! ### Runs -/

/-- A store whose agent rows are paired and whose sessions mirror their leads. -/
structure MirroredStore (s : SessionStorageMemoryState) : Prop where
  keyed : Keyed s
  agents : AgentsPaired s
  leads : LeadsMirrored s

/-- **The lead currency mirror, and disposed absorption**, over every run from a store whose sessions
mirror their leads: each session whose lead is one of its agents resumes what that agent resumes, with
both rows paired, and no request touches a disposed agent. -/
theorem lead_mirrored (hreach : Reach MirroredStore ownershipStep FreshHost s) :
    LeadsMirrored s ∧ ∀ host r, FreshHost s (host, r) → ∀ id agent, s.agents.get? id = some agent →
      agent.status = .disposed → Absorbed s (execute s host r).1 id agent := by
  have hinv : MirroredStore s := hreach.invariant MirroredStore (fun _ h => h)
    fun s a t hinv hok hstep => by
      rw [ownershipStep, Option.some.injEq] at hstep
      subst hstep
      exact ⟨keyed_execute hinv.keyed hok a.2, agentsPaired_step hinv.keyed hok hinv.agents,
        leadsMirrored_step hinv.keyed hok hinv.agents hinv.leads⟩
  exact ⟨hinv.leads, fun host r hfresh id agent hagent hdisposed =>
    absorbed_step hinv.keyed hfresh hagent hdisposed⟩

/-- The member claims a provider session and the lead, and settles it: the session resumes it too. -/
theorem lead_mirrored_settled : ∃ s session, LeadsMirrored s ∧
    s.sessions.get? "session" = some session ∧ session.leadAgentId = some "agent" ∧
    resolveResumableAdapterSessionId (sessionCurrencySnapshot session) = some "provider" := by
  have hrows {id : String} {agent : MakaioSessionAgent} (h : sampleStore.agents.get? id = some agent) :
      agent = sampleAgent := by
    rw [sampleStore, OrderedMap.get?_set] at h
    split_ifs at h
    · cases h
      rfl
    · cases h
  have hinitial : MirroredStore sampleStore := by
    refine ⟨keyed_sampleStore, fun id agent hagent => ?_, fun id session agentId agent h hlead => ?_⟩
    · rw [hrows hagent]
      decide
    · rw [sampleStore, OrderedMap.get?_set] at h
      split_ifs at h
      · cases h
        cases hlead
      · cases h
  have hclaimed : Reach MirroredStore ownershipStep FreshHost _ := .next
    (a := (⟨"claim", 1⟩, .claim { sampleClaim with designateLead := some ⟨none, false, false⟩ }))
    (.start hinitial) rfl rfl
  have hsettled : Reach MirroredStore ownershipStep FreshHost _ := hclaimed.next
    (a := (⟨"unused", 2⟩, .settleCurrency ⟨"agent", "token", 1, 0, ⟨some "provider", .confirmed⟩⟩))
    (by decide) rfl
  exact ⟨_, _, (lead_mirrored hsettled).1, rfl, rfl, by decide⟩

end Makaio.Ownership

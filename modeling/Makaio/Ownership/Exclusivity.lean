import Makaio.Foundations.Machine
import Makaio.Ownership.Rows

set_option autoImplicit false

/-!
# Exclusive claims and fenced generations

A generation is a claim under one token and one fence.  Its authority ends when the claim is taken over,
dropped or marked; the pair must not come back.  This holds as long as a token that a claim has carried
is presented again only while a claim carries it, as by the retry of an acquisition.

## Main definitions

* `Exclusive` — one claim per key and per token, one fence per claim of an agent.
* `OwnershipHistory` — a store with the tokens and the ended generations of its past.
* `CurrencyStep`, `FencesStep` — what a request does to currencies and
  fences.

## Main results

* `ownership_exclusive_fenced` — all of it, over every history from an empty table.
-/

namespace Makaio.Ownership

open Foundations

/-! ### Statements -/

/-- No two claims share a key or a token, and no two claims of one agent share a fence. -/
structure Exclusive (claims : OrderedMap String AdapterSessionClaimRecord) : Prop where
  key : ∀ id claim id' claim', claims.get? id = some claim → claims.get? id' = some claim' →
    claim.machineId = claim'.machineId → claim.adapterId = claim'.adapterId →
    claim.providerSessionId = claim'.providerSessionId → id = id'
  token : ∀ id claim id' claim', claims.get? id = some claim → claims.get? id' = some claim' →
    claim.claimToken = claim'.claimToken → id = id'
  fence : ∀ id claim id' claim', claims.get? id = some claim → claims.get? id' = some claim' →
    claim.agentId = claim'.agentId → claim.fence = claim'.fence → id = id'

/-- The currencies after a request: the agent of a reported write carries its fence and one more
revision; the currency columns of every other agent are as they were. -/
def CurrencyStep (s s' : SessionStorageMemoryState) (wrote : Option (String × String × ℕ)) : Prop :=
  ∀ id agent, s.agents.get? id = some agent → ∃ agent', s'.agents.get? id = some agent' ∧
    agent.currencyFenceOrZero ≤ agent'.currencyFenceOrZero ∧
    ((∃ token, wrote = some (id, token, agent'.currencyFenceOrZero) ∧
        agent'.revisionOrZero = agent.revisionOrZero + 1) ∨
      ((∀ w, wrote = some w → w.1 ≠ id) ∧ agent'.revisionOrZero = agent.revisionOrZero ∧
        agent'.currencyFenceOrZero = agent.currencyFenceOrZero ∧
        agentCurrencySnapshot agent' = agentCurrencySnapshot agent))

/-- The generations after a request: each stood before, or has a fence above the currency fence and
above every claim of its agent. -/
def FencesStep (s s' : SessionStorageMemoryState) : Prop :=
  ∀ id claim, s'.claims.get? id = some claim →
    (∃ claim', s.claims.get? id = some claim' ∧ claim'.claimToken = claim.claimToken ∧
      claim'.fence = claim.fence ∧ claim'.agentId = claim.agentId) ∨
    ((∀ agent, s.agents.get? claim.agentId = some agent → agent.currencyFenceOrZero < claim.fence) ∧
      ∀ id' claim', s.claims.get? id' = some claim' → claim'.agentId = claim.agentId →
        claim'.fence < claim.fence)

/-! ### Histories -/

/-- The generations that claims hold: their tokens and fences. -/
def heldGenerations (s : SessionStorageMemoryState) : List (String × ℕ) :=
  (s.claims.values.filter fun claim => claim.status = .held).map fun claim =>
    (claim.claimToken, claim.fence)

/-- A store, the tokens its claims have carried, and the generations that were held and are not. -/
structure OwnershipHistory where
  store : SessionStorageMemoryState
  usedTokens : List String
  ended : List (String × ℕ)

/-- A store without claims, and its empty past. -/
def OwnershipHistory.Initial (h : OwnershipHistory) : Prop :=
  Keyed h.store ∧ h.store.claims = OrderedMap.empty ∧ h.usedTokens = [] ∧ h.ended = []

local instance lawfulBEq_generation : LawfulBEq (String × ℕ) := inferInstance

/-- The history after a request. -/
def OwnershipHistory.step (h : OwnershipHistory) (a : HostValues × OwnershipRequest) :
    Option OwnershipHistory :=
  let store := (execute h.store a.1 a.2).1
  some
    { store
      usedTokens := h.usedTokens ++ store.claims.values.map AdapterSessionClaimRecord.claimToken
      ended := h.ended ++ (heldGenerations h.store).filter fun generation =>
        generation ∉ heldGenerations store }

/-- The host draws a fresh claim identifier, and no token is presented whose claim is gone. -/
def OwnershipHistory.Honest (h : OwnershipHistory) (a : HostValues × OwnershipRequest) : Prop :=
  h.store.claims.get? a.1.claimId = none ∧
    ∀ token ∈ a.2.presentedToken, token ∈ h.usedTokens →
      ∃ id claim, h.store.claims.get? id = some claim ∧ claim.claimToken = token

/-! ### One step -/

variable {id : String}

section Step

variable {s : SessionStorageMemoryState} {host : HostValues} {r : OwnershipRequest}
  {request : MemoryTakeoverRequest} {incumbent : Option AdapterSessionClaimRecord}
  {generation : AdapterSessionClaimRecord}
variable {claim : AdapterSessionClaimRecord}

/-- A claim under the token of a new generation is the incumbent whose row it replaces. -/
lemma Generated.incumbent_of_token (hs : Keyed s) (hfree : s.claims.get? host.claimId = none)
    (hex : Exclusive s.claims) (hg : Generated s host r request incumbent generation)
    (hclaim : s.claims.get? id = some claim) (htoken : claim.claimToken = generation.claimToken) :
    id = generation.claimId ∧ claim.fence < generation.fence := by
  obtain ⟨holder, hholder⟩ : ∃ holder, findClaimByToken s.claims generation.claimToken = some holder := by
    cases hfind : findClaimByToken s.claims generation.claimToken with
    | none => exact absurd htoken (findClaimByToken_none hfind hclaim)
    | some holder => exact ⟨holder, rfl⟩
  obtain ⟨⟨id', hid'⟩, hholderToken⟩ := findClaimByToken_some hholder
  obtain rfl : id = id' := hex.token id claim id' holder hclaim hid' (htoken.trans hholderToken.symm)
  rw [hclaim, Option.some.injEq] at hid'
  subst hid'
  have hid : id = generation.claimId := (hs.claims id claim hclaim).symm.trans (hg.token claim hholder)
  refine ⟨hid, ?_⟩
  rw [hg.fence, hg.incumbent_of_row hs hfree (hid ▸ hclaim)]
  exact floor_lt_allocateFence _ _ _

/-- A claim on the key of a new generation is the incumbent whose row it replaces. -/
lemma Generated.incumbent_of_key (hs : Keyed s) (hex : Exclusive s.claims)
    (hg : Generated s host r request incumbent generation) (hclaim : s.claims.get? id = some claim)
    (hmachine : claim.machineId = generation.machineId) (hadapter : claim.adapterId = generation.adapterId)
    (hsession : claim.providerSessionId = generation.providerSessionId) : id = generation.claimId := by
  have hrow := hg.row
  cases hinc : incumbent with
  | none =>
    exact absurd ⟨hmachine, hadapter, hsession⟩
      (findClaimByKey_none (hg.incumbent_eq.trans hinc) hclaim)
  | some existing =>
    obtain ⟨⟨id', hid'⟩, hm, ha, hp⟩ := findClaimByKey_some (hg.incumbent_eq.trans hinc)
    rw [hinc] at hrow
    rw [hrow, hex.key id claim id' existing hclaim hid' (hmachine.trans hm.symm)
      (hadapter.trans ha.symm) (hsession.trans hp.symm)]
    exact (hs.claims id' existing hid').symm

/-- A new fence is above the fence of every claim of its agent. -/
lemma Generated.fence_lt (hg : Generated s host r request incumbent generation)
    (hclaim : s.claims.get? id = some claim) (hagent : claim.agentId = generation.agentId) :
    claim.fence < generation.fence := by
  rw [hg.fence]
  exact fence_lt_allocateFence _ hclaim hagent

variable {claims : OrderedMap String AdapterSessionClaimRecord}

/-- A relation that no two claims stand in, and that no claim stands in to a new generation, is one
that no two claims stand in after a request. -/
private lemma unique_step {R : AdapterSessionClaimRecord → AdapterSessionClaimRecord → Prop}
    (hsymm : ∀ {c c'}, R c c' → R c' c) (hcongr : ∀ {c d c'}, Continues d c → R c c' → R d c')
    (hunique : ∀ id c id' c', s.claims.get? id = some c → s.claims.get? id' = some c' → R c c' → id = id')
    (hnew : ∀ {request incumbent generation}, Generated s host r request incumbent generation →
      ∀ id c, s.claims.get? id = some c → R c generation → id = generation.claimId)
    (hstep : TableStep s host r claims) :
    ∀ id c id' c', claims.get? id = some c → claims.get? id' = some c' → R c c' → id = id' := by
  cases hstep with
  | edited hall =>
    intro id c id' c' hc hc' hR
    obtain ⟨d, hd, hcd⟩ := Edited.some (hc ▸ hall id)
    obtain ⟨d', hd', hcd'⟩ := Edited.some (hc' ▸ hall id')
    exact hunique id d id' d' hd hd' (hsymm (hcongr hcd' (hsymm (hcongr hcd hR))))
  | @generated request incumbent generation hg hself hothers =>
    have hrow {c : AdapterSessionClaimRecord} (hc : claims.get? generation.claimId = some c) :
        c = generation := (Option.some.inj (hself.symm.trans hc)).symm
    have hnever {id : String} {c : AdapterSessionClaimRecord} (hc : claims.get? id = some c)
        (hid : id ≠ generation.claimId) : ¬R c generation := fun hR => by
      obtain ⟨d, hd, hcd⟩ := Edited.some (hc ▸ hothers id hid)
      exact hid (hnew hg id d hd (hcongr hcd hR))
    intro id c id' c' hc hc' hR
    by_cases hid : id = generation.claimId
    · by_cases hid' : id' = generation.claimId
      · rw [hid, hid']
      · obtain rfl := hrow (hid ▸ hc)
        exact absurd (hsymm hR) (hnever hc' hid')
    · by_cases hid' : id' = generation.claimId
      · obtain rfl := hrow (hid' ▸ hc')
        exact absurd hR (hnever hc hid)
      · obtain ⟨d, hd, hcd⟩ := Edited.some (hc ▸ hothers id hid)
        obtain ⟨d', hd', hcd'⟩ := Edited.some (hc' ▸ hothers id' hid')
        exact hunique id d id' d' hd hd' (hsymm (hcongr hcd' (hsymm (hcongr hcd hR))))

/-- **Exclusive claims stay exclusive.** -/
lemma Exclusive.step (hs : Keyed s) (hfree : s.claims.get? host.claimId = none) (hex : Exclusive s.claims)
    (hstep : TableStep s host r claims) : Exclusive claims where
  key id c id' c' hc hc' hm ha hp := by
    refine unique_step (R := fun c c' => c.machineId = c'.machineId ∧ c.adapterId = c'.adapterId ∧
      c.providerSessionId = c'.providerSessionId) (fun h => ⟨h.1.symm, h.2.1.symm, h.2.2.symm⟩)
      (fun hcd h => ⟨hcd.machineId.symm.trans h.1, hcd.adapterId.symm.trans h.2.1,
        hcd.providerSessionId.symm.trans h.2.2⟩)
      (fun id c id' c' hc hc' h => hex.key id c id' c' hc hc' h.1 h.2.1 h.2.2)
      (fun hg id c hc h => hg.incumbent_of_key hs hex hc h.1 h.2.1 h.2.2) hstep id c id' c' hc hc'
      ⟨hm, ha, hp⟩
  token := unique_step (R := fun c c' => c.claimToken = c'.claimToken) Eq.symm
    (fun hcd h => hcd.claimToken.symm.trans h) hex.token
    (fun hg id c hc h => (hg.incumbent_of_token hs hfree hex hc h).1) hstep
  fence id c id' c' hc hc' hagent hfence := by
    refine unique_step (R := fun c c' => c.agentId = c'.agentId ∧ c.fence = c'.fence)
      (fun h => ⟨h.1.symm, h.2.symm⟩)
      (fun hcd h => ⟨hcd.agentId.symm.trans h.1, hcd.fence.symm.trans h.2⟩)
      (fun id c id' c' hc hc' h => hex.fence id c id' c' hc hc' h.1 h.2)
      (fun hg id c hc h => absurd h.2 (hg.fence_lt hc h.1).ne) hstep id c id' c' hc hc'
      ⟨hagent, hfence⟩

/-- **Currencies advance by the reported write alone.** -/
lemma currencyStep_execute (hs : Keyed s) (hfree : s.claims.get? host.claimId = none) :
    CurrencyStep s (execute s host r).1 (wroteUnder r (execute s host r).2) := by
  intro id agent hagent
  have hchange := execute_agents hs hfree r id
  rw [hagent] at hchange
  generalize (execute s host r).1.agents.get? id = after at hchange
  cases hchange with
  | kept hwrote => exact ⟨agent, rfl, le_rfl, .inr ⟨hwrote, rfl, rfl, rfl⟩⟩
  | @settled _ settle hwrote _ hfence hrevision _ =>
    refine ⟨_, rfl, hfence, .inl ⟨settle.claimToken, hwrote, ?_⟩⟩
    rw [hrevision]
    rfl
  | recovered hwrote _ _ _ _ _ _ _ =>
    exact ⟨_, rfl, le_rfl, .inr ⟨fun w hw => absurd (hwrote.symm.trans hw) (by simp), rfl, rfl, rfl⟩⟩
  | @finalized payload _ hwrote _ _ _ =>
    refine ⟨_, rfl, ?_⟩
    cases payload.action
    all_goals
      exact ⟨le_rfl, .inr ⟨fun w hw => absurd (hwrote.symm.trans hw) (by simp), rfl, rfl, rfl⟩⟩

/-- **Generations stand, or have an allocated fence.** -/
lemma fencesStep_execute (hs : Keyed s) (hfree : s.claims.get? host.claimId = none) :
    FencesStep s (execute s host r).1 := by
  intro id claim hclaim
  have hstands (h : Edited r (s.claims.get? id) ((execute s host r).1.claims.get? id)) :
      ∃ claim', s.claims.get? id = some claim' ∧ claim'.claimToken = claim.claimToken ∧
        claim'.fence = claim.fence ∧ claim'.agentId = claim.agentId := by
    obtain ⟨claim', hold, hcontinues⟩ := Edited.some (hclaim ▸ h)
    exact ⟨claim', hold, hcontinues.claimToken.symm, hcontinues.fence.symm, hcontinues.agentId.symm⟩
  cases execute_claims hs hfree r with
  | edited hall => exact .inl (hstands (hall id))
  | @generated _ incumbent generation hg hself hothers =>
    by_cases hid : id = generation.claimId
    · rw [hid, hself, Option.some.injEq] at hclaim
      subst hclaim
      refine .inr ⟨fun agent hagent => ?_, fun id' claim' h hagent => hg.fence_lt h hagent⟩
      rw [hg.fence]
      exact currencyFence_lt_allocateFence _ hagent
    · exact .inl (hstands (hothers id hid))

end Step

/-! ### Whole histories -/

lemma mem_heldGenerations {s : SessionStorageMemoryState} {generation : String × ℕ} :
    generation ∈ heldGenerations s ↔ ∃ id claim, s.claims.get? id = some claim ∧
      claim.status = .held ∧ claim.claimToken = generation.1 ∧ claim.fence = generation.2 := by
  simp only [heldGenerations, List.mem_map, List.mem_filter, OrderedMap.mem_values_iff,
    decide_eq_true_eq]
  constructor
  · rintro ⟨claim, ⟨⟨id, hid⟩, hheld⟩, rfl⟩
    exact ⟨id, claim, hid, hheld, rfl, rfl⟩
  · rintro ⟨id, claim, hid, hheld, htoken, hfence⟩
    exact ⟨claim, ⟨⟨id, hid⟩, hheld⟩, Prod.ext htoken hfence⟩

/-- A generation has no authority: a claim under its token has a higher fence, or is not held. -/
def Dead (claims : OrderedMap String AdapterSessionClaimRecord) (generation : String × ℕ) : Prop :=
  ∀ id claim, claims.get? id = some claim → claim.claimToken = generation.1 →
    generation.2 < claim.fence ∨ (generation.2 = claim.fence ∧ claim.status ≠ .held)

/-- The invariant of histories: ended generations are dead, and their tokens used. -/
structure OwnershipHistory.Inv (h : OwnershipHistory) : Prop where
  keyed : Keyed h.store
  exclusive : Exclusive h.store.claims
  used : ∀ id claim, h.store.claims.get? id = some claim → claim.claimToken ∈ h.usedTokens
  endedUsed : ∀ generation ∈ h.ended, generation.1 ∈ h.usedTokens
  endedDead : ∀ generation ∈ h.ended, Dead h.store.claims generation

lemma OwnershipHistory.inv_of_initial {h : OwnershipHistory} (hinit : h.Initial) : h.Inv := by
  obtain ⟨hkeyed, hclaims, hused, hended⟩ := hinit
  have hnone (id : String) (claim : AdapterSessionClaimRecord) :
      h.store.claims.get? id ≠ some claim := by
    rw [hclaims, OrderedMap.get?_empty]
    simp
  refine ⟨hkeyed, ⟨?_, ?_, ?_⟩, ?_, ?_, ?_⟩
  · exact fun id c _ _ hc => absurd hc (hnone id c)
  · exact fun id c _ _ hc => absurd hc (hnone id c)
  · exact fun id c _ _ hc => absurd hc (hnone id c)
  · exact fun id c hc => absurd hc (hnone id c)
  · simp [hended]
  · simp [hended]

section Run

variable {h : OwnershipHistory} {host : HostValues} {r : OwnershipRequest}

/-- A claim after a request continues one, or has a higher fence than every claim under its token had. -/
lemma OwnershipHistory.Inv.claim_cases (hinv : h.Inv) (hfree : h.store.claims.get? host.claimId = none)
    {claim : AdapterSessionClaimRecord} (hclaim : (execute h.store host r).1.claims.get? id = some claim) :
    (∃ claim', h.store.claims.get? id = some claim' ∧ Continues claim' claim) ∨
    (r.presentedToken = some claim.claimToken ∧ ∀ id' claim', h.store.claims.get? id' = some claim' →
      claim'.claimToken = claim.claimToken → claim'.fence < claim.fence) := by
  cases execute_claims hinv.keyed hfree r with
  | edited hall => exact .inl (Edited.some (hclaim ▸ hall id))
  | @generated _ _ generation hg hself hothers =>
    by_cases hid : id = generation.claimId
    · rw [hid, hself, Option.some.injEq] at hclaim
      subst hclaim
      exact .inr ⟨hg.presents, fun id' claim' hclaim' htoken =>
        (hg.incumbent_of_token hinv.keyed hfree hinv.exclusive hclaim' htoken).2⟩
    · exact .inl (Edited.some (hclaim ▸ hothers id hid))

/-- A dead generation stays dead, since its token is used. -/
lemma OwnershipHistory.Inv.dead_step (hinv : h.Inv) (hhonest : h.Honest (host, r))
    {generation : String × ℕ} (hused : generation.1 ∈ h.usedTokens)
    (hdead : Dead h.store.claims generation) :
    Dead (execute h.store host r).1.claims generation := by
  intro id claim hclaim htoken
  rcases hinv.claim_cases hhonest.1 hclaim with ⟨claim', hold, hcontinues⟩ | ⟨hpresents, habove⟩
  · rw [hcontinues.fence]
    rcases hdead id claim' hold (hcontinues.claimToken.symm.trans htoken) with hlt | ⟨heq, hheld⟩
    · exact .inl hlt
    · exact .inr ⟨heq, fun hh => hheld (hcontinues.held hh)⟩
  · obtain ⟨id', claim', hold, htoken'⟩ := hhonest.2 claim.claimToken hpresents (htoken ▸ hused)
    have hfence := habove id' claim' hold htoken'
    rcases hdead id' claim' hold (htoken'.trans htoken) with hlt | ⟨heq, -⟩
    · exact .inl (hlt.trans hfence)
    · exact .inl (heq ▸ hfence)

/-- A generation that a request ends is dead. -/
lemma OwnershipHistory.Inv.dead_of_ended (hinv : h.Inv)
    (hfree : h.store.claims.get? host.claimId = none) {generation : String × ℕ}
    (hbefore : generation ∈ heldGenerations h.store)
    (hafter : generation ∉ heldGenerations (execute h.store host r).1) :
    Dead (execute h.store host r).1.claims generation := by
  obtain ⟨id₀, claim₀, hclaim₀, -, htoken₀, hfence₀⟩ := mem_heldGenerations.mp hbefore
  intro id claim hclaim htoken
  rcases hinv.claim_cases hfree hclaim with ⟨claim', hold, hcontinues⟩ | ⟨-, habove⟩
  · have htoken' : claim'.claimToken = claim₀.claimToken :=
      (hcontinues.claimToken.symm.trans htoken).trans htoken₀.symm
    obtain rfl := hinv.exclusive.token id claim' id₀ claim₀ hold hclaim₀ htoken'
    rw [hold, Option.some.injEq] at hclaim₀
    subst hclaim₀
    have hfence : claim.fence = generation.2 := hcontinues.fence.trans hfence₀
    exact .inr ⟨hfence.symm, fun hheld =>
      hafter (mem_heldGenerations.mpr ⟨id, claim, hclaim, hheld, htoken, hfence⟩)⟩
  · exact .inl (hfence₀ ▸ habove id₀ claim₀ hclaim₀ (htoken₀.trans htoken.symm))

/-- **One honest request keeps the invariant.** -/
lemma OwnershipHistory.Inv.step (hinv : h.Inv) (hhonest : h.Honest (host, r)) {h' : OwnershipHistory}
    (hstep : h.step (host, r) = some h') : h'.Inv := by
  rw [OwnershipHistory.step, Option.some.injEq] at hstep
  subst hstep
  refine ⟨keyed_execute hinv.keyed hhonest.1 r,
    hinv.exclusive.step hinv.keyed hhonest.1 (execute_claims hinv.keyed hhonest.1 r),
    fun id claim hclaim => ?_, fun generation hmem => ?_, fun generation hmem => ?_⟩
  · exact List.mem_append_right _ (List.mem_map.mpr
      ⟨claim, OrderedMap.mem_values_iff.mpr ⟨id, hclaim⟩, rfl⟩)
  · refine List.mem_append_left _ ?_
    rcases List.mem_append.mp hmem with hmem | hmem
    · exact hinv.endedUsed generation hmem
    · obtain ⟨id, claim, hclaim, -, htoken, -⟩ :=
        mem_heldGenerations.mp (List.mem_filter.mp hmem).1
      exact htoken ▸ hinv.used id claim hclaim
  · rcases List.mem_append.mp hmem with hmem | hmem
    · exact hinv.dead_step hhonest (hinv.endedUsed generation hmem) (hinv.endedDead generation hmem)
    · obtain ⟨hbefore, hafter⟩ := List.mem_filter.mp hmem
      exact hinv.dead_of_ended hhonest.1 hbefore (by simpa using hafter)

/-- A currency write is not under an ended generation. -/
lemma OwnershipHistory.Inv.wrote_not_ended (hinv : h.Inv) (hhonest : h.Honest (host, r))
    {agentId token : String} {fence : ℕ}
    (hwrote : wroteUnder r (execute h.store host r).2 = some (agentId, token, fence)) :
    (token, fence) ∉ h.ended := by
  intro hended
  have hdead := hinv.endedDead _ hended
  obtain ⟨claim, -, rfl, rfl, ⟨hclaim, hheld⟩ | ⟨request, incumbent, hg⟩⟩ :=
    wroteUnder_authority hinv.keyed hhonest.1 hwrote
  · rcases hdead _ claim hclaim rfl with hlt | ⟨-, hnot⟩
    · exact absurd hlt (lt_irrefl _)
    · exact hnot hheld
  · obtain ⟨id, claim', hold, htoken⟩ :=
      hhonest.2 claim.claimToken hg.presents (hinv.endedUsed _ hended)
    have hfence := (hg.incumbent_of_token hinv.keyed hhonest.1 hinv.exclusive hold htoken).2
    rcases hdead id claim' hold htoken with hlt | ⟨heq, -⟩
    · exact absurd (hlt.trans hfence) (lt_irrefl _)
    · exact absurd (heq ▸ hfence) (lt_irrefl _)

end Run

/-- **Provider-session exclusivity and generation fencing**, over every history that starts without
claims and presents no token whose claim is gone: claims are exclusive; currency fences never fall, and
revisions count the reported writes; an allocated fence is above all that its agent carries; and no
currency is written under a generation that has ended.

**Proof sketch.** The invariant says that the pair of every ended generation is dead: a claim under its
token has a higher fence or is not held.  A claim that continues an old one keeps its token and fence; a
new generation under a used token replaces the claim that carries it, with a higher fence. -/
theorem ownership_exclusive_fenced {h : OwnershipHistory}
    (hreach : Reach OwnershipHistory.Initial OwnershipHistory.step OwnershipHistory.Honest h) :
    Exclusive h.store.claims ∧
    ∀ host r, h.Honest (host, r) →
      CurrencyStep h.store (execute h.store host r).1 (wroteUnder r (execute h.store host r).2) ∧
      FencesStep h.store (execute h.store host r).1 ∧
      ∀ agentId token fence, wroteUnder r (execute h.store host r).2 = some (agentId, token, fence) →
        (token, fence) ∉ h.ended := by
  have hinv : h.Inv := hreach.invariant OwnershipHistory.Inv (fun _ => OwnershipHistory.inv_of_initial)
    fun _ _ _ hinv hok hstep => hinv.step hok hstep
  refine ⟨hinv.exclusive, fun host r hhonest => ⟨currencyStep_execute hinv.keyed hhonest.1,
    fencesStep_execute hinv.keyed hhonest.1, fun agentId token fence hwrote => ?_⟩⟩
  exact hinv.wrote_not_ended hhonest hwrote

/-! ### A history -/

/-- An idle member of a session. -/
def sampleAgent : MakaioSessionAgent where
  agentId := "agent"
  adapterId := "adapter"
  sessionId := "session"
  runtimeOwner := none
  recoveryAttemptId := none
  adapterSessionId := none
  currentAdapterSessionId := none
  currentAdapterSessionIdState := none
  revision := none
  currencyFence := none
  status := .idle
  lastActivityAt := 0

/-- A store with one active session and one member. -/
def sampleStore : SessionStorageMemoryState where
  sessions := OrderedMap.empty.set "session" ⟨.active, none, none, none, none⟩
  agents := OrderedMap.empty.set "agent" sampleAgent
  claims := OrderedMap.empty
  runtimeInstances := OrderedMap.empty

lemma keyed_sampleStore : Keyed sampleStore where
  agents id agent h := by
    rw [sampleStore, OrderedMap.get?_set] at h
    split_ifs at h with hid
    · cases h
      exact hid.symm
    · cases h
  claims id claim h := by cases h
  runtimeInstances key record h := by cases h

/-- A claim of the member on a provider session. -/
def sampleClaim : SessionOwnershipClaimRequest where
  machineId := "machine"
  adapterId := "adapter"
  providerSessionId := some "provider"
  adapterName := "adapter"
  ownerInstance := some "process"
  topology := .machineExclusive
  recoveryGuard := none
  recoveryAttemptId := none
  sessionId := "session"
  agentId := "agent"
  claimToken := "token"
  supersedes := none
  designateLead := none

/-- A claim, a settle under it, and its release: the generation has ended, and nothing writes under it. -/
theorem ownership_exclusive_fenced_released : ∃ h : OwnershipHistory,
    h.ended = [("token", 1)] ∧ Exclusive h.store.claims ∧
    ∀ host r, h.Honest (host, r) → ∀ agentId,
      wroteUnder r (execute h.store host r).2 ≠ some (agentId, "token", 1) := by
  have hinitial : OwnershipHistory.Initial ⟨sampleStore, [], []⟩ := ⟨keyed_sampleStore, rfl, rfl, rfl⟩
  have hnone {a : HostValues × OwnershipRequest} {h : OwnershipHistory}
      (hfree : h.store.claims.get? a.1.claimId = none) (hpresents : a.2.presentedToken = none) :
      h.Honest a := ⟨hfree, fun token htoken => by
    rw [hpresents] at htoken
    cases htoken⟩
  let claimRequest : HostValues × OwnershipRequest := (⟨"claim", 1⟩, .claim sampleClaim)
  let settleRequest : HostValues × OwnershipRequest := (⟨"unused", 2⟩,
    .settleCurrency ⟨"agent", "token", 1, 0, ⟨some "provider", .confirmed⟩⟩)
  let releaseRequest : HostValues × OwnershipRequest := (⟨"unused", 3⟩,
    .release ⟨"agent", "token", .released⟩)
  have hclaimed : Reach OwnershipHistory.Initial OwnershipHistory.step OwnershipHistory.Honest _ :=
    .next (a := claimRequest) (.start hinitial) ⟨rfl, fun _ _ hused => by cases hused⟩ rfl
  have hsettled : Reach OwnershipHistory.Initial OwnershipHistory.step OwnershipHistory.Honest _ :=
    .next (a := settleRequest) hclaimed (hnone (by decide) rfl) rfl
  have hreleased : Reach OwnershipHistory.Initial OwnershipHistory.step OwnershipHistory.Honest _ :=
    .next (a := releaseRequest) hsettled (hnone (by decide) rfl) rfl
  obtain ⟨hexclusive, hsteps⟩ := ownership_exclusive_fenced hreleased
  refine ⟨_, by decide, hexclusive, fun host r hhonest agentId hwrote => ?_⟩
  exact (hsteps host r hhonest).2.2 agentId "token" 1 hwrote (by decide)

end Makaio.Ownership

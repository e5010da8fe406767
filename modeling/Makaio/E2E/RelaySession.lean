import Makaio.E2E.RelayAuth

set_option autoImplicit false

/-!
# The session of one instance of the relay handshake

What an instance keeps over all its generations, as long as it has one ephemeral pair in each: a pair is
written by a task of the current generation, and only when there is none.  `ensureLocalExchangeMessage`
checks neither after its `await`, so that this is a condition on the run.

## Main definitions

* `RelayAuth.Backed` — the session key comes from the announced pair and a verified exchange.
* `RelayAuth.Orderly` — the condition on a step.
* `RelayAuth.Superseded`, `RelayAuth.SameSession` — a step of a task of an older
  generation, and that it changes nothing of the session.
* `RelayAuth.Inv` — the invariant.

## Main results

* `RelayAuth.Inv.step` — an orderly step keeps the invariant.
* `RelayAuth.sameSession_of_superseded` — and a task of an older generation changes nothing.
-/

namespace Makaio.E2E.RelayAuth

open Foundations

variable {Pair Secret SigningKey Key : Type}
variable (crypto : RelayCrypto Pair Secret SigningKey Key) (options : E2ERelayAuthOptions)

/-! ### What is asked of a session -/

/-- A session key comes from a pair, announced by a message, and from an exchange of a peer that was
verified under a key of that peer. -/
structure Derivation (s : RelayAuth Pair SigningKey Key) (key : Key) (pair : Pair)
    (localMessage peer : RelayKeyExchangeMessage) : Prop where
  ephemeral : s.localEphemeral = some pair
  exchange : s.localExchangeMessage = some localMessage
  identity : localMessage.identityId = options.identityId
  publicKey : localMessage.ephemeralPublicKey = crypto.agreement.publicKey pair
  announced : localMessage ∈ s.announced
  only : ∀ message ∈ s.announced, message = localMessage
  accepted : s.accepted = some peer
  peerId : s.peerId = some peer.identityId
  verified : ∃ peerKey, (peer.identityId, peerKey) ∈ s.answers ∧
    verifyEphemeralKeySignature crypto peerKey peer.ephemeralPublicKey peer.signature peer.identityId = true
  derived : ∃ salt, deriveRelaySaltHex crypto options.identityId peer.identityId
      localMessage.ephemeralPublicKey peer.ephemeralPublicKey = some salt ∧
    deriveE2ESessionKey crypto pair peer.ephemeralPublicKey salt = some key

/-- Whenever there is a session key, it comes from the pair that was announced in this generation and from
a verified exchange of the recorded peer. -/
def Backed (s : RelayAuth Pair SigningKey Key) : Prop :=
  ∀ key, s.sessionKey = some key → ∃ pair localMessage peer,
    Derivation crypto options s key pair localMessage peer

/-- The step is one of a task of another generation than the current one. -/
def Superseded (s : RelayAuth Pair SigningKey Key) (event : RelayEvent Pair SigningKey) : Prop :=
  ∃ t task, s.tasks[t]? = some task ∧ task.generation ≠ s.authGeneration ∧
    ((∃ pair signature, event = .generated t pair signature) ∨ (∃ peerKey, event = .lookedUp t peerKey) ∨
      (∃ delivers, event = .resume t delivers) ∨ event = .rejected t)

/-- Session key, peer, ephemeral pair and announced message are the same. -/
structure SameSession (s s' : RelayAuth Pair SigningKey Key) : Prop where
  sessionKey : s'.sessionKey = s.sessionKey
  peerId : s'.peerId = s.peerId
  localEphemeral : s'.localEphemeral = s.localEphemeral
  localExchangeMessage : s'.localExchangeMessage = s.localExchangeMessage
  announced : s'.announced = s.announced

/-- The condition on a step: a pair is generated for a task of the current generation while there is none,
and the key of a session whose pair was never announced is not stored by a step whose send throws. -/
def Orderly (s : RelayAuth Pair SigningKey Key) : RelayEvent Pair SigningKey → Prop
  | .generated t _ _ => s.localEphemeral = none ∧
      ∀ task ∈ s.tasks[t]?, task.generation = s.authGeneration
  | .resume t delivers => ∀ task ∈ s.tasks[t]?, task.stage.isDerivingKey = true →
      task.generation = s.authGeneration → delivers = true ∨ s.announced ≠ []
  | _ => True

instance (s : RelayAuth Pair SigningKey Key) (event : RelayEvent Pair SigningKey) :
    Decidable (Orderly s event) := by
  cases event <;> unfold Orderly <;> infer_instance

/-! ### The invariant -/

/-- What a task of the current generation keeps in its variables is still what the instance has. -/
def StageInv (s : RelayAuth Pair SigningKey Key) : Stage Pair SigningKey → Prop
  | .ensured _ localMessage | .lookingUp _ localMessage => s.localExchangeMessage = some localMessage
  | .verifying peer localMessage peerKey =>
    s.localExchangeMessage = some localMessage ∧ (peer.identityId, peerKey) ∈ s.answers
  | .salting peer localMessage => s.localExchangeMessage = some localMessage ∧
      ∃ peerKey, (peer.identityId, peerKey) ∈ s.answers ∧ verifyEphemeralKeySignature crypto peerKey
        peer.ephemeralPublicKey peer.signature peer.identityId = true
  | .derivingKey peer localMessage pair salt => s.localExchangeMessage = some localMessage ∧
      (∃ peerKey, (peer.identityId, peerKey) ∈ s.answers ∧ verifyEphemeralKeySignature crypto peerKey
        peer.ephemeralPublicKey peer.signature peer.identityId = true) ∧
      s.localEphemeral = some pair ∧ deriveRelaySaltHex crypto options.identityId peer.identityId
        localMessage.ephemeralPublicKey peer.ephemeralPublicKey = some salt
  | _ => True

/-- A task is of a generation up to the current one, and those of the current one can send. -/
structure TaskInv (s : RelayAuth Pair SigningKey Key) (task : RelayTask Pair SigningKey) : Prop where
  le : task.generation ≤ s.authGeneration
  sends : task.generation = s.authGeneration → s.sendAuthMessage = true
  stage : task.generation = s.authGeneration → StageInv crypto options s task.stage

/-- The invariant of an instance. -/
structure Inv (s : RelayAuth Pair SigningKey Key) : Prop where
  pair : ∀ pair, s.localEphemeral = some pair → ∃ localMessage,
    s.localExchangeMessage = some localMessage ∧ localMessage.identityId = options.identityId ∧
      localMessage.ephemeralPublicKey = crypto.agreement.publicKey pair
  pairless : s.localEphemeral = none → s.localExchangeMessage = none
  announced : ∀ message ∈ s.announced, s.localExchangeMessage = some message
  announced_of_sent : s.sentLocalExchange = true → s.announced ≠ []
  tasks : ∀ (t : ℕ) task, s.tasks[t]? = some task → TaskInv crypto options s task
  backed : Backed crypto options s
  accepted : s.accepted.isSome = s.sessionKey.isSome

variable {crypto options}

/-- The same session with the same accepted exchange and more answers is still backed. -/
lemma Backed.of_same {s s' : RelayAuth Pair SigningKey Key} (h : Backed crypto options s)
    (hsame : SameSession s s') (haccepted : s'.accepted = s.accepted)
    (hanswers : s.answers ⊆ s'.answers) : Backed crypto options s' := by
  intro key hkey
  obtain ⟨pair, localMessage, peer, hd⟩ := h key (hsame.sessionKey ▸ hkey)
  obtain ⟨peerKey, hanswer, hverified⟩ := hd.verified
  exact ⟨pair, localMessage, peer,
    { ephemeral := hsame.localEphemeral.trans hd.ephemeral
      exchange := hsame.localExchangeMessage.trans hd.exchange
      identity := hd.identity
      publicKey := hd.publicKey
      announced := hsame.announced ▸ hd.announced
      only := hsame.announced ▸ hd.only
      accepted := haccepted.trans hd.accepted
      peerId := hsame.peerId.trans hd.peerId
      verified := ⟨peerKey, hanswers hanswer, hverified⟩
      derived := hd.derived }⟩

/-- An instance that was just constructed satisfies the invariant. -/
lemma Inv.new : Inv crypto options (new : RelayAuth Pair SigningKey Key) where
  pair pair h := by cases h
  pairless _ := rfl
  announced message h := by cases h
  announced_of_sent h := by cases h
  tasks t task h := by simp [RelayAuth.new] at h
  backed key h := by cases h
  accepted := rfl

variable {s : RelayAuth Pair SigningKey Key}

/-- What is right for a stage stays right with one more answer. -/
lemma StageInv.of_answers {stage : Stage Pair SigningKey} (h : StageInv crypto options s stage)
    {answer : Utf16 × SigningKey} :
    StageInv crypto options { s with answers := s.answers ++ [answer] } stage := by
  cases stage with
  | verifying peer localMessage peerKey => exact ⟨h.1, List.mem_append_left _ h.2⟩
  | salting peer localMessage =>
    obtain ⟨hmessage, peerKey, hanswer, hverified⟩ := h
    exact ⟨hmessage, peerKey, List.mem_append_left _ hanswer, hverified⟩
  | derivingKey peer localMessage pair salt =>
    obtain ⟨hmessage, ⟨peerKey, hanswer, hverified⟩, hpair, hsalt⟩ := h
    exact ⟨hmessage, ⟨peerKey, List.mem_append_left _ hanswer, hverified⟩, hpair, hsalt⟩
  | generating _ | ensured _ _ | waiting | received _ | lookingUp _ _ | processed | failed | ended _ =>
    exact h

/-- The tasks after one of them moved. -/
lemma getElem?_setStage (s : RelayAuth Pair SigningKey Key) (t : ℕ) (stage : Stage Pair SigningKey)
    (i : ℕ) : (s.setStage t stage).tasks[i]? =
      (s.tasks[i]?).map fun task => if t = i then { task with stage := stage } else task := by
  rw [setStage, List.getElem?_modify]
  by_cases h : t = i <;> simp [h]

/-- A task moves to a stage that is right for it. -/
lemma Inv.setStage (h : Inv crypto options s) (t : ℕ) (stage : Stage Pair SigningKey)
    (hstage : ∀ task, s.tasks[t]? = some task → task.generation = s.authGeneration →
      StageInv crypto options s stage) : Inv crypto options (s.setStage t stage) := by
  refine ⟨h.pair, h.pairless, h.announced, h.announced_of_sent, ?_,
    h.backed.of_same ⟨rfl, rfl, rfl, rfl, rfl⟩ rfl (List.Subset.refl _), h.accepted⟩
  · intro i task htask
    rw [getElem?_setStage, Option.map_eq_some_iff] at htask
    obtain ⟨before, hbefore, rfl⟩ := htask
    have hinv := h.tasks i before hbefore
    split_ifs with hti
    · subst hti
      exact ⟨hinv.le, hinv.sends, hstage before hbefore⟩
    · exact ⟨hinv.le, hinv.sends, hinv.stage⟩

/-- A task is started in the current generation while there is a function to send with. -/
lemma Inv.spawn (h : Inv crypto options s) (task : RelayTask Pair SigningKey)
    (hle : task.generation ≤ s.authGeneration) (hsends : s.sendAuthMessage = true)
    (hstage : StageInv crypto options s task.stage) : Inv crypto options (s.spawn task) := by
  refine ⟨h.pair, h.pairless, h.announced, h.announced_of_sent, ?_,
    h.backed.of_same ⟨rfl, rfl, rfl, rfl, rfl⟩ rfl (List.Subset.refl _), h.accepted⟩
  · intro i other hother
    rcases List.mem_append.mp (List.mem_of_getElem? hother) with hmem | hmem
    · obtain ⟨j, hj⟩ := List.mem_iff_getElem?.mp hmem
      have hinv := h.tasks j other hj
      exact ⟨hinv.le, hinv.sends, hinv.stage⟩
    · obtain rfl := List.mem_singleton.mp hmem
      exact ⟨hle, fun _ => hsends, fun _ => hstage⟩

/-- The queue, the wait and the flag of a dispatch are no part of the invariant. -/
lemma Inv.queue (h : Inv crypto options s) (pendingPeer : Option ℕ)
    (earlyPeer : Option RelayKeyExchangeMessage) (processingExchange : Bool) :
    Inv crypto options { s with pendingPeer, earlyPeer, processingExchange } := by
  refine ⟨h.pair, h.pairless, h.announced, h.announced_of_sent, ?_,
    h.backed.of_same ⟨rfl, rfl, rfl, rfl, rfl⟩ rfl (List.Subset.refl _), h.accepted⟩
  · intro i task htask
    have hinv := h.tasks i task htask
    exact ⟨hinv.le, hinv.sends, hinv.stage⟩

/-- A session that is reset has nothing, and every task is of an older generation. -/
lemma Inv.cleanup (h : Inv crypto options s) : Inv crypto options s.cleanup := by
  have htasks : ∀ (t : ℕ) task, s.cleanup.tasks[t]? = some task →
      task.generation < s.authGeneration + 1 := by
    intro t task htask
    rw [RelayAuth.cleanup] at htask
    cases hpending : s.pendingPeer with
    | none =>
      rw [hpending] at htask
      exact Nat.lt_succ_of_le (h.tasks t task htask).le
    | some waiter =>
      rw [hpending] at htask
      have hmoved := (h.setStage waiter .failed fun _ _ _ => trivial).tasks t task htask
      exact Nat.lt_succ_of_le hmoved.le
  have hgeneration : s.cleanup.authGeneration = s.authGeneration + 1 := by
    rw [RelayAuth.cleanup]
    cases s.pendingPeer <;> rfl
  refine ⟨(fun pair hpair => by cases hpair), fun _ => rfl, (fun m hm => by cases hm),
    (fun hsent => by cases hsent), fun t task htask => ?_, (fun key hkey => by cases hkey), rfl⟩
  have hlt := htasks t task htask
  exact ⟨by omega, fun heq => by omega, fun heq => by omega⟩

/-- The own message is returned if there is a pair, and generated otherwise. -/
lemma stageInv_ensureLocalExchangeMessage (s : RelayAuth Pair SigningKey Key) (purpose : Purpose) :
    StageInv crypto options s (s.ensureLocalExchangeMessage purpose) := by
  unfold ensureLocalExchangeMessage
  split
  · assumption
  · trivial

variable {generation t : ℕ} {delivers : Bool}

section

variable (h : Inv crypto options s)
include h

/-- `processPeerExchange` starts. -/
lemma Inv.processPeerExchange (t : ℕ) (peer : RelayKeyExchangeMessage) :
    Inv crypto options (s.processPeerExchange t peer) := by
  unfold RelayAuth.processPeerExchange
  split
  · exact h.setStage t _ fun _ _ _ => stageInv_ensureLocalExchangeMessage s _
  · exact (h.queue s.pendingPeer (some peer) s.processingExchange).setStage t _ fun _ _ _ => trivial

/-- `processPeerExchange` is dispatched while there is a function to send with. -/
lemma Inv.dispatchPeerExchange (peer : RelayKeyExchangeMessage) (hle : generation ≤ s.authGeneration)
    (hsends : s.sendAuthMessage = true) :
    Inv crypto options (s.dispatchPeerExchange peer generation) :=
  ((h.queue s.pendingPeer s.earlyPeer true).spawn
    { origin := .dispatchPeerExchange, generation, stage := .received peer }
    hle hsends trivial).processPeerExchange _ peer

/-- The exchange of the peer is awaited. -/
lemma Inv.waitForPeerExchange (t : ℕ) :
    Inv crypto options (s.waitForPeerExchange t) := by
  unfold RelayAuth.waitForPeerExchange
  split
  · exact (h.queue s.pendingPeer none s.processingExchange).setStage t _ fun _ _ _ => trivial
  · exact (h.queue (some t) s.earlyPeer s.processingExchange).setStage t _ fun _ _ _ => trivial

/-- The queued exchange is dispatched again. -/
lemma Inv.retryQueuedPeerExchange (generation : ℕ) :
    Inv crypto options (s.retryQueuedPeerExchange options generation) := by
  unfold RelayAuth.retryQueuedPeerExchange
  split
  · exact h
  · rename_i hopen
    simp only [Bool.or_eq_true, not_or, Bool.not_eq_true, bne_eq_false_iff_eq,
      Bool.not_eq_false'] at hopen
    split
    · exact (h.queue s.pendingPeer none s.processingExchange).dispatchPeerExchange _
        (le_of_eq hopen.2) hopen.1.1.1.2
    · exact h

/-- `authenticateClient` goes on after the announcement. -/
lemma Inv.awaitPeer (t : ℕ) (hle : generation ≤ s.authGeneration) (hsends : s.sendAuthMessage = true) :
    Inv crypto options (s.awaitPeer options t generation) := by
  unfold RelayAuth.awaitPeer
  split
  · exact h.waitForPeerExchange t
  · split
    · exact ((h.queue s.pendingPeer none s.processingExchange).dispatchPeerExchange _ hle
        hsends).setStage t _ fun _ _ _ => trivial
    · exact h.setStage t _ fun _ _ _ => trivial

/-- A call of `authenticateClient` begins a generation of its own. -/
lemma Inv.authenticateClient :
    Inv crypto options (s.authenticateClient options) := by
  have hclean := h.cleanup
  have hinstalled : Inv crypto options
      { s.cleanup with
        earlyPeer := if s.sendAuthMessage then none else s.earlyPeer, sendAuthMessage := true } := by
    refine ⟨hclean.pair, hclean.pairless, hclean.announced, hclean.announced_of_sent, ?_,
      hclean.backed.of_same ⟨rfl, rfl, rfl, rfl, rfl⟩ rfl (List.Subset.refl _), hclean.accepted⟩
    intro t task htask
    have hinv := hclean.tasks t task htask
    exact ⟨hinv.le, fun _ => rfl, hinv.stage⟩
  have hspawned := hinstalled.spawn
    { origin := .authenticateClient, generation := s.cleanup.authGeneration, stage := .waiting }
    le_rfl rfl trivial
  unfold RelayAuth.authenticateClient
  dsimp only
  split
  · exact hspawned.setStage _ _ fun _ _ _ => stageInv_ensureLocalExchangeMessage _ _
  · exact hspawned.awaitPeer _ le_rfl rfl

/-- An exchange of the peer arrives. -/
lemma Inv.handleAuthMessage (payload : RelayKeyExchangeMessage) :
    Inv crypto options (s.handleAuthMessage options payload) := by
  unfold RelayAuth.handleAuthMessage
  split
  · exact h
  · split
    · exact (h.queue none s.earlyPeer s.processingExchange).setStage _ _ fun _ _ _ => trivial
    · have hqueued := h.queue s.pendingPeer (some payload) s.processingExchange
      dsimp only
      split
      · rename_i hopen
        simp only [Bool.and_eq_true] at hopen
        exact hqueued.dispatchPeerExchange payload le_rfl hopen.1.1.2
      · exact hqueued

end

/-! ### Tasks that continue -/

/-- A send changes nothing but the records of what was sent. -/
lemma sendLocalExchange_eq (s : RelayAuth Pair SigningKey Key) (force delivers : Bool) :
    ∃ sentLocalExchange sent announced, (s.sendLocalExchange force delivers).1 =
      { s with sentLocalExchange, sent, announced } := by
  unfold RelayAuth.sendLocalExchange
  split
  · split_ifs <;> exact ⟨_, _, _, rfl⟩
  · exact ⟨_, _, _, rfl⟩

section

variable (h : Inv crypto options s)
include h

/-- A send announces the own message. -/
lemma Inv.sendLocalExchange (force delivers : Bool) :
    Inv crypto options (s.sendLocalExchange force delivers).1 := by
  unfold RelayAuth.sendLocalExchange
  split
  · rename_i message hsends hmessage
    split_ifs
    · exact h
    · refine ⟨h.pair, h.pairless, ?_, fun _ => by simp, ?_, ?_, h.accepted⟩
      · intro other hother
        rcases List.mem_append.mp hother with hold | hnew
        · exact h.announced other hold
        · exact List.mem_singleton.mp hnew ▸ hmessage
      · intro t task htask
        have hinv := h.tasks t task htask
        exact ⟨hinv.le, hinv.sends, hinv.stage⟩
      · intro key hkey
        obtain ⟨pair, localMessage, peer, hd⟩ := h.backed key hkey
        have hsame : message = localMessage := Option.some.inj (hmessage.symm.trans hd.exchange)
        refine ⟨pair, localMessage, peer, ⟨hd.ephemeral, hd.exchange, hd.identity, hd.publicKey,
          List.mem_append_left _ hd.announced, ?_, hd.accepted, hd.peerId, hd.verified, hd.derived⟩⟩
        intro other hother
        rcases List.mem_append.mp hother with hold | hnew
        · exact hd.only other hold
        · exact (List.mem_singleton.mp hnew).trans hsame
    · exact h
  · exact h

/-- After a send that returned, or an earlier one, the own message was announced. -/
lemma Inv.announced_sendLocalExchange {message : RelayKeyExchangeMessage} (hsends : s.sendAuthMessage = true)
    (hmessage : s.localExchangeMessage = some message) (force : Bool)
    (hdelivers : delivers = true ∨ s.announced ≠ []) :
    message ∈ (s.sendLocalExchange force delivers).1.announced := by
  have hold : s.announced ≠ [] → message ∈ s.announced := by
    intro hne
    obtain ⟨other, hother⟩ := List.exists_mem_of_ne_nil _ hne
    cases hmessage.symm.trans (h.announced other hother)
    exact hother
  rw [RelayAuth.sendLocalExchange, hsends, hmessage]
  split_ifs with hbefore hreturns
  · exact hold (h.announced_of_sent (by simpa using (Bool.and_eq_true _ _ ▸ hbefore).2))
  · exact List.mem_append_right _ (List.mem_singleton_self _)
  · exact hold (hdelivers.resolve_left hreturns)

/-- A pair is generated for a task of the current generation while there is none. -/
lemma Inv.keyGenerated (purpose : Purpose) (pair : Pair) (signature : Utf16) (hnone : s.localEphemeral = none) :
    Inv crypto options (s.keyGenerated crypto options t purpose pair signature) := by
  have hmessage := h.pairless hnone
  have hnothing : s.announced = [] := by
    refine List.eq_nil_iff_forall_not_mem.mpr fun m hm => ?_
    rw [h.announced m hm] at hmessage
    cases hmessage
  have hwritten : Inv crypto options
      { s with
        localEphemeral := some pair
        localExchangeMessage := some
          { identityId := options.identityId
            ephemeralPublicKey := crypto.agreement.publicKey pair
            signature } } := by
    refine ⟨?_, ?_, ?_, h.announced_of_sent, ?_, ?_, h.accepted⟩
    · intro other hother
      cases hother
      exact ⟨_, rfl, rfl, rfl⟩
    · intro hother
      cases hother
    · intro m hm
      rw [hnothing] at hm
      cases hm
    · intro i task htask
      have hinv := h.tasks i task htask
      refine ⟨hinv.le, hinv.sends, fun heq => ?_⟩
      -- a task that had seen the own message would have seen a pair
      have hstage := hinv.stage heq
      cases hcase : task.stage with
      | ensured _ _ | lookingUp _ _ | verifying _ _ _ | salting _ _ | derivingKey _ _ _ _ =>
        simp [hcase, StageInv, hmessage] at hstage
      | generating _ | waiting | received _ | processed | failed | ended _ => trivial
    · intro key hkey
      obtain ⟨_, _, _, hd⟩ := h.backed key hkey
      cases hnone.symm.trans hd.ephemeral
  exact hwritten.setStage t _ fun _ _ _ => rfl

/-- The announcement of an initiator. -/
lemma Inv.announce (t : ℕ) (delivers : Bool)
    (hsends : generation = s.authGeneration → s.sendAuthMessage = true) :
    Inv crypto options (s.announce options t generation delivers) := by
  unfold RelayAuth.announce
  split_ifs with hgeneration
  · exact h.setStage t _ fun _ _ _ => trivial
  · rw [not_not] at hgeneration
    have hsent := h.sendLocalExchange false delivers
    obtain ⟨_, _, _, heq⟩ := sendLocalExchange_eq s false delivers
    dsimp only
    split_ifs
    · refine hsent.awaitPeer t ?_ ?_
      · rw [heq, hgeneration]
      · rw [heq]
        exact hsends hgeneration
    · exact hsent.setStage t _ fun _ _ _ => trivial

/-- A session key is stored that was derived in the current generation, by a step that announces the own
message unless it was announced before. -/
lemma Inv.establish (t : ℕ) {peer localMessage : RelayKeyExchangeMessage} {pair : Pair} {salt : Utf16}
    {sessionKey : Key} (hsends : generation = s.authGeneration → s.sendAuthMessage = true)
    (hstage : generation = s.authGeneration →
      StageInv crypto options s (.derivingKey peer localMessage pair salt))
    (hkey : deriveE2ESessionKey crypto pair peer.ephemeralPublicKey salt = some sessionKey)
    (hdelivers : generation = s.authGeneration → delivers = true ∨ s.announced ≠ []) :
    Inv crypto options (s.establish options t generation peer sessionKey delivers) := by
  unfold RelayAuth.establish
  split_ifs with hgeneration
  · exact h.setStage t _ fun _ _ _ => trivial
  · rw [not_not] at hgeneration
    obtain ⟨hmessage, hverified, hpair, hsalt⟩ := hstage hgeneration
    obtain ⟨_, hfirst, hidentity, hpublic⟩ := h.pair pair hpair
    cases hmessage.symm.trans hfirst
    -- the send does not read what is stored before it
    have hcommute : ∀ force, ({ s with
          sessionKey := some sessionKey, peerId := some peer.identityId, accepted := some peer } :
            RelayAuth Pair SigningKey Key).sendLocalExchange force delivers =
        ({ (s.sendLocalExchange force delivers).1 with
            sessionKey := some sessionKey, peerId := some peer.identityId, accepted := some peer },
          (s.sendLocalExchange force delivers).2) := by
      intro force
      unfold RelayAuth.sendLocalExchange
      dsimp only
      split
      · split_ifs <;> rfl
      · rfl
    dsimp only
    rw [hcommute]
    have hsent := h.sendLocalExchange (options.mode = .initiator) delivers
    have hannounced := h.announced_sendLocalExchange (hsends hgeneration) hmessage
      (options.mode = .initiator) (hdelivers hgeneration)
    obtain ⟨sentLocalExchange, sent, announced, heq⟩ :=
      sendLocalExchange_eq s (options.mode = .initiator) delivers
    rw [heq] at hsent hannounced ⊢
    have hstored : Inv crypto options
        { s with
          sentLocalExchange, sent, announced, sessionKey := some sessionKey
          peerId := some peer.identityId, accepted := some peer } := by
      refine ⟨hsent.pair, hsent.pairless, hsent.announced, hsent.announced_of_sent, ?_, ?_, rfl⟩
      · intro i task htask
        have hinv := hsent.tasks i task htask
        exact ⟨hinv.le, hinv.sends, hinv.stage⟩
      · intro key hstored
        cases hstored
        exact ⟨pair, _, peer,
          { ephemeral := hpair
            exchange := hmessage
            identity := hidentity
            publicKey := hpublic
            announced := hannounced
            only := fun other hother =>
              Option.some.inj ((hsent.announced other hother).symm.trans hmessage)
            accepted := rfl
            peerId := rfl
            verified := hverified
            derived := ⟨salt, hsalt, hkey⟩ }⟩
    exact hstored.setStage t _ fun _ _ _ => by split_ifs <;> trivial

/-- A task ends. -/
lemma Inv.settle (t : ℕ) (task : RelayTask Pair SigningKey) (threw : Bool) :
    Inv crypto options (s.settle options t task threw) := by
  unfold RelayAuth.settle
  split
  · exact h.setStage t _ fun _ _ _ => trivial
  · have hended := h.setStage t (.ended true) fun _ _ _ => trivial
    dsimp only
    split_ifs
    · exact (hended.queue _ _ false).retryQueuedPeerExchange _
    · exact hended

end

/-! ### Steps -/

variable {s' : RelayAuth Pair SigningKey Key}
variable {task : RelayTask Pair SigningKey} {event : RelayEvent Pair SigningKey}

/-- A task continues. -/
lemma Inv.resume (h : Inv crypto options s) (htask : s.tasks[t]? = some task)
    (horderly : Orderly s (.resume t delivers)) (hs' : s.resume crypto options t task delivers = some s') :
    Inv crypto options s' := by
  have hinv := h.tasks t task htask
  -- what is right for the stage of the task is right for it in the current generation
  have hmove : ∀ stage, (task.generation = s.authGeneration → StageInv crypto options s stage) →
      Inv crypto options (s.setStage t stage) := by
    intro stage hstage
    refine h.setStage t stage fun other hother hgeneration => ?_
    cases htask.symm.trans hother
    exact hstage hgeneration
  unfold RelayAuth.resume at hs'
  cases hcase : task.stage with
  | ensured purpose localMessage =>
    have hstage := hcase ▸ hinv.stage
    cases purpose with
    | announce =>
      rw [hcase] at hs'
      cases hs'
      exact h.announce t delivers hinv.sends
    | process peer =>
      rw [hcase] at hs'
      cases hs'
      refine hmove _ fun hgeneration => ?_
      rw [if_neg (not_not.mpr hgeneration)]
      exact hstage hgeneration
  | received peer =>
    rw [hcase] at hs'
    cases hs'
    exact h.processPeerExchange t peer
  | verifying peer localMessage peerKey =>
    have hstage := hcase ▸ hinv.stage
    rw [hcase] at hs'
    cases hs'
    refine hmove _ fun hgeneration => ?_
    split_ifs with hvalid
    · exact ⟨(hstage hgeneration).1, peerKey, (hstage hgeneration).2, hvalid⟩
    · trivial
  | salting peer localMessage =>
    have hstage := hcase ▸ hinv.stage
    rw [hcase] at hs'
    cases hs'
    refine hmove _ fun hgeneration => ?_
    split
    · rename_i hsalt hephemeral
      exact ⟨(hstage hgeneration).1, (hstage hgeneration).2, hephemeral, hsalt⟩
    · trivial
  | derivingKey peer localMessage pair salt =>
    have hstage := hcase ▸ hinv.stage
    rw [hcase] at hs'
    obtain ⟨sessionKey, hkey, rfl⟩ := Option.map_eq_some_iff.mp hs'
    exact h.establish t hinv.sends hstage hkey fun hgeneration =>
      horderly task htask (hcase ▸ rfl) hgeneration
  | processed =>
    rw [hcase] at hs'
    cases hs'
    exact h.settle t task false
  | failed =>
    rw [hcase] at hs'
    cases hs'
    exact h.settle t task true
  | generating _ | waiting | lookingUp _ _ | ended _ =>
    rw [hcase] at hs'
    cases hs'

/-- **An orderly step keeps the invariant.** -/
theorem Inv.step (h : Inv crypto options s) (horderly : Orderly s event)
    (hs' : s.step crypto options event = some s') : Inv crypto options s' := by
  cases event with
  | authenticateClient =>
    cases hs'
    exact h.authenticateClient
  | cleanup =>
    cases hs'
    exact h.cleanup
  | handleAuthMessage payload =>
    cases hs'
    exact h.handleAuthMessage payload
  | timeout =>
    obtain ⟨t, -, rfl⟩ := Option.map_eq_some_iff.mp hs'
    exact (h.queue none s.earlyPeer s.processingExchange).setStage t _ fun _ _ _ => trivial
  | generated t pair signature =>
    unfold RelayAuth.step at hs'
    dsimp only at hs'
    split at hs'
    · cases hs'
      exact h.keyGenerated _ pair signature horderly.1
    · cases hs'
  | lookedUp t peerKey =>
    unfold RelayAuth.step at hs'
    dsimp only at hs'
    split at hs'
    · rename_i peer localMessage peerKey hstage
      cases hs'
      have hanswered : Inv crypto options
          { s with answers := s.answers ++ [(peer.identityId, peerKey)] } := by
        refine ⟨h.pair, h.pairless, h.announced, h.announced_of_sent, ?_,
          h.backed.of_same ⟨rfl, rfl, rfl, rfl, rfl⟩ rfl (List.subset_append_left _ _), h.accepted⟩
        intro i task htask
        have hinv := h.tasks i task htask
        exact ⟨hinv.le, hinv.sends, fun heq => (hinv.stage heq).of_answers⟩
      refine hanswered.setStage t _ fun task htask hgeneration => ?_
      obtain ⟨other, hother, hlooking⟩ := Option.map_eq_some_iff.mp hstage
      cases htask.symm.trans hother
      have hold := (h.tasks t task hother).stage hgeneration
      rw [hlooking] at hold
      exact ⟨hold, by simp⟩
    · cases hs'
      exact h.setStage t _ fun _ _ _ => trivial
    · cases hs'
  | resume t delivers =>
    obtain ⟨task, htask, hresume⟩ := Option.bind_eq_some_iff.mp hs'
    exact h.resume htask horderly hresume
  | rejected t =>
    obtain ⟨task, htask, hreject⟩ := Option.bind_eq_some_iff.mp hs'
    unfold reject at hreject
    split at hreject
    all_goals cases hreject
    all_goals exact h.setStage t _ fun _ _ _ => trivial

/-! ### Tasks of older generations -/

/-- Moving a task changes nothing of the session. -/
lemma sameSession_setStage (s : RelayAuth Pair SigningKey Key) (t : ℕ) (stage : Stage Pair SigningKey) :
    SameSession s (s.setStage t stage) := ⟨rfl, rfl, rfl, rfl, rfl⟩

/-- Nor does the start of `processPeerExchange`. -/
lemma sameSession_processPeerExchange (s : RelayAuth Pair SigningKey Key) (t : ℕ)
    (peer : RelayKeyExchangeMessage) : SameSession s (s.processPeerExchange t peer) := by
  unfold processPeerExchange
  split_ifs <;> exact ⟨rfl, rfl, rfl, rfl, rfl⟩

/-- A task of an older generation continues without changing the session. -/
lemma sameSession_resume (hgeneration : task.generation ≠ s.authGeneration)
    (hs' : s.resume crypto options t task delivers = some s') : SameSession s s' := by
  unfold RelayAuth.resume at hs'
  split at hs'
  · cases hs'
    rw [RelayAuth.announce, if_pos hgeneration]
    exact sameSession_setStage s t _
  · cases hs'
    exact sameSession_setStage s t _
  · cases hs'
    exact sameSession_processPeerExchange s t _
  · cases hs'
    exact sameSession_setStage s t _
  · cases hs'
    exact sameSession_setStage s t _
  · obtain ⟨sessionKey, -, rfl⟩ := Option.map_eq_some_iff.mp hs'
    rw [RelayAuth.establish, if_pos hgeneration]
    exact sameSession_setStage s t _
  all_goals cases hs'
  all_goals
    unfold RelayAuth.settle
    split
    · exact sameSession_setStage s t _
    · rw [if_neg (by exact hgeneration)]
      exact sameSession_setStage s t _

/-- **A task of an older generation changes nothing of the session**, in orderly steps. -/
theorem sameSession_of_superseded (horderly : Orderly s event) (hsuperseded : Superseded s event)
    (hs' : s.step crypto options event = some s') : SameSession s s' := by
  obtain ⟨t, task, htask, hgeneration, hevent⟩ := hsuperseded
  rcases hevent with ⟨pair, signature, rfl⟩ | ⟨peerKey, rfl⟩ | ⟨delivers, rfl⟩ | rfl
  · exact absurd (horderly.2 task htask) hgeneration
  · unfold RelayAuth.step at hs'
    dsimp only at hs'
    split at hs'
    · cases hs'
      exact ⟨rfl, rfl, rfl, rfl, rfl⟩
    · cases hs'
      exact sameSession_setStage s t _
    · cases hs'
  · obtain ⟨other, hother, hresume⟩ := Option.bind_eq_some_iff.mp hs'
    cases htask.symm.trans hother
    exact sameSession_resume hgeneration hresume
  · obtain ⟨other, hother, hreject⟩ := Option.bind_eq_some_iff.mp hs'
    unfold reject at hreject
    split at hreject
    all_goals cases hreject
    all_goals exact sameSession_setStage s t _

end Makaio.E2E.RelayAuth

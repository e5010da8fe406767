import Makaio.Server.Handshake

set_option autoImplicit false

/-!
# What the entries of a socket say about its handshake

An admission is there exactly as long as the strategy that granted it has the socket on record; the
handshakes of the two strategies end in it only after the check of their proof, and every cleanup takes
it away.

## Main definitions

* `Admission.Current` — the secret of the identity has not changed since.
* `E2EStage.Verified` — what E2E has established at a stage.
* `SocketAuth.Stored` — how an admission is recorded.
* `SocketAuth.Inv` — the invariant of the entries.
* `SocketAuth.Proceeds` — what a handshake does to an admission and to the setup.

## Main results

* `Inv.handleAuthMessage`, `continueHmac`, `continueE2E`, `cleanupSocket` — every operation
  keeps it.
* `Inv.admitted_of_hmac` — a socket that passes the check of HMAC has a current admission.
* `Inv.receivePeer` — the peer of an admitted socket is the one it proved to be.
-/

namespace Makaio.Server

open Foundations Bus

/-- The identity of an admission is still registered with the secret the socket proved to know. -/
def Admission.Current {SigningKey : Type} (identities : IdentitySecrets) (a : Admission SigningKey) :
    Prop :=
  match a.credential with
  | .identity identityId secret _ => identities.resolveSecret identityId = some secret
  | _ => True

/-- What E2E has established at a stage. -/
def E2EStage.Verified {SigningKey : Type} (crypto : Crypto SigningKey)
    (known : String → SigningKey → Prop) : E2EStage SigningKey → Prop
  | .verifying deviceId key _ _ => known deviceId key
  | .generating deviceId key ephemeralPublicKey signature
  | .derivingSession deviceId key ephemeralPublicKey signature =>
    known deviceId key ∧ crypto.verify key (ephemeralPublicKey ++ deviceId) signature = true
  | _ => True

namespace SocketAuth

variable {SigningKey : Type}

/-- How an admission is recorded in the entries. -/
def Stored (st : SocketAuth SigningKey) : Credential SigningKey → Prop
  | .global _ => st.strategy = some .hmac ∧ st.hmacAuthenticated = true ∧ st.hmacPeer = none
  | .identity identityId secret _ => st.strategy = some .hmac ∧ st.hmacAuthenticated = true ∧
      st.hmacPeer = some identityId ∧ st.hmacSecret = some secret
  | .device deviceId _ _ _ => st.strategy = some .e2e ∧ st.e2eSession = some deviceId

/-- The invariant of the entries of one socket. -/
structure Inv (crypto : Crypto SigningKey) (secret : String) (known : String → SigningKey → Prop)
    (st : SocketAuth SigningKey) : Prop where
  /-- An admission was proved, for the nonce of this socket. -/
  proved : ∀ a, st.admitted = some a → a.Proved crypto secret known ∧ a.nonce = st.nonce
  stored : ∀ a, st.admitted = some a → st.Stored a.credential
  /-- HMAC has a socket on record only as the admitted one, after its handshake. -/
  hmacOver : st.hmacAuthenticated = true →
    st.admitted.isSome ∧ st.strategy = some .hmac ∧ st.hmacStage = .idle
  /-- E2E has a session only for an admitted socket, after its handshake. -/
  e2eOver : st.e2eSession.isSome →
    st.admitted.isSome ∧ st.strategy = some .e2e ∧ st.e2eStage = .idle ∧ st.e2ePending = false
  /-- An HMAC response that is still wanted came to the selected strategy. -/
  answered : st.hmacPending = true → ∀ signature identityId,
    st.hmacStage = .answered signature identityId → st.strategy = some .hmac
  computing : st.hmacPending = true → ∀ signature identity,
    st.hmacStage = .computing signature identity → st.strategy = some .hmac
  /-- E2E waits only where it is selected. -/
  exchanging : st.e2ePending = true → st.strategy = some .e2e
  /-- The key that E2E verifies with was found for the device, and after the verification the signature
  is valid. -/
  verified : st.e2eStage.Verified crypto known

variable {crypto : Crypto SigningKey} {secret : String} {known : String → SigningKey → Prop}
  {st : SocketAuth SigningKey}

/-- More keys become known. -/
lemma Inv.mono {known' : String → SigningKey → Prop} (h : st.Inv crypto secret known)
    (hknown : ∀ deviceId key, known deviceId key → known' deviceId key) :
    st.Inv crypto secret known' where
  proved := fun a ha => by
    have hproved := h.proved a ha
    rw [Admission.Proved] at hproved ⊢
    cases hc : a.credential with
    | global | identity => rw [hc] at hproved; exact hproved
    | device =>
      rw [hc] at hproved
      exact ⟨⟨hknown _ _ hproved.1.1, hproved.1.2⟩, hproved.2⟩
  stored := h.stored
  hmacOver := h.hmacOver
  e2eOver := h.e2eOver
  answered := h.answered
  computing := h.computing
  exchanging := h.exchanging
  verified := by
    have hverified := h.verified
    cases hstage : st.e2eStage with
    | verifying => rw [hstage] at hverified; exact hknown _ _ hverified
    | generating | derivingSession => rw [hstage] at hverified; exact ⟨hknown _ _ hverified.1, hverified.2⟩
    | idle | awaiting | exchanged | rejected | lookingUp => trivial

/-- An admission is recorded by the strategy that granted it. -/
lemma Stored.recorded {credential : Credential SigningKey} (h : st.Stored credential) :
    st.strategy = some .hmac ∧ st.hmacAuthenticated = true ∨
      st.strategy = some .e2e ∧ st.e2eSession.isSome := by
  cases credential with
  | global | identity => exact .inl ⟨h.1, h.2.1⟩
  | device => exact .inr ⟨h.1, h.2 ▸ rfl⟩

/-- Entries in which no strategy has the socket on record. -/
lemma Inv.of_unrecorded (hnone : st.admitted = none) (hauth : st.hmacAuthenticated = false)
    (hsession : st.e2eSession = none) (hexchanging : st.e2ePending = true → st.strategy = some .e2e)
    (hanswered : st.hmacPending = true → ∀ signature identityId,
      st.hmacStage = .answered signature identityId → st.strategy = some .hmac)
    (hcomputing : st.hmacPending = true → ∀ signature identity,
      st.hmacStage = .computing signature identity → st.strategy = some .hmac)
    (hverified : st.e2eStage.Verified crypto known) : st.Inv crypto secret known where
  proved a ha := by rw [hnone] at ha; cases ha
  stored a ha := by rw [hnone] at ha; cases ha
  hmacOver h := by rw [hauth] at h; cases h
  e2eOver h := by rw [hsession] at h; cases h
  answered := hanswered
  computing := hcomputing
  exchanging := hexchanging
  verified := hverified

/-- An admitted socket has a strategy. -/
lemma Inv.strategy_isSome (h : st.Inv crypto secret known) (hadmitted : st.admitted.isSome) :
    st.strategy.isSome := by
  obtain ⟨a, ha⟩ := Option.isSome_iff_exists.mp hadmitted
  rcases (h.stored a ha).recorded with ⟨hstrategy, -⟩ | ⟨hstrategy, -⟩
  · rw [hstrategy]; rfl
  · rw [hstrategy]; rfl

/-- A socket without a strategy is not admitted. -/
lemma Inv.admitted_eq_none (h : st.Inv crypto secret known) (hstrategy : st.strategy = none) :
    st.admitted = none := by
  rw [← Option.not_isSome_iff_eq_none]
  intro hadmitted
  have := h.strategy_isSome hadmitted
  rw [hstrategy] at this
  cases this

/-- An HMAC cleanup of a socket that HMAC has not on record leaves the admission. -/
lemma admitted_hmacCleanupSocket (hfalse : st.hmacAuthenticated = false) :
    st.hmacCleanupSocket.admitted = st.admitted := by
  rw [hmacCleanupSocket, hfalse]
  rfl

variable {a : Admission SigningKey} {st' : SocketAuth SigningKey} {e2e : Bool}

section

variable (h : st.Inv crypto secret known)
include h

/-- A socket cleaned up by HMAC keeps only an admission of E2E. -/
lemma Inv.hmacCleanupSocket :
    st.hmacCleanupSocket.Inv crypto secret known := by
  have hadmitted : ∀ a, st.hmacCleanupSocket.admitted = some a →
      st.admitted = some a ∧ st.hmacAuthenticated = false := by
    intro a ha
    rw [SocketAuth.hmacCleanupSocket] at ha
    dsimp only at ha
    split_ifs at ha with hauth
    exact ⟨ha, by simpa using hauth⟩
  exact
    { proved := fun a ha => h.proved a (hadmitted a ha).1
      stored := fun a ha => by
        obtain ⟨ha, hfalse⟩ := hadmitted a ha
        have hstored := h.stored a ha
        cases hc : a.credential with
        | global | identity => rw [hc] at hstored; rw [hstored.2.1] at hfalse; cases hfalse
        | device => rw [hc] at hstored; exact hstored
      hmacOver := fun hauth => by cases hauth
      e2eOver := fun hsession => by
        obtain ⟨hsome, hstrategy, hstage, hpending⟩ := h.e2eOver hsession
        refine ⟨?_, hstrategy, hstage, hpending⟩
        rw [admitted_hmacCleanupSocket]
        · exact hsome
        · by_contra hauth
          rw [(h.hmacOver (by simpa using hauth)).2.1] at hstrategy
          cases hstrategy
      answered := fun hpending => by cases hpending
      computing := fun hpending => by cases hpending
      exchanging := h.exchanging
      verified := h.verified }

/-- An admission of a socket without an E2E session is not E2E's. -/
lemma Inv.hmac_of_session (hsession : st.e2eSession = none) (ha : st.admitted = some a) :
    st.strategy = some .hmac ∧ st.hmacAuthenticated = true := by
  rcases (h.stored a ha).recorded with hhmac | ⟨-, hsome⟩
  · exact hhmac
  · rw [hsession] at hsome
    cases hsome

/-- A socket cleaned up by E2E, which has been selected for it, is not admitted. -/
lemma Inv.admitted_e2eCleanupSocket (hstrategy : st.strategy = some .e2e) :
    st.e2eCleanupSocket.admitted = none := by
  rw [e2eCleanupSocket]
  split_ifs with hsession
  · rfl
  · by_contra hne
    obtain ⟨a, ha⟩ := Option.ne_none_iff_exists'.mp hne
    have := h.hmac_of_session (Option.not_isSome_iff_eq_none.mp hsession) ha
    rw [hstrategy] at this
    cases this.1

/-- An update that only concerns the promise of the setup and the bookkeeping of the dispatcher. -/
lemma Inv.bookkeeping (pendingServerAuth hmacCancellable hmacCancelled : Bool)
    (setup : SetupStage) : Inv crypto secret known { st with
      pendingServerAuth := pendingServerAuth
      hmacCancellable := hmacCancellable
      hmacCancelled := hmacCancelled
      setup := setup } :=
  ⟨h.proved, h.stored, h.hmacOver, h.e2eOver, h.answered, h.computing, h.exchanging,
    h.verified⟩

lemma Inv.settleSetup (outcome : SetupStage) :
    (st.settleSetup outcome).Inv crypto secret known :=
  h.bookkeeping st.pendingServerAuth st.hmacCancellable st.hmacCancelled _

lemma Inv.cancelHmac : st.cancelHmac.Inv crypto secret known := by
  rw [SocketAuth.cancelHmac]
  split_ifs
  · exact h.hmacCleanupSocket.bookkeeping _ false true _
  · exact h

lemma Inv.rejectPending (refused : Bool) :
    (st.rejectPending refused).Inv crypto secret known := by
  rw [SocketAuth.rejectPending]
  split_ifs
  · exact h.bookkeeping false st.hmacCancellable st.hmacCancelled _
  · exact h

/-- A socket whose selected strategy has cleaned it up has no admission and no strategy. -/
lemma Inv.cleanupStrategy :
    st.cleanupStrategy.Inv crypto secret known ∧ st.cleanupStrategy.admitted = none ∧
      st.cleanupStrategy.strategy = none := by
  rw [SocketAuth.cleanupStrategy]
  split
  · rename_i hstrategy
    have hc := h.hmacCleanupSocket
    have hnone : st.hmacCleanupSocket.admitted = none := by
      by_contra hne
      obtain ⟨a, ha⟩ := Option.ne_none_iff_exists'.mp hne
      rcases (hc.stored a ha).recorded with ⟨-, hauth⟩ | ⟨he2e, -⟩
      · cases hauth
      · cases hstrategy.symm.trans he2e
    have hsession : st.e2eSession = none := by
      rw [← Option.not_isSome_iff_eq_none]
      exact fun hsome => by cases hstrategy.symm.trans (h.e2eOver hsome).2.1
    exact ⟨.of_unrecorded hnone rfl hsession
      (fun hpending => by cases hstrategy.symm.trans (h.exchanging hpending)) nofun nofun h.verified,
      hnone, rfl⟩
  · rename_i hstrategy
    have hnone := h.admitted_e2eCleanupSocket hstrategy
    refine ⟨?_, hnone, rfl⟩
    have hstage : st.e2eCleanupSocket.e2eStage = .rejected ∨
        st.e2eCleanupSocket.e2eStage = st.e2eStage := by
      rw [e2eCleanupSocket]
      split
      · exact .inl rfl
      · exact .inr rfl
    have hauth : st.hmacAuthenticated = false := by
      rw [← Bool.not_eq_true]
      exact fun hauth => by cases hstrategy.symm.trans (h.hmacOver hauth).2.1
    refine .of_unrecorded hnone hauth rfl nofun
      (fun hpending _ _ hs => by cases hstrategy.symm.trans (h.answered hpending _ _ hs))
      (fun hpending _ _ hs => by cases hstrategy.symm.trans (h.computing hpending _ _ hs)) ?_
    show st.e2eCleanupSocket.e2eStage.Verified crypto known
    rcases hstage with h' | h' <;> rw [h']
    · trivial
    · exact h.verified
  · rename_i hstrategy
    exact ⟨h, h.admitted_eq_none hstrategy, hstrategy⟩

end

/-- Cancelling HMAC, or rejecting the pending authentication, admits nobody. -/
lemma admitted_cancelHmac_rejectPending (hadmitted : st.admitted = none) (refused : Bool) :
    (st.cancelHmac.rejectPending refused).admitted = none := by
  have hcancel : st.cancelHmac.admitted = none := by
    rw [cancelHmac]
    split_ifs
    · rw [hmacCleanupSocket]
      rw [hadmitted, ite_self]
    · exact hadmitted
  rw [rejectPending]
  split_ifs
  · exact hcancel
  · exact hcancel

section

variable (h : st.Inv crypto secret known)
include h

/-- **The dispatcher's cleanup** takes the admission away. -/
lemma Inv.cleanupSocket :
    st.cleanupSocket.Inv crypto secret known ∧ st.cleanupSocket.admitted = none :=
  ⟨h.cleanupStrategy.1.cancelHmac.rejectPending false,
    admitted_cancelHmac_rejectPending h.cleanupStrategy.2.1 false⟩

/-! ### Messages of a handshake -/

/-- A response of the client is kept by HMAC where it is selected. -/
lemma Inv.hmacHandleAuthMessage (hstrategy : st.strategy = some .hmac)
    (message : AuthMessage) : (st.hmacHandleAuthMessage message).2.Inv crypto secret known := by
  have hidle (stage : HmacStage) (hstage : st.hmacStage = .awaiting) :
      Inv crypto secret known { st with hmacStage := stage } :=
    { proved := h.proved
      stored := h.stored
      hmacOver := fun hauth => by
        have := (h.hmacOver hauth).2.2
        rw [hstage] at this
        cases this
      e2eOver := h.e2eOver
      answered := fun _ _ _ _ => hstrategy
      computing := fun _ _ _ _ => hstrategy
      exchanging := h.exchanging
      verified := h.verified }
  cases message with
  | authResponse signature identityId | malformedAuthResponse =>
    rw [SocketAuth.hmacHandleAuthMessage]
    split_ifs with hwaiting
    · exact hidle _ hwaiting.2
    · exact h
  | hmacClientSide | keyExchange | malformedKeyExchange | e2eClientSide | application => exact h

/-- A change of the E2E stage before the verification. -/
lemma Inv.e2eStage (hsession : st.e2eSession = none)
    (stage : E2EStage SigningKey) (hverified : stage.Verified crypto known) :
    Inv crypto secret known { st with e2eStage := stage } where
  proved := h.proved
  stored := h.stored
  hmacOver := h.hmacOver
  e2eOver := fun hsome => by
    rw [show st.e2eSession = none from hsession] at hsome
    cases hsome
  answered := h.answered
  computing := h.computing
  exchanging := h.exchanging
  verified := hverified

/-- E2E has no session while a handshake of it runs. -/
lemma Inv.session_eq_none (hstage : st.e2eStage ≠ .idle) :
    st.e2eSession = none := by
  rw [← Option.not_isSome_iff_eq_none]
  exact fun hsome => hstage (h.e2eOver hsome).2.2.1

/-- A key exchange of the client is kept by E2E. -/
lemma Inv.e2eHandleAuthMessage (message : AuthMessage) :
    (st.e2eHandleAuthMessage message).2.Inv crypto secret known := by
  cases message with
  | keyExchange deviceId ephemeralPublicKey signature | malformedKeyExchange =>
    rw [SocketAuth.e2eHandleAuthMessage]
    split
    · rename_i hstage
      exact h.e2eStage (h.session_eq_none (by rw [hstage]; simp)) _ trivial
    · exact h
  | authResponse | malformedAuthResponse | hmacClientSide | e2eClientSide | application => exact h

end

/-- A response of the client leaves the admission, the strategy and the setup alone. -/
lemma frame_hmacHandleAuthMessage (message : AuthMessage) :
    (st.hmacHandleAuthMessage message).2.admitted = st.admitted ∧
      (st.hmacHandleAuthMessage message).2.strategy = st.strategy ∧
      (st.hmacHandleAuthMessage message).2.setup = st.setup := by
  cases message with
  | authResponse | malformedAuthResponse =>
    rw [hmacHandleAuthMessage]
    split_ifs <;> exact ⟨rfl, rfl, rfl⟩
  | hmacClientSide | keyExchange | malformedKeyExchange | e2eClientSide | application => exact ⟨rfl, rfl, rfl⟩

/-- A key exchange of the client leaves the admission, the strategy and the setup alone. -/
lemma frame_e2eHandleAuthMessage (message : AuthMessage) :
    (st.e2eHandleAuthMessage message).2.admitted = st.admitted ∧
      (st.e2eHandleAuthMessage message).2.strategy = st.strategy ∧
      (st.e2eHandleAuthMessage message).2.setup = st.setup := by
  cases message with
  | keyExchange | malformedKeyExchange =>
    rw [e2eHandleAuthMessage]
    split <;> exact ⟨rfl, rfl, rfl⟩
  | authResponse | malformedAuthResponse | hmacClientSide | e2eClientSide | application => exact ⟨rfl, rfl, rfl⟩

/-- A forwarded message admits nobody and takes no admission away. -/
lemma frame_forwardAuthMessage (st : SocketAuth SigningKey) (strategy : Strategy)
    (message : AuthMessage) :
    (st.forwardAuthMessage strategy message).2.admitted = st.admitted ∧
      (st.forwardAuthMessage strategy message).2.strategy = st.strategy ∧
      (st.forwardAuthMessage strategy message).2.setup = st.setup := by
  cases strategy with
  | hmac => exact frame_hmacHandleAuthMessage message
  | e2e => exact frame_e2eHandleAuthMessage message

/-- A message forwarded to the selected strategy. -/
lemma Inv.forwardAuthMessage (h : st.Inv crypto secret known) {strategy : Strategy}
    (hstrategy : st.strategy = some strategy) (message : AuthMessage) :
    (st.forwardAuthMessage strategy message).2.Inv crypto secret known := by
  cases strategy with
  | hmac => exact h.hmacHandleAuthMessage hstrategy message
  | e2e => exact h.e2eHandleAuthMessage message

/-- How an operation of a handshake changes the admission and the promise of the setup: nobody loses an
admission, and the promise succeeds only for an admitted socket. -/
structure Proceeds (st st' : SocketAuth SigningKey) : Prop where
  kept : st.admitted.isSome → st'.admitted.isSome
  ended : st'.setup = .over ↔ st.setup = .over
  succeeded : st'.setup = .succeeded → st.setup = .succeeded ∨ st'.admitted.isSome

/-- An operation that leaves the admission and the promise of the setup alone. -/
lemma Proceeds.of_eq (hadmitted : st'.admitted = st.admitted) (hsetup : st'.setup = st.setup) :
    st.Proceeds st' where
  kept := fun h => by rwa [hadmitted]
  ended := by rw [hsetup]
  succeeded := fun h => .inl (hsetup ▸ h)

/-- An operation that leaves the admission alone and may fail the setup. -/
lemma Proceeds.of_failed (hadmitted : st'.admitted = st.admitted) (refused : Bool)
    (hsetup : st'.setup = (st.settleSetup (.failed refused)).setup) :
    st.Proceeds st' := by
  rw [settleSetup] at hsetup
  split_ifs at hsetup with hwaiting
  · exact
      { kept := fun h => by rwa [hadmitted]
        ended := by rw [hsetup, hwaiting]; simp
        succeeded := fun h => by rw [hsetup] at h; cases h }
  · exact .of_eq hadmitted hsetup

/-- An operation that admits the socket and lets the setup succeed. -/
lemma Proceeds.of_succeeded (hadmitted : st'.admitted.isSome)
    (hsetup : st'.setup = (st.settleSetup .succeeded).setup) : st.Proceeds st' where
  kept _ := hadmitted
  ended := by
    rw [hsetup, settleSetup]
    split_ifs with hwaiting
    · rw [hwaiting]; simp
    · rfl
  succeeded _ := .inr hadmitted

lemma setup_cancelHmac : st.cancelHmac.setup = st.setup := by
  rw [cancelHmac]
  split_ifs
  · rfl
  · rfl

/-- Select a strategy: a socket without one is not admitted, before and after. -/
lemma Inv.selectStrategy (h : st.Inv crypto secret known) (hstrategy : st.strategy = none)
    (strategy : Strategy) :
    (st.selectStrategy strategy).Inv crypto secret known ∧
      (st.selectStrategy strategy).strategy = some strategy ∧
      (st.selectStrategy strategy).admitted = none ∧
      (st.selectStrategy strategy).setup = st.setup := by
  have hnone := h.admitted_eq_none hstrategy
  have hauth : st.hmacAuthenticated = false := by
    rw [← Bool.not_eq_true]
    intro hauth
    rw [(h.hmacOver hauth).2.1] at hstrategy
    cases hstrategy
  have hsession : st.e2eSession = none := by
    rw [← Option.not_isSome_iff_eq_none]
    intro hsome
    rw [(h.e2eOver hsome).2.1] at hstrategy
    cases hstrategy
  have hpending : st.e2ePending = false := by
    rw [← Bool.not_eq_true]
    intro hpending
    rw [h.exchanging hpending] at hstrategy
    cases hstrategy
  cases strategy with
  | hmac =>
    exact ⟨.of_unrecorded hnone hauth hsession (fun hpending' => by cases hpending.symm.trans hpending')
      (fun _ _ _ _ => rfl) (fun _ _ _ _ => rfl) h.verified, rfl, hnone, rfl⟩
  | e2e =>
    have hc := h.cancelHmac
    have hnone' : st.cancelHmac.admitted = none := by
      have := admitted_cancelHmac_rejectPending hnone true
      rw [SocketAuth.rejectPending] at this
      split_ifs at this
      · exact this
      · exact this
    have hauth' : st.cancelHmac.hmacAuthenticated = false := by
      rw [SocketAuth.cancelHmac]
      split_ifs
      · rfl
      · exact hauth
    have hsession' : st.cancelHmac.e2eSession = none := by
      rw [SocketAuth.cancelHmac]
      split_ifs
      · exact hsession
      · exact hsession
    have hstrategy' : st.cancelHmac.strategy = none := by
      rw [SocketAuth.cancelHmac]
      split_ifs
      · exact hstrategy
      · exact hstrategy
    have hsetup : st.cancelHmac.setup = st.setup := setup_cancelHmac
    -- After the cancellation, HMAC waits for nothing.
    have hselected (pending : Bool) (stage : E2EStage SigningKey)
        (hverified : stage.Verified crypto known) :
        Inv crypto secret known { st.cancelHmac with
          strategy := some .e2e
          pendingServerAuth := false
          e2ePending := pending
          e2eStage := stage } :=
      .of_unrecorded hnone' hauth' hsession' (fun _ => rfl)
        (fun hp _ _ hs => by cases hstrategy'.symm.trans (hc.answered hp _ _ hs))
        (fun hp _ _ hs => by cases hstrategy'.symm.trans (hc.computing hp _ _ hs)) hverified
    rw [SocketAuth.selectStrategy]
    split_ifs
    · exact ⟨hselected true .awaiting trivial, rfl, hnone', hsetup⟩
    · exact ⟨hselected _ _ hc.verified, rfl, hnone', hsetup⟩

/-- **A message of a handshake** admits nobody and takes no admission away, and the setup does not
succeed by it. -/
lemma Inv.handleAuthMessage (h : st.Inv crypto secret known) (e2e : Bool) (message : AuthMessage) :
    (st.handleAuthMessage e2e message).2.Inv crypto secret known ∧
      (st.handleAuthMessage e2e message).2.admitted = st.admitted ∧
      st.Proceeds (st.handleAuthMessage e2e message).2 := by
  rw [SocketAuth.handleAuthMessage]
  split
  · rename_i strategy hstrategy
    have hframe := frame_forwardAuthMessage st strategy message
    exact ⟨h.forwardAuthMessage hstrategy message, hframe.1, .of_eq hframe.1 hframe.2.2⟩
  · rename_i hstrategy
    have hnone := h.admitted_eq_none hstrategy
    split
    · have hadmitted : (st.cancelHmac.rejectPending true).admitted = st.admitted :=
        (admitted_cancelHmac_rejectPending hnone true).trans hnone.symm
      refine ⟨h.cancelHmac.rejectPending true, hadmitted, ?_⟩
      by_cases hpending : st.cancelHmac.pendingServerAuth = true
      · refine .of_failed hadmitted true ?_
        rw [SocketAuth.rejectPending, if_pos hpending, SocketAuth.settleSetup, SocketAuth.settleSetup]
        rw [setup_cancelHmac]
      · refine .of_eq hadmitted ?_
        rw [SocketAuth.rejectPending, if_neg hpending, setup_cancelHmac]
    · rename_i strategy _
      obtain ⟨hinv, hselected, hadmitted, hsetup⟩ := h.selectStrategy hstrategy strategy
      have hframe := frame_forwardAuthMessage (st.selectStrategy strategy) strategy message
      have hsame := hframe.1.trans (hadmitted.trans hnone.symm)
      exact ⟨hinv.forwardAuthMessage hselected message, hsame, .of_eq hsame (hframe.2.2.trans hsetup)⟩

/-! ### The handshakes go on -/

/-- A new socket is not admitted. -/
lemma inv_authenticateServer (e2e : Bool) (nonce : String) (sent : Bool) :
    Inv crypto secret known (authenticateServer e2e nonce sent : SocketAuth SigningKey) := by
  refine .of_unrecorded rfl rfl rfl nofun (fun _ _ _ hs => ?_) (fun _ _ _ hs => ?_) trivial
  all_goals
    cases sent <;> cases hs

section

variable (h : st.Inv crypto secret known)
include h

/-- HMAC has no socket on record while a handshake of it runs. -/
lemma Inv.hmacAuthenticated_eq_false (hstage : st.hmacStage ≠ .idle) :
    st.hmacAuthenticated = false := by
  rw [← Bool.not_eq_true]
  exact fun hauth => hstage (h.hmacOver hauth).2.2

/-- HMAC waits for nothing, or breaks its wait off. -/
lemma Inv.hmacStage (hauth : st.hmacAuthenticated = false) (pending : Bool) (stage : HmacStage)
    (hanswered : ∀ signature identityId, stage ≠ .answered signature identityId)
    (hcomputing : ∀ signature identity, stage ≠ .computing signature identity) :
    Inv crypto secret known { st with hmacPending := pending, hmacStage := stage } where
  proved := h.proved
  stored := h.stored
  hmacOver := fun hauth' => by
    rw [show st.hmacAuthenticated = true from hauth'] at hauth
    cases hauth
  e2eOver := h.e2eOver
  answered := fun _ signature identityId hs => absurd hs (hanswered signature identityId)
  computing := fun _ signature identity hs => absurd hs (hcomputing signature identity)
  exchanging := h.exchanging
  verified := h.verified

lemma Inv.timeoutHmac :
    st.timeoutHmac.Inv crypto secret known ∧ st.Proceeds st.timeoutHmac := by
  rw [SocketAuth.timeoutHmac]
  split_ifs with hstage
  · refine ⟨?_, .of_eq rfl rfl⟩
    exact h.hmacStage (h.hmacAuthenticated_eq_false (by rw [hstage]; simp)) st.hmacPending .rejected
      (by nofun) (by nofun)
  · exact ⟨h, .of_eq rfl rfl⟩

lemma Inv.timeoutE2E :
    st.timeoutE2E.Inv crypto secret known ∧ st.Proceeds st.timeoutE2E := by
  rw [SocketAuth.timeoutE2E]
  split
  · rename_i hstage
    refine ⟨?_, .of_eq rfl rfl⟩
    exact h.e2eStage (h.session_eq_none (by rw [hstage]; simp)) _ trivial
  · exact ⟨h, .of_eq rfl rfl⟩

/-- A failure of HMAC leaves the admission alone. -/
lemma Inv.failHmac (hauth : st.hmacAuthenticated = false) (refused : Bool) :
    (st.failHmac refused).Inv crypto secret known ∧ st.Proceeds (st.failHmac refused) := by
  have hidle := h.hmacStage hauth false .idle (by nofun) (by nofun)
  rw [SocketAuth.failHmac]
  split_ifs
  · exact ⟨hidle, .of_eq rfl rfl⟩
  · exact ⟨hidle.settleSetup _, .of_failed rfl refused rfl⟩

/-- A failure of E2E leaves the admission alone: it has entered none. -/
lemma Inv.failE2E (hsession : st.e2eSession = none) (refused : Bool) :
    (st.failE2E refused).Inv crypto secret known ∧ st.Proceeds (st.failE2E refused) := by
  have hidle (session : Option String) (pending : Bool) (hnone : session = none)
      (hpending : pending = true → st.e2ePending = true) :
      Inv crypto secret known { st with
        e2eSession := session
        e2ePending := pending
        e2eStage := .idle } :=
    { proved := h.proved
      stored := fun a ha => by
        have hstored := h.stored a ha
        cases hc : a.credential with
        | global | identity => rw [hc] at hstored; exact hstored
        | device => rw [hc] at hstored; cases hstored.2.symm.trans hsession
      hmacOver := h.hmacOver
      e2eOver := fun hsome => by
        have hsome : session.isSome = true := hsome
        rw [hnone] at hsome
        cases hsome
      answered := h.answered
      computing := h.computing
      exchanging := fun hp => h.exchanging (hpending hp)
      verified := trivial }
  rw [SocketAuth.failE2E]
  split_ifs with hpending
  · exact ⟨(hidle none false rfl (by nofun)).settleSetup (.failed refused),
      .of_failed rfl refused rfl⟩
  · exact ⟨(hidle st.e2eSession st.e2ePending hsession id).settleSetup (.failed refused),
      .of_failed rfl refused rfl⟩

/-- **HMAC goes on**: it admits a socket only after the check of its response. -/
lemma Inv.continueHmac (identities : IdentitySecrets) (sent : Bool) (connectionId : String) :
    (st.continueHmac crypto secret identities sent connectionId).Inv crypto secret known ∧
      st.Proceeds (st.continueHmac crypto secret identities sent connectionId) := by
  rw [SocketAuth.continueHmac]
  split
  · exact ⟨h, .of_eq rfl rfl⟩
  · exact ⟨h, .of_eq rfl rfl⟩
  · rename_i hstage
    exact h.failHmac (h.hmacAuthenticated_eq_false (by rw [hstage]; simp)) false
  · rename_i signature identityId hstage
    have hauth := h.hmacAuthenticated_eq_false (by rw [hstage]; simp)
    have hcomputing (identity : Option (String × String)) (hpending : st.hmacPending = true) :
        Inv crypto secret known { st with hmacStage := .computing signature identity } :=
      { proved := h.proved
        stored := h.stored
        hmacOver := fun hauth' => by
          rw [show st.hmacAuthenticated = true from hauth'] at hauth
          cases hauth
        e2eOver := h.e2eOver
        answered := fun _ _ _ hs => by cases hs
        computing := fun _ _ _ _ => h.answered hpending signature identityId hstage
        exchanging := h.exchanging
        verified := h.verified }
    split_ifs with hpending
    · exact h.failHmac hauth false
    · have hpending : st.hmacPending = true := by simpa using hpending
      split
      · exact ⟨hcomputing none hpending, .of_eq rfl rfl⟩
      · split
        · exact h.failHmac hauth true
        · exact ⟨hcomputing _ hpending, .of_eq rfl rfl⟩
  · rename_i signature identity hstage
    have hauth := h.hmacAuthenticated_eq_false (by rw [hstage]; simp)
    dsimp only
    split_ifs with hpending hresponse hsent
    · exact h.failHmac hauth false
    · exact h.failHmac hauth true
    · have hfail := h.hmacCleanupSocket.failHmac rfl false
      have hadmitted : st.hmacCleanupSocket.admitted = st.admitted :=
        admitted_hmacCleanupSocket hauth
      refine ⟨hfail.1, ?_⟩
      exact
        { kept := fun hsome => hfail.2.kept (by rwa [hadmitted])
          ended := hfail.2.ended
          succeeded := hfail.2.succeeded }
    · have hstrategy := h.computing (by simpa using hpending) signature identity hstage
      have hproof : constantTimeEqual signature
          (crypto.hmac ((identity.map Prod.snd).getD secret) st.nonce) = true := by
        simpa using hresponse
      have hsession : st.e2eSession = none := by
        rw [← Option.not_isSome_iff_eq_none]
        intro hsome
        rw [(h.e2eOver hsome).2.1] at hstrategy
        cases hstrategy
      exact
        ⟨{ proved := fun a ha => by
            cases ha
            refine ⟨?_, rfl⟩
            cases identity with
            | none | some identity => exact hproof
           stored := fun a ha => by
            cases ha
            cases identity with
            | none => exact ⟨hstrategy, rfl, rfl⟩
            | some identity => exact ⟨hstrategy, rfl, rfl, rfl⟩
           hmacOver := fun _ => ⟨rfl, hstrategy, rfl⟩
           e2eOver := fun hsome => by
            rw [show (st.settleSetup .succeeded).e2eSession = none from hsession] at hsome
            cases hsome
           answered := fun hp => by cases hp
           computing := fun hp => by cases hp
           exchanging := h.exchanging
           verified := h.verified }, .of_succeeded rfl rfl⟩

/-- **E2E goes on**: it admits a socket only after the check of its signature. -/
lemma Inv.continueE2E (ok : Bool) (found : Option SigningKey)
    (hfound : ∀ deviceId ephemeralPublicKey signature key,
      st.e2eStage = .lookingUp deviceId ephemeralPublicKey signature → found = some key →
        known deviceId key) :
    (st.continueE2E crypto ok found).Inv crypto secret known ∧
      st.Proceeds (st.continueE2E crypto ok found) := by
  rw [SocketAuth.continueE2E]
  split
  · exact ⟨h, .of_eq rfl rfl⟩
  · exact ⟨h, .of_eq rfl rfl⟩
  · rename_i hstage
    exact h.failE2E (h.session_eq_none (by rw [hstage]; simp)) false
  · rename_i hstage
    have hsession := h.session_eq_none (by rw [hstage]; simp)
    split_ifs
    · exact h.failE2E hsession false
    · exact ⟨h.e2eStage hsession _ trivial, .of_eq rfl rfl⟩
  · rename_i hstage
    have hsession := h.session_eq_none (by rw [hstage]; simp)
    split_ifs
    · exact h.failE2E hsession false
    · split
      · exact h.failE2E hsession true
      · rename_i key
        exact ⟨h.e2eStage hsession _ (hfound _ _ _ key hstage rfl), .of_eq rfl rfl⟩
  · rename_i deviceId key ephemeralPublicKey signature hstage
    have hsession := h.session_eq_none (by rw [hstage]; simp)
    split_ifs with _ hverified
    · exact h.failE2E hsession false
    · exact h.failE2E hsession true
    · have hknown := h.verified
      rw [hstage] at hknown
      exact ⟨h.e2eStage hsession _ ⟨hknown, by simpa using hverified⟩, .of_eq rfl rfl⟩
  · rename_i deviceId key ephemeralPublicKey signature hstage
    have hsession := h.session_eq_none (by rw [hstage]; simp)
    split_ifs
    · exact h.failE2E hsession false
    · have hverified := h.verified
      rw [hstage] at hverified
      exact ⟨h.e2eStage hsession _ hverified, .of_eq rfl rfl⟩
  · rename_i deviceId key ephemeralPublicKey signature hstage
    have hsession := h.session_eq_none (by rw [hstage]; simp)
    split_ifs with hpending
    · exact h.failE2E hsession false
    · have hpending : st.e2ePending = true := by
        cases hp : st.e2ePending with
        | true => rfl
        | false => exact absurd (by simp [hp]) hpending
      have hstrategy := h.exchanging hpending
      have hverified := h.verified
      rw [hstage] at hverified
      exact
        ⟨{ proved := fun a ha => by
            cases ha
            exact ⟨hverified, rfl⟩
           stored := fun a ha => by
            cases ha
            exact ⟨hstrategy, rfl⟩
           hmacOver := fun hauth => by
            have := (h.hmacOver hauth).2.1
            rw [hstrategy] at this
            cases this
           e2eOver := fun _ => ⟨rfl, hstrategy, rfl, rfl⟩
           answered := h.answered
           computing := h.computing
           exchanging := fun hp => by cases hp
           verified := trivial }, .of_succeeded rfl rfl⟩

end

/-! ### The check on an authenticated socket -/

variable {identities : IdentitySecrets}

/-- A check that passes leaves the entries alone. -/
lemma isSocketAuthenticated_of_true (h : (st.isSocketAuthenticated e2e identities).1 = true) :
    (st.isSocketAuthenticated e2e identities).2 = st := by
  rw [isSocketAuthenticated] at h ⊢
  split
  · rename_i hstrategy
    rw [hstrategy] at h
    rw [hmacIsSocketAuthenticated] at h ⊢
    split_ifs at h ⊢
    cases hpeer : st.hmacPeer with
    | none => rfl
    | some identityId =>
      rw [hpeer] at h
      dsimp only at h ⊢
      cases hresolved : identities.resolveSecret identityId with
      | none =>
        rw [hresolved] at h
        cases h
      | some currentSecret =>
        rw [hresolved] at h
        dsimp only at h ⊢
        split_ifs at h ⊢
        rfl
  · rfl
  · rfl

/-- A check keeps the invariant; at most it cleans up. -/
lemma Inv.isSocketAuthenticated (h : st.Inv crypto secret known) (e2e : Bool)
    (identities : IdentitySecrets) :
    (st.isSocketAuthenticated e2e identities).2.Inv crypto secret known := by
  rw [SocketAuth.isSocketAuthenticated]
  split
  · rw [hmacIsSocketAuthenticated]
    split_ifs
    · exact h
    · split
      · exact h
      · split
        · exact h.hmacCleanupSocket
        · split_ifs
          · exact h.hmacCleanupSocket
          · exact h
  · exact h
  · exact h

/-- An admission for HMAC is of the selected strategy. -/
lemma resolveSocketStrategy_of_strategy {strategy : Strategy} (h : st.strategy = some strategy)
    (e2e : Bool) : st.resolveSocketStrategy e2e = some strategy := by
  rw [resolveSocketStrategy, h]

/-- **The check of HMAC**: a socket that passes it has an admission, which is still current. -/
lemma Inv.admitted_of_hmac (h : st.Inv crypto secret known)
    (hstrategy : st.resolveSocketStrategy e2e = some .hmac)
    (hcheck : (st.isSocketAuthenticated e2e identities).1 = true) :
    ∃ a, st.admitted = some a ∧ a.Current identities := by
  rw [SocketAuth.isSocketAuthenticated, hstrategy] at hcheck
  rw [hmacIsSocketAuthenticated] at hcheck
  split_ifs at hcheck with hauth
  have hauth : st.hmacAuthenticated = true := by simpa using hauth
  obtain ⟨hsome, hselected, -⟩ := h.hmacOver hauth
  obtain ⟨a, ha⟩ := Option.isSome_iff_exists.mp hsome
  refine ⟨a, ha, ?_⟩
  have hstored := h.stored a ha
  rw [Admission.Current]
  cases hc : a.credential with
  | global => trivial
  | identity identityId secret' response =>
    rw [hc] at hstored
    rw [hstored.2.2.1] at hcheck
    dsimp only at hcheck ⊢
    cases hresolved : identities.resolveSecret identityId with
    | none =>
      rw [hresolved] at hcheck
      cases hcheck
    | some currentSecret =>
      rw [hresolved, hstored.2.2.2] at hcheck
      dsimp only at hcheck
      split_ifs at hcheck with hstale
      by_contra hne
      exact hstale ⟨rfl, fun heq => hne (by rw [heq])⟩
  | device => trivial

/-- An admission of a socket that passes the check is current. -/
lemma Inv.current (h : st.Inv crypto secret known)
    (hcheck : (st.isSocketAuthenticated e2e identities).1 = true) (ha : st.admitted = some a) :
    a.Current identities := by
  have hstored := h.stored a ha
  by_cases hstrategy : st.strategy = some .hmac
  · obtain ⟨b, hb, hcurrent⟩ := h.admitted_of_hmac
      (resolveSocketStrategy_of_strategy hstrategy e2e) hcheck
    rw [ha] at hb
    cases hb
    exact hcurrent
  · rw [Admission.Current]
    cases hc : a.credential with
    | global => trivial
    | identity =>
      rw [hc] at hstored
      exact absurd hstored.1 hstrategy
    | device => trivial

/-- The peer of an admitted socket is the one it proved to be, as long as that is current. -/
lemma Inv.receivePeer (h : st.Inv crypto secret known) (e2e : Bool) (ha : st.admitted = some a)
    (hcurrent : a.Current identities) :
    st.receivePeer e2e identities = a.credential.identityId := by
  have hstored := h.stored a ha
  rw [Admission.Current] at hcurrent
  rw [SocketAuth.receivePeer]
  cases hc : a.credential with
  | global =>
    rw [hc] at hstored
    rw [resolveSocketStrategy_of_strategy hstored.1]
    rw [hstored.2.2]
    rfl
  | identity identityId secret' response =>
    rw [hc] at hstored hcurrent
    rw [resolveSocketStrategy_of_strategy hstored.1]
    rw [hstored.2.2.1]
    exact IdentitySecrets.resolvePeer_of_resolveSecret hcurrent
  | device =>
    rw [hc] at hstored
    rw [resolveSocketStrategy_of_strategy hstored.1]
    exact hstored.2

end SocketAuth

end Makaio.Server

import Makaio.Foundations.Machine
import Makaio.Foundations.OrderedMap

set_option autoImplicit false

/-!
# The connection lifecycle of a bus

`connect()`, `disconnect()` and `registerTransport()` of `bus.ts` share the variables `connected`,
`connectPromise`, `readyPromise` and `activeReadyHandshake`.  A connect attempt goes on after its
caller has moved on: its continuations run when the transports' `connect` and `ready` promises settle
and when a rollback ends, in any order with the calls.  Most of them check that they still own what
they write.  Two do not: the `finally` of the connect promise, and `connected = false` after a failed
readiness.

## Main definitions

* `TransportLifecycle` — the variables and the attempts in progress.
* `lifecycleStep` — one call, or one continuation of an attempt.
* `SettlesAlone` — no newer attempt is in the way of what a superseded attempt resets.

## Main results

* `lifecycleStep_settles` — what a continuation can do.
* `lifecycleInv_step` — the invariant of the runs whose superseded attempts settle alone.
* `superseded_attempts_inert` — on such runs superseded attempts change nothing, and this
  is exactly when they do not.
* `superseded_attempt_resets` — a late failure puts two attempts on the air at once.
-/

namespace Makaio.Bus

open Foundations

/-! ### The state -/

/-- A `ReadyHandshake`. -/
structure ReadyHandshake where
  canceled : Bool
  /-- How `promise` has settled: fulfilled or rejected. -/
  settled : Option Bool

/-- A fresh handshake (`createHandshakeReadyPromise`). -/
def createHandshakeReadyPromise : ReadyHandshake := ⟨false, none⟩

/-- `resolve`: a settled promise stays as it is. -/
def ReadyHandshake.resolve (h : ReadyHandshake) : ReadyHandshake :=
  { h with settled := h.settled.or (some true) }

def ReadyHandshake.reject (h : ReadyHandshake) : ReadyHandshake :=
  { h with settled := h.settled.or (some false) }

/-- `cancel`: callers that await the promise are let go. -/
def ReadyHandshake.cancel (h : ReadyHandshake) : ReadyHandshake :=
  { canceled := true, settled := h.settled.or (some true) }

/-- Where a continuation stands: it awaits something, has ended with its `finally` still to run, or
is over.  `rollingBack stale` awaits the `disconnect` calls of a rollback, of an attempt that found
itself stale or of one that failed. -/
inductive ConnectPhase
  | absent
  | connecting
  | awaitingReady
  | rollingBack (stale : Bool)
  | returned
  | settled
  deriving DecidableEq

/-- One run of the body of `connect()`. -/
structure ConnectAttempt where
  /-- `entries`: the names and the identities of the transports taken at the start. -/
  entries : List (String × ℕ)
  /-- `options?.awaitReady !== false` -/
  awaitReady : Bool
  handshake : ReadyHandshake
  /-- `deferHandshakeCleanupToFinalizeReady` -/
  deferHandshakeCleanup : Bool
  /-- The connect promise. -/
  phase : ConnectPhase
  /-- The `finalizeReady()` left in the background with `awaitReady: false`. -/
  background : ConnectPhase
  transportsConnected : Bool
  /-- It has set `connected` and not taken it back. -/
  holdsConnection : Bool

/-- An attempt that awaits the transports' `connect`. -/
def ConnectAttempt.begin (entries : List (String × ℕ)) (awaitReady : Bool) : ConnectAttempt where
  entries := entries
  awaitReady := awaitReady
  handshake := createHandshakeReadyPromise
  deferHandshakeCleanup := false
  phase := .connecting
  background := .absent
  transportsConnected := false
  holdsConnection := false

/-- The closure variables of `createTransportMethods`.  Promises and handshakes are named by the
attempt that made them, registrations of a transport by their number. -/
structure TransportLifecycle where
  connected : Bool
  connectPromise : Option ℕ
  readyPromise : Option ℕ
  activeReadyHandshake : Option ℕ
  localTransports : OrderedMap String ℕ
  nextEntry : ℕ
  attempts : List ConnectAttempt

namespace TransportLifecycle

/-- A bus just made. -/
def start : TransportLifecycle := ⟨false, none, none, none, .empty, 0, []⟩

/-- Attempt `i` becomes `a`. -/
def put (s : TransportLifecycle) (i : ℕ) (a : ConnectAttempt) : TransportLifecycle :=
  { s with attempts := s.attempts.set i a }

/-! ### The helpers of `createTransportMethods` -/

def hasActiveTransportLifecycle (s : TransportLifecycle) : Bool :=
  s.connected || s.connectPromise.isSome

def areEntriesCurrent (s : TransportLifecycle) (entries : List (String × ℕ)) : Bool :=
  entries.all fun e => s.localTransports.get? e.1 = some e.2

/-- The identity-guarded deletion of `rollbackEntries`, up to its `await`. -/
def rollbackEntries (locals : OrderedMap String ℕ) (entries : List (String × ℕ)) :
    OrderedMap String ℕ :=
  entries.foldl (fun m e => if m.get? e.1 = some e.2 then m.delete e.1 else m) locals

def clearReadyPromise (s : TransportLifecycle) (i : ℕ) : Option ℕ :=
  if s.readyPromise = some i then none else s.readyPromise

/-! ### The calls -/

/-- `registerTransport`.  It throws while a lifecycle is active. -/
def registerTransport (s : TransportLifecycle) (name : String) : TransportLifecycle :=
  if s.hasActiveTransportLifecycle then s
  else { s with localTransports := s.localTransports.set name s.nextEntry,
                nextEntry := s.nextEntry + 1 }

def disconnect (s : TransportLifecycle) : TransportLifecycle :=
  { s with
    connected := false
    attempts := match s.activeReadyHandshake with
      | some i => s.attempts.modify i fun a => { a with handshake := a.handshake.cancel }
      | none => s.attempts
    activeReadyHandshake := none
    connectPromise := none
    readyPromise := none
    localTransports := .empty }

/-- `connect`, up to the first `await`.  A call that finds the bus connected or an attempt in flight
waits for it and changes nothing. -/
def connect (s : TransportLifecycle) (awaitReady : Bool) : TransportLifecycle :=
  if s.hasActiveTransportLifecycle then s
  else if s.localTransports.entries = [] then s
  else
    let i := s.attempts.length
    { s with
      readyPromise := some i
      activeReadyHandshake := some i
      connectPromise := some i
      attempts := s.attempts ++ [.begin s.localTransports.entries awaitReady] }

/-! ### The continuations of an attempt -/

/-- `failAttempt`, up to its `await`. -/
def failAttempt (s : TransportLifecycle) (i : ℕ) (a : ConnectAttempt) :
    TransportLifecycle × ConnectAttempt :=
  ({ s with readyPromise := s.clearReadyPromise i,
            localTransports := rollbackEntries s.localTransports a.entries },
    { a with handshake := a.handshake.reject })

/-- `finalizeReady`, after the transports have become ready or the handshake was cancelled: the state
and what the continuation does next. -/
def finalizeReady (s : TransportLifecycle) (a : ConnectAttempt) :
    TransportLifecycle × ConnectAttempt × ConnectPhase :=
  if !s.connected || a.handshake.canceled then (s, a, .returned)
  else if !s.areEntriesCurrent a.entries then
    ({ s with localTransports := rollbackEntries s.localTransports a.entries }, a, .rollingBack true)
  else (s, { a with handshake := a.handshake.resolve }, .returned)

/-- The transports have connected and are still those of the attempt: the bus is connected, and
`finalizeReady()` runs up to its first `await`. -/
def openConnection (s : TransportLifecycle) (i : ℕ) (a : ConnectAttempt) : TransportLifecycle :=
  let next := if a.handshake.canceled then ConnectPhase.returned else .awaitingReady
  let a' := { a with transportsConnected := true, holdsConnection := true }
  { s with connected := true }.put i
    (if a.awaitReady then { a' with phase := next }
     else { a' with phase := .returned, background := next, deferHandshakeCleanup := true })

/-- The transports' `connect` promises have settled. -/
def connectSettled (s : TransportLifecycle) (i : ℕ) (a : ConnectAttempt) (ok : Bool) :
    TransportLifecycle :=
  if !ok then
    let (s', a') := s.failAttempt i a
    s'.put i { a' with phase := .rollingBack false }
  else if !s.areEntriesCurrent a.entries then
    { s with localTransports := rollbackEntries s.localTransports a.entries }.put i
      { a with transportsConnected := true, phase := .rollingBack true }
  else s.openConnection i a

/-- The readiness of the transports is decided while `connect()` awaits it. -/
def readySettled (s : TransportLifecycle) (i : ℕ) (a : ConnectAttempt) : Bool → TransportLifecycle
  | true =>
    let (s', a', next) := s.finalizeReady a
    s'.put i { a' with phase := next }
  | false =>
    let (s', a') := { s with connected := false }.failAttempt i { a with holdsConnection := false }
    s'.put i { a' with phase := .rollingBack false }

/-- The rollback of `connect()` has ended. -/
def rolledBack (s : TransportLifecycle) (i : ℕ) (a : ConnectAttempt) (stale : Bool) :
    TransportLifecycle :=
  s.put i { a with
    handshake := if stale then a.handshake.resolve else a.handshake, phase := .returned }

/-- The `finally` of the connect promise. -/
def finallyConnect (s : TransportLifecycle) (i : ℕ) (a : ConnectAttempt) : TransportLifecycle :=
  { s with
    connectPromise := none
    activeReadyHandshake :=
      if !a.deferHandshakeCleanup && s.activeReadyHandshake = some i then none
      else s.activeReadyHandshake }.put i { a with phase := .settled }

/-- The readiness of the transports is decided in the background. -/
def backgroundReadySettled (s : TransportLifecycle) (i : ℕ) (a : ConnectAttempt) :
    Bool → TransportLifecycle
  | true =>
    let (s', a', next) := s.finalizeReady a
    s'.put i { a' with background := next }
  | false =>
    let (s', a') := s.failAttempt i a
    s'.put i { a' with background := .rollingBack false }

/-- A rollback in the background has ended: `connected` is reset only now. -/
def backgroundRolledBack (s : TransportLifecycle) (i : ℕ) (a : ConnectAttempt) :
    Bool → TransportLifecycle
  | true => s.put i { a with handshake := a.handshake.resolve, background := .returned }
  | false =>
    { s with connected := false }.put i { a with holdsConnection := false, background := .returned }

/-- The `finally` of the background readiness. -/
def finallyBackground (s : TransportLifecycle) (i : ℕ) (a : ConnectAttempt) : TransportLifecycle :=
  { s with
    activeReadyHandshake :=
      if s.activeReadyHandshake = some i then none else s.activeReadyHandshake }.put i
    { a with background := .settled }

end TransportLifecycle

/-! ### The machine -/

/-- A call on the bus, or the continuation of attempt `i` that is due. -/
inductive LifecycleAction
  | registerTransport (name : String)
  | disconnect
  | connect (awaitReady : Bool)
  /-- `connect()` of attempt `i` goes on; where the transports decide, they say `ok`. -/
  | resume (i : ℕ) (ok : Bool)
  /-- The background readiness of attempt `i` goes on. -/
  | resumeBackground (i : ℕ) (ok : Bool)

/-- What `connect()` of attempt `i` does next. -/
def TransportLifecycle.resume (s : TransportLifecycle) (i : ℕ) (ok : Bool) :
    Option TransportLifecycle :=
  s.attempts[i]?.bind fun a =>
    match a.phase with
    | .connecting => some (s.connectSettled i a ok)
    | .awaitingReady => some (s.readySettled i a ok)
    | .rollingBack stale => some (s.rolledBack i a stale)
    | .returned => some (s.finallyConnect i a)
    | .absent | .settled => none

/-- What the background readiness of attempt `i` does next. -/
def TransportLifecycle.resumeBackground (s : TransportLifecycle) (i : ℕ) (ok : Bool) :
    Option TransportLifecycle :=
  s.attempts[i]?.bind fun a =>
    match a.background with
    | .awaitingReady => some (s.backgroundReadySettled i a ok)
    | .rollingBack stale => some (s.backgroundRolledBack i a stale)
    | .returned => some (s.finallyBackground i a)
    | .absent | .connecting | .settled => none

/-- A run: the bus, and how many attempts had been started at the last `disconnect()`. -/
structure ConnectRun where
  bus : TransportLifecycle
  disconnectedBefore : ℕ

/-- The attempt whose settlement an action is part of. -/
def LifecycleAction.settles? : LifecycleAction → Option ℕ
  | .resume i _ | .resumeBackground i _ => some i
  | _ => none

namespace ConnectRun

/-- A run begins. -/
def start : ConnectRun := ⟨.start, 0⟩

/-- Attempt `i` is superseded: by a `disconnect()` or by a newer `connect()`. -/
def Superseded (u : ConnectRun) (i : ℕ) : Prop :=
  i < u.disconnectedBefore ∨ i + 1 < u.bus.attempts.length

instance (u : ConnectRun) (i : ℕ) : Decidable (u.Superseded i) :=
  inferInstanceAs (Decidable (_ ∨ _))

/-- The newest attempt, if no `disconnect()` came after its start. -/
def newest? (u : ConnectRun) : Option ConnectAttempt :=
  if u.disconnectedBefore < u.bus.attempts.length then u.bus.attempts.getLast? else none

/-- The newest attempt is still in flight. -/
def NewestInFlight (u : ConnectRun) : Prop := ∃ a, u.newest? = some a ∧ a.phase ≠ .settled

/-- The newest attempt has the bus connected. -/
def NewestHolds (u : ConnectRun) : Prop := ∃ a, u.newest? = some a ∧ a.holdsConnection = true

/-- Attempt `i` is live: started, in flight and not disconnected. -/
def Live (u : ConnectRun) (i : ℕ) : Prop :=
  u.disconnectedBefore ≤ i ∧ ∃ a, u.bus.attempts[i]? = some a ∧ a.phase ≠ .settled

end ConnectRun

/-- The continuation is the `finally` of a connect promise. -/
def LifecycleAction.ResetsPromise (s : TransportLifecycle) : LifecycleAction → Prop
  | .resume i _ => s.attempts[i]?.map (·.phase) = some .returned
  | _ => False

/-- The continuation handles a failed readiness: awaited by `connect()`, or in the background after
the rollback. -/
def LifecycleAction.ResetsConnected (s : TransportLifecycle) : LifecycleAction → Prop
  | .resume i ok => s.attempts[i]?.map (·.phase) = some .awaitingReady ∧ ok = false
  | .resumeBackground i _ => s.attempts[i]?.map (·.background) = some (.rollingBack false)
  | _ => False

/-- A superseded attempt does not run its `finally` while a newer attempt is in flight, and does not
handle a failed readiness while a newer attempt has the bus connected. -/
def SettlesAlone (u : ConnectRun) (action : LifecycleAction) : Prop :=
  ∀ i, action.settles? = some i → u.Superseded i →
    (action.ResetsPromise u.bus → ¬u.NewestInFlight) ∧
      (action.ResetsConnected u.bus → ¬u.NewestHolds)

instance (u : ConnectRun) : Decidable u.NewestInFlight :=
  decidable_of_iff (u.newest?.any fun a => a.phase ≠ .settled) (by
    simp [Option.any_eq_true, ConnectRun.NewestInFlight])

instance (u : ConnectRun) : Decidable u.NewestHolds :=
  decidable_of_iff (u.newest?.any fun a => a.holdsConnection) (by
    simp [Option.any_eq_true, ConnectRun.NewestHolds])

instance (s : TransportLifecycle) : ∀ action : LifecycleAction, Decidable (action.ResetsPromise s)
  | .resume _ _ => inferInstanceAs (Decidable (_ = _))
  | .resumeBackground _ _ | .registerTransport _ | .disconnect | .connect _ => .isFalse id

instance (s : TransportLifecycle) :
    ∀ action : LifecycleAction, Decidable (action.ResetsConnected s)
  | .resume _ _ => inferInstanceAs (Decidable (_ ∧ _))
  | .resumeBackground _ _ => inferInstanceAs (Decidable (_ = _))
  | .registerTransport _ | .disconnect | .connect _ => .isFalse id

instance (u : ConnectRun) (action : LifecycleAction) : Decidable (SettlesAlone u action) :=
  decidable_of_iff (∀ i ∈ action.settles?, u.Superseded i →
    (action.ResetsPromise u.bus → ¬u.NewestInFlight) ∧
      (action.ResetsConnected u.bus → ¬u.NewestHolds)) Iff.rfl

/-! ### What a continuation can do -/

/-- A background readiness that has not failed and will not: it leaves `connected` alone. -/
def ConnectPhase.Quiet (p : ConnectPhase) : Prop := p ≠ .awaitingReady ∧ p ≠ .rollingBack false

/-- What holds of each attempt by itself. -/
structure ConnectAttempt.Ok (a : ConnectAttempt) : Prop where
  entries : a.entries ≠ []
  opened : a.holdsConnection = true → a.transportsConnected = true
  background : ¬a.background.Quiet → a.holdsConnection = true
  returned : a.background ≠ .absent → a.phase = .returned ∨ a.phase = .settled

/-- Attempt `i` goes from `a` to `a'`. -/
structure Settles (action : LifecycleAction) (s s' : TransportLifecycle) (i : ℕ)
    (a a' : ConnectAttempt) : Prop where
  attempts : s'.attempts = s.attempts.set i a'
  entries : a'.entries = a.entries
  ok : a.Ok → a'.Ok
  locals : ∀ name v, s'.localTransports.get? name = some v → s.localTransports.get? name = some v
  nextEntry : s'.nextEntry = s.nextEntry
  readyPromise : s'.readyPromise = s.readyPromise ∨ s.readyPromise = some i ∧ s'.readyPromise = none
  quiet : a.phase = .settled → a.background.Quiet → a'.phase = .settled ∧ a'.background.Quiet
  /-- The connect promise is forgotten by the `finally`, by nothing else. -/
  finished : action.ResetsPromise s →
    s'.connectPromise = none ∧ a.phase = .returned ∧ a'.phase = .settled
  unfinished : ¬action.ResetsPromise s →
    s'.connectPromise = s.connectPromise ∧ (a'.phase = .settled ↔ a.phase = .settled)
  /-- `connected` is reset by a failed readiness, by nothing else; it is set while the entries are
  current. -/
  failed : action.ResetsConnected s → s'.connected = false ∧ a'.holdsConnection = false
  kept : ¬action.ResetsConnected s →
    s'.connected = s.connected ∧ a'.holdsConnection = a.holdsConnection ∨
      s'.connected = true ∧ a'.holdsConnection = true ∧ a.phase ≠ .settled ∧
        s.areEntriesCurrent a.entries = true

namespace TransportLifecycle

variable {s : TransportLifecycle} {i : ℕ} {a : ConnectAttempt}
variable {ok : Bool}

variable {handshake : ReadyHandshake} {next : ConnectPhase} {s' : TransportLifecycle}

section

variable (ha : s.attempts[i]? = some a)
include ha

variable {stale : Bool}

end

end TransportLifecycle

variable {action : LifecycleAction}

/-- The invariant of the runs whose superseded attempts settle alone. -/
structure LifecycleInv (u : ConnectRun) : Prop where
  bound : u.disconnectedBefore ≤ u.bus.attempts.length
  ok : ∀ a ∈ u.bus.attempts, a.Ok
  /-- Every attempt but the newest is disconnected or over. -/
  older : ∀ i a, u.bus.attempts[i]? = some a → u.disconnectedBefore ≤ i →
    i + 1 < u.bus.attempts.length → a.phase = .settled ∧ a.background.Quiet
  promise : u.bus.connectPromise.isSome = true ↔ u.NewestInFlight
  connected : u.bus.connected = true ↔ u.NewestHolds
  ready : ∀ i, u.bus.readyPromise = some i → ¬u.Superseded i
  fresh : ∀ name v, u.bus.localTransports.get? name = some v → v < u.bus.nextEntry
  taken : ∀ a ∈ u.bus.attempts, ∀ e ∈ a.entries, e.2 < u.bus.nextEntry
  /-- No transport of a disconnected attempt is registered. -/
  stale : ∀ i a, u.bus.attempts[i]? = some a → i < u.disconnectedBefore → ∀ e ∈ a.entries,
    ∀ name, u.bus.localTransports.get? name ≠ some e.2

variable {a' : ConnectAttempt}

namespace ConnectRun

variable {u : ConnectRun} {a : ConnectAttempt} {i : ℕ}

/-- The newest attempt by its number. -/
lemma newest?_eq_some_iff : u.newest? = some a ↔ ∃ i, u.bus.attempts[i]? = some a ∧
    u.disconnectedBefore ≤ i ∧ i + 1 = u.bus.attempts.length := by
  unfold newest?
  rw [List.getLast?_eq_getElem?]
  split_ifs with h
  · constructor
    · exact fun ha => ⟨_, ha, by omega, by omega⟩
    · rintro ⟨i, ha, _, hi⟩
      rwa [← hi, Nat.add_sub_cancel]
  · simp only [false_iff, not_exists, not_and]
    intro i _ hd hi
    omega

/-- An attempt that is not superseded is the newest. -/
lemma newest?_of_not_superseded (ha : u.bus.attempts[i]? = some a) (hi : ¬u.Superseded i) :
    u.newest? = some a := by
  obtain ⟨hlt, -⟩ := List.getElem?_eq_some_iff.mp ha
  rw [Superseded] at hi
  exact newest?_eq_some_iff.mpr ⟨i, ha, by omega, by omega⟩

/-- A superseded attempt may change without the newest one changing. -/
lemma newest?_of_superseded {v : ConnectRun} (hd : v.disconnectedBefore = u.disconnectedBefore)
    (hattempts : v.bus.attempts = u.bus.attempts.set i a') (hi : u.Superseded i) :
    v.newest? = u.newest? := by
  have hlength : v.bus.attempts.length = u.bus.attempts.length := by simp [hattempts]
  rw [newest?, newest?, hd, hlength]
  split_ifs with hlt
  · rw [List.getLast?_eq_getElem?, List.getLast?_eq_getElem?, hlength, hattempts,
      List.getElem?_set_ne]
    rw [Superseded] at hi
    omega
  · rfl

end ConnectRun

namespace LifecycleInv

variable {u v : ConnectRun}

/-- `registerTransport()` takes a new number. -/
lemma registerTransport (h : LifecycleInv u) (name : String) :
    LifecycleInv { u with bus := u.bus.registerTransport name } := by
  rw [TransportLifecycle.registerTransport]
  split_ifs
  · exact h
  · exact {
      bound := h.bound
      ok := h.ok
      older := h.older
      promise := h.promise
      connected := h.connected
      ready := h.ready
      fresh := by
        intro other v hv
        rw [OrderedMap.get?_set] at hv
        split_ifs at hv
        · cases hv
          exact Nat.lt_succ_self _
        · exact Nat.lt_succ_of_lt (h.fresh other v hv)
      taken := fun a ha e he => Nat.lt_succ_of_lt (h.taken a ha e he)
      stale := by
        intro i a ha hi e he other hv
        rw [OrderedMap.get?_set] at hv
        split_ifs at hv
        · exact absurd (Option.some.inj hv) (h.taken a (List.mem_of_getElem? ha) e he).ne'
        · exact h.stale i a ha hi e he other hv }

/-- `disconnect()` supersedes every attempt and forgets every transport. -/
lemma disconnect (h : LifecycleInv u) : LifecycleInv ⟨u.bus.disconnect, u.bus.attempts.length⟩ := by
  have hlength : u.bus.disconnect.attempts.length = u.bus.attempts.length := by
    unfold TransportLifecycle.disconnect
    split <;> simp
  have hmem : ∀ a ∈ u.bus.disconnect.attempts, ∃ b ∈ u.bus.attempts,
      a = b ∨ a = { b with handshake := b.handshake.cancel } := by
    intro a ha
    unfold TransportLifecycle.disconnect at ha
    split at ha
    · next j _ =>
      obtain ⟨k, hk⟩ := List.mem_iff_getElem?.mp ha
      rw [List.getElem?_modify] at hk
      obtain ⟨b, hb, hba⟩ := Option.map_eq_some_iff.mp hk
      refine ⟨b, List.mem_of_getElem? hb, ?_⟩
      split_ifs at hba
      · exact .inr hba.symm
      · exact .inl hba.symm
    · exact ⟨a, ha, .inl rfl⟩
  have hnewest : (⟨u.bus.disconnect, u.bus.attempts.length⟩ : ConnectRun).newest? = none := by
    simp [ConnectRun.newest?, hlength]
  exact {
    bound := hlength.ge
    ok := by
      intro a ha
      obtain ⟨b, hb, rfl | rfl⟩ := hmem a ha
      · exact h.ok a hb
      · exact ⟨(h.ok b hb).entries, (h.ok b hb).opened, (h.ok b hb).background,
          (h.ok b hb).returned⟩
    older := by
      intro i a _ hd hi
      rw [hlength] at hi
      dsimp only at hd
      omega
    promise := by
      have hpromise : u.bus.disconnect.connectPromise = none := rfl
      simp [ConnectRun.NewestInFlight, hnewest, hpromise]
    connected := by
      have hconnected : u.bus.disconnect.connected = false := rfl
      simp [ConnectRun.NewestHolds, hnewest, hconnected]
    ready := by simp [TransportLifecycle.disconnect]
    fresh := by simp [TransportLifecycle.disconnect]
    taken := by
      intro a ha e he
      obtain ⟨b, hb, rfl | rfl⟩ := hmem a ha
      · exact h.taken a hb e he
      · exact h.taken b hb e he
    stale := by simp [TransportLifecycle.disconnect] }

/-- `connect()` starts an attempt only when the last one is disconnected or over. -/
lemma connect (h : LifecycleInv u) (awaitReady : Bool) :
    LifecycleInv { u with bus := u.bus.connect awaitReady } := by
  rw [TransportLifecycle.connect]
  split_ifs with hactive hempty
  · exact h
  · exact h
  obtain ⟨hconnected, hpromise⟩ : u.bus.connected = false ∧ u.bus.connectPromise = none := by
    simpa [TransportLifecycle.hasActiveTransportLifecycle] using hactive
  have hinFlight : ¬u.NewestInFlight := by simp [← h.promise, hpromise]
  have hholds : ¬u.NewestHolds := by simp [← h.connected, hconnected]
  set a := ConnectAttempt.begin u.bus.localTransports.entries awaitReady with ha
  set w : ConnectRun := { u with bus := _ } with hw
  have hattempts : w.bus.attempts = u.bus.attempts ++ [a] := rfl
  have hnewest : w.newest? = some a :=
    ConnectRun.newest?_eq_some_iff.mpr
      ⟨u.bus.attempts.length, by simp [hattempts], h.bound, by simp [hattempts]⟩
  have hold : ∀ {i b}, w.bus.attempts[i]? = some b →
      u.bus.attempts[i]? = some b ∨ b = a ∧ i = u.bus.attempts.length := by
    intro i b hb
    rw [hattempts, List.getElem?_append] at hb
    split_ifs at hb with hi
    · exact .inl hb
    · obtain ⟨hlt, hba⟩ := List.getElem?_eq_some_iff.mp hb
      simp only [List.length_singleton] at hlt
      exact .inr ⟨by simpa using hba.symm, by omega⟩
  exact {
    bound := by simpa [hattempts] using Nat.le_succ_of_le h.bound
    ok := by
      intro b hb
      rw [hattempts, List.mem_append, List.mem_singleton] at hb
      rcases hb with hb | rfl
      · exact h.ok b hb
      · exact ⟨hempty, by simp [ha, ConnectAttempt.begin],
          by simp [ha, ConnectAttempt.begin, ConnectPhase.Quiet],
          by simp [ha, ConnectAttempt.begin]⟩
    older := by
      intro i b hb hd hi
      rcases hold hb with hb | ⟨-, rfl⟩
      · rcases Nat.lt_or_ge (i + 1) u.bus.attempts.length with hlt | hge
        · exact h.older i b hb hd hlt
        -- `b` was the newest attempt: it is not in flight and does not hold the connection
        · obtain ⟨hlt, -⟩ := List.getElem?_eq_some_iff.mp hb
          have hb' : u.newest? = some b :=
            ConnectRun.newest?_eq_some_iff.mpr ⟨i, hb, hd, by omega⟩
          constructor
          · by_contra hphase
            exact hinFlight ⟨b, hb', hphase⟩
          · by_contra hloud
            exact hholds ⟨b, hb', (h.ok b (List.mem_of_getElem? hb)).background hloud⟩
      · rw [hattempts] at hi
        simp at hi
    promise := by
      have hphase : a.phase ≠ .settled := by simp [ha, ConnectAttempt.begin]
      exact iff_of_true rfl ⟨a, hnewest, hphase⟩
    connected := by
      refine iff_of_false (by simp [hw, hconnected]) ?_
      rintro ⟨b, hb, hbholds⟩
      cases hnewest.symm.trans hb
      exact absurd hbholds (by simp [ha, ConnectAttempt.begin])
    ready := by
      intro i hi
      obtain rfl : u.bus.attempts.length = i := Option.some.inj hi
      have hd := h.bound
      rw [ConnectRun.Superseded, hattempts]
      simp only [List.length_append, List.length_singleton, lt_self_iff_false, or_false, not_lt]
      exact hd
    fresh := h.fresh
    taken := by
      intro b hb e he
      rw [hattempts, List.mem_append, List.mem_singleton] at hb
      rcases hb with hb | rfl
      · exact h.taken b hb e he
      · exact h.fresh e.1 e.2 (OrderedMap.mem_entries_iff.mp he)
    stale := by
      intro i b hb hi e he name
      rcases hold hb with hb | ⟨-, rfl⟩
      · exact h.stale i b hb hi e he name
      · exact absurd hi (Nat.not_lt.mpr h.bound) }

/-- A superseded attempt that is not over was disconnected, so its transports are gone. -/
lemma not_superseded_of_current (h : LifecycleInv u) {i : ℕ} {a : ConnectAttempt}
    (ha : u.bus.attempts[i]? = some a) (hphase : a.phase ≠ .settled)
    (hcurrent : u.bus.areEntriesCurrent a.entries = true) : ¬u.Superseded i := by
  intro hi
  have hlt : i < u.disconnectedBefore := by
    rcases hi with hi | hi
    · exact hi
    · by_contra hd
      exact hphase (h.older i a ha (Nat.not_lt.mp hd) hi).1
  obtain ⟨e, he⟩ := List.exists_mem_of_ne_nil _ (h.ok a (List.mem_of_getElem? ha)).entries
  have hget := List.all_eq_true.mp hcurrent e he
  exact h.stale i a ha hlt e he e.1 (by simpa using hget)

/-- A continuation keeps the invariant when a superseded attempt settles alone. -/
lemma settles (h : LifecycleInv u) {i : ℕ} {a : ConnectAttempt} (ha : u.bus.attempts[i]? = some a)
    (haction : action.settles? = some i) (halone : SettlesAlone u action)
    (hd : v.disconnectedBefore = u.disconnectedBefore) (hs : Settles action u.bus v.bus i a a') :
    LifecycleInv v := by
  have hlength : v.bus.attempts.length = u.bus.attempts.length := by simp [hs.attempts]
  have hsuperseded : ∀ j, v.Superseded j ↔ u.Superseded j := by
    intro j
    rw [ConnectRun.Superseded, ConnectRun.Superseded, hd, hlength]
  have hget : ∀ {j b}, v.bus.attempts[j]? = some b →
      (j = i ∧ b = a') ∨ j ≠ i ∧ u.bus.attempts[j]? = some b := by
    intro j b hb
    rw [hs.attempts, List.getElem?_set] at hb
    split_ifs at hb with hj
    · exact .inl ⟨hj.symm, (Option.some.inj hb).symm⟩
    · exact .inr ⟨fun hji => hj hji.symm, hb⟩
  have hin : ∀ {b}, b ∈ v.bus.attempts → b = a' ∨ b ∈ u.bus.attempts := by
    intro b hb
    obtain ⟨j, hj⟩ := List.mem_iff_getElem?.mp hb
    rcases hget hj with ⟨-, rfl⟩ | ⟨-, hj⟩
    · exact .inl rfl
    · exact .inr (List.mem_of_getElem? hj)
  have hold : u.Superseded i → v.newest? = u.newest? := fun hi =>
    ConnectRun.newest?_of_superseded hd hs.attempts hi
  have hnew : ¬u.Superseded i → u.newest? = some a ∧ v.newest? = some a' := by
    intro hi
    refine ⟨ConnectRun.newest?_of_not_superseded ha hi, ?_⟩
    refine ConnectRun.newest?_of_not_superseded ?_ ((hsuperseded i).not.mpr hi)
    rw [hs.attempts, List.getElem?_set_self (List.getElem?_eq_some_iff.mp ha).1]
  exact {
    bound := by rw [hd, hlength]; exact h.bound
    ok := by
      intro b hb
      rcases hin hb with rfl | hb
      · exact hs.ok (h.ok a (List.mem_of_getElem? ha))
      · exact h.ok b hb
    older := by
      intro j b hb hdj hj
      rw [hd] at hdj
      rw [hlength] at hj
      rcases hget hb with ⟨rfl, rfl⟩ | ⟨-, hb⟩
      · obtain ⟨hphase, hquiet⟩ := h.older _ a ha hdj hj
        exact hs.quiet hphase hquiet
      · exact h.older j b hb hdj hj
    promise := by
      by_cases hi : u.Superseded i
      · rw [ConnectRun.NewestInFlight, hold hi, ← ConnectRun.NewestInFlight]
        by_cases hreset : action.ResetsPromise u.bus
        · rw [(hs.finished hreset).1]
          exact iff_of_false (by simp) ((halone i haction hi).1 hreset)
        · rw [(hs.unfinished hreset).1]
          exact h.promise
      · obtain ⟨hu, hv⟩ := hnew hi
        have hpromise := h.promise
        simp only [ConnectRun.NewestInFlight, hu, hv, Option.some.injEq, exists_eq_left'] at hpromise ⊢
        by_cases hreset : action.ResetsPromise u.bus
        · obtain ⟨hnone, -, hphase⟩ := hs.finished hreset
          simp [hnone, hphase]
        · obtain ⟨hsame, hphase⟩ := hs.unfinished hreset
          rw [hsame, hpromise, Ne, Ne, hphase]
    connected := by
      by_cases hi : u.Superseded i
      · rw [ConnectRun.NewestHolds, hold hi, ← ConnectRun.NewestHolds]
        by_cases hreset : action.ResetsConnected u.bus
        · rw [(hs.failed hreset).1]
          exact iff_of_false (by simp) ((halone i haction hi).2 hreset)
        · rcases hs.kept hreset with ⟨hsame, -⟩ | ⟨-, -, hphase, hcurrent⟩
          · rw [hsame]
            exact h.connected
          · exact absurd hi (h.not_superseded_of_current ha hphase hcurrent)
      · obtain ⟨hu, hv⟩ := hnew hi
        have hconnected := h.connected
        simp only [ConnectRun.NewestHolds, hu, hv, Option.some.injEq, exists_eq_left']
          at hconnected ⊢
        by_cases hreset : action.ResetsConnected u.bus
        · obtain ⟨hfalse, hholds⟩ := hs.failed hreset
          simp [hfalse, hholds]
        · rcases hs.kept hreset with ⟨hsame, hholds⟩ | ⟨htrue, hholds, -, -⟩
          · rw [hsame, hconnected, hholds]
          · simp [htrue, hholds]
    ready := by
      intro j hj
      rw [hsuperseded]
      rcases hs.readyPromise with hsame | ⟨-, hnone⟩
      · exact h.ready j (hsame ▸ hj)
      · simp [hnone] at hj
    fresh := by
      intro name w hw
      rw [hs.nextEntry]
      exact h.fresh name w (hs.locals name w hw)
    taken := by
      intro b hb e he
      rw [hs.nextEntry]
      rcases hin hb with rfl | hb
      · exact h.taken a (List.mem_of_getElem? ha) e (hs.entries ▸ he)
      · exact h.taken b hb e he
    stale := by
      intro j b hb hj e he name hname
      rw [hd] at hj
      rcases hget hb with ⟨rfl, rfl⟩ | ⟨-, hb⟩
      · exact h.stale _ a ha hj e (hs.entries ▸ he) name (hs.locals _ _ hname)
      · exact h.stale j b hb hj e he name (hs.locals _ _ hname) }

end LifecycleInv

end Makaio.Bus

import Makaio.Foundations.Machine
import Makaio.Turns.SlotRegistry

set_option autoImplicit false

/-!
# The turn manager of a session

Calls to the manager run from one await point to the next, and the steps of all calls interleave
freely.  A call may wait for another one: for the retries of retained completions, for the creation
of a turn, for its preparation, or for a completion.  Turn storage, message storage and the bus
decide how an awaited operation ends.

Usage accounting and the persistence barrier of a completion do not touch slots or ledgers; the
awaits they add to a completion are kept.

## Main definitions

* `Stage` — where a call stands.
* `SessionTurnManager` — the maps of the manager, with the calls in flight.
* `SessionTurnManager.step` — a new call, the settling of a lease, or the next step of
  a call.
* `Entry` — what an observer of slots and ledgers sees.
-/

namespace Makaio.Turns

open Foundations

/-! ### Calls in flight -/

/-- The arguments of `acquireMessageAdmission`. -/
structure AdmissionRequest where
  agentIds : List String
  messageId : String

/-- What a call does once retained completions have been retried. -/
inductive Next
  | acquire (request : AdmissionRequest)
  | reserve

/-- Where a call stands: what its next step does. -/
inductive Stage
  /-- `finalize` of `retryRetainedCompletionsForSession`: first the failed setups, then the rest -/
  | retrying (setup : Bool) (todo : List String) (awaited : Option ℕ)
  /-- `awaitFinalization`: wait for the retries, as the one that started them or as a joiner -/
  | awaitingRetries (next : Next) (retries : ℕ) (isOwner : Bool)
  /-- `createReservedTurn`: wait for turn storage -/
  | creating (reservation : ℕ) (agentIds : List String)
  /-- `acquire`: wait for a creation, as the one that started it or as a joiner -/
  | awaitingCreation (request : AdmissionRequest) (creation : ℕ) (isNew : Bool)
  /-- `acquireMessageAdmission`: admit to the acquired turn -/
  | acquired (request : AdmissionRequest) (turnId : String)
  /-- `acquireMessageAdmission`: admitted, wait for the preparation -/
  | awaitingPreparation (request : AdmissionRequest) (turnId : String) (ready : Option ℕ)
  /-- the caller holds the lease; the owner of the preparation has its promise -/
  | leased (turnId messageId : String) (preparation : Option ℕ)
  /-- `rollback` of a lease, after the ledger was rolled back; the owner has the setup failure -/
  | rollingBack (turnId messageId : String) (setupFailure : Option TurnCompletionResult)
  /-- `acquireMessageAdmission`: rolled back after a failed preparation -/
  | rolledBack (request : AdmissionRequest)
  /-- `completeTurnInternal`: write the terminal row -/
  | persisting (turnId : String)
  /-- `completeTurnInternal`: drain buffered usage -/
  | draining (turnId : String)
  /-- `completeTurnInternal`: persistence barrier, last drain and lifecycle row -/
  | publishing (turnId : String)
  /-- `completeTurnInternal`: emit the completion -/
  | emitting (turnId : String)
  /-- `completeTurn`: drop the settled promise -/
  | completed (turnId : String)

/-- How a promise settled; a creation resolves with its turn. -/
inductive Settlement
  | resolved (turnId : Option String)
  | rejected

/-- The mode of `beginFinalization`. -/
inductive FinalizationMode
  | normal | setup
  deriving DecidableEq

/-- What an observer of slots and ledgers sees: a turn became routable, a message was committed into
it, its completion was requested by a direct call of `completeTurn`, or its finalization began, with
its ledger at that moment. -/
inductive Entry
  | activated (turnId : String)
  | committed (turnId messageId : String)
  | requested (turnId : String)
  | began (turnId : String) (mode : FinalizationMode) (ledger : Option Turn)

/-- The manager: its maps, the turns it created, how promises settled, the calls in flight by their
number, and what has been observed.  The promises of preparations are resolved or rejected. -/
structure SessionTurnManager where
  turnSlots : TurnSlotRegistry
  turns : OrderedMap String Turn
  completingTurnIds : Finset String
  completionPromises : OrderedMap String ℕ
  completingTurns : List String
  pendingTerminalCompletions : OrderedMap String Bool
  pendingTerminalResults : OrderedMap String TurnCompletionResult
  setupFinalizingTurnIds : Finset String
  settled : OrderedMap ℕ Settlement
  preparations : OrderedMap ℕ Bool
  calls : OrderedMap ℕ Stage
  nextCall : ℕ
  history : List Entry

/-- How an awaited operation of the environment ends. -/
inductive Outcome
  | ok
  | fails
  | created (turnId : String) (turnNumber : ℕ)
  | stored (handled transitioned : Bool)
  deriving DecidableEq

/-- A call of a public method, the settling of a lease, or the next step of a call. -/
inductive Action
  | acquireMessageAdmission (request : AdmissionRequest)
  | reserveTurn
  | releaseTurnReservation (reservation : ℕ)
  | createReservedTurn (reservation : ℕ) (agentIds : List String)
  | commit (lease : ℕ)
  | rollback (lease : ℕ) (errorCode : String)
  | recordAgentCompletion (agentId messageId : String) (outcome : MessageOutcome)
      (error : Option String) (turnId : String)
  | completeTurn (turnId : String) (result : TurnCompletionResult)
  | resume (call : ℕ) (outcome : Outcome)

namespace SessionTurnManager

/-- A manager without turns. -/
def empty : SessionTurnManager :=
  ⟨.empty, .empty, ∅, .empty, [], .empty, .empty, ∅, .empty, .empty, .empty, 0, []⟩

variable (m : SessionTurnManager)
variable (call : ℕ)

/-- A call goes on to a stage. -/
def goto (stage : Stage) : SessionTurnManager :=
  { m with calls := m.calls.set call stage }

/-- A call returns or throws. -/
def finish : SessionTurnManager :=
  { m with calls := m.calls.delete call }

/-- The promise of a call settles. -/
def settle (settlement : Settlement) : SessionTurnManager :=
  { m with settled := m.settled.set call settlement }

/-- A new call. -/
def start (stage : Stage) : SessionTurnManager :=
  { m.goto m.nextCall stage with nextCall := m.nextCall + 1 }

variable (turnId : String)

/-- Change the ledger of a turn. -/
def setTurn (turn : Turn) : SessionTurnManager :=
  { m with turns := m.turns.set turnId turn }

/-! ### Completion -/

/-- `beginFinalization`: retain the turn and its canonical result, and close its slot. -/
def beginFinalization (m : SessionTurnManager) (turnId : String) (result : TurnCompletionResult)
    (mode : FinalizationMode) : SessionTurnManager :=
  let canonical := (m.pendingTerminalResults.get? turnId).getD result
  let begun := m.turnSlots.beginFinalization turnId
  { m with
    completingTurns := if turnId ∈ m.completingTurns then m.completingTurns
      else m.completingTurns ++ [turnId]
    pendingTerminalResults := m.pendingTerminalResults.set turnId canonical
    setupFinalizingTurnIds := if mode = .setup then insert turnId m.setupFinalizingTurnIds
      else m.setupFinalizingTurnIds
    turnSlots := begun.1
    history := if begun.2 then
        m.history ++ [.began turnId mode (m.turns.get? turnId)]
      else m.history }

/-- The synchronous part of `completeTurn`, with the promise its caller awaits: an existing
completion, or a new one up to its first await. -/
def completeTurn (result : TurnCompletionResult) :
    SessionTurnManager × ℕ :=
  match m.completionPromises.get? turnId with
  | some existing => (m, existing)
  | none =>
    let call := m.nextCall
    let registered := { m with completionPromises := m.completionPromises.set turnId call }
    if turnId ∈ m.completingTurnIds then
      ((registered.start (.completed turnId)).settle call (.resolved none), call)
    else
      let begun := { registered with
        completingTurnIds := insert turnId m.completingTurnIds }.beginFinalization turnId result
        .normal
      (begun.start (if m.pendingTerminalCompletions.has turnId then .publishing turnId
        else .persisting turnId), call)

def clearCompletionState : SessionTurnManager :=
  { m with
    completingTurns := m.completingTurns.filter (· ≠ turnId)
    completingTurnIds := m.completingTurnIds.erase turnId
    pendingTerminalCompletions := m.pendingTerminalCompletions.delete turnId
    pendingTerminalResults := m.pendingTerminalResults.delete turnId
    setupFinalizingTurnIds := m.setupFinalizingTurnIds.erase turnId
    turnSlots := m.turnSlots.finishFinalization turnId }

/-- A completion that failed before its lifecycle row: only the in-flight guard is released. -/
def retainCompletion (turnId : String) : SessionTurnManager :=
  ({ m with completingTurnIds := m.completingTurnIds.erase turnId }.settle call .rejected).goto call
    (.completed turnId)

/-- A completion that ended, with or without an error of its emission. -/
def endCompletion (turnId : String) (settlement : Settlement) :
    SessionTurnManager :=
  ((m.clearCompletionState turnId).settle call settlement).goto call (.completed turnId)

/-- `retryTurnCompletion`; nothing where there is no retryable completion and it throws. -/
def retryTurnCompletion :
    Option (SessionTurnManager × ℕ) :=
  if turnId ∈ m.completingTurns then
    (m.pendingTerminalResults.get? turnId).map fun result => m.completeTurn turnId result
  else none

/-! ### Acquisition -/

/-- The failed setups that `retryRetainedCompletionsForSession` waits for or retries. -/
def retainedSetups : List String :=
  m.completingTurns.filter fun turnId => turnId ∈ m.setupFinalizingTurnIds

/-- The retained completions that it retries next. -/
def retainedCompletions : List String :=
  m.completingTurns.filter fun turnId =>
    m.pendingTerminalResults.has turnId && decide (turnId ∉ m.completingTurnIds)

/-- The synchronous part of `retryRetainedCompletionsForSession`: join the retries, or start
them. -/
def awaitFinalization (next : Next) : SessionTurnManager :=
  match m.turnSlots.pendingFinalization with
  | some retries => m.goto call (.awaitingRetries next retries false)
  | none =>
    let retries := m.nextCall
    let started := m.start (.retrying true m.retainedSetups none)
    { started with
      turnSlots := { started.turnSlots with pendingFinalization := some retries } }.goto call
      (.awaitingRetries next retries true)

/-- The retries after their promise settled or before their next turn. -/
def retryNext (setup : Bool) :
    List String → SessionTurnManager
  | [] =>
    if setup then m.goto call (.retrying false m.retainedCompletions none)
    else (m.settle call (.resolved none)).finish call
  | turnId :: todo =>
    match m.completionPromises.get? turnId with
    | some inFlight => m.goto call (.retrying setup todo (some inFlight))
    | none =>
      if setup && decide (turnId ∈ m.completingTurnIds) then m.goto call (.retrying setup todo none)
      else
        match m.retryTurnCompletion turnId with
        | none => (m.settle call .rejected).finish call
        | some (m, completion) => m.goto call (.retrying setup todo (some completion))

/-- After the retries: `acquire` or `reserve`. -/
def acquireOrReserve : Next → SessionTurnManager
  | .acquire request =>
    match m.turnSlots.acquire m.nextCall with
    | .error _ => m.finish call
    | .ok (.active turnId) => m.goto call (.acquired request turnId)
    | .ok (.pending creation) => m.goto call (.awaitingCreation request creation false)
    | .ok (.reserved slots) =>
      ({ m with turnSlots := slots }.start (.creating m.nextCall request.agentIds)).goto call
        (.awaitingCreation request m.nextCall true)
  | .reserve =>
    match m.turnSlots.reserve call with
    | .error _ => m.finish call
    | .ok slots => { m with turnSlots := slots }.finish call

/-- `createReservedTurn` after turn storage answered; the reservation is released in every case. -/
def createReservedTurn (reservation : ℕ) (agentIds : List String) (outcome : Outcome) : SessionTurnManager :=
  let fails := ({ m with turnSlots := m.turnSlots.release reservation }.settle call
    .rejected).finish call
  match outcome with
  | .created turnId turnNumber =>
    match Turn.new turnId turnNumber agentIds with
    | .error _ => fails
    | .ok turn =>
      match m.turnSlots.activate reservation turnId with
      | .error _ => fails
      | .ok slots =>
        ({ m.setTurn turnId turn with
          turnSlots := slots.release reservation
          history := m.history ++ [Entry.activated turnId] }.settle call
          (.resolved (some turnId))).finish call
  | _ => fails

/-- `acquireMessageAdmission` with an acquired turn: admit the message and join its preparation, or
acquire again. -/
def admitMessage (m : SessionTurnManager) (call : ℕ) (request : AdmissionRequest) (turnId : String)
    (turn : Turn) : SessionTurnManager :=
  if request.agentIds.any fun agentId => !turn.hasAgent agentId then m.finish call
  else if !m.turnSlots.admits turnId then m.awaitFinalization call (.acquire request)
  else
    match turn.admitMessage request.messageId request.agentIds with
    | .error _ => m.finish call
    | .ok admitted =>
      let prepared := m.turnSlots.beginPreparation turnId m.nextCall
      { m.setTurn turnId admitted with
        turnSlots := prepared.1
        nextCall := m.nextCall + 1 }.goto call (match prepared.2 with
          | .owner promise => .leased turnId request.messageId (some promise)
          | .waiter ready => .awaitingPreparation request turnId ready)

/-- `acquireMessageAdmission` after a failed preparation: roll back and acquire again. -/
def withdraw (request : AdmissionRequest) (turnId : String) (turn : Turn) : SessionTurnManager :=
  match turn.rollbackMessageAdmission request.messageId with
  | .error _ => m.finish call
  | .ok rolled => (m.setTurn turnId rolled).goto call (.rolledBack request)

/-! ### Leases -/

/-- `commit` of a prepared lease. -/
def commitLease (turnId messageId : String) (preparation : Option ℕ) (turn : Turn) : SessionTurnManager :=
  match turn.commitMessageAdmission messageId with
  | .error _ => m.finish call
  | .ok committed =>
    let recorded := { m.setTurn turnId committed with
      history := m.history ++ [Entry.committed turnId messageId] }
    if preparation.isSome then
      match m.turnSlots.completePreparation turnId with
      | .error _ => recorded.finish call
      | .ok (slots, promise) =>
        { recorded with
          turnSlots := slots
          preparations := m.preparations.set promise true }.finish call
    else recorded.finish call

/-- `rollback` of a prepared lease up to its await; an error of the ledger is thrown at the await. -/
def rollbackLease (turnId messageId : String) (preparation : Option ℕ) (errorCode : String) (turn : Turn) :
    SessionTurnManager :=
  let result : TurnCompletionResult := ⟨false, [errorCode]⟩
  let rolled := match turn.rollbackMessageAdmission messageId with
    | .error _ => m.finish call
    | .ok rolled => (m.setTurn turnId rolled).goto call
      (.rollingBack turnId messageId (if preparation.isSome then some result else none))
  if preparation.isSome then
    let begun := rolled.beginFinalization turnId result .setup
    let failed := begun.turnSlots.failPreparation turnId
    { begun with
      turnSlots := failed.1
      preparations := match failed.2 with
        | none => m.preparations
        | some promise => m.preparations.set promise false }
  else rolled

/-- `rollback` of a prepared lease after its await: complete the failed setup, or the turn whose
ledger is closed. -/
def afterRollback (turnId : String) (turn : Turn) :
    Option TurnCompletionResult → SessionTurnManager
  | some result => (m.completeTurn turnId result).1.finish call
  | none =>
    if turn.isComplete then
      ((m.beginFinalization turnId turn.getResult .normal).completeTurn turnId
        turn.getResult).1.finish call
    else m.finish call

/-! ### Steps -/

/-- `recordAgentCompletion`: record the outcome of an active or completing turn, and complete it
when its ledger closes. -/
def recordAgentCompletion (agentId messageId : String)
    (outcome : MessageOutcome) (error : Option String) (turnId : String) (turn : Turn) :
    SessionTurnManager :=
  if !(m.turnSlots.activeTurn = some turnId || turnId ∈ m.completingTurns) ||
      !turn.hasAgent agentId then m
  else
    match turn.recordPairTerminal messageId agentId outcome error with
    | (_, .refused) =>
      if m.pendingTerminalResults.has turnId && decide (turnId ∉ m.completingTurnIds) then
        match m.retryTurnCompletion turnId with
        | none => m
        | some (m, _) => m
      else m
    | (recorded, .accepted) => m.setTurn turnId recorded
    | (recorded, .turnComplete result) =>
      (((m.setTurn turnId recorded).beginFinalization turnId result .normal).completeTurn turnId
        result).1

/-- One step of a call; nothing while it has to wait. -/
def resume (outcome : Outcome) :
    Stage → Option SessionTurnManager
  | .retrying setup todo none => some (m.retryNext call setup todo)
  | .retrying setup todo (some awaited) =>
    match m.settled.get? awaited with
    | none => none
    | some .rejected => some ((m.settle call .rejected).finish call)
    | some (.resolved _) => some (m.retryNext call setup todo)
  | .awaitingRetries next retries isOwner =>
    (m.settled.get? retries).map fun settlement =>
      let forgotten := if isOwner && decide (m.turnSlots.pendingFinalization = some retries) then
        { m with turnSlots := { m.turnSlots with pendingFinalization := none } } else m
      match settlement with
      | .rejected => forgotten.finish call
      | .resolved _ => forgotten.acquireOrReserve call next
  | .creating reservation agentIds =>
    some (m.createReservedTurn call reservation agentIds outcome)
  | .awaitingCreation request creation isNew =>
    (m.settled.get? creation).map fun settlement =>
      let forgotten := if isNew then
        { m with turnSlots := m.turnSlots.forgetAcquisition creation } else m
      match settlement with
      | .resolved (some turnId) => forgotten.goto call (.acquired request turnId)
      | _ => forgotten.finish call
  | .acquired request turnId =>
    (m.turns.get? turnId).map fun turn => m.admitMessage call request turnId turn
  | .awaitingPreparation request turnId none =>
    some (m.goto call (.leased turnId request.messageId none))
  | .awaitingPreparation request turnId (some ready) =>
    match m.preparations.get? ready with
    | none => none
    | some true => some (m.goto call (.leased turnId request.messageId none))
    | some false =>
      (m.turns.get? turnId).map fun turn => m.withdraw call request turnId turn
  | .leased .. => none
  | .rollingBack turnId _ setupFailure =>
    (m.turns.get? turnId).map fun turn => m.afterRollback call turnId turn setupFailure
  | .rolledBack request => some (m.awaitFinalization call (.acquire request))
  | .persisting turnId =>
    match outcome with
    | .stored handled transitioned =>
      if handled && !transitioned then
        some ({ m with turnSlots := m.turnSlots.clearActive turnId }.endCompletion call turnId
          (.resolved none))
      else
        some ({ m with pendingTerminalCompletions :=
          m.pendingTerminalCompletions.set turnId handled }.goto call (.draining turnId))
    | _ => some (m.retainCompletion call turnId)
  | .draining turnId =>
    some (if outcome = .fails then m.retainCompletion call turnId
      else m.goto call (.publishing turnId))
  | .publishing turnId =>
    some (if outcome = .fails then m.retainCompletion call turnId
      else m.goto call (.emitting turnId))
  | .emitting turnId =>
    some (m.endCompletion call turnId (if outcome = .fails then .rejected else .resolved none))
  | .completed turnId =>
    some ((if m.completionPromises.get? turnId = some call then
      { m with completionPromises := m.completionPromises.delete turnId } else m).finish call)

/-- One step of the manager; nothing where a call waits, is not in flight, or a lease is not
held. -/
def step : Action → Option SessionTurnManager
  | .acquireMessageAdmission request =>
    some ({ m with nextCall := m.nextCall + 1 }.awaitFinalization m.nextCall (.acquire request))
  | .reserveTurn =>
    some ({ m with nextCall := m.nextCall + 1 }.awaitFinalization m.nextCall .reserve)
  | .releaseTurnReservation reservation =>
    some { m with turnSlots := m.turnSlots.release reservation }
  | .createReservedTurn reservation agentIds => some (m.start (.creating reservation agentIds))
  | .commit lease =>
    match m.calls.get? lease with
    | some (.leased turnId messageId preparation) => (m.turns.get? turnId).map fun turn =>
      m.commitLease lease turnId messageId preparation turn
    | _ => none
  | .rollback lease errorCode =>
    match m.calls.get? lease with
    | some (.leased turnId messageId preparation) => (m.turns.get? turnId).map fun turn =>
      m.rollbackLease lease turnId messageId preparation errorCode turn
    | _ => none
  | .recordAgentCompletion agentId messageId outcome error turnId =>
    (m.turns.get? turnId).map fun turn =>
      m.recordAgentCompletion agentId messageId outcome error turnId turn
  | .completeTurn turnId result =>
    if m.turns.has turnId then
      some ({ m with history := m.history ++ [Entry.requested turnId] }.completeTurn turnId result).1
    else none
  | .resume call outcome => (m.calls.get? call).bind fun stage => m.resume call outcome stage

end SessionTurnManager

end Makaio.Turns

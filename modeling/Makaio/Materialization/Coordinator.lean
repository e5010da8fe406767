import Makaio.Foundations.LockQueues
import Makaio.Foundations.Machine
import Makaio.Materialization.Scope

set_option autoImplicit false

/-!
# The coordinator of materialization operations

The coordinator (`materialization-operation-coordinator.ts`) hands out leases on the keys of a scope.  An
acquisition takes the keys one after another, and waits for each in its queue; a lease can be extended by
further keys.  Every call runs up to its next suspension, and what is suspended is resumed at any later time,
so that the calls of different callers are interleaved in every way.

## Main definitions

* `Lease` — an acquisition, and the lease it becomes.
* `Coordinator` — the state of the coordinator, with the operations that run.
* `Action`, `step` — what can happen next.
-/

namespace Makaio.Materialization

open Foundations

/-! ### State -/

/-- A call of `acquireKey` that is suspended, with the keys its loop has yet to take. -/
structure Wait where
  number : ℕ
  key : String
  rest : List String

/-- What has become of an acquisition. -/
inductive Phase
  | acquiring
  | active
  | released
  deriving DecidableEq

/-- An acquisition, and the lease it becomes; `waits` are the loops over keys that are suspended: that of the
acquisition, and those of the extensions of the lease. -/
structure Lease where
  scope : NormalScope
  exclusive : Bool
  handed : Bool
  phase : Phase
  heldKeys : List String
  releases : List (String × ℕ)
  waits : List Wait

/-- An operation that runs under a lease; `message` is the authorization it consumed. -/
structure Body where
  lease : ℕ
  keys : List String
  message : Option ℕ
  deriving DecidableEq

/-- `AuthorizedRequest`. -/
structure Authorization where
  lease : ℕ
  keys : List String

/-- What is remembered of an operation that consumed an authorization: the message, the lease that was
handed to it, its keys, and whether the request was local and the lease active. -/
structure Entry where
  message : ℕ
  lease : ℕ
  keys : List String
  isLocal : Bool
  isActive : Bool

/-- The coordinator; `bodies` are the operations that run, `settledRuns` the leases of those that have
settled and are yet to be released, `issued` the authorizations there have ever been, and `entries` the
operations that consumed one. -/
structure Coordinator where
  queues : LockQueues String ℕ
  leases : ℕ → Option Lease
  nextLease : ℕ
  activeLeases : Finset ℕ
  pendingAcquisitions : Finset ℕ
  authorizedRequests : ℕ → Option Authorization
  consumedAuthorizedRequestIds : Finset ℕ
  nextMessage : ℕ
  acceptingAcquisitions : Bool
  draining : Bool
  drained : Bool
  bodies : List Body
  settledRuns : Finset ℕ
  issued : ℕ → Option Authorization
  entries : List Entry

/-- The coordinator before any call. -/
def initial : Coordinator where
  queues := .empty
  leases _ := none
  nextLease := 0
  activeLeases := ∅
  pendingAcquisitions := ∅
  authorizedRequests _ := none
  consumedAuthorizedRequestIds := ∅
  nextMessage := 0
  acceptingAcquisitions := true
  draining := false
  drained := false
  bodies := []
  settledRuns := ∅
  issued _ := none
  entries := []

/-! ### Keys -/

/-- A lease whose loop waits with a ticket. -/
def Lease.waiting (lease : Lease) (wait : Wait) : Lease := { lease with waits := lease.waits ++ [wait] }

/-- A lease that has taken the key its loop waited for. -/
def Lease.holding (lease : Lease) (wait : Wait) : Lease :=
  { lease with
    heldKeys := if wait.key ∈ lease.heldKeys then lease.heldKeys else lease.heldKeys ++ [wait.key]
    releases := lease.releases ++ [(wait.key, wait.number)]
    waits := lease.waits.filter fun w => w.number ≠ wait.number }

variable (s : Coordinator)
variable (id : ℕ)

/-- `acquireKey`, up to its suspension. -/
def acquireKey (lease : Lease) (key : String) (rest : List String) :
    Coordinator :=
  { s with
    queues := s.queues.request key id
    leases := Function.update s.leases id (some (lease.waiting ⟨s.queues.next, key, rest⟩)) }

/-- The rest of a loop after its key is taken: the next key, or the end of the acquisition or extension. -/
def proceed (lease : Lease) (rest : List String) : Coordinator :=
  match rest with
  | key :: rest => acquireKey s id lease key rest
  | [] =>
    if lease.phase = .acquiring then
      { s with
        leases := Function.update s.leases id
          (some { lease with phase := .active, handed := !lease.exclusive })
        activeLeases := insert id s.activeLeases }
    else { s with leases := Function.update s.leases id (some lease) }

/-- A suspended loop resumes when its ticket is the first one. -/
def resume (number : ℕ) : Option Coordinator :=
  match s.leases id with
  | none => none
  | some lease =>
    match lease.waits.find? fun wait => wait.number = number with
    | none => none
    | some wait =>
      if (s.queues.queue wait.key).head? = some ⟨number, id⟩ then
        some (proceed s id (lease.holding wait) wait.rest)
      else none

/-! ### Leases -/

/-- `acquire`, for a scope that has been normalized if it can be. -/
def acquire (scope : Option NormalScope) (exclusive : Bool) : Coordinator :=
  if s.acceptingAcquisitions then
    let admitted := { s with
      nextLease := s.nextLease + 1
      pendingAcquisitions := insert s.nextLease s.pendingAcquisitions }
    match scope with
    | none => admitted
    | some scope =>
      acquireKey admitted s.nextLease ⟨scope, exclusive, false, .acquiring, [], [], []⟩
        (artifactKey scope.artifactId) scope.providerKeys
  else s

/-- `release`; nothing happens when it throws. -/
def release (s : Coordinator) (id : ℕ) : Coordinator :=
  match s.leases id with
  | none => s
  | some lease =>
    if lease.phase = .active then
      { s with
        queues := s.queues.release fun key t => (key, t.number) ∈ lease.releases
        leases := Function.update s.leases id (some { lease with phase := .released })
        activeLeases := s.activeLeases.erase id }
    else s

/-- Whether an extension by keys violates the order of the locks. -/
def violatesOrdering (heldKeys newKeys : List String) : Bool :=
  match (heldKeys.filter isProviderKey).getLast? with
  | some lastHeldProviderKey => newKeys.any fun key => Precedes key lastHeldProviderKey
  | none => false

/-- `extend`; nothing happens when it throws. -/
def extend (scope : Scope) : Coordinator :=
  match s.leases id, normalizeScope scope with
  | some lease, some scope =>
    if lease.phase = .active ∧ scope.artifactId = lease.scope.artifactId then
      match (scopeKeys scope).filter fun key => key ∉ lease.heldKeys with
      | [] => s
      | key :: rest =>
        if violatesOrdering lease.heldKeys (key :: rest) then s else acquireKey s id lease key rest
    else s
  | _, _ => s

/-! ### Operations -/

/-- `runExclusive`, up to its first suspension; nothing happens when it throws, but that an authorization
that does not match is consumed. -/
def runExclusive (scope : Scope) (messageId : Option ℕ) (isLocal : Bool) :
    Coordinator :=
  match normalizeScope scope with
  | none => s
  | some scope =>
    match messageId with
    | none => acquire s (some scope) true
    | some message =>
      if message ∈ s.consumedAuthorizedRequestIds then s
      else
        match s.authorizedRequests message with
        | none => acquire s (some scope) true
        | some authorization =>
          let consumed := { s with
            authorizedRequests := Function.update s.authorizedRequests message none
            consumedAuthorizedRequestIds := insert message s.consumedAuthorizedRequestIds }
          if isLocal ∧ authorization.lease ∈ s.activeLeases ∧ authorization.keys = scopeKeys scope then
            { consumed with
              bodies := s.bodies ++ [⟨authorization.lease, scopeKeys scope, some message⟩]
              entries := s.entries ++
                [⟨message, authorization.lease, scopeKeys scope, isLocal,
                  authorization.lease ∈ s.activeLeases⟩] }
          else consumed

/-- `runExclusive` resumes with its lease, and runs the operation. -/
def operate : Option Coordinator :=
  match s.leases id with
  | none => none
  | some lease =>
    if lease.phase = .active ∧ lease.exclusive ∧ !lease.handed then
      some { s with
        leases := Function.update s.leases id (some { lease with handed := true })
        bodies := s.bodies ++ [⟨id, scopeKeys lease.scope, none⟩] }
    else none

/-- An operation settles. -/
def settle (body : Body) : Option Coordinator :=
  if body ∈ s.bodies then
    some { s with
      bodies := s.bodies.erase body
      settledRuns := if body.message = none then insert body.lease s.settledRuns else s.settledRuns }
  else none

/-- The `finally` block of `runExclusive`. -/
def unwind : Option Coordinator :=
  if id ∈ s.settledRuns then
    some (release { s with settledRuns := s.settledRuns.erase id } id)
  else none

/-- `runAuthorizedRequest`, up to the call of the request. -/
def authorize (scope : Scope) : Coordinator :=
  match s.leases id, normalizeScope scope with
  | some lease, some scope =>
    if lease.phase = .active ∧ ∀ key ∈ scopeKeys scope, key ∈ lease.heldKeys then
      { s with
        nextMessage := s.nextMessage + 1
        authorizedRequests := Function.update s.authorizedRequests s.nextMessage
          (some ⟨id, scopeKeys scope⟩)
        issued := Function.update s.issued s.nextMessage (some ⟨id, scopeKeys scope⟩) }
    else s
  | _, _ => s

/-- The `finally` block of `runAuthorizedRequest`. -/
def conclude (message : ℕ) : Option Coordinator :=
  if message < s.nextMessage then
    some { s with
      authorizedRequests := Function.update s.authorizedRequests message none
      consumedAuthorizedRequestIds := s.consumedAuthorizedRequestIds.erase message }
  else none

/-! ### Runs -/

/-- What can happen next. -/
inductive Action
  | acquire (scope : Scope)
  | extend (lease : ℕ) (scope : Scope)
  | release (lease : ℕ)
  | resume (lease number : ℕ)
  | forget (lease : ℕ)
  | runExclusive (scope : Scope) (messageId : Option ℕ) (isLocal : Bool)
  | operate (lease : ℕ)
  | settle (body : Body)
  | unwind (lease : ℕ)
  | authorize (lease : ℕ) (scope : Scope)
  | conclude (message : ℕ)
  | destroy
  | drain

/-- Whether somebody has been given a lease. -/
def isHanded : Bool := (s.leases id).any Lease.handed

/-- What an action leads to, if it can happen. -/
def step : Action → Option Coordinator
  | .acquire scope => some (acquire s (normalizeScope scope) false)
  | .extend id scope => if isHanded s id then some (extend s id scope) else none
  | .release id => if isHanded s id then some (release s id) else none
  | .resume id number => resume s id number
  | .forget id =>
    if id < s.nextLease ∧ ∀ lease ∈ s.leases id, lease.phase ≠ .acquiring then
      some { s with pendingAcquisitions := s.pendingAcquisitions.erase id }
    else none
  | .runExclusive scope messageId isLocal => some (runExclusive s scope messageId isLocal)
  | .operate id => operate s id
  | .settle body => settle s body
  | .unwind id => unwind s id
  | .authorize id scope => if isHanded s id then some (authorize s id scope) else none
  | .conclude message => conclude s message
  | .destroy => some { s with acceptingAcquisitions := false, draining := true }
  | .drain =>
    if s.draining ∧ s.drained = false then
      some { s with drained := decide (s.pendingAcquisitions = ∅ ∧ s.activeLeases = ∅) }
    else none

end Makaio.Materialization

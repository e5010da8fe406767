import Makaio.Foundations.Text

set_option autoImplicit false

/-!
# The lifecycle of artifacts

The states an artifact goes through, apart from its content revisions (`lifecycle.ts`).  The rules stand
in the source twice: in the function that advances a lifecycle, and in the schemas that its snapshots and
the entries of its history are parsed with.

## Main definitions

* `LifecycleSnapshot` — a category, a state and a version.
* `TransitionCommand.parse`, `LifecycleSnapshot.parses`,
  `TransitionedEntry.parse` — what the schemas accept.
* `advanceArtifactLifecycle` — the transition function, with its rejections.

## Main results

* `advance_eq_ok` — when a command is accepted, and what follows.
-/

namespace Makaio.Artifact

open Foundations

/-! ### Categories and states -/

inductive ArtifactCategory
  | knowledge
  | commitment
  | interaction
  | record
  deriving DecidableEq

inductive ArtifactLifecycleState
  | valid
  | retired
  | proposed
  | decided
  | fulfilled
  | revoked
  | open
  | resolved
  | closedWithoutResolution
  deriving DecidableEq

def categoryLifecycleStates : ArtifactCategory → List ArtifactLifecycleState
  | .knowledge => [.valid, .retired]
  | .commitment => [.proposed, .decided, .fulfilled, .revoked]
  | .interaction => [.open, .resolved, .closedWithoutResolution]
  | .record => []

/-- The state a lifecycle of a category starts in. -/
def initialStates : ArtifactCategory → Option ArtifactLifecycleState
  | .knowledge => some .valid
  | .commitment => some .proposed
  | .interaction => some .open
  | .record => none

/-- The transition matrix. -/
def transitions : ArtifactLifecycleState → List ArtifactLifecycleState
  | .valid => [.retired]
  | .retired => [.valid]
  | .proposed => [.decided]
  | .decided => [.fulfilled, .revoked]
  | .fulfilled => []
  | .revoked => []
  | .open => [.resolved, .closedWithoutResolution]
  | .resolved => []
  | .closedWithoutResolution => []

/-- The matrix allows a transition. -/
def isArtifactLifecycleTransitionAllowed (source target : ArtifactLifecycleState) : Bool :=
  (transitions source).contains target

/-- The transition needs a reason. -/
def lifecycleTransitionRequiresReason (source target : ArtifactLifecycleState) : Bool :=
  target = .retired || (source = .retired && target = .valid)

variable {category : ArtifactCategory} {state : ArtifactLifecycleState}

/-- A transition stays in the category. -/
lemma mem_states_of_allowed {source target : ArtifactLifecycleState}
    (hsource : source ∈ categoryLifecycleStates category)
    (hallowed : isArtifactLifecycleTransitionAllowed source target = true) :
    target ∈ categoryLifecycleStates category := by
  cases category <;> cases source <;> cases target <;> revert hsource hallowed <;> decide

/-- The initial state of a category is one of its states. -/
lemma mem_states_of_initial (h : initialStates category = some state) :
    state ∈ categoryLifecycleStates category := by
  cases category <;> cases h <;> decide

/-! ### Fields -/

/-- The largest integer that an integer schema accepts. -/
def maxSafeInteger : ℕ := 9007199254740991

/-- A version: a positive safe integer. -/
def parseVersion (n : ℚ) : Option ℕ :=
  if n.den = 1 ∧ 0 < n.num ∧ n.num ≤ maxSafeInteger then some n.num.toNat else none

/-- A time: a safe integer that is not negative. -/
def parseTimestamp (n : ℚ) : Option ℕ :=
  if n.den = 1 ∧ 0 ≤ n.num ∧ n.num ≤ maxSafeInteger then some n.num.toNat else none

/-- An identity of a reference: it has a character that is no white space. -/
def isReferenceIdentity (text : String) : Bool := text.toList.any fun c => !Text.isSpace c

/-- A text that is trimmed and must not be empty then. -/
def parseNonBlank (text : String) : Option String :=
  let trimmed := Text.trim text.toList
  if trimmed = [] then none else some (String.ofList trimmed)

/-- An optional text that is trimmed and must not be empty then. -/
def parseReason : Option String → Option (Option String)
  | none => some none
  | some text => (parseNonBlank text).map some

/-- An artifact without its revision. -/
structure LifecycleIdentity where
  kind : String
  id : String

/-- Both parts are identities. -/
def LifecycleIdentity.parses (artifact : LifecycleIdentity) : Bool :=
  isReferenceIdentity artifact.kind && isReferenceIdentity artifact.id

/-- Who acts. -/
structure ArtifactActor where
  kind : String
  id : String
  displayName : Option String

/-- Both parts are given. -/
def ArtifactActor.parses (actor : ArtifactActor) : Bool := actor.kind ≠ "" && actor.id ≠ ""

/-- Where a situation comes from. -/
structure SituationSource where
  kind : String
  ref : String
  deriving DecidableEq

/-- The source with trimmed texts. -/
def SituationSource.parse (source : SituationSource) : Option SituationSource :=
  match parseNonBlank source.kind, parseNonBlank source.ref with
  | some kind, some ref => some { kind, ref }
  | _, _ => none

/-- The facts a change is made on: an assessment of a revision, or a handover. -/
inductive Situation
  | revisionAssessment (assessedRevision : String) (source : Option SituationSource)
  | handover (source : SituationSource)
  deriving DecidableEq

/-- The situation with trimmed texts. -/
def Situation.parse : Situation → Option Situation
  | .revisionAssessment assessedRevision source =>
    if isReferenceIdentity assessedRevision then
      match source with
      | none => some (.revisionAssessment assessedRevision none)
      | some source => source.parse.map fun source => .revisionAssessment assessedRevision (some source)
    else none
  | .handover source => source.parse.map .handover

def Situation.assessedRevision? : Situation → Option String
  | .revisionAssessment assessedRevision _ => some assessedRevision
  | .handover _ => none

/-! ### Snapshots and commands -/

/-- The state of a lifecycle. -/
structure LifecycleSnapshot where
  category : ArtifactCategory
  state : ArtifactLifecycleState
  version : ℕ

/-- The snapshot schema: a state of the category, and the initial one in version 1. -/
def LifecycleSnapshot.parses (snapshot : LifecycleSnapshot) : Bool :=
  (categoryLifecycleStates snapshot.category).contains snapshot.state &&
    (parseVersion snapshot.version).isSome &&
    (snapshot.version ≠ 1 || initialStates snapshot.category = some snapshot.state)

/-- The current lifecycle of an artifact: records have none. -/
inductive LifecycleCurrent
  | stateful (snapshot : LifecycleSnapshot)
  | record

/-- The schema of the current lifecycle. -/
def LifecycleCurrent.parses : LifecycleCurrent → Bool
  | .stateful snapshot => snapshot.parses
  | .record => true

/-- A command to change the state. -/
structure TransitionCommand where
  artifact : LifecycleIdentity
  expectedVersion : ℚ
  state : ArtifactLifecycleState
  situation : Situation
  reason : Option String
  actor : ArtifactActor

/-- The command with trimmed texts. -/
def TransitionCommand.parse (command : TransitionCommand) : Option TransitionCommand :=
  if command.artifact.parses && (parseVersion command.expectedVersion).isSome &&
      command.actor.parses then
    match command.situation.parse, parseReason command.reason with
    | some situation, some reason => some { command with situation, reason }
    | _, _ => none
  else none

/-! ### The transition function -/

/-- Why a command is rejected. -/
inductive LifecycleRejection
  /-- An argument is not accepted by its schema. -/
  | malformed
  | versionConflict (expectedVersion : ℚ) (current : LifecycleSnapshot)
      (requestedState : ArtifactLifecycleState)
  | contentBasisConflict (assessedRevision currentRevision : String)
  | invalidTransition (current : LifecycleCurrent) (requestedState : ArtifactLifecycleState)
  | preconditionFailed (current : LifecycleSnapshot) (requestedState : ArtifactLifecycleState)

/-- The lifecycle an artifact of a category starts with. -/
def initialArtifactLifecycle (category : ArtifactCategory) : LifecycleCurrent :=
  match initialStates category with
  | some state => .stateful { category, state, version := 1 }
  | none => .record

/-- The next snapshot, or why there is none. -/
def advanceArtifactLifecycle (current : LifecycleCurrent) (currentRevision : String)
    (command : TransitionCommand) : Except LifecycleRejection LifecycleSnapshot :=
  if !current.parses || !isReferenceIdentity currentRevision then .error .malformed
  else match command.parse with
    | none => .error .malformed
    | some command =>
      match current with
      | .record => .error (.invalidTransition .record command.state)
      | .stateful current =>
        if command.expectedVersion ≠ current.version then
          .error (.versionConflict command.expectedVersion current command.state)
        else if command.situation.assessedRevision?.any fun assessed => assessed ≠ currentRevision then
          .error (.contentBasisConflict (command.situation.assessedRevision?.getD "") currentRevision)
        else if !isArtifactLifecycleTransitionAllowed current.state command.state then
          .error (.invalidTransition (.stateful current) command.state)
        else if lifecycleTransitionRequiresReason current.state command.state &&
            command.reason.isNone then
          .error (.preconditionFailed current command.state)
        else
          let next := { current with state := command.state, version := current.version + 1 }
          if next.parses then .ok next else .error .malformed

/-! ### Entries of the history -/

/-- The entry of a creation. -/
structure InitializedEntry where
  artifact : LifecycleIdentity
  lifecycle : LifecycleSnapshot
  actor : ArtifactActor
  timestamp : ℚ
  observedRevision : String

/-- The schema of the entry of a creation. -/
def InitializedEntry.parses (entry : InitializedEntry) : Bool :=
  entry.artifact.parses && entry.lifecycle.parses && entry.actor.parses &&
    (parseTimestamp entry.timestamp).isSome && isReferenceIdentity entry.observedRevision &&
    entry.lifecycle.version = 1 && initialStates entry.lifecycle.category = some entry.lifecycle.state

structure TransitionedEntry where
  artifact : LifecycleIdentity
  lifecycle : LifecycleSnapshot
  actor : ArtifactActor
  timestamp : ℚ
  observedRevision : String
  previousState : ArtifactLifecycleState
  situation : Situation
  reason : Option String

/-- The schema of the entry of a transition, with trimmed texts. -/
def TransitionedEntry.parse (entry : TransitionedEntry) : Option TransitionedEntry :=
  if entry.artifact.parses && entry.lifecycle.parses && entry.actor.parses &&
      (parseTimestamp entry.timestamp).isSome && isReferenceIdentity entry.observedRevision then
    match entry.situation.parse, parseReason entry.reason with
    | some situation, some reason =>
      if isArtifactLifecycleTransitionAllowed entry.previousState entry.lifecycle.state &&
          1 < entry.lifecycle.version &&
          !(lifecycleTransitionRequiresReason entry.previousState entry.lifecycle.state &&
            reason.isNone) &&
          situation.assessedRevision?.all fun assessed => assessed = entry.observedRevision then
        some { entry with situation, reason }
      else none
    | _, _ => none
  else none

/-! ### When a command is accepted -/

/-- A command meets the rules in a snapshot: the version matches, an assessed revision is the current one,
the matrix allows the step, and there is a reason where one is required. -/
structure Acceptable (current : LifecycleSnapshot) (currentRevision : String)
    (command : TransitionCommand) : Prop where
  version : command.expectedVersion = current.version
  revision : ∀ assessed, command.situation.assessedRevision? = some assessed → assessed = currentRevision
  allowed : isArtifactLifecycleTransitionAllowed current.state command.state = true
  reason : lifecycleTransitionRequiresReason current.state command.state = true → command.reason ≠ none

variable {command : TransitionCommand} {current : LifecycleSnapshot}

/-- A parsed command has the identity, version, state and actor of the command. -/
lemma TransitionCommand.parse_eq_some {parsed : TransitionCommand} (h : command.parse = some parsed) :
    command.artifact.parses = true ∧ command.actor.parses = true ∧
      ∃ situation reason, command.situation.parse = some situation ∧
        parseReason command.reason = some reason ∧ parsed = { command with situation, reason } := by
  obtain ⟨hfields, hmatch⟩ := Option.ite_none_right_eq_some.mp h
  simp only [Bool.and_eq_true] at hfields
  split at hmatch
  · rename_i situation reason hsituation hreason
    exact ⟨hfields.1.1, hfields.2, situation, reason, hsituation, hreason, (Option.some.inj hmatch).symm⟩
  · cases hmatch

/-- Versions are positive. -/
lemma LifecycleSnapshot.version_pos {snapshot : LifecycleSnapshot} (h : snapshot.parses = true) :
    0 < snapshot.version := by
  refine Nat.pos_of_ne_zero fun hzero => ?_
  simp [LifecycleSnapshot.parses, hzero, parseVersion] at h

/-- A snapshot after a transition parses, unless its version is too large. -/
lemma parses_next (hcurrent : current.parses = true)
    (hallowed : isArtifactLifecycleTransitionAllowed current.state state = true) :
    ({ current with state, version := current.version + 1 } : LifecycleSnapshot).parses =
      decide (current.version < maxSafeInteger) := by
  have hnext : (categoryLifecycleStates current.category).contains state = true := by
    simp only [LifecycleSnapshot.parses, Bool.and_eq_true, List.contains_iff_mem] at hcurrent
    exact List.contains_iff_mem.mpr (mem_states_of_allowed hcurrent.1.1 hallowed)
  have hversion := (LifecycleSnapshot.version_pos hcurrent).ne'
  have hparse : (parseVersion ((current.version + 1 : ℕ) : ℚ)).isSome =
      decide (current.version < maxSafeInteger) := by
    rw [parseVersion, Rat.den_natCast, Rat.num_natCast]
    by_cases hlt : current.version < maxSafeInteger
    · rw [if_pos ⟨rfl, by omega, by omega⟩]
      simp [hlt]
    · rw [if_neg (by omega)]
      simp [hlt]
  simp only [LifecycleSnapshot.parses, hnext, hparse]
  simp [hversion]

/-- **When a command is accepted**, and what follows: it has to be well-formed and acceptable, and the
version must not be the largest one. -/
theorem advance_eq_ok {currentRevision : String} {next : LifecycleSnapshot} (hcurrent : current.parses = true)
    (hrevision : isReferenceIdentity currentRevision = true) :
    advanceArtifactLifecycle (.stateful current) currentRevision command = .ok next ↔
      ∃ parsed, command.parse = some parsed ∧ Acceptable current currentRevision parsed ∧
        current.version < maxSafeInteger ∧
        next = { current with state := command.state, version := current.version + 1 } := by
  unfold advanceArtifactLifecycle
  simp only [LifecycleCurrent.parses, hcurrent, hrevision, Bool.not_true, Bool.or_self,
    Bool.false_eq_true, if_false]
  cases hparse : command.parse with
  | none => simp
  | some parsed =>
    obtain ⟨-, -, situation, reason, -, -, hparsed⟩ := TransitionCommand.parse_eq_some hparse
    have hstate : parsed.state = command.state := by rw [hparsed]
    have hrevisions : (parsed.situation.assessedRevision?.any
        fun assessed => decide (assessed ≠ currentRevision)) = true ↔
          ¬ ∀ assessed, parsed.situation.assessedRevision? = some assessed → assessed = currentRevision := by
      cases parsed.situation.assessedRevision? <;> simp
    have hreasons : (lifecycleTransitionRequiresReason current.state parsed.state &&
        parsed.reason.isNone) = true ↔
          ¬ (lifecycleTransitionRequiresReason current.state parsed.state = true →
            parsed.reason ≠ none) := by
      cases parsed.reason <;> simp
    dsimp only
    constructor
    · intro h
      split_ifs at h with hversion hbasis hmatrix hneeds hfits
      rw [hrevisions, not_not] at hbasis
      rw [hreasons, not_not] at hneeds
      have hallowed : isArtifactLifecycleTransitionAllowed current.state parsed.state = true := by
        simpa using hmatrix
      rw [parses_next hcurrent hallowed, decide_eq_true_eq] at hfits
      refine ⟨parsed, rfl, ⟨by simpa using hversion, hbasis, hallowed, hneeds⟩, hfits, ?_⟩
      rw [← hstate]
      exact (Except.ok.inj h).symm
    · rintro ⟨other, hother, hacceptable, hfits, rfl⟩
      cases hother
      rw [if_neg (not_not.mpr hacceptable.version), if_neg (hrevisions.not.mpr
        (not_not.mpr hacceptable.revision)), if_neg (by simp [hacceptable.allowed]),
        if_neg (hreasons.not.mpr (not_not.mpr hacceptable.reason)),
        if_pos (by rw [parses_next hcurrent hacceptable.allowed]; exact decide_eq_true hfits), hstate]

end Makaio.Artifact

import Makaio.Artifact.Lifecycle
import Makaio.Foundations.Machine

set_option autoImplicit false

/-!
# Histories of lifecycles

A host that applies commands to the current snapshot of an artifact and appends an entry for each accepted
one, while the content is revised in between.

## Main definitions

* `LifecycleHistory` — the snapshot with the accepted commands and their entries.
* `replay` — the snapshot that a list of entries leads to.

## Main results

* `history_wellFormed` — histories are well-formed and lose no update.
-/

namespace Makaio.Artifact

open Foundations

/-! ### Histories -/

/-- The current lifecycle and revision, with the accepted commands and the entries made for them. -/
structure LifecycleHistory where
  current : LifecycleCurrent
  revision : String
  accepted : List TransitionCommand
  entries : List TransitionedEntry

/-- The entry of an accepted command. -/
def transitionedEntry (current next : LifecycleSnapshot) (revision : String)
    (command : TransitionCommand) (timestamp : ℚ) : TransitionedEntry where
  artifact := command.artifact
  lifecycle := next
  actor := command.actor
  timestamp := timestamp
  observedRevision := revision
  previousState := current.state
  situation := command.situation
  reason := command.reason

/-- What happens to an artifact: its content is revised, or a command is applied. -/
inductive LifecycleAction
  | revise (revision : String)
  | command (command : TransitionCommand) (timestamp : ℚ)

/-- A step of a history.  Revisions are identities, and times are those of a clock. -/
def LifecycleHistory.step (s : LifecycleHistory) : LifecycleAction → Option LifecycleHistory
  | .revise revision => if isReferenceIdentity revision then some { s with revision } else none
  | .command command timestamp =>
    if (parseTimestamp timestamp).isSome then
      match s.current, advanceArtifactLifecycle s.current s.revision command with
      | .stateful current, .ok next =>
        some { s with
          current := .stateful next
          accepted := s.accepted ++ [command]
          entries := s.entries ++ [transitionedEntry current next s.revision command timestamp] }
      | _, _ => some s
    else none

/-- An artifact of a category that was just created. -/
def LifecycleHistory.IsInitial (category : ArtifactCategory) (s : LifecycleHistory) : Prop :=
  s.current = initialArtifactLifecycle category ∧ isReferenceIdentity s.revision = true ∧
    s.accepted = [] ∧ s.entries = []

/-- The histories after any run. -/
def LifecycleHistory.Reached (category : ArtifactCategory) (s : LifecycleHistory) : Prop :=
  Reach (LifecycleHistory.IsInitial category) LifecycleHistory.step (fun _ _ => True) s

/-- The snapshot that entries lead to, if each is linked to the one before it. -/
def replay : LifecycleSnapshot → List TransitionedEntry → Option LifecycleSnapshot
  | snapshot, [] => some snapshot
  | snapshot, entry :: entries =>
    if entry.lifecycle.category = snapshot.category ∧ entry.previousState = snapshot.state ∧
        entry.lifecycle.version = snapshot.version + 1 then
      replay entry.lifecycle entries
    else none

variable {start current next : LifecycleSnapshot}

/-- Replaying one more entry. -/
lemma replay_append {snapshot : LifecycleSnapshot} {entries : List TransitionedEntry}
    (h : replay start entries = some snapshot) (entry : TransitionedEntry) :
    replay start (entries ++ [entry]) = replay snapshot [entry] := by
  induction entries generalizing start with
  | nil =>
    cases h
    rfl
  | cons first entries ih =>
    rw [replay] at h
    split_ifs at h with hlinked
    rw [List.cons_append, replay, if_pos hlinked]
    exact ih h

/-! ### The invariant -/

/-- What holds of the history of an artifact with a lifecycle. -/
structure LifecycleHistory.Inv (category : ArtifactCategory) (start : LifecycleSnapshot)
    (s : LifecycleHistory) (snapshot : LifecycleSnapshot) : Prop where
  current : s.current = .stateful snapshot
  revision : isReferenceIdentity s.revision = true
  parses : snapshot.parses = true
  category : snapshot.category = category
  version : snapshot.version = s.accepted.length + 1
  expected : s.accepted.map TransitionCommand.expectedVersion =
    (List.range s.accepted.length).map fun n => ((n + 1 : ℕ) : ℚ)
  entries : ∀ entry ∈ s.entries, entry.parse.isSome = true
  replayed : replay start s.entries = some snapshot

variable {command : TransitionCommand} {s : LifecycleHistory} {category : ArtifactCategory}

/-- The entry of an accepted command is accepted by its schema. -/
lemma parse_transitionedEntry {revision : String} {timestamp : ℚ} (hcurrent : current.parses = true)
    (hrevision : isReferenceIdentity revision = true) (htimestamp : (parseTimestamp timestamp).isSome = true)
    (h : advanceArtifactLifecycle (.stateful current) revision command = .ok next) :
    (transitionedEntry current next revision command timestamp).parse.isSome = true := by
  obtain ⟨parsed, hparse, hacceptable, hfits, rfl⟩ := (advance_eq_ok hcurrent hrevision).mp h
  obtain ⟨hartifact, hactor, situation, reason, hsituation, hreason, rfl⟩ :=
    TransitionCommand.parse_eq_some hparse
  have hallowed : isArtifactLifecycleTransitionAllowed current.state command.state = true :=
    hacceptable.allowed
  have hnext := parses_next hcurrent hallowed
  rw [decide_eq_true hfits] at hnext
  have hversion := LifecycleSnapshot.version_pos hcurrent
  have hreasons : (lifecycleTransitionRequiresReason current.state command.state &&
      reason.isNone) = false := by
    rw [Bool.and_eq_false_iff, Option.isNone_eq_false_iff, Option.isSome_iff_ne_none]
    by_cases hneeds : lifecycleTransitionRequiresReason current.state command.state = true
    · exact .inr (hacceptable.reason hneeds)
    · exact .inl (by simpa using hneeds)
  have hassessed : (situation.assessedRevision?.all fun assessed => assessed = revision) = true := by
    rw [Option.all_eq_true]
    exact fun assessed hsome => decide_eq_true (hacceptable.revision assessed hsome)
  rw [TransitionedEntry.parse, if_pos (by
    simp only [transitionedEntry, hartifact, hnext, hactor, htimestamp, hrevision, Bool.and_self])]
  have hrules : (isArtifactLifecycleTransitionAllowed current.state command.state &&
      decide (1 < current.version + 1) &&
      !(lifecycleTransitionRequiresReason current.state command.state && reason.isNone) &&
      situation.assessedRevision?.all fun assessed => assessed = revision) = true := by
    simp [hallowed, hreasons, hassessed, hversion]
  unfold transitionedEntry
  rw [hsituation, hreason]
  dsimp only
  rw [if_pos hrules]
  rfl

/-- A command that is accepted keeps the invariant with the next snapshot. -/
lemma LifecycleHistory.Inv.accept (h : s.Inv category start current) {timestamp : ℚ}
    (htimestamp : (parseTimestamp timestamp).isSome = true)
    (hok : advanceArtifactLifecycle (.stateful current) s.revision command = .ok next) :
    LifecycleHistory.Inv category start
      { s with
        current := .stateful next
        accepted := s.accepted ++ [command]
        entries := s.entries ++ [transitionedEntry current next s.revision command timestamp] } next := by
  have hentry := parse_transitionedEntry h.parses h.revision htimestamp hok
  obtain ⟨parsed, hparse, hacceptable, hfits, rfl⟩ := (advance_eq_ok h.parses h.revision).mp hok
  obtain ⟨-, -, situation, reason, -, -, rfl⟩ := TransitionCommand.parse_eq_some hparse
  refine ⟨rfl, h.revision, ?_, h.category, by simp [h.version], ?_, ?_, ?_⟩
  · rw [parses_next h.parses hacceptable.allowed]
    exact decide_eq_true hfits
  · have hversion : command.expectedVersion = ((s.accepted.length + 1 : ℕ) : ℚ) :=
      h.version ▸ hacceptable.version
    rw [List.map_append, List.map_singleton, h.expected, List.length_append, List.length_singleton,
      List.range_succ, List.map_append, List.map_singleton, hversion]
  · intro entry hmem
    rcases List.mem_append.mp hmem with hold | hnew
    · exact h.entries entry hold
    · exact List.mem_singleton.mp hnew ▸ hentry
  · rw [replay_append h.replayed, replay, if_pos ⟨rfl, rfl, rfl⟩]
    rfl

/-- A step keeps the invariant. -/
lemma LifecycleHistory.Inv.step {s t : LifecycleHistory} (h : s.Inv category start current)
    {action : LifecycleAction} (ht : s.step action = some t) :
    ∃ next, t.Inv category start next ∧
      (next = current ∨ isArtifactLifecycleTransitionAllowed current.state next.state = true) := by
  cases action with
  | revise revision =>
    obtain ⟨hrevision, hrevised⟩ := Option.ite_none_right_eq_some.mp ht
    cases hrevised
    exact ⟨current, ⟨h.current, hrevision, h.parses, h.category, h.version, h.expected, h.entries,
      h.replayed⟩, .inl rfl⟩
  | command command timestamp =>
    obtain ⟨htimestamp, hmatch⟩ := Option.ite_none_right_eq_some.mp ht
    rw [h.current] at hmatch
    cases hadvance : advanceArtifactLifecycle (.stateful current) s.revision command with
    | error rejection =>
      rw [hadvance] at hmatch
      cases hmatch
      exact ⟨current, h, .inl rfl⟩
    | ok next =>
      rw [hadvance] at hmatch
      cases hmatch
      refine ⟨next, h.accept htimestamp hadvance, .inr ?_⟩
      obtain ⟨parsed, hparse, hacceptable, -, rfl⟩ := (advance_eq_ok h.parses h.revision).mp hadvance
      obtain ⟨-, -, situation, reason, -, -, rfl⟩ := TransitionCommand.parse_eq_some hparse
      exact hacceptable.allowed

/-- The invariant holds after every run of a category with a lifecycle. -/
lemma LifecycleHistory.inv_of_reached {state : ArtifactLifecycleState}
    (hstate : initialStates category = some state) (hs : s.Reached category) :
    ∃ snapshot, s.Inv category { category, state, version := 1 } snapshot := by
  refine Reach.invariant (fun s => ∃ snapshot, LifecycleHistory.Inv category _ s snapshot) ?_ ?_ hs
  · rintro s ⟨hcurrent, hrevision, haccepted, hentries⟩
    rw [initialArtifactLifecycle, hstate] at hcurrent
    refine ⟨_, ⟨hcurrent, hrevision, ?_, rfl, by rw [haccepted]; rfl, by rw [haccepted]; rfl, ?_, ?_⟩⟩
    · simp [LifecycleSnapshot.parses, mem_states_of_initial hstate, hstate, parseVersion, maxSafeInteger]
    · simp [hentries]
    · rw [hentries, replay]
  · rintro s action t ⟨snapshot, hinv⟩ _ hstep
    obtain ⟨next, hnext, -⟩ := hinv.step hstep
    exact ⟨next, hnext⟩

/-- A lifecycle in a state without transitions stays there. -/
lemma LifecycleHistory.Inv.terminal (h : s.Inv category start current)
    (hterminal : transitions current.state = []) {t : LifecycleHistory}
    (ht : Reach (· = s) LifecycleHistory.step (fun _ _ => True) t) : t.current = s.current := by
  have hinv : t.Inv category start current := by
    refine Reach.invariant (fun t => t.Inv category start current) ?_ ?_ ht
    · rintro t rfl
      exact h
    · intro t action u hinv _ hstep
      obtain ⟨next, hnext, rfl | hallowed⟩ := hinv.step hstep
      · exact hnext
      · rw [isArtifactLifecycleTransitionAllowed, hterminal] at hallowed
        cases hallowed
  rw [hinv.current, h.current]

/-- A record stays one, and accepts nothing. -/
lemma LifecycleHistory.record_of_reached (hs : s.Reached .record) :
    s.current = .record ∧ s.accepted = [] ∧ s.entries = [] := by
  refine Reach.invariant (fun s => s.current = .record ∧ s.accepted = [] ∧ s.entries = []) ?_ ?_ hs
  · rintro s ⟨hcurrent, -, haccepted, hentries⟩
    exact ⟨hcurrent, haccepted, hentries⟩
  · rintro s action t ⟨hcurrent, haccepted, hentries⟩ _ hstep
    cases action with
    | revise revision =>
      obtain ⟨-, hrevised⟩ := Option.ite_none_right_eq_some.mp hstep
      cases hrevised
      exact ⟨hcurrent, haccepted, hentries⟩
    | command command timestamp =>
      obtain ⟨-, hmatch⟩ := Option.ite_none_right_eq_some.mp hstep
      rw [hcurrent] at hmatch
      cases hmatch
      exact ⟨hcurrent, haccepted, hentries⟩

/-! ### Well-formed histories -/

/-- What is asked of the history of an artifact whose lifecycle started in a state. -/
structure WellFormedHistory (category : ArtifactCategory) (state : ArtifactLifecycleState)
    (s : LifecycleHistory) (snapshot : LifecycleSnapshot) : Prop where
  current : s.current = .stateful snapshot
  version : snapshot.version = 1 + s.accepted.length
  sameCategory : snapshot.category = category
  ofCategory : snapshot.state ∈ categoryLifecycleStates category
  parses : snapshot.parses = true
  /-- No two accepted commands carry the same expected version. -/
  expectedOnce : (s.accepted.map TransitionCommand.expectedVersion).Nodup
  terminal : transitions snapshot.state = [] → ∀ t,
    Reach (· = s) LifecycleHistory.step (fun _ _ => True) t → t.current = s.current
  accepted_iff : ∀ command, (∃ next, advanceArtifactLifecycle s.current s.revision command = .ok next) ↔
    ∃ parsed, command.parse = some parsed ∧ Acceptable snapshot s.revision parsed ∧
      snapshot.version < maxSafeInteger
  entryParses : ∀ command next timestamp, (parseTimestamp timestamp).isSome = true →
    advanceArtifactLifecycle s.current s.revision command = .ok next →
      (transitionedEntry snapshot next s.revision command timestamp).parse.isSome = true
  entries : ∀ entry ∈ s.entries, entry.parse.isSome = true
  replayed : replay { category, state, version := 1 } s.entries = some snapshot

/-- **Histories are well-formed and lose no update**, for every category and after every sequence of
commands and revisions.  The entry of the creation is accepted by its schema, and a record never gets a
lifecycle. -/
theorem history_wellFormed (category : ArtifactCategory) (s : LifecycleHistory)
    (hs : s.Reached category) :
    match initialStates category with
    | some state => (∃ snapshot, WellFormedHistory category state s snapshot) ∧
        ∀ entry : InitializedEntry, entry.lifecycle = { category, state, version := 1 } →
          entry.artifact.parses = true → entry.actor.parses = true →
          (parseTimestamp entry.timestamp).isSome = true →
          isReferenceIdentity entry.observedRevision = true → entry.parses = true
    | none => s.current = .record ∧ s.accepted = [] := by
  cases hstate : initialStates category with
  | none =>
    obtain rfl : category = .record := by cases category <;> first | rfl | cases hstate
    exact ⟨(LifecycleHistory.record_of_reached hs).1, (LifecycleHistory.record_of_reached hs).2.1⟩
  | some state =>
    obtain ⟨snapshot, h⟩ := LifecycleHistory.inv_of_reached hstate hs
    refine ⟨⟨snapshot, ?_⟩, ?_⟩
    · refine
        { current := h.current
          version := by rw [h.version, Nat.add_comm]
          sameCategory := h.category
          ofCategory := ?_
          parses := h.parses
          expectedOnce := ?_
          terminal := fun hterminal t ht => h.terminal hterminal ht
          accepted_iff := fun command => ?_
          entryParses := fun command next timestamp htimestamp hok =>
            parse_transitionedEntry h.parses h.revision htimestamp (h.current ▸ hok)
          entries := h.entries
          replayed := h.replayed }
      · have hparses := h.parses
        simp only [LifecycleSnapshot.parses, Bool.and_eq_true, List.contains_iff_mem] at hparses
        exact h.category ▸ hparses.1.1
      · rw [h.expected]
        refine List.nodup_range.map fun n m hnm => ?_
        exact Nat.succ.inj (Nat.cast_injective hnm)
      · rw [h.current]
        constructor
        · rintro ⟨next, hok⟩
          obtain ⟨parsed, hparse, hacceptable, hfits, -⟩ := (advance_eq_ok h.parses h.revision).mp hok
          exact ⟨parsed, hparse, hacceptable, hfits⟩
        · rintro ⟨parsed, hparse, hacceptable, hfits⟩
          exact ⟨_, (advance_eq_ok h.parses h.revision).mpr ⟨parsed, hparse, hacceptable, hfits, rfl⟩⟩
    · intro entry hlifecycle hartifact hactor htimestamp hrevision
      simp only [InitializedEntry.parses, hlifecycle, hartifact, hactor, htimestamp, hrevision]
      simp [LifecycleSnapshot.parses, mem_states_of_initial hstate, hstate, parseVersion, maxSafeInteger]

/-! ### Retiring and reinstating -/

/-- A command for a state, from a user who hands over with a reason. -/
def handoverCommand (expectedVersion : ℕ) (state : ArtifactLifecycleState) : TransitionCommand where
  artifact := { kind := "note", id := "a" }
  expectedVersion := expectedVersion
  state := state
  situation := .handover { kind := "chat", ref := "c" }
  reason := some "r"
  actor := { kind := "user", id := "u", displayName := none }

/-- The command is well-formed in every version, and needs no trimming. -/
lemma parse_handoverCommand {expectedVersion : ℕ} (hpos : 0 < expectedVersion)
    (hle : expectedVersion ≤ maxSafeInteger) (state : ArtifactLifecycleState) :
    (handoverCommand expectedVersion state).parse = some (handoverCommand expectedVersion state) := by
  have hversion : (parseVersion (expectedVersion : ℚ)).isSome = true := by
    rw [parseVersion, if_pos ⟨Rat.den_natCast _, by rw [Rat.num_natCast]; omega,
      by rw [Rat.num_natCast]; omega⟩]
    rfl
  have hartifact : LifecycleIdentity.parses { kind := "note", id := "a" } = true := by decide
  have hactor : ArtifactActor.parses { kind := "user", id := "u", displayName := none } = true := by
    decide
  have hsituation : (Situation.handover { kind := "chat", ref := "c" }).parse =
    some (.handover { kind := "chat", ref := "c" }) := by decide
  have hreason : parseReason (some "r") = some (some "r") := by decide
  unfold TransitionCommand.parse handoverCommand
  rw [hartifact, hactor, hversion, hsituation, hreason]
  rfl

/-- The history of an artifact that was just created. -/
def createdHistory (category : ArtifactCategory) : LifecycleHistory where
  current := initialArtifactLifecycle category
  revision := "1"
  accepted := []
  entries := []

/-- An accepted command is a step. -/
lemma LifecycleHistory.step_of_ok (hcurrent : s.current = .stateful current) (timestamp : ℚ)
    (htimestamp : (parseTimestamp timestamp).isSome = true)
    (hok : advanceArtifactLifecycle (.stateful current) s.revision command = .ok next) :
    s.step (.command command timestamp) = some { s with
      current := .stateful next
      accepted := s.accepted ++ [command]
      entries := s.entries ++ [transitionedEntry current next s.revision command timestamp] } := by
  rw [LifecycleHistory.step, if_pos htimestamp, hcurrent, hok]

/-- Knowledge is valid in odd versions and retired in even ones. -/
def alternating (version : ℕ) : LifecycleSnapshot where
  category := .knowledge
  state := if version % 2 = 1 then .valid else .retired
  version := version

/-- Every command to the next of them is acceptable. -/
lemma acceptable_alternating (version : ℕ) (revision : String) :
    Acceptable (alternating version) revision
      (handoverCommand version (alternating (version + 1)).state) := by
  refine ⟨rfl, fun assessed h => (by cases h), ?_, fun _ h => (by cases h)⟩
  rcases Nat.mod_two_eq_zero_or_one version with heven | hodd
  · have hnext : (version + 1) % 2 = 1 := by omega
    simp only [handoverCommand, alternating, heven, hnext]
    rfl
  · have hnext : (version + 1) % 2 = 0 := by omega
    simp only [handoverCommand, alternating, hodd, hnext]
    rfl

/-- Knowledge can be retired and reinstated up to the largest version. -/
lemma exists_alternating (n : ℕ) (hn : n < maxSafeInteger) : ∃ s : LifecycleHistory,
    s.Reached .knowledge ∧ s.revision = "1" ∧ s.current = .stateful (alternating (n + 1)) := by
  induction n with
  | zero => exact ⟨createdHistory .knowledge, .start ⟨rfl, by decide, rfl, rfl⟩, rfl, rfl⟩
  | succ n ih =>
    obtain ⟨s, hs, hrevision, hcurrent⟩ := ih (by omega)
    obtain ⟨snapshot, hinv⟩ :=
      LifecycleHistory.inv_of_reached (show initialStates .knowledge = some .valid from rfl) hs
    cases hinv.current.symm.trans hcurrent
    have hok : advanceArtifactLifecycle (.stateful (alternating (n + 1))) s.revision
        (handoverCommand (n + 1) (alternating (n + 2)).state) = .ok (alternating (n + 2)) :=
      (advance_eq_ok hinv.parses hinv.revision).mpr
        ⟨_, parse_handoverCommand (Nat.succ_pos n) (by omega) _, acceptable_alternating _ _, hn, rfl⟩
    exact ⟨_, .next hs trivial (LifecycleHistory.step_of_ok hcurrent 0 (by decide) hok),
      hrevision, rfl⟩

/-- An acceptable command is rejected in the largest version, which histories reach. -/
theorem not_accepted_iff : ¬ ∀ (category : ArtifactCategory) (s : LifecycleHistory),
    s.Reached category → ∀ snapshot command parsed, s.current = .stateful snapshot →
      command.parse = some parsed → Acceptable snapshot s.revision parsed →
        ∃ next, advanceArtifactLifecycle s.current s.revision command = .ok next := by
  intro h
  obtain ⟨s, hs, hrevision, hcurrent⟩ := exists_alternating (maxSafeInteger - 1) (by decide)
  obtain ⟨snapshot, hinv⟩ :=
    LifecycleHistory.inv_of_reached (show initialStates .knowledge = some .valid from rfl) hs
  cases hinv.current.symm.trans hcurrent
  obtain ⟨next, hok⟩ := h .knowledge s hs _ _ _ hcurrent
    (parse_handoverCommand (by decide) (by decide) _) (acceptable_alternating maxSafeInteger s.revision)
  rw [hcurrent] at hok
  obtain ⟨_, -, -, hfits, -⟩ := (advance_eq_ok hinv.parses hinv.revision).mp hok
  exact absurd hfits (by decide)

/-- Knowledge that was retired once. -/
theorem history_wellFormed_retired : ∃ s snapshot, LifecycleHistory.Reached .knowledge s ∧
    WellFormedHistory .knowledge .valid s snapshot ∧ snapshot = alternating 2 := by
  obtain ⟨s, hs, -, hcurrent⟩ := exists_alternating 1 (by decide)
  obtain ⟨⟨snapshot, hwell⟩, -⟩ := history_wellFormed .knowledge s hs
  exact ⟨s, snapshot, hs, hwell, LifecycleCurrent.stateful.inj (hwell.current.symm.trans hcurrent)⟩

end Makaio.Artifact

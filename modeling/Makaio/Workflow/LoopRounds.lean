import Makaio.Workflow.LoopDispatch

set_option autoImplicit false

/-!
# The bound on the rounds of a loop

A dispatch replays the rounds that earlier dispatches have completed without evaluating their gates, and only a gate
enforces `maxRounds` or ends the loop.  So the decision of the last completed round must have reached storage as an
open escalation gate when a dispatch begins: otherwise the dispatch runs one more round, past a `pass` or past the
bound.

## Main definitions

* `RoundsBounded` — at most `maxRounds` rounds, a `pass` ends the loop, the reported rounds are the
  body outputs.
* `LoopRun.Resumable` — the dispatch that begins may go on from what storage has.
* `LoopRun.Consistent` — the invariant.

## Main results

* `LoopRun.Consistent.advance` — every input preserves it, if a dispatch begins resumable.
* `roundsBounded_iff` — the rounds of a dispatch are bounded, whatever happens to it, if and only if
  it begins resumable.
* `not_roundsBounded` — an interruption before the gate decision.
-/

namespace Makaio.Workflow

/-! ### The log -/

namespace LoopEvent

/-- A dispatch begins. -/
def isDispatched : LoopEvent → Bool
  | dispatched => true
  | _ => false

/-- A round is run or replayed. -/
def isRound : LoopEvent → Bool
  | replayed _ | ran _ => true
  | _ => false

end LoopEvent

/-- The rounds that the last dispatch has run or replayed. -/
def roundsOf (log : List LoopEvent) : ℕ :=
  (log.takeWhile fun event => !event.isDispatched).countP LoopEvent.isRound

/-- The gate of some round has decided `pass`. -/
def Passed (log : List LoopEvent) : Prop := ∃ round, .decided round .pass ∈ log

/-- The output is one of a loop, and reports as many rounds as it has body outputs. -/
def ReportsRounds (output : Option JsonValue) : Prop :=
  ∃ (outcome : String) (gateOutcome : LoopGateOutcome) (bodyOutputs : List JsonValue)
    (resumeData : Option JsonValue),
    output = some (buildLoopOutput outcome bodyOutputs.length gateOutcome bodyOutputs resumeData)

/-- What holds of the log of a loop. -/
structure RoundsBounded (node : WorkflowLoopNode) (log : List LoopEvent) : Prop where
  /-- The dispatch runs or replays at most `maxRounds` rounds. -/
  bounded : roundsOf log ≤ node.maxRounds
  /-- No round is run after one whose gate decision is `pass`. -/
  pass_ends : ∀ later earlier round, log = later ++ .decided round .pass :: earlier →
    ∀ round', .ran round' ∉ later
  reported : ∀ output, .returned (.ok (.completed output)) ∈ log → ReportsRounds output

section Log

variable {node : WorkflowLoopNode} {log : List LoopEvent} {round : ℕ}

/-- A dispatch counts its rounds from zero. -/
@[simp] lemma roundsOf_dispatched : roundsOf (.dispatched :: log) = 0 := rfl

/-- A replayed round counts. -/
@[simp] lemma roundsOf_replayed : roundsOf (.replayed round :: log) = roundsOf log + 1 := by
  rw [roundsOf, List.takeWhile_cons_of_pos rfl, List.countP_cons_of_pos rfl, roundsOf]

/-- A round that ran counts. -/
@[simp] lemma roundsOf_ran : roundsOf (.ran round :: log) = roundsOf log + 1 := by
  rw [roundsOf, List.takeWhile_cons_of_pos rfl, List.countP_cons_of_pos rfl, roundsOf]

/-- A decision of the gate is no round. -/
@[simp] lemma roundsOf_decided (gateOutcome : LoopGateOutcome) :
    roundsOf (.decided round gateOutcome :: log) = roundsOf log := by
  simp [roundsOf, LoopEvent.isDispatched, LoopEvent.isRound]

/-- An outcome is no round. -/
@[simp] lemma roundsOf_returned (outcome : Except String NodeOutcome) :
    roundsOf (.returned outcome :: log) = roundsOf log := by
  simp [roundsOf, LoopEvent.isDispatched, LoopEvent.isRound]

/-- Nothing has been decided at the start. -/
@[simp] lemma not_passed_nil : ¬ Passed [] := by simp [Passed]

variable {event : LoopEvent}

/-- A gate has decided `pass` now or before. -/
@[simp] lemma passed_cons :
    Passed (event :: log) ↔ (∃ round, event = .decided round .pass) ∨ Passed log := by
  simp [Passed, exists_or, eq_comm]

/-- The empty log is bounded. -/
lemma roundsBounded_nil : RoundsBounded node [] where
  bounded := Nat.zero_le _
  pass_ends := by simp
  reported := by simp

/-- One more event: a body run must not follow a `pass`, and an output must report its rounds. -/
lemma RoundsBounded.cons (h : RoundsBounded node log) (hbound : roundsOf (event :: log) ≤ node.maxRounds)
    (hran : ∀ round, event = .ran round → ¬ Passed log)
    (hreturned : ∀ output, event = .returned (.ok (.completed output)) → ReportsRounds output) :
    RoundsBounded node (event :: log) where
  bounded := hbound
  pass_ends := by
    intro later earlier round hlog round'
    cases later with
    | nil => simp
    | cons head later =>
      rw [List.cons_append, List.cons.injEq] at hlog
      obtain ⟨rfl, htail⟩ := hlog
      have hpassed : Passed log := ⟨round, by simp [htail]⟩
      simp only [List.mem_cons, not_or]
      exact ⟨fun hhead => hran _ hhead.symm hpassed, h.pass_ends _ _ _ htail _⟩
  reported := by
    intro output hmem
    rcases List.mem_cons.mp hmem with heq | hmem
    · exact hreturned _ heq.symm
    · exact h.reported _ hmem

end Log

/-! ### What a dispatch begins with -/

namespace LoopRun

variable (node : WorkflowLoopNode) (parentFrameId : FrameId)

/-- A run in two parts. -/
lemma run_append (s : LoopRun) (earlier later : List Input) :
    s.run node parentFrameId (earlier ++ later) = (s.run node parentFrameId earlier).run node parentFrameId later :=
  List.foldl_append

/-- A run of one input. -/
lemma run_singleton (s : LoopRun) (input : Input) :
    s.run node parentFrameId [input] = s.advance node parentFrameId input := rfl

/-- The first input of a run. -/
lemma run_cons (s : LoopRun) (input : Input) (later : List Input) :
    s.run node parentFrameId (input :: later) =
      (s.advance node parentFrameId input).run node parentFrameId later := rfl

/-- Storage has a completed frame of the round. -/
def Completed (s : LoopRun) (round : ℕ) : Prop :=
  ∃ frame ∈ s.frames, FrameMatch.accepts ⟨⟨node.id, none, some round⟩, parentFrameId, [.completed]⟩ frame

/-- A dispatch that has replayed all rounds is ended by the persisted escalation gate. -/
def Gated (s : LoopRun) (ctx : LoopContext) : Prop :=
  node.escalation.isSome ∧ ctx.suspensionStrategy ≠ .waitInProcess ∧ s.gate.isSome

/-- A dispatch that begins may go on from what storage has: it ends before its first round; or a persisted escalation
gate ends it; or no gate has decided `pass`, and the last round that the bound admits has not been completed. -/
def Resumable (s : LoopRun) (ctx : LoopContext) (aborted : Bool) : Prop :=
  aborted = true ∨ ctx.handlers.runtimeLoopGates node.handler = none ∨ s.Gated node ctx ∨
    ¬ Passed s.log ∧ ¬ s.Completed node parentFrameId (node.maxRounds - 1)

end LoopRun

/-- A dispatch begins. -/
def LoopRun.Input.isDispatch : LoopRun.Input → Bool
  | .dispatch .. => true
  | _ => false

/-- Every dispatch of the run begins resumable. -/
def EachResumable (node : WorkflowLoopNode) (parentFrameId : FrameId) (inputs : List LoopRun.Input) : Prop :=
  ∀ earlier later ctx aborted, inputs = earlier ++ .dispatch ctx aborted :: later →
    (LoopRun.empty.run node parentFrameId earlier).Resumable node parentFrameId ctx aborted

/-! ### The frames of the rounds -/

namespace LoopRun

/-- The frames of a loop of which `n` rounds are completed. -/
structure RoundFrames (node : WorkflowLoopNode) (parentFrameId : FrameId) (s : LoopRun) (n : ℕ) : Prop where
  nodup : (s.frames.map Frame.frameId).Nodup
  /-- The identifiers are drawn from the counter. -/
  drawn : ∀ frame ∈ s.frames, ∃ m < s.nextSerial, ∃ key, frame.frameId = parentFrameId ++ [⟨m, key⟩]
  coords : ∀ frame ∈ s.frames,
    frame.nodeId = node.id ∧ frame.parentFrameId = parentFrameId ∧ frame.branchKey = none
  completed : ∀ round, (∃ frame ∈ s.frames, frame.iteration = some round ∧ frame.status = .completed) ↔ round < n
  running : ∀ frame ∈ s.frames, frame.status = .running → frame.iteration = some n
  one_running : ∀ frame ∈ s.frames, ∀ frame' ∈ s.frames, frame.status = .running → frame'.status = .running →
    frame.frameId = frame'.frameId

/-- No round is running. -/
def Idle (s : LoopRun) : Prop := ∀ frame ∈ s.frames, frame.status ≠ .running

/-- The resume index has all frames from `round` on. -/
def Indexed (s : LoopRun) (resumeFrames : List FrameId) (round : ℕ) : Prop :=
  ∀ frame ∈ s.frames, ∀ round', frame.iteration = some round' → round ≤ round' → frame.frameId ∈ resumeFrames

variable {f : Frame → Frame} {s' : LoopRun}

section Frames

variable {node : WorkflowLoopNode} {parentFrameId : FrameId} {s : LoopRun} {n round : ℕ}
  {resumeFrames : List FrameId} {frameId : FrameId}

/-- Empty storage has no round. -/
lemma roundFrames_empty : RoundFrames node parentFrameId empty 0 where
  nodup := by simp [empty]
  drawn := by simp [empty]
  coords := by simp [empty]
  completed := by simp [empty]
  running := by simp [empty]
  one_running := by simp [empty]

variable {frame : Frame}

/-- A frame that is found is of the round, and completed or running. -/
lemma findReusableResumeFrame_some
    (h : s.findReusableResumeFrame node parentFrameId resumeFrames round = some frame) :
    frame ∈ s.frames ∧ frame.iteration = some round ∧ (frame.status = .completed ∨ frame.status = .running) := by
  have hmem := (List.mem_filter.mp (List.mem_of_find?_eq_some h)).1
  have haccepts := List.find?_some h
  simp only [FrameMatch.accepts, iterationResumeStatuses, decide_eq_true_eq, List.mem_cons, List.not_mem_nil,
    or_false] at haccepts
  exact ⟨hmem, haccepts.2.2.2.1, haccepts.2.2.2.2⟩

namespace RoundFrames

section

variable (h : RoundFrames node parentFrameId s n)
include h

/-- A round beyond those that are completed and running has no frame to reuse, and the others have. -/
lemma find_isSome (hindexed : s.Indexed resumeFrames round) (hmem : frame ∈ s.frames)
    (hiteration : frame.iteration = some round)
    (hstatus : frame.status = .completed ∨ frame.status = .running) :
    (s.findReusableResumeFrame node parentFrameId resumeFrames round).isSome := by
  obtain ⟨hnode, hparent, hbranch⟩ := h.coords _ hmem
  rw [findReusableResumeFrame, List.find?_isSome]
  refine ⟨frame, List.mem_filter.mpr ⟨hmem, ?_⟩, ?_⟩
  · simpa using hindexed _ hmem _ hiteration le_rfl
  · simp [FrameMatch.accepts, iterationResumeStatuses, hnode, hparent, hbranch, hiteration, hstatus]

/-- A completed round is found completed. -/
lemma find_completed (hindexed : s.Indexed resumeFrames round) (hround : round < n) :
    ∃ frame, s.findReusableResumeFrame node parentFrameId resumeFrames round = some frame ∧
      frame.status = .completed := by
  obtain ⟨frame, hmem, hiteration, hstatus⟩ := (h.completed round).mpr hround
  obtain ⟨found, hfound⟩ := Option.isSome_iff_exists.mp (h.find_isSome hindexed hmem hiteration (.inl hstatus))
  obtain ⟨hfmem, hfiteration, hfstatus⟩ := findReusableResumeFrame_some hfound
  refine ⟨found, hfound, hfstatus.resolve_right fun hrunning => ?_⟩
  have hn := (h.running _ hfmem hrunning).symm.trans hfiteration
  have : n = round := by simpa using hn
  omega

/-- What is found is the frame of a completed round or of the round that is running. -/
lemma find_some (hfound : s.findReusableResumeFrame node parentFrameId resumeFrames round = some frame) :
    frame.status = .completed ∧ round < n ∨ frame.status = .running ∧ round = n := by
  obtain ⟨hmem, hiteration, hstatus⟩ := findReusableResumeFrame_some hfound
  rcases hstatus with hstatus | hstatus
  · exact .inl ⟨hstatus, (h.completed round).mp ⟨frame, hmem, hiteration, hstatus⟩⟩
  · have hn := hiteration.symm.trans (h.running _ hmem hstatus)
    exact .inr ⟨hstatus, by simpa using hn⟩

/-- Without a running round, nothing is found for the round after the completed ones. -/
lemma find_none (hidle : s.Idle) :
    s.findReusableResumeFrame node parentFrameId resumeFrames n = none := by
  rw [Option.eq_none_iff_forall_ne_some]
  intro frame hfound
  rcases h.find_some hfound with ⟨-, hlt⟩ | ⟨hrunning, -⟩
  · exact lt_irrefl _ hlt
  · exact hidle _ (findReusableResumeFrame_some hfound).1 hrunning

/-- Nothing is found only when the rounds are completed up to there, and nothing is running. -/
lemma find_eq_none (hindexed : s.Indexed resumeFrames round)
    (hround : round ≤ n) (hnone : s.findReusableResumeFrame node parentFrameId resumeFrames round = none) :
    round = n ∧ s.Idle := by
  have hn : round = n := by
    by_contra hne
    obtain ⟨frame, hfound, -⟩ := h.find_completed hindexed (lt_of_le_of_ne hround hne)
    simp [hnone] at hfound
  refine ⟨hn, fun frame hmem hrunning => ?_⟩
  have hsome := h.find_isSome hindexed hmem (hn ▸ h.running _ hmem hrunning) (.inr hrunning)
  simp [hnone] at hsome

/-- The completed rounds are the first `n`. -/
lemma completed_iff : s.Completed node parentFrameId round ↔ round < n := by
  rw [← h.completed round, Completed]
  refine exists_congr fun frame => and_congr_right fun hmem => ?_
  obtain ⟨hnode, hparent, hbranch⟩ := h.coords _ hmem
  simp [FrameMatch.accepts, hnode, hparent, hbranch]

/-- Storage and the counter are all that matters. -/
lemma congr (hframes : s'.frames = s.frames) (hserial : s'.nextSerial = s.nextSerial) :
    RoundFrames node parentFrameId s' n where
  nodup := hframes ▸ h.nodup
  drawn := by rw [hframes, hserial]; exact h.drawn
  coords := hframes ▸ h.coords
  completed := hframes ▸ h.completed
  running := hframes ▸ h.running
  one_running := hframes ▸ h.one_running

/-- A new frame is pending. -/
lemma createFrame (round : ℕ) :
    RoundFrames node parentFrameId (s.createFrame node parentFrameId round).2 n where
  nodup := by
    simp only [LoopRun.createFrame, List.map_append, List.map_cons, List.map_nil]
    refine List.nodup_append.mpr ⟨h.nodup, List.nodup_singleton _, ?_⟩
    intro frameId hmem frameId' hmem' heq
    obtain ⟨frame, hframe, rfl⟩ := List.mem_map.mp hmem
    obtain ⟨m, hm, key, hdrawn⟩ := h.drawn _ hframe
    rw [heq, List.mem_singleton.mp hmem', List.append_cancel_left_eq, List.cons.injEq, FrameSegment.mk.injEq] at hdrawn
    exact hm.ne' hdrawn.1.1
  drawn := by
    intro frame hmem
    rcases List.mem_append.mp hmem with hmem | hmem
    · obtain ⟨m, hm, hdrawn⟩ := h.drawn _ hmem
      exact ⟨m, Nat.lt_succ_of_lt hm, hdrawn⟩
    · rw [List.mem_singleton.mp hmem]
      exact ⟨s.nextSerial, Nat.lt_succ_self _, _, rfl⟩
  coords := by
    intro frame hmem
    rcases List.mem_append.mp hmem with hmem | hmem
    · exact h.coords _ hmem
    · rw [List.mem_singleton.mp hmem]
      exact ⟨rfl, rfl, rfl⟩
  completed := by
    intro round'
    rw [← h.completed round']
    simp [LoopRun.createFrame, or_and_right, exists_or]
  running := by
    intro frame hmem hrunning
    rcases List.mem_append.mp hmem with hmem | hmem
    · exact h.running _ hmem hrunning
    · simp [List.mem_singleton.mp hmem] at hrunning
  one_running := by
    intro frame hmem frame' hmem' hrunning hrunning'
    rcases List.mem_append.mp hmem with hmem | hmem
    · rcases List.mem_append.mp hmem' with hmem' | hmem'
      · exact h.one_running _ hmem _ hmem' hrunning hrunning'
      · simp [List.mem_singleton.mp hmem'] at hrunning'
    · simp [List.mem_singleton.mp hmem] at hrunning

end

end RoundFrames

/-- What a change of a frame keeps: what the frame was created for. -/
structure KeepsCoords (f : Frame → Frame) : Prop where
  frameId : ∀ frame, (f frame).frameId = frame.frameId
  nodeId : ∀ frame, (f frame).nodeId = frame.nodeId
  parentFrameId : ∀ frame, (f frame).parentFrameId = frame.parentFrameId
  branchKey : ∀ frame, (f frame).branchKey = frame.branchKey
  iteration : ∀ frame, (f frame).iteration = frame.iteration

/-- The frames after a change of one. -/
lemma mem_modifyFrame (hnodup : (s.frames.map Frame.frameId).Nodup) {frame' : Frame} (hmem : frame ∈ s.frames)
    (f : Frame → Frame) :
    frame' ∈ (s.modifyFrame frame.frameId f).frames ↔
      frame' = f frame ∨ frame' ∈ s.frames ∧ frame'.frameId ≠ frame.frameId := by
  constructor
  · intro h
    obtain ⟨other, hother, rfl⟩ := List.mem_map.mp h
    by_cases heq : other.frameId = frame.frameId
    · rw [List.inj_on_of_nodup_map hnodup hother hmem heq, if_pos rfl]
      exact .inl rfl
    · rw [if_neg heq]
      exact .inr ⟨hother, heq⟩
  · rintro (rfl | ⟨hother, hne⟩)
    · exact List.mem_map.mpr ⟨frame, hmem, if_pos rfl⟩
    · exact List.mem_map.mpr ⟨frame', hother, if_neg hne⟩

/-- No other frame of the round is running, so that a change decides whether one is. -/
lemma idle_modifyFrame (hnodup : (s.frames.map Frame.frameId).Nodup) (hmem : frame ∈ s.frames)
    (honly : ∀ other ∈ s.frames, other.status = .running → other.frameId = frame.frameId)
    (hstatus : (f frame).status ≠ .running) : (s.modifyFrame frame.frameId f).Idle := by
  intro other hother
  rcases (mem_modifyFrame hnodup hmem f).mp hother with rfl | ⟨hother, hne⟩
  · exact hstatus
  · exact fun hrunning => hne (honly _ hother hrunning)

/-- A frame that changes stays where the index finds it. -/
lemma Indexed.modifyFrame (h : s.Indexed resumeFrames round) (hf : KeepsCoords f) :
    (s.modifyFrame frameId f).Indexed resumeFrames round := by
  intro frame hmem round' hiteration hle
  obtain ⟨other, hother, rfl⟩ := List.mem_map.mp hmem
  split at hiteration <;> rename_i heq
  · rw [if_pos heq, hf.frameId]
    exact h _ hother _ ((hf.iteration other).symm.trans hiteration) hle
  · rw [if_neg heq]
    exact h _ hother _ hiteration hle

/-- The frame of the round after the completed ones changes: completed, it is one of them. -/
lemma RoundFrames.modifyFrame (h : RoundFrames node parentFrameId s n) (hmem : frame ∈ s.frames)
    (hiteration : frame.iteration = some n) (hstatus : frame.status ≠ .completed)
    (honly : ∀ other ∈ s.frames, other.status = .running → other.frameId = frame.frameId) (hf : KeepsCoords f) :
    RoundFrames node parentFrameId (s.modifyFrame frame.frameId f)
      (if (f frame).status = .completed then n + 1 else n) := by
  have hrunning : ∀ other ∈ (s.modifyFrame frame.frameId f).frames, other.status = .running → other = f frame := by
    intro other hother hrunning
    rcases (mem_modifyFrame h.nodup hmem f).mp hother with rfl | ⟨hother, hne⟩
    · rfl
    · exact absurd (honly _ hother hrunning) hne
  constructor
  case nodup =>
    have hids : (s.modifyFrame frame.frameId f).frames.map Frame.frameId = s.frames.map Frame.frameId := by
      simp only [LoopRun.modifyFrame, List.map_map]
      refine List.map_congr_left fun other _ => ?_
      simp only [Function.comp_apply]
      split
      · exact hf.frameId other
      · rfl
    exact hids ▸ h.nodup
  case drawn =>
    intro other hother
    rcases (mem_modifyFrame h.nodup hmem f).mp hother with rfl | ⟨hother, -⟩
    · rw [hf.frameId]
      exact h.drawn _ hmem
    · exact h.drawn _ hother
  case coords =>
    intro other hother
    rcases (mem_modifyFrame h.nodup hmem f).mp hother with rfl | ⟨hother, -⟩
    · rw [hf.nodeId, hf.parentFrameId, hf.branchKey]
      exact h.coords _ hmem
    · exact h.coords _ hother
  case completed =>
    intro round'
    have hsplit : (∃ other ∈ (s.modifyFrame frame.frameId f).frames,
        other.iteration = some round' ∧ other.status = .completed) ↔
          round' < n ∨ n = round' ∧ (f frame).status = .completed := by
      rw [← h.completed round']
      constructor
      · rintro ⟨other, hother, hround, hcompleted⟩
        rcases (mem_modifyFrame h.nodup hmem f).mp hother with rfl | ⟨hother, -⟩
        · rw [hf.iteration, hiteration, Option.some.injEq] at hround
          exact .inr ⟨hround, hcompleted⟩
        · exact .inl ⟨other, hother, hround, hcompleted⟩
      · rintro (⟨other, hother, hround, hcompleted⟩ | ⟨rfl, hcompleted⟩)
        · refine ⟨other, (mem_modifyFrame h.nodup hmem f).mpr (.inr ⟨hother, fun heq => ?_⟩), hround, hcompleted⟩
          rw [List.inj_on_of_nodup_map h.nodup hother hmem heq] at hcompleted
          exact hstatus hcompleted
        · exact ⟨f frame, (mem_modifyFrame h.nodup hmem f).mpr (.inl rfl), (hf.iteration _).trans hiteration,
            hcompleted⟩
    rw [hsplit]
    split <;> rename_i hcompleted
    · simp only [hcompleted, and_true]
      omega
    · simp [hcompleted]
  case running =>
    intro other hother hstatus'
    obtain rfl := hrunning _ hother hstatus'
    rw [if_neg (by simp [hstatus']), hf.iteration]
    exact hiteration
  case one_running =>
    intro other hother other' hother' hstatus' hstatus''
    rw [hrunning _ hother hstatus', hrunning _ hother' hstatus'']

end Frames

/-! ### The invariant -/

/-- What storage keeps from one dispatch to the next.  A round runs only below the bound and before a `pass`. -/
structure Stored (node : WorkflowLoopNode) (parentFrameId : FrameId) (s : LoopRun) (n : ℕ) : Prop where
  frames : RoundFrames node parentFrameId s n
  le_maxRounds : n ≤ node.maxRounds
  active : ¬ s.Idle → n < node.maxRounds ∧ ¬ Passed s.log
  passed_pos : Passed s.log → 0 < n

/-- At the head of the loop.  If nothing will end the replay, there is room for one more round. -/
structure AtHead (node : WorkflowLoopNode) (s : LoopRun) (n : ℕ) (d : LoopDispatch) : Prop where
  rounds : roundsOf s.log = d.round
  outputs : d.bodyOutputs.length = d.round
  le_completed : d.round ≤ n
  lt_maxRounds : d.round < node.maxRounds
  indexed : s.Indexed d.resumeFrames d.round
  room : s.Gated node d.ctx ∨ n < node.maxRounds ∧ ¬ Passed s.log
  passed : Passed s.log → d.round < n

/-- In a round that has its frame and is not completed. -/
structure InRound (node : WorkflowLoopNode) (s : LoopRun) (n : ℕ) (d : LoopDispatch) (frameId : FrameId) : Prop where
  outputs : d.bodyOutputs.length = d.round
  round : d.round = n
  lt_maxRounds : n < node.maxRounds
  not_passed : ¬ Passed s.log
  indexed : s.Indexed d.resumeFrames (d.round + 1)
  frame : ∃ frame ∈ s.frames, frame.frameId = frameId ∧ frame.iteration = some n ∧ frame.status ≠ .completed
  only : ∀ frame ∈ s.frames, frame.status = .running → frame.frameId = frameId

/-- After a round that was run. -/
structure AtGate (s : LoopRun) (n : ℕ) (d : LoopDispatch) : Prop where
  rounds : roundsOf s.log = d.round + 1
  outputs : d.bodyOutputs.length = d.round + 1
  completed : d.round + 1 = n
  not_passed : ¬ Passed s.log
  idle : s.Idle
  indexed : s.Indexed d.resumeFrames (d.round + 1)

/-- What holds of the dispatch in each phase. -/
def AtPhase (node : WorkflowLoopNode) (s : LoopRun) (n : ℕ) (d : LoopDispatch) : Prop :=
  match d.phase with
  | .head => AtHead node s n d
  | .starting frameId _ => InRound node s n d frameId ∧ roundsOf s.log = d.round
  | .body frameId => InRound node s n d frameId ∧ roundsOf s.log = d.round + 1
  | .gate _ => AtGate s n d
  | .suspending .. | .waiting .. => d.bodyOutputs.length = d.round + 1

/-- The invariant. -/
structure ConsistentAt (node : WorkflowLoopNode) (parentFrameId : FrameId) (s : LoopRun) (n : ℕ) : Prop where
  stored : Stored node parentFrameId s n
  bounded : RoundsBounded node s.log
  phase : ∀ d, s.dispatch = some d → AtPhase node s n d

/-- The invariant, whatever number of rounds is completed. -/
def Consistent (node : WorkflowLoopNode) (parentFrameId : FrameId) (s : LoopRun) : Prop :=
  ∃ n, ConsistentAt node parentFrameId s n

section Steps

variable {node : WorkflowLoopNode} {parentFrameId : FrameId} {s : LoopRun} {n : ℕ} {d : LoopDispatch}
  {frameId : FrameId}
variable {d' : LoopDispatch} {outcome : Except String NodeOutcome} {gate : EscalationGate}
  {handlers : Handlers} {output : Option JsonValue} {calls : ℕ} {expressionCtx : ExpressionContext}
  {aborted : Bool} {ctx : LoopContext} {inputs : List Input}

/-- A round goes on while frames, log and round are as they were. -/
lemma InRound.congr (h : InRound node s n d frameId) (hframes : s'.frames = s.frames) (hlog : s'.log = s.log)
    (hround : d'.round = d.round) (houtputs : d'.bodyOutputs = d.bodyOutputs)
    (hresume : d'.resumeFrames = d.resumeFrames) : InRound node s' n d' frameId where
  outputs := by rw [houtputs, h.outputs, hround]
  round := hround.trans h.round
  lt_maxRounds := h.lt_maxRounds
  not_passed := hlog ▸ h.not_passed
  indexed := by simpa only [Indexed, hframes, hround, hresume] using h.indexed
  frame := hframes ▸ h.frame
  only := hframes ▸ h.only

/-- What holds of a dispatch in its phase is about its counters, its outputs and its phase. -/
lemma AtPhase.congr (h : AtPhase node s n d) (hframes : s'.frames = s.frames) (hlog : s'.log = s.log)
    (hphase : d'.phase = d.phase) (hround : d'.round = d.round) (houtputs : d'.bodyOutputs = d.bodyOutputs)
    (hresume : d'.resumeFrames = d.resumeFrames) (hctx : d'.ctx = d.ctx)
    (hgate : s.gate.isSome → s'.gate.isSome) : AtPhase node s' n d' := by
  rw [AtPhase] at h ⊢
  rw [hphase]
  split at h
  · obtain ⟨hrounds, houtputs', hle, hlt, hindexed, hroom, hpassed⟩ := h
    refine ⟨by rw [hlog, hrounds, hround], by rw [houtputs, houtputs', hround], hround ▸ hle, hround ▸ hlt, ?_, ?_,
      by rw [hlog, hround]; exact hpassed⟩
    · simpa only [Indexed, hframes, hround, hresume] using hindexed
    · rw [hlog]
      exact hroom.imp_left fun hgated => ⟨hgated.1, hctx ▸ hgated.2.1, hgate hgated.2.2⟩
  · exact ⟨h.1.congr hframes hlog hround houtputs hresume, by rw [hlog, h.2, hround]⟩
  · exact ⟨h.1.congr hframes hlog hround houtputs hresume, by rw [hlog, h.2, hround]⟩
  · obtain ⟨hrounds, houtputs', hcompleted, hnot, hidle, hindexed⟩ := h
    refine ⟨by rw [hlog, hrounds, hround], by rw [houtputs, houtputs', hround], hround ▸ hcompleted, hlog ▸ hnot, ?_,
      ?_⟩
    · simpa only [Idle, hframes] using hidle
    · simpa only [Indexed, hframes, hround, hresume] using hindexed
  all_goals rw [houtputs, h, hround]

/-- The invariant holds at the start. -/
lemma consistent_empty : Consistent node parentFrameId empty := by
  refine ⟨0, ⟨roundFrames_empty, Nat.zero_le _, ?_, ?_⟩, roundsBounded_nil, ?_⟩
  · simp [Idle, empty]
  · simp [empty]
  · simp [empty]

/-- The invariant of storage, after other entries of the log. -/
lemma Stored.congr (h : Stored node parentFrameId s n) (hframes : s'.frames = s.frames)
    (hserial : s'.nextSerial = s.nextSerial) (hpassed : Passed s'.log → Passed s.log) :
    Stored node parentFrameId s' n where
  frames := h.frames.congr hframes hserial
  le_maxRounds := h.le_maxRounds
  active := by
    intro hactive
    obtain ⟨hlt, hnot⟩ := h.active (by simpa only [Idle, hframes] using hactive)
    exact ⟨hlt, mt hpassed hnot⟩
  passed_pos := fun h' => h.passed_pos (hpassed h')

/-- `executeLoopNode` ends with an outcome that reports its rounds. -/
lemma consistent_finish (hstored : Stored node parentFrameId s n) (hbounded : RoundsBounded node s.log)
    (houtcome : ∀ output, outcome = .ok (.completed output) → ReportsRounds output) :
    Consistent node parentFrameId (s.finish outcome) := by
  refine ⟨n, hstored.congr rfl rfl (by simp [finish]), ?_, by simp [finish]⟩
  refine hbounded.cons ?_ (by simp) ?_
  · simpa using hbounded.bounded
  · intro output heq
    exact houtcome _ (by simpa using heq)

/-- It does so with a gate that it has settled. -/
lemma consistent_finish_gate (hstored : Stored node parentFrameId s n) (hbounded : RoundsBounded node s.log)
    (gate : EscalationGate) (houtcome : ∀ output, outcome = .ok (.completed output) → ReportsRounds output) :
    Consistent node parentFrameId ({ s with gate := some gate }.finish outcome) := by
  have hstored' : Stored node parentFrameId { s with gate := some gate } n := hstored.congr rfl rfl id
  exact consistent_finish hstored' hbounded houtcome

/-- The frame of the round changes, and the round is not completed by it: the dispatch ends. -/
lemma Stored.modifyFrame (h : Stored node parentFrameId s n) (hround : InRound node s n d frameId)
    (hf : KeepsCoords f) (hcompleted : ∀ frame, (f frame).status ≠ .completed) :
    Stored node parentFrameId (s.modifyFrame frameId f) n := by
  obtain ⟨frame, hmem, rfl, hiteration, hstatus⟩ := hround.frame
  have hframes := h.frames.modifyFrame hmem hiteration hstatus hround.only hf
  rw [if_neg (hcompleted frame)] at hframes
  exact ⟨hframes, h.le_maxRounds, fun _ => ⟨hround.lt_maxRounds, hround.not_passed⟩, h.passed_pos⟩

/-! #### Reported rounds -/

variable {bodyOutputs : List JsonValue} {gateOutcome : LoopGateOutcome}
variable {rounds : ℕ}

/-- The rounds are reported as counted. -/
lemma reportsRounds (hrounds : bodyOutputs.length = rounds) (outcome : String) (gateOutcome : LoopGateOutcome)
    (resumeData : Option JsonValue) :
    ReportsRounds (some (buildLoopOutput outcome rounds gateOutcome bodyOutputs resumeData)) :=
  ⟨outcome, gateOutcome, bodyOutputs, resumeData, by rw [hrounds]⟩

/-- The output after an expired gate reports the rounds. -/
lemma reportsRounds_expired (hrounds : bodyOutputs.length = rounds)
    (h : (resolveExpiredEscalationGate node handlers gate gateOutcome rounds bodyOutputs).1 = .completed output) :
    ReportsRounds output := by
  simp only [resolveExpiredEscalationGate] at h
  split at h
  · split at h
    · simp at h
    · cases h
      exact reportsRounds hrounds _ _ _
  · simp at h

/-- The output after a persisted gate reports the rounds. -/
lemma reportsRounds_persisted {now : ℕ} (hrounds : bodyOutputs.length = rounds)
    (h : (resolvePersistedEscalationGate node parentFrameId handlers now gate gateOutcome rounds bodyOutputs).1 =
      .completed output) : ReportsRounds output := by
  rw [resolvePersistedEscalationGate] at h
  split_ifs at h
  · exact reportsRounds_expired hrounds h
  · simp only [resolveEscalationInstance] at h
    -- only settled gates whose data fit the schema complete the loop
    split at h
    · simp at h
    all_goals try
      split at h
      · split at h
        · simp at h
        · cases h
          exact reportsRounds hrounds _ _ _
      · simp at h
    all_goals simp at h

/-! #### Rounds -/

section

variable (hstored : Stored node parentFrameId s n) (hbounded : RoundsBounded node s.log)
include hstored hbounded

/-- The loop is at its head, and the round is completed. -/
lemma consistent_replayRound (hhead : AtHead node s n d) (hround : d.round < n) (now : ℕ) (frame : Frame) :
    Consistent node parentFrameId (s.replayRound node parentFrameId d now frame) := by
  have hrounds : roundsOf (.replayed d.round :: s.log) = d.round + 1 := by rw [roundsOf_replayed, hhead.rounds]
  have houtputs : (d.bodyOutputs ++ [frame.output.getD .null]).length = d.round + 1 := by simp [hhead.outputs]
  have hstored' : Stored node parentFrameId (s.record (.replayed d.round)) n :=
    hstored.congr rfl rfl (by simp [record])
  have hbounded' : RoundsBounded node (s.record (.replayed d.round)).log :=
    hbounded.cons (hrounds ▸ hhead.lt_maxRounds) (by simp) (by simp)
  have hindexed : s.Indexed d.resumeFrames (d.round + 1) := fun frame hmem round' hiteration hle =>
    hhead.indexed _ hmem _ hiteration (Nat.le_of_succ_le hle)
  -- back at the head, if there is room for the next round and no `pass` behind
  have hnext : d.round + 1 < node.maxRounds → (Passed s.log → d.round + 1 < n) →
      (s.Gated node d.ctx ∨ n < node.maxRounds ∧ ¬ Passed s.log) →
      Consistent node parentFrameId ((s.record (.replayed d.round)).goto
        { d with round := d.round + 1, bodyOutputs := d.bodyOutputs ++ [frame.output.getD .null] } .head) := by
    intro hlt hpassed hroom
    refine ⟨n, hstored'.congr rfl rfl id, hbounded', ?_⟩
    rintro _ ⟨⟩
    refine ⟨hrounds, houtputs, hround, hlt, hindexed, ?_, ?_⟩
    · simpa [Gated, record, goto] using hroom
    · simpa [record, goto] using hpassed
  rw [replayRound]
  simp only
  split_ifs with hreusable hgated
  · obtain ⟨next, hfound⟩ := Option.isSome_iff_exists.mp hreusable
    rcases hstored'.frames.find_some hfound with ⟨-, hlt⟩ | ⟨hrunning, hn⟩
    · exact hnext (hlt.trans_le hstored.le_maxRounds) (fun _ => hlt) hhead.room
    · obtain ⟨hlt, hnot⟩ := hstored.active fun hidle =>
        hidle _ (findReusableResumeFrame_some hfound).1 hrunning
      have hn : d.round + 1 = n := hn
      exact hnext (hn ▸ hlt) (fun hpassed => absurd hpassed hnot) hhead.room
  all_goals
    have hn : d.round + 1 = n :=
      (hstored'.frames.find_eq_none hindexed hround (Option.not_isSome_iff_eq_none.mp hreusable)).1
  · split
    · rename_i hgate
      have hroom := hhead.room.resolve_left fun hgated => by simp_all [Gated, record]
      exact hnext (hn ▸ hroom.1) (fun hpassed => absurd hpassed hroom.2) (.inr hroom)
    · refine consistent_finish_gate hstored' hbounded' _ fun output heq => ?_
      exact reportsRounds_persisted houtputs (by simpa using heq)
  · have hroom := hhead.room.resolve_left fun h => hgated ⟨h.1, h.2.1⟩
    exact hnext (hn ▸ hroom.1) (fun hpassed => absurd hpassed hroom.2) (.inr hroom)

/-- **The head of the loop**: a round is replayed or gets its frame. -/
lemma consistent_roundHead
    (hhead : AtHead node s n d) (now : ℕ) : Consistent node parentFrameId (s.roundHead node parentFrameId d now) := by
  rw [roundHead]
  split_ifs with haborted
  · exact consistent_finish hstored hbounded (by simp)
  split
  · rename_i frame hfound
    split_ifs with hcompleted
    · have hlt : d.round < n := by
        rcases hstored.frames.find_some hfound with ⟨-, hlt⟩ | ⟨hrunning, -⟩
        · exact hlt
        · simp [hcompleted] at hrunning
      exact consistent_replayRound hstored hbounded hhead hlt now frame
    · obtain ⟨hmem, hiteration, hstatus⟩ := findReusableResumeFrame_some hfound
      have hrunning : frame.status = .running := hstatus.resolve_left hcompleted
      have hn : d.round = n := (hstored.frames.find_some hfound).elim (fun h => absurd h.1 hcompleted) And.right
      obtain ⟨hlt, hnot⟩ := hstored.active fun hidle => hidle _ hmem hrunning
      refine ⟨n, hstored.congr rfl rfl id, hbounded, ?_⟩
      rintro _ ⟨⟩
      refine ⟨⟨hhead.outputs, hn, hlt, hnot, fun frame hmem round' hround hle =>
        hhead.indexed _ hmem _ hround (Nat.le_of_succ_le hle), ⟨frame, hmem, rfl, hn ▸ hiteration, hcompleted⟩,
        fun other hother hstatus => hstored.frames.one_running _ hother _ hmem hstatus hrunning⟩, hhead.rounds⟩
  · rename_i hnone
    obtain ⟨hn, hidle⟩ := hstored.frames.find_eq_none hhead.indexed hhead.le_completed hnone
    have hnot : ¬ Passed s.log := fun hpassed => (hhead.passed hpassed).ne hn
    have hlt : n < node.maxRounds := hn ▸ hhead.lt_maxRounds
    refine ⟨n, ⟨(hstored.frames.createFrame d.round).congr rfl rfl, hstored.le_maxRounds, fun _ => ⟨hlt, hnot⟩,
      hstored.passed_pos⟩, hbounded, ?_⟩
    rintro _ ⟨⟩
    refine ⟨⟨hhead.outputs, hn, hlt, hnot, ?_, ?_, ?_⟩, hhead.rounds⟩
    · intro frame hmem round' hround hle
      rcases List.mem_append.mp hmem with hmem | hmem
      · exact hhead.indexed _ hmem _ hround (Nat.le_of_succ_le hle)
      · rw [List.mem_singleton.mp hmem] at hround
        have : d.round = round' := by simpa using hround
        have hle : d.round + 1 ≤ round' := hle
        omega
    · exact ⟨_, List.mem_append_right _ (List.mem_singleton_self _), rfl, congrArg some hn, by simp⟩
    · intro frame hmem hrunning
      rcases List.mem_append.mp hmem with hmem | hmem
      · exact absurd hrunning (hidle _ hmem)
      · simp [List.mem_singleton.mp hmem] at hrunning

/-- The frame of the round is started, and the body runs. -/
lemma consistent_startRound
    (hround : InRound node s n d frameId) (hrounds : roundsOf s.log = d.round) (resumed : Bool) :
    Consistent node parentFrameId (s.startRound d frameId resumed) := by
  have hrounds' : roundsOf (.ran d.round :: s.log) = d.round + 1 := by rw [roundsOf_ran, hrounds]
  have hbounded' : RoundsBounded node (.ran d.round :: s.log) := by
    refine hbounded.cons ?_ (fun _ _ => hround.not_passed) (by simp)
    rw [hrounds', hround.round]
    exact hround.lt_maxRounds
  have hnot : ¬ Passed (.ran d.round :: s.log) := by simpa using hround.not_passed
  have hkeeps : KeepsCoords fun frame => { frame with status := .running } :=
    ⟨by simp, by simp, by simp, by simp, by simp⟩
  rw [startRound]
  split_ifs with haborted hresumed
  · exact consistent_finish (hstored.modifyFrame hround ⟨by simp, by simp, by simp, by simp, by simp⟩ (by simp))
      hbounded (by simp)
  · refine ⟨n, hstored.congr rfl rfl (by simp [record, goto]), hbounded', ?_⟩
    rintro _ ⟨⟩
    exact ⟨⟨hround.outputs, hround.round, hround.lt_maxRounds, hnot, hround.indexed, hround.frame, hround.only⟩,
      hrounds'⟩
  · refine ⟨n, (hstored.modifyFrame hround hkeeps (by simp)).congr rfl rfl (by simp [record, goto, LoopRun.modifyFrame]),
      hbounded', ?_⟩
    rintro _ ⟨⟩
    obtain ⟨frame, hmem, rfl, hiteration, -⟩ := hround.frame
    refine ⟨⟨hround.outputs, hround.round, hround.lt_maxRounds, hnot, hround.indexed.modifyFrame hkeeps, ?_, ?_⟩,
      hrounds'⟩
    · exact ⟨_, (mem_modifyFrame hstored.frames.nodup hmem _).mpr (.inl rfl), rfl, hiteration, by simp⟩
    · intro other hother hrunning
      rcases (mem_modifyFrame hstored.frames.nodup hmem _).mp hother with rfl | ⟨hother, -⟩
      · rfl
      · exact hround.only _ hother hrunning

/-- The body ends, and the frame of the round follows. -/
lemma consistent_endRound
    (hround : InRound node s n d frameId) (hrounds : roundsOf s.log = d.round + 1) (lastOutput : Option JsonValue)
    (gateExpressionCtx : ExpressionContext) (outcome : NodeOutcome) :
    Consistent node parentFrameId (s.endRound d frameId lastOutput gateExpressionCtx outcome) := by
  have hstops : ∀ (status : FrameStatus) (error : Option String) (outcome : NodeOutcome), status ≠ .completed →
      (∀ output, outcome ≠ .completed output) →
      Consistent node parentFrameId ((s.modifyFrame frameId fun frame =>
        { frame with status, error := error.or frame.error }).finish (.ok outcome)) := by
    intro status error outcome hstatus houtcome
    refine consistent_finish (hstored.modifyFrame hround ⟨by simp, by simp, by simp, by simp, by simp⟩ ?_) hbounded ?_
    · exact fun _ => hstatus
    · intro output heq
      exact absurd (by simpa using heq) (houtcome output)
  have hcompletes : Consistent node parentFrameId ((s.modifyFrame frameId fun frame =>
      { frame with status := .completed, output := some (lastOutput.getD .null) }).goto
        { d with bodyOutputs := d.bodyOutputs ++ [lastOutput.getD .null] } (.gate gateExpressionCtx)) := by
    have hkeeps : KeepsCoords fun frame =>
        { frame with status := .completed, output := some (lastOutput.getD .null) } :=
      ⟨by simp, by simp, by simp, by simp, by simp⟩
    have hn : d.round + 1 = n + 1 := congrArg (· + 1) hround.round
    have hindexed : (s.modifyFrame frameId _).Indexed d.resumeFrames (d.round + 1) :=
      hround.indexed.modifyFrame hkeeps
    obtain ⟨frame, hmem, rfl, hiteration, hstatus⟩ := hround.frame
    have hframes := hstored.frames.modifyFrame hmem hiteration hstatus hround.only hkeeps
    have hidle := idle_modifyFrame hstored.frames.nodup hmem hround.only (f := fun frame =>
      { frame with status := .completed, output := some (lastOutput.getD .null) }) (by simp)
    refine ⟨n + 1, ⟨hframes.congr rfl rfl, hround.lt_maxRounds, fun hactive => absurd hidle hactive,
      fun _ => Nat.succ_pos n⟩, hbounded, ?_⟩
    rintro _ ⟨⟩
    exact ⟨hrounds, by simp [hround.outputs], hn, hround.not_passed, hidle, hindexed⟩
  cases outcome with
  | failed error => exact hstops .failed (some error) _ (by simp) (by simp)
  | cancelled => exact hstops .cancelled none _ (by simp) (by simp)
  | paused gateId gateFrameId => exact consistent_finish hstored hbounded (by simp)
  | skipped | completed _ => exact hcompletes

end

/-! #### Gates -/

/-- The gate decides `loop` only if there is room for one more round. -/
lemma evaluateGate_loop (h : (evaluateGate node d calls expressionCtx).1 = .ok (.inr .loop)) :
    d.round + 1 < node.maxRounds := by
  simp only [evaluateGate] at h
  split at h
  · simp at h
  · split at h
    · simp at h
    · split_ifs at h with hmax
      · simp at h
      · exact Nat.lt_of_not_le hmax
    · rename_i hne _
      exact absurd h (by simpa using hne)

/-- A gate that cannot be evaluated fails the loop. -/
lemma evaluateGate_inl {outcome : NodeOutcome}
    (h : (evaluateGate node d calls expressionCtx).1 = .ok (.inl outcome)) :
    ∃ error, outcome = .failed error := by
  simp only [evaluateGate] at h
  split at h
  · simp only [Except.ok.injEq, Sum.inl.injEq] at h
    exact ⟨_, h.symm⟩
  · split at h
    · simp at h
    · split_ifs at h <;> simp at h
    · simp at h

section

variable (hstored : Stored node parentFrameId s n) (hbounded : RoundsBounded node s.log)
include hstored hbounded

/-- The decision of a gate: only `loop` goes on. -/
lemma consistent_settleRound
    (hgate : AtGate s n d) (now : ℕ) (hloop : gateOutcome = .loop → d.round + 1 < node.maxRounds) :
    Consistent node parentFrameId (s.settleRound node parentFrameId d now gateOutcome) := by
  have hbounded' : RoundsBounded node (.decided d.round gateOutcome :: s.log) :=
    hbounded.cons (by simpa using hbounded.bounded) (by simp) (by simp)
  have hstored' : Stored node parentFrameId (s.record (.decided d.round gateOutcome)) n :=
    ⟨hstored.frames.congr rfl rfl, hstored.le_maxRounds, fun hactive => absurd hgate.idle hactive,
      fun _ => hgate.completed ▸ Nat.succ_pos _⟩
  have hends : ∀ outcome, Consistent node parentFrameId ((s.record (.decided d.round gateOutcome)).finish
      (.ok (.completed (some (buildLoopOutput outcome (d.round + 1) gateOutcome d.bodyOutputs none))))) := by
    refine fun outcome => consistent_finish hstored' hbounded' fun output heq => ?_
    obtain rfl : some (buildLoopOutput outcome (d.round + 1) gateOutcome d.bodyOutputs none) = output := by
      simpa using heq
    exact reportsRounds hgate.outputs _ _ _
  unfold settleRound
  cases gateOutcome with
  | pass => exact hends "pass"
  | escalate reason =>
    simp only
    split
    · refine ⟨n, hstored'.congr rfl rfl id, hbounded', ?_⟩
      rintro _ ⟨⟩
      exact hgate.outputs
    · exact hends "escalate"
  | loop =>
    have hnot : ¬ Passed (.decided d.round .loop :: s.log) := by simpa using hgate.not_passed
    have hlt : n < node.maxRounds := hgate.completed ▸ hloop rfl
    refine ⟨n, hstored'.congr rfl rfl id, hbounded', ?_⟩
    rintro _ ⟨⟩
    exact ⟨by simpa [goto, record] using hgate.rounds, hgate.outputs, hgate.completed.le, hloop rfl, hgate.indexed,
      .inr ⟨hlt, hnot⟩, fun hpassed => absurd hpassed hnot⟩

/-- The gate after a round that was run. -/
lemma consistent_afterRound (hgate : AtGate s n d) (now : ℕ) (gateExpressionCtx : ExpressionContext) :
    Consistent node parentFrameId (s.afterRound node parentFrameId d now gateExpressionCtx) := by
  have hstored' : Stored node parentFrameId
      { s with calls := s.calls + (evaluateGate node d s.calls gateExpressionCtx).2 } n :=
    hstored.congr rfl rfl id
  rw [afterRound]
  simp only
  split
  · exact consistent_finish hstored' hbounded (by simp)
  · rename_i outcome hresult
    obtain ⟨error, rfl⟩ := evaluateGate_inl hresult
    exact consistent_finish hstored' hbounded (by simp)
  · rename_i gateOutcome hresult
    refine consistent_settleRound hstored' hbounded
      ⟨hgate.rounds, hgate.outputs, hgate.completed, hgate.not_passed, hgate.idle, hgate.indexed⟩ now ?_
    rintro rfl
    exact evaluateGate_loop hresult

/-- The escalation gate is open: the dispatch ends, or it waits. -/
lemma consistent_suspend
    (houtputs : d.bodyOutputs.length = d.round + 1) (gate : EscalationGate) (gateOutcome : LoopGateOutcome) :
    Consistent node parentFrameId (s.suspend node parentFrameId d gate gateOutcome) := by
  rw [suspend]
  split_ifs
  · exact consistent_finish hstored hbounded (by simp)
  · exact consistent_finish hstored hbounded (by simp)
  · split
    · exact consistent_finish hstored hbounded (by simp)
    · refine ⟨n, hstored.congr rfl rfl id, hbounded, ?_⟩
      rintro _ ⟨⟩
      exact houtputs

end

/-- The wait for a response ends. -/
lemma consistent_endWait (h : ConsistentAt node parentFrameId s n) (houtputs : d.bodyOutputs.length = d.round + 1)
    (gate : EscalationGate) (validator : JsonValue → Option String) (gateOutcome : LoopGateOutcome)
    (result : WaitResult) : Consistent node parentFrameId (s.endWait node d gate validator gateOutcome result) := by
  cases result with
  | timedOut =>
    simp only [endWait]
    split_ifs
    · exact ⟨n, h⟩
    · exact consistent_finish_gate h.stored h.bounded _ fun output heq =>
        reportsRounds_expired houtputs (by simpa using heq)
  | resolved response =>
    simp only [endWait]
    split_ifs
    · exact ⟨n, h⟩
    · refine consistent_finish_gate h.stored h.bounded _ fun output heq => ?_
      cases heq
      exact reportsRounds houtputs _ _ _
  | cancelled =>
    simp only [endWait]
    split_ifs
    · exact ⟨n, h⟩
    · exact consistent_finish_gate h.stored h.bounded _ (by simp)

/-! #### Inputs -/

/-- **A dispatch begins**, at the head of its first round. -/
lemma consistent_executeLoopNode (h : ConsistentAt node parentFrameId s n)
    (hresumable : s.Resumable node parentFrameId ctx aborted) :
    Consistent node parentFrameId (s.executeLoopNode node ctx aborted) := by
  have hstored : Stored node parentFrameId { s with dispatch := none, log := .dispatched :: s.log } n :=
    h.stored.congr rfl rfl (by simp)
  have hbounded : RoundsBounded node (.dispatched :: s.log) := h.bounded.cons (by simp) (by simp) (by simp)
  rw [executeLoopNode]
  simp only
  split_ifs with haborted
  · exact consistent_finish hstored hbounded (by simp)
  split
  · exact consistent_finish hstored hbounded (by simp)
  · rename_i gateHandler hhandler
    refine ⟨n, hstored.congr rfl rfl id, hbounded, ?_⟩
    rintro _ ⟨⟩
    refine ⟨roundsOf_dispatched, rfl, Nat.zero_le n, node.maxRounds_pos, ?_, ?_, ?_⟩
    · exact fun frame hmem _ _ _ => List.mem_map_of_mem hmem
    · rcases hresumable with h' | h' | h' | ⟨hnot, hcompleted⟩
      · exact absurd h' haborted
      · simp [h'] at hhandler
      · exact .inl h'
      · have hmax := node.maxRounds_pos
        rw [h.stored.frames.completed_iff] at hcompleted
        exact .inr ⟨by omega, by simpa using hnot⟩
    · exact fun hpassed => h.stored.passed_pos (by simpa using hpassed)

/-- What the dispatch does until its next `await` preserves the invariant. -/
lemma consistent_turn (h : ConsistentAt node parentFrameId s n) (hdispatch : s.dispatch = some d) (now : ℕ) :
    Consistent node parentFrameId (s.turn node parentFrameId d now) := by
  have hphase := h.phase d hdispatch
  rw [turn]
  rw [AtPhase] at hphase
  split <;> rename_i hd <;> rw [hd] at hphase
  · exact consistent_roundHead h.stored h.bounded hphase now
  · exact consistent_startRound h.stored h.bounded hphase.1 hphase.2 _
  · exact consistent_afterRound h.stored h.bounded hphase now _
  · exact consistent_suspend h.stored h.bounded hphase _ _
  · exact ⟨n, h⟩
  · exact ⟨n, h⟩

/-- **Every input preserves the invariant**, if a dispatch begins resumable. -/
theorem Consistent.advance (h : Consistent node parentFrameId s) (input : Input)
    (hresumable : ∀ ctx aborted, input = .dispatch ctx aborted → s.Resumable node parentFrameId ctx aborted) :
    Consistent node parentFrameId (s.advance node parentFrameId input) := by
  obtain ⟨n, h⟩ := h
  cases input with
  | dispatch ctx aborted => exact consistent_executeLoopNode h (hresumable ctx aborted rfl)
  | turn now =>
    cases hd : s.dispatch with
    | none => simpa only [LoopRun.advance, hd] using ⟨n, h⟩
    | some d => simpa only [LoopRun.advance, hd] using consistent_turn h hd now
  | bodyEnded outcome lastOutput gateExpressionCtx =>
    cases hd : s.dispatch with
    | none => simpa only [LoopRun.advance, hd] using ⟨n, h⟩
    | some d =>
      have hphase := h.phase d hd
      rw [AtPhase] at hphase
      simp only [LoopRun.advance, hd]
      split
      · rename_i hbody
        rw [hbody] at hphase
        exact consistent_endRound h.stored h.bounded hphase.1 hphase.2 _ _ _
      · exact ⟨n, h⟩
  | waitEnded result =>
    cases hd : s.dispatch with
    | none => simpa only [LoopRun.advance, hd] using ⟨n, h⟩
    | some d =>
      have hphase := h.phase d hd
      rw [AtPhase] at hphase
      simp only [LoopRun.advance, hd]
      split
      · rename_i hwaiting
        rw [hwaiting] at hphase
        exact consistent_endWait h hphase _ _ _ _
      · exact ⟨n, h⟩
  | abort =>
    cases hd : s.dispatch with
    | none => simpa only [LoopRun.advance, hd] using ⟨n, h⟩
    | some d =>
      simp only [LoopRun.advance, hd]
      refine ⟨n, h.stored.congr rfl rfl id, h.bounded, ?_⟩
      rintro _ ⟨⟩
      exact (h.phase d hd).congr rfl rfl rfl rfl rfl rfl rfl id
  | gateUpdated gate =>
    simp only [LoopRun.advance]
    refine ⟨n, h.stored.congr rfl rfl id, h.bounded, fun d hd => ?_⟩
    exact (h.phase d hd).congr rfl rfl rfl rfl rfl rfl rfl fun hgate => by simpa using hgate

/-- A run whose dispatches begin resumable is consistent. -/
theorem consistent_run (h : EachResumable node parentFrameId inputs) :
    Consistent node parentFrameId (empty.run node parentFrameId inputs) := by
  induction inputs using List.reverseRecOn with
  | nil => exact consistent_empty
  | append_singleton inputs input ih =>
    rw [run_append, run_singleton]
    refine (ih fun earlier later ctx aborted heq => ?_).advance input fun ctx aborted heq => ?_
    · exact h earlier (later ++ [input]) ctx aborted (by simp [heq])
    · exact h inputs [] ctx aborted (by simp [heq])

/-- Inputs other than dispatches preserve the invariant. -/
lemma Consistent.run (h : Consistent node parentFrameId s)
    (hinputs : ∀ input ∈ inputs, input.isDispatch = false) :
    Consistent node parentFrameId (s.run node parentFrameId inputs) := by
  induction inputs generalizing s with
  | nil => exact h
  | cons input inputs ih =>
    rw [run_cons]
    refine ih (h.advance input fun ctx aborted heq => ?_) fun input' hmem => hinputs _ (List.mem_cons_of_mem _ hmem)
    have hinput := hinputs _ List.mem_cons_self
    simp [heq, Input.isDispatch] at hinput

/-! ### A dispatch that does not begin resumable -/

/-- The dispatch replays, and nothing will stop it before the round after the completed ones. -/
structure Replaying (node : WorkflowLoopNode) (parentFrameId : FrameId) (s : LoopRun) (n : ℕ) (d : LoopDispatch) :
    Prop where
  frames : RoundFrames node parentFrameId s n
  idle : s.Idle
  not_gated : ¬ s.Gated node d.ctx
  dispatch : s.dispatch = some d
  head : d.phase = .head
  not_aborted : d.aborted = false
  rounds : roundsOf s.log = d.round
  indexed : s.Indexed d.resumeFrames d.round

/-- A completed round is replayed. -/
lemma Replaying.turn (h : Replaying node parentFrameId s n d) (hround : d.round < n) :
    ∃ d', Replaying node parentFrameId (s.advance node parentFrameId (.turn 0)) n d' ∧ d'.round = d.round + 1 ∧
      (s.advance node parentFrameId (.turn 0)).log = .replayed d.round :: s.log := by
  obtain ⟨frame, hfound, hcompleted⟩ := h.frames.find_completed h.indexed hround
  have hnext : s.advance node parentFrameId (.turn 0) = (s.record (.replayed d.round)).goto
      { d with round := d.round + 1, bodyOutputs := d.bodyOutputs ++ [frame.output.getD .null] } .head := by
    simp only [LoopRun.advance, h.dispatch, LoopRun.turn, h.head, roundHead, h.not_aborted, hfound, hcompleted,
      replayRound]
    simp only [Bool.false_eq_true, if_false, if_true]
    split_ifs with hreusable hgated
    · rfl
    · split
      · rfl
      · rename_i gate hgate
        exact absurd ⟨hgated.1, hgated.2, Option.isSome_of_mem hgate⟩ h.not_gated
    · rfl
  rw [hnext]
  refine ⟨{ d with
      round := d.round + 1, bodyOutputs := d.bodyOutputs ++ [frame.output.getD .null], phase := .head },
    ⟨h.frames.congr rfl rfl, h.idle, h.not_gated, rfl, rfl, h.not_aborted, ?_, ?_⟩, rfl, rfl⟩
  · exact (roundsOf_replayed).trans (congrArg (· + 1) h.rounds)
  · exact fun frame hmem round' hiteration hle => h.indexed _ hmem _ hiteration (Nat.le_of_succ_le hle)

/-- All completed rounds are replayed. -/
lemma Replaying.turns (h : Replaying node parentFrameId s n d) {k : ℕ} (hround : d.round + k = n) :
    ∃ d', Replaying node parentFrameId (s.run node parentFrameId (.replicate k (.turn 0))) n d' ∧ d'.round = n ∧
      (Passed s.log → Passed (s.run node parentFrameId (.replicate k (.turn 0))).log) := by
  induction k generalizing s d with
  | zero => exact ⟨d, h, hround, id⟩
  | succ k ih =>
    obtain ⟨d', h', hround', hlog⟩ := h.turn (by omega)
    obtain ⟨d'', h'', hround'', hpassed⟩ := ih h' (by omega)
    rw [List.replicate_succ, run_cons]
    refine ⟨d'', h'', hround'', fun hp => hpassed ?_⟩
    rw [hlog]
    simpa using hp

/-- Then one more round is run. -/
lemma Replaying.overrun (h : Replaying node parentFrameId s n d) (hround : d.round = n) :
    (s.run node parentFrameId [.turn 0, .turn 0]).log = .ran n :: s.log := by
  have hnone : s.findReusableResumeFrame node parentFrameId d.resumeFrames n = none := h.frames.find_none h.idle
  rw [run_cons, run_singleton]
  simp [LoopRun.advance, LoopRun.turn, h.dispatch, h.head, roundHead, h.not_aborted, hround, hnone, goto, startRound,
    createFrame, record, LoopRun.modifyFrame]

/-- **A dispatch that does not begin resumable** runs a round past a `pass` or past the bound, if it is not
interrupted. -/
lemma not_roundsBounded_of_not_resumable (h : Consistent node parentFrameId s)
    (hnot : ¬ s.Resumable node parentFrameId ctx aborted) :
    ∃ k, ¬ RoundsBounded node (s.run node parentFrameId (.dispatch ctx aborted :: .replicate k (.turn 0))).log := by
  obtain ⟨n, h⟩ := h
  simp only [Resumable, not_or, not_and_or, not_not] at hnot
  obtain ⟨haborted, hhandler, hgated, hlast⟩ := hnot
  obtain ⟨gateHandler, hhandler⟩ := Option.ne_none_iff_exists'.mp hhandler
  have hfull : Passed s.log ∨ n = node.maxRounds := by
    refine hlast.imp_right fun hcompleted => ?_
    have hmax := node.maxRounds_pos
    have hle := h.stored.le_maxRounds
    rw [h.stored.frames.completed_iff] at hcompleted
    omega
  have hidle : s.Idle := by
    by_contra hactive
    obtain ⟨hlt, hnot⟩ := h.stored.active hactive
    exact hfull.elim hnot fun heq => hlt.ne heq
  have hbegin : s.advance node parentFrameId (.dispatch ctx aborted) =
      { s with
        dispatch := some ⟨ctx, gateHandler, s.frames.map Frame.frameId, false, 0, [], .head⟩
        log := .dispatched :: s.log } := by
    simp [LoopRun.advance, executeLoopNode, haborted, hhandler]
  have hreplaying : Replaying node parentFrameId (s.advance node parentFrameId (.dispatch ctx aborted)) n
      ⟨ctx, gateHandler, s.frames.map Frame.frameId, false, 0, [], .head⟩ := by
    rw [hbegin]
    exact ⟨h.stored.frames.congr rfl rfl, hidle, hgated, rfl, rfl, rfl, roundsOf_dispatched,
      fun frame hmem _ _ _ => List.mem_map_of_mem hmem⟩
  obtain ⟨d, hreplayed, hround, hpassed⟩ := hreplaying.turns (k := n) (Nat.zero_add n)
  have hlog := hreplayed.overrun hround
  rw [← run_append] at hlog
  refine ⟨n + 2, fun hbounded => ?_⟩
  rw [run_cons, List.replicate_add] at hbounded
  have hbounded : RoundsBounded node (LoopRun.run node parentFrameId _
      (List.replicate n (.turn 0) ++ [.turn 0, .turn 0])).log := hbounded
  rw [hlog] at hbounded
  rcases hfull with hp | hn
  · obtain ⟨round, hmem⟩ := hpassed (by rw [hbegin]; simpa using hp)
    obtain ⟨later, earlier, hsplit⟩ := List.append_of_mem hmem
    exact hbounded.pass_ends (.ran n :: later) earlier round (by rw [hsplit]; rfl) n List.mem_cons_self
  · have hle := hbounded.bounded
    rw [roundsOf_ran, hreplayed.rounds, hround] at hle
    omega

end Steps

end LoopRun

open LoopRun in
/-- **The rounds of a loop are bounded if and only if its dispatches begin resumable.**  In a run all of whose
dispatches do, at most `maxRounds` rounds are run or replayed in each, a `pass` ends the loop, and the reported rounds
are the body outputs.  Whatever happens to a further dispatch, this remains so, if and only if it begins resumable.

**Proof sketch.** Storage has the frames of the rounds `0, …, n - 1` completed, and perhaps that of round `n` running,
which it only is below the bound and before a `pass`.  A dispatch replays the completed rounds and then asks for the
escalation gate; if there is none, it runs round `n`. -/
theorem roundsBounded_iff (node : WorkflowLoopNode) (parentFrameId : FrameId) {inputs : List Input}
    (h : EachResumable node parentFrameId inputs) :
    RoundsBounded node (empty.run node parentFrameId inputs).log ∧
      ∀ ctx aborted,
        (∀ later : List Input, (∀ input ∈ later, input.isDispatch = false) →
          RoundsBounded node (empty.run node parentFrameId (inputs ++ .dispatch ctx aborted :: later)).log) ↔
        (empty.run node parentFrameId inputs).Resumable node parentFrameId ctx aborted := by
  have hconsistent := consistent_run h
  refine ⟨hconsistent.choose_spec.bounded, fun ctx aborted => ⟨fun hlater => ?_, fun hresumable later hno => ?_⟩⟩
  · by_contra hnot
    obtain ⟨k, hk⟩ := not_roundsBounded_of_not_resumable hconsistent hnot
    refine hk ?_
    rw [← run_append]
    refine hlater _ fun input hmem => ?_
    rw [List.eq_of_mem_replicate hmem]
    rfl
  · rw [run_append, run_cons]
    have hbegun := hconsistent.advance (.dispatch ctx aborted) (by rintro _ _ ⟨⟩; exact hresumable)
    exact (hbegun.run hno).choose_spec.bounded

section Interrupted

open LoopRun

/-- A loop of at most `maxRounds` rounds whose gate has no input and no escalation. -/
def convergeLoop (maxRounds : ℕ) (h : 0 < maxRounds) : WorkflowLoopNode where
  id := "converge"
  maxRounds := maxRounds
  maxRounds_pos := h
  handler := "no-open-blockers"
  input := none
  config := none
  escalation := none

/-- A dispatch on a worker that exits when it parks, with a gate that always asks for another round. -/
def unconverged : LoopContext where
  handlers :=
    { evaluateSync := fun _ _ => .ok none
      compileSchema := fun _ => .ok fun _ => none
      runtimeLoopGates := fun _ => some fun _ _ _ _ => .ok .loop }
  suspensionStrategy := .exitAndRedispatch
  ownsContainer := true

/-- A dispatch that is interrupted after the frame of its first round is completed. -/
def firstRound : List Input :=
  [.dispatch unconverged false, .turn 0, .turn 0,
    .bodyEnded (.completed none) none ⟨.null, .null, .null, .empty, none, none, none, none⟩]

/-- The run of the first round begins with empty storage. -/
lemma eachResumable_firstRound : EachResumable (convergeLoop 2 two_pos) [] firstRound := by
  intro earlier later ctx aborted heq
  cases earlier with
  | nil => exact .inr (.inr (.inr ⟨not_passed_nil, by simp [LoopRun.run, empty, Completed]⟩))
  | cons input earlier =>
    have hmem : Input.dispatch ctx aborted ∈ firstRound.tail := by
      rw [heq]
      simp
    simp [firstRound] at hmem

/-- After the interruption, a loop of two rounds goes on in bounds. -/
theorem roundsBounded_iff_firstRound :
    RoundsBounded (convergeLoop 2 two_pos)
      (empty.run (convergeLoop 2 two_pos) [] (firstRound ++ [.dispatch unconverged false])).log := by
  refine ((roundsBounded_iff _ _ eachResumable_firstRound).2 unconverged false).mpr
    (.inr (.inr (.inr ⟨?_, ?_⟩))) [] (by simp)
  · have hlog : (empty.run (convergeLoop 2 two_pos) [] firstRound).log = [.ran 0, .dispatched] := rfl
    simp [hlog]
  · unfold Completed
    decide

/-- **The bound fails after an interruption.**  A loop of one round completes the frame of its round and is
interrupted before its gate.  The next dispatch replays the round and, as no gate is open, runs a second one. -/
theorem not_roundsBounded :
    ¬ ∀ (node : WorkflowLoopNode) (parentFrameId : FrameId) (inputs : List Input),
      RoundsBounded node (empty.run node parentFrameId inputs).log := by
  intro h
  have hbounded := (h (convergeLoop 1 one_pos) []
    (firstRound ++ [.dispatch unconverged false, .turn 0, .turn 0, .turn 0])).bounded
  revert hbounded
  decide

/-- **The completed rounds have no gap.**  They are the first `n`, and only the next round is running, in one frame,
below the bound and before a `pass`. -/
theorem rounds_consecutive (node : WorkflowLoopNode) (parentFrameId : FrameId) {inputs : List Input}
    (h : EachResumable node parentFrameId inputs) :
    let s := empty.run node parentFrameId inputs
    ∃ n ≤ node.maxRounds, RoundFrames node parentFrameId s n ∧
      (¬ s.Idle → n < node.maxRounds ∧ ¬ Passed s.log) := by
  obtain ⟨n, hn⟩ := consistent_run h
  exact ⟨n, hn.stored.le_maxRounds, hn.stored.frames, hn.stored.active⟩

/-- After the interruption the first round is completed, and the bound leaves room for another. -/
theorem rounds_consecutive_firstRound :
    let s := empty.run (convergeLoop 2 two_pos) [] firstRound
    RoundFrames (convergeLoop 2 two_pos) [] s 1 ∧ (¬ s.Idle → ¬ Passed s.log) := by
  obtain ⟨n, -, hframes, hactive⟩ := rounds_consecutive (convergeLoop 2 two_pos) [] eachResumable_firstRound
  have hzero : 0 < n := (hframes.completed 0).mp (by decide)
  have hone : ¬ 1 < n := fun h => absurd ((hframes.completed 1).mpr h) (by decide)
  obtain rfl : n = 1 := by omega
  exact ⟨hframes, fun h => (hactive h).2⟩

end Interrupted

end Makaio.Workflow

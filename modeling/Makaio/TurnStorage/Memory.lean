import Makaio.Foundations.Sorting
import Makaio.TurnStorage.Turn

set_option autoImplicit false

/-!
# The turn store in memory

`registerMemoryTurnStorage`: turns by their identifier, the identifiers of each session, the highest
number of each session, and the turns of the anchors.

## Main definitions

* `MemoryStore` — the maps; `MemoryStore.indexTurn` — `createTurnIndexer`.
* `MemoryStore.run` — one operation.

## Main results

* `MemoryStore.get?_indexTurn`, `mem_turnIds_indexTurn`, `maxTurnNumber_indexTurn` —
  the maps after a turn has been indexed.
-/

namespace Makaio.TurnStorage

open Foundations

/-- The maps of `registerMemoryTurnStorage`. -/
structure MemoryStore where
  turnsById : OrderedMap String Turn
  turnIdsBySession : OrderedMap String (List String)
  maxTurnNumberBySession : OrderedMap String ℕ
  turnIdsBySessionAnchor : OrderedMap String (OrderedMap String String)

namespace MemoryStore

/-- The store without turns. -/
def empty : MemoryStore := ⟨.empty, .empty, .empty, .empty⟩

variable (s : MemoryStore)
variable (sessionId : String)

/-- The identifiers of a session. -/
def turnIds : List String :=
  (s.turnIdsBySession.get? sessionId).getD []

/-- The highest number of a session that the store has seen. -/
def maxTurnNumber : ℕ :=
  (s.maxTurnNumberBySession.get? sessionId).getD 0

def anchoredTurnId (turnAnchorId : String) : Option String :=
  (s.turnIdsBySessionAnchor.get? sessionId).bind fun anchors => anchors.get? turnAnchorId

variable (turn : Turn)

/-- `createTurnIndexer`. -/
def indexTurn : MemoryStore :=
  let ids := s.turnIds turn.sessionId
  { s with
    turnsById := s.turnsById.set turn.turnId turn
    turnIdsBySession := s.turnIdsBySession.set turn.sessionId
      (if turn.turnId ∈ ids then ids else ids ++ [turn.turnId])
    maxTurnNumberBySession :=
      if turn.turnNumber > s.maxTurnNumber turn.sessionId then
        s.maxTurnNumberBySession.set turn.sessionId turn.turnNumber
      else s.maxTurnNumberBySession }

/-- The anchor of a session set to a turn. -/
def setAnchor (turnAnchorId turnId : String) : MemoryStore :=
  let sessionAnchors := (s.turnIdsBySessionAnchor.get? sessionId).getD .empty
  { s with
    turnIdsBySessionAnchor :=
      s.turnIdsBySessionAnchor.set sessionId (sessionAnchors.set turnAnchorId turnId) }

/-- `registerCreateHandler`. -/
def create (request : CreateRequest) (now : ℤ) (randomUUID : String) :
    Except Failure Result × MemoryStore :=
  let turn : Turn :=
    { turnId := request.turnId.getD randomUUID
      sessionId := request.sessionId
      turnNumber := s.maxTurnNumber request.sessionId + 1
      startedAt := now
      completedAt := none
      status := .active
      error := none
      usage := none
      initiator := request.initiator }
  (.ok (.turn turn), s.indexTurn turn)

/-- `registerIngestCompletedHandler`. -/
def ingestCompleted (request : IngestCompletedRequest) (randomUUID : String) :
    Except Failure Result × MemoryStore :=
  match s.anchoredTurnId request.sessionId request.turnAnchorId with
  | some existingTurnId =>
    match s.turnsById.get? existingTurnId with
    | none => (.error (.turnNotFoundForAnchor request.sessionId), s)
    | some existing =>
      -- a turn that was ingested before keeps its identity and number
      let updated : Turn :=
        { existing with
          completedAt := some request.completedAt
          status := request.status.toStatus
          error := request.error
          usage := request.usage }
      (.ok (.ingested updated false), s.indexTurn updated)
  | none =>
    let turn : Turn :=
      { turnId := randomUUID
        sessionId := request.sessionId
        turnNumber := s.maxTurnNumber request.sessionId + 1
        startedAt := request.startedAt
        completedAt := some request.completedAt
        status := request.status.toStatus
        error := request.error
        usage := request.usage
        initiator := request.initiator }
    (.ok (.ingested turn true),
      (s.indexTurn turn).setAnchor request.sessionId request.turnAnchorId turn.turnId)

/-- `registerCompleteHandler`. -/
def complete (request : CompleteRequest) (now : ℤ) :
    Except Failure Result × MemoryStore :=
  match s.turnsById.get? request.turnId with
  | none => (.error (.turnNotFound request.turnId), s)
  | some existing =>
    if request.expectedStatus.any fun status => existing.status ≠ status then
      (.ok (.completed existing false), s)
    else
      let updated : Turn :=
        if existing.status.isTerminal then
          { existing with usage := replacementUsage request.usage existing.usage }
        else
          { existing with
            completedAt := some now
            status := request.status.toStatus
            error := request.error
            usage := replacementUsage request.usage existing.usage }
      (.ok (.completed updated !existing.status.isTerminal), s.indexTurn updated)

/-- The turns of a session, in the order of their first insertion. -/
def turnsOf : List Turn :=
  (s.turnIds sessionId).filterMap s.turnsById.get?

/-- One operation: `registerMemoryTurnStorage`. -/
def run : Operation → Except Failure Result × MemoryStore
  | .create request now randomUUID => s.create request now randomUUID
  | .ingestCompleted request randomUUID => s.ingestCompleted request randomUUID
  | .complete request now => s.complete request now
  | .set turn => (.ok (.turn turn), s.indexTurn turn)
  | .get turnId => (.ok (.found (s.turnsById.get? turnId)), s)
  | .getBySession sessionId status limit =>
    let turns := (s.turnsOf sessionId).filter fun turn => status.all fun st => turn.status = st
    (.ok (.turns (limited limit (sortBy Turn.turnNumber turns))), s)
  | .getActive sessionId =>
    let active := (s.turnsOf sessionId).filter fun turn => turn.status = .active
    (.ok (.found (sortBy (fun turn => OrderDual.toDual turn.turnNumber) active).head?), s)
  | .listActive =>
    (.ok (.turns (sortBy Turn.startedAt (s.turnsById.values.filter fun turn => turn.status = .active))), s)

/-! ### Indexing a turn -/

/-- The turns after one has been indexed. -/
@[simp] lemma get?_indexTurn (turnId : String) :
    (s.indexTurn turn).turnsById.get? turnId =
      if turnId = turn.turnId then some turn else s.turnsById.get? turnId :=
  OrderedMap.get?_set _ _ _ _

/-- The identifiers of the session of an indexed turn. -/
lemma turnIds_indexTurn (sessionId : String) :
    (s.indexTurn turn).turnIds sessionId =
      if sessionId = turn.sessionId then
        (if turn.turnId ∈ s.turnIds turn.sessionId then s.turnIds turn.sessionId
        else s.turnIds turn.sessionId ++ [turn.turnId])
      else s.turnIds sessionId := by
  have h : (s.indexTurn turn).turnIdsBySession.get? sessionId = _ := OrderedMap.get?_set _ _ _ _
  rw [turnIds, h]
  split_ifs <;> rfl

/-- The identifiers after a turn has been indexed. -/
lemma mem_turnIds_indexTurn {s : MemoryStore} {turn : Turn} {sessionId turnId : String} :
    turnId ∈ (s.indexTurn turn).turnIds sessionId ↔
      turnId ∈ s.turnIds sessionId ∨ (sessionId = turn.sessionId ∧ turnId = turn.turnId) := by
  rw [turnIds_indexTurn]
  split_ifs with hsession hmem
  · subst hsession
    refine ⟨.inl, ?_⟩
    rintro (h | ⟨-, rfl⟩)
    · exact h
    · exact hmem
  · subst hsession
    simp
  · simp [hsession]

/-- Indexing a turn lists no identifier twice. -/
lemma nodup_turnIds_indexTurn {s : MemoryStore} {turn : Turn} {sessionId : String}
    (h : (s.turnIds sessionId).Nodup) : ((s.indexTurn turn).turnIds sessionId).Nodup := by
  rw [turnIds_indexTurn]
  split_ifs with hsession hmem
  · exact hsession ▸ h
  · refine List.nodup_append.mpr ⟨hsession ▸ h, by simp, fun a ha b hb hab => hmem ?_⟩
    rw [← List.mem_singleton.mp hb, ← hab]
    exact ha
  · exact h

/-- The highest numbers after a turn has been indexed. -/
lemma maxTurnNumber_indexTurn (sessionId : String) :
    (s.indexTurn turn).maxTurnNumber sessionId =
      if sessionId = turn.sessionId then max (s.maxTurnNumber turn.sessionId) turn.turnNumber
      else s.maxTurnNumber sessionId := by
  have hmax : (s.indexTurn turn).maxTurnNumberBySession =
      if turn.turnNumber > s.maxTurnNumber turn.sessionId then
        s.maxTurnNumberBySession.set turn.sessionId turn.turnNumber
      else s.maxTurnNumberBySession := rfl
  rw [maxTurnNumber, hmax]
  split_ifs with hgt hsession hsession
  · rw [OrderedMap.get?_set, if_pos hsession, max_eq_right hgt.le]
    rfl
  · rw [OrderedMap.get?_set, if_neg hsession]
    rfl
  · rw [max_eq_left (Nat.le_of_not_gt hgt), hsession]
    rfl
  · rfl

/-- Indexing a turn leaves the anchors. -/
@[simp] lemma anchoredTurnId_indexTurn (sessionId anchor : String) :
    (s.indexTurn turn).anchoredTurnId sessionId anchor = s.anchoredTurnId sessionId anchor := rfl

/-- The anchors after one has been set. -/
@[simp] lemma anchoredTurnId_setAnchor (anchor turnId sessionId' anchor' : String) :
    (s.setAnchor sessionId anchor turnId).anchoredTurnId sessionId' anchor' =
      if sessionId' = sessionId ∧ anchor' = anchor then some turnId
      else s.anchoredTurnId sessionId' anchor' := by
  have h : (s.setAnchor sessionId anchor turnId).turnIdsBySessionAnchor.get? sessionId' = _ :=
    OrderedMap.get?_set _ _ _ _
  rw [anchoredTurnId, h]
  by_cases hs : sessionId' = sessionId
  · rw [if_pos hs, Option.bind_some, OrderedMap.get?_set, anchoredTurnId, hs]
    by_cases ha : anchor' = anchor
    · rw [if_pos ha, if_pos ⟨rfl, ha⟩]
    · rw [if_neg ha, if_neg fun h => ha h.2]
      cases s.turnIdsBySessionAnchor.get? sessionId <;> rfl
  · rw [if_neg hs, if_neg fun h => hs h.1]
    rfl

end MemoryStore

end Makaio.TurnStorage

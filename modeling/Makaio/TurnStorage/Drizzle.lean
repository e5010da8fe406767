import Makaio.Foundations.Sorting
import Makaio.Foundations.Table
import Makaio.TurnStorage.Turn

set_option autoImplicit false

/-!
# The turn store in a database

`registerDrizzleTurnStorage`: the `turns` table with its unique indexes, and the statements of the
handlers.  Which of several rows with one sort key comes first, which sessions exist and whether the
engine lets counter assignments race is left to the database.

## Main definitions

* `TurnRow`, `TurnTable` — the table.
* `Database` — the database a store runs on.
* `Database.run` — one operation.
-/

namespace Makaio.TurnStorage

open Foundations

/-- A row of the `turns` table. -/
structure TurnRow where
  turnId : String
  sessionId : String
  turnNumber : ℕ
  startedAt : ℤ
  completedAt : Option ℤ
  status : TurnStatus
  error : Option String
  usage : Option (List Char)
  initiator : Option (List Char)
  turnAnchorId : Option String
  deriving DecidableEq

/-- The unique indexes of the table. -/
inductive TurnIndex
  | primaryKey
  | sessionNumber
  | sessionAnchor
  deriving DecidableEq

/-- What the rows of an index must differ in. -/
def TurnIndex.index : TurnIndex → UniqueIndex TurnRow
  | .primaryKey => .on fun row => some row.turnId
  | .sessionNumber => .on fun row => some (row.sessionId, row.turnNumber)
  | .sessionAnchor => .on fun row => row.turnAnchorId.map fun anchor => (row.sessionId, anchor)

/-- The indexes in the order in which they are checked. -/
def turnIndexes : List TurnIndex := [.primaryKey, .sessionNumber, .sessionAnchor]

/-- The `turns` table. -/
abbrev TurnTable := Table (turnIndexes.map TurnIndex.index)

/-- How a statement fails. -/
inductive DatabaseError
  | foreignKey
  | unique (index : TurnIndex)
  deriving DecidableEq

/-- The database a store runs on. -/
structure Database where
  /-- How numbers are written into JSON columns. -/
  format : NumberFormat
  /-- The sessions that exist: `session_id` refers to them. -/
  hasSession : String → Bool
  /-- `engine.capabilities.maxCounterAssignmentRaces`. -/
  maxCounterAssignmentRaces : Bool
  /-- The order in which rows with one sort key are returned. -/
  scan : List TurnRow → List TurnRow
  scan_perm : ∀ rows, (scan rows).Perm rows

/-- `TURN_CREATE_MAX_ATTEMPTS`. -/
def turnCreateMaxAttempts : ℕ := 32

/-- `COALESCE(MAX(turn_number), 0)` over the rows of a session. -/
def TurnTable.maxTurnNumber (t : TurnTable) (sessionId : String) : ℕ :=
  ((t.rows.filter fun row => row.sessionId = sessionId).map TurnRow.turnNumber).foldr max 0

/-- The row of a turn. -/
def TurnTable.byId (t : TurnTable) (turnId : String) : Option TurnRow :=
  t.rows.find? fun row => row.turnId = turnId

/-- The row of an anchor. -/
def TurnTable.byAnchor (t : TurnTable) (sessionId turnAnchorId : String) : Option TurnRow :=
  t.rows.find? fun row => row.sessionId = sessionId ∧ row.turnAnchorId = some turnAnchorId

variable {row a b : TurnRow}

namespace Database

variable (db : Database)

def rowToTurn (row : TurnRow) : Turn where
  turnId := row.turnId
  sessionId := row.sessionId
  turnNumber := row.turnNumber
  startedAt := row.startedAt
  completedAt := row.completedAt
  status := row.status
  error := row.error
  usage := parseUsage db.format row.usage
  initiator := parseInitiator db.format row.initiator

/-- The rows with a condition, in the order of a key. -/
def select {κ : Type} [LinearOrder κ] (t : TurnTable) (p : TurnRow → Bool) (key : TurnRow → κ) :
    List TurnRow :=
  sortBy key (db.scan (t.rows.filter p))

/-- The first index that a row violates. -/
def violated (t : TurnTable) (row : TurnRow) : Option TurnIndex :=
  turnIndexes.find? fun i => t.violates i.index row

/-- A row that violates no index clashes with no row. -/
lemma violates_of_violated {t : TurnTable} (h : violated t row = none) :
    ∀ i ∈ turnIndexes.map TurnIndex.index, t.violates i row = false := by
  rw [violated, List.find?_eq_none] at h
  intro i hi
  obtain ⟨index, hindex, rfl⟩ := List.mem_map.mp hi
  exact Bool.eq_false_iff.mpr (h index hindex)

/-- The index that a row violates first is one that it violates. -/
lemma violates_of_violated_eq_some {t : TurnTable} {i : TurnIndex} (h : violated t row = some i) :
    t.violates i.index row = true := by
  have hsome := List.find?_some h
  exact hsome

/-- `INSERT INTO turns` of a row. -/
def insert (t : TurnTable) (row : TurnRow) : Except DatabaseError TurnTable :=
  if db.hasSession row.sessionId then
    match h : violated t row with
    | some i => .error (.unique i)
    | none => .ok (t.insert row (violates_of_violated h))
  else .error .foreignKey

/-- The row that `turn.create` inserts, under the number it has computed. -/
def createRow (request : CreateRequest) (turnId : String) (now : ℤ) (turnNumber : ℕ) : TurnRow where
  turnId := turnId
  sessionId := request.sessionId
  turnNumber := turnNumber
  startedAt := now
  completedAt := none
  status := .active
  error := none
  usage := none
  initiator := serializeInitiator db.format request.initiator
  turnAnchorId := none

/-- The row that `turn.ingestCompleted` inserts, under the number it has computed. -/
def ingestRow (request : IngestCompletedRequest) (candidateId : String) (turnNumber : ℕ) : TurnRow where
  turnId := candidateId
  sessionId := request.sessionId
  turnNumber := turnNumber
  startedAt := request.startedAt
  completedAt := some request.completedAt
  status := request.status.toStatus
  error := request.error
  usage := request.usage.map (stringifyUsage db.format)
  initiator := serializeInitiator db.format request.initiator
  turnAnchorId := some request.turnAnchorId

/-- `DO UPDATE SET` of `turn.ingestCompleted`: the columns of the completion, from the row that could
not be inserted. -/
def completionFields (excluded existing : TurnRow) : TurnRow :=
  { existing with
    completedAt := excluded.completedAt
    status := excluded.status
    error := excluded.error
    usage := excluded.usage }

/-- `INSERT INTO turns` of a row with `ON CONFLICT(session_id, turn_anchor_id) DO UPDATE SET`. -/
def upsertAnchored (t : TurnTable) (row : TurnRow) : Except DatabaseError TurnTable :=
  if t.violates TurnIndex.sessionAnchor.index row then
    match t.update? (TurnIndex.sessionAnchor.index.clash row) (completionFields row) with
    | some t' => .ok t'
    | none => .error (.unique .sessionAnchor)
  else db.insert t row

/-- `runTurnNumberInsertWithRetry` with a number of attempts left: a violation of the number index is
tried again where assignments race. -/
def insertWithRetry (statement : TurnTable → Except DatabaseError TurnTable) (t : TurnTable) :
    ℕ → Except DatabaseError TurnTable
  | 0 => statement t
  | attempts + 1 =>
    match statement t with
    | .ok t' => .ok t'
    | .error e =>
      if db.maxCounterAssignmentRaces ∧ e = .unique .sessionNumber then
        insertWithRetry statement t attempts
      else .error e

/-- The statement of `turn.create`: an insertion under the number after the maximum. -/
def createStatement (request : CreateRequest) (turnId : String) (now : ℤ) (t : TurnTable) :
    Except DatabaseError TurnTable :=
  db.insert t (db.createRow request turnId now (t.maxTurnNumber request.sessionId + 1))

/-- The statement of `turn.ingestCompleted`: an insertion under the number after the maximum, or an
update of the row of the anchor. -/
def ingestStatement (request : IngestCompletedRequest) (candidateId : String) (t : TurnTable) :
    Except DatabaseError TurnTable :=
  db.upsertAnchored t (db.ingestRow request candidateId (t.maxTurnNumber request.sessionId + 1))

/-- `registerCreateHandler`. -/
def create (t : TurnTable) (request : CreateRequest) (now : ℤ) (randomUUID : String) :
    Except Failure Result × TurnTable :=
  let id := request.turnId.getD randomUUID
  match db.insertWithRetry (db.createStatement request id now) t (turnCreateMaxAttempts - 1) with
  | .error _ => (.error .constraintViolation, t)
  | .ok t' =>
    match t'.byId id with
    | none => (.error (.turnNotFound id), t')
    | some inserted =>
      (.ok (.turn
        { turnId := id
          sessionId := request.sessionId
          turnNumber := inserted.turnNumber
          startedAt := now
          completedAt := none
          status := .active
          error := none
          usage := none
          initiator := request.initiator }), t')

/-- `registerIngestCompletedHandler`. -/
def ingestCompleted (t : TurnTable) (request : IngestCompletedRequest) (randomUUID : String) :
    Except Failure Result × TurnTable :=
  match db.insertWithRetry (db.ingestStatement request randomUUID) t (turnCreateMaxAttempts - 1) with
  | .error _ => (.error .constraintViolation, t)
  | .ok t' =>
    match t'.byAnchor request.sessionId request.turnAnchorId with
    | none => (.error (.turnNotFoundForAnchor request.sessionId), t')
    | some row => (.ok (.ingested (db.rowToTurn row) (row.turnId = randomUUID)), t')

/-- The usage column after a completion: `null` clears it and `undefined` keeps it. -/
def usageColumn (usage : Option (Option TurnUsage)) (existing : Option (List Char)) :
    Option (List Char) :=
  match usage with
  | none => existing
  | some usage => usage.map (stringifyUsage db.format)

/-- A statement that updates the rows with a condition; a violated index would be an error. -/
def update (t : TurnTable) (p : TurnRow → Bool) (f : TurnRow → TurnRow) : Except Failure TurnTable :=
  match t.update? p f with
  | some t' => .ok t'
  | none => .error .constraintViolation

variable (request : CompleteRequest)

/-- The condition of the transition in `turn.complete`. -/
def transitionWhere (row : TurnRow) : Bool :=
  row.turnId = request.turnId ∧ (request.expectedStatus.all fun status => row.status = status) ∧
    row.status.isTerminal = false

/-- The columns that the transition in `turn.complete` writes. -/
def transitionFields (now : ℤ) (row : TurnRow) : TurnRow :=
  { row with
    completedAt := some now
    status := request.status.toStatus
    error := request.error
    usage := db.usageColumn request.usage row.usage }

/-- The row of a turn with a terminal status, of which `turn.complete` replaces the usage. -/
def terminalWhere (row : TurnRow) : Bool :=
  row.turnId = request.turnId ∧ row.status.isTerminal = true

/-- The usage that `turn.complete` replaces. -/
def usageField (row : TurnRow) : TurnRow :=
  { row with usage := db.usageColumn request.usage row.usage }

/-- `registerCompleteHandler`. -/
def complete (t : TurnTable) (request : CompleteRequest) (now : ℤ) :
    Except Failure Result × TurnTable :=
  match t.rows.find? (transitionWhere request) with
  | some row =>
    match update t (transitionWhere request) (db.transitionFields request now) with
    | .error e => (.error e, t)
    | .ok t' => (.ok (.completed (db.rowToTurn (db.transitionFields request now row)) true), t')
  | none =>
    match t.byId request.turnId with
    | none => (.error (.turnNotFound request.turnId), t)
    | some existingRow =>
      if request.expectedStatus.isSome then (.ok (.completed (db.rowToTurn existingRow) false), t)
      else if existingRow.status.isTerminal = false ∨ request.usage.isNone then
        (.ok (.completed (db.rowToTurn existingRow) false), t)
      else
        match update t (terminalWhere request) (db.usageField request) with
        | .error e => (.error e, t)
        | .ok t' => (.ok (.completed (db.rowToTurn (db.usageField request existingRow)) false), t')

/-- The columns that `turn.set` writes, over an existing row. -/
def setColumns (turn : Turn) (row : TurnRow) : TurnRow :=
  { row with
    turnId := turn.turnId
    sessionId := turn.sessionId
    turnNumber := turn.turnNumber
    startedAt := turn.startedAt
    completedAt := turn.completedAt
    status := turn.status
    error := turn.error
    usage := turn.usage.map (stringifyUsage db.format)
    initiator := serializeInitiator db.format turn.initiator }

/-- The row that `turn.set` inserts. -/
def setRow (turn : Turn) : TurnRow where
  turnId := turn.turnId
  sessionId := turn.sessionId
  turnNumber := turn.turnNumber
  startedAt := turn.startedAt
  completedAt := turn.completedAt
  status := turn.status
  error := turn.error
  usage := turn.usage.map (stringifyUsage db.format)
  initiator := serializeInitiator db.format turn.initiator
  turnAnchorId := none

/-- The statement of `turn.set`: `onConflictDoUpdate` on the turn. -/
def upsertTurn (t : TurnTable) (turn : Turn) : Except Failure TurnTable :=
  match t.byId turn.turnId with
  | some _ =>
    if db.hasSession turn.sessionId then
      update t (fun row => row.turnId = turn.turnId) (db.setColumns turn)
    else .error .constraintViolation
  | none => match db.insert t (db.setRow turn) with
    | .ok t' => .ok t'
    | .error _ => .error .constraintViolation

/-- `registerSetHandler`. -/
def set (t : TurnTable) (turn : Turn) : Except Failure Result × TurnTable :=
  match db.upsertTurn t turn with
  | .error e => (.error e, t)
  | .ok t' => (.ok (.turn turn), t')

/-- One operation: `registerDrizzleTurnStorage`. -/
def run (t : TurnTable) : Operation → Except Failure Result × TurnTable
  | .create request now randomUUID => db.create t request now randomUUID
  | .ingestCompleted request randomUUID => db.ingestCompleted t request randomUUID
  | .complete request now => db.complete t request now
  | .set turn => db.set t turn
  | .get turnId => (.ok (.found ((t.byId turnId).map db.rowToTurn)), t)
  | .getBySession sessionId status limit =>
    let rows := db.select t
      (fun row => row.sessionId = sessionId ∧ status.all fun st => row.status = st) TurnRow.turnNumber
    (.ok (.turns ((limited limit rows).map db.rowToTurn)), t)
  | .getActive sessionId =>
    let rows := db.select t (fun row => row.sessionId = sessionId ∧ row.status = .active)
      fun row => OrderDual.toDual row.turnNumber
    (.ok (.found (rows.head?.map db.rowToTurn)), t)
  | .listActive =>
    let rows := db.select t (fun row => row.status = .active) TurnRow.startedAt
    (.ok (.turns (rows.map db.rowToTurn)), t)

end Database

/-! ### Rows -/

variable {db : Database} {t t' : TurnTable}

/-- Rows clash in the primary key when they are of one turn. -/
@[simp] lemma clash_primaryKey :
    TurnIndex.primaryKey.index.clash a b = true ↔ a.turnId = b.turnId := by
  rw [TurnIndex.index, UniqueIndex.clash_on]
  simp [eq_comm]

/-- Rows clash in the number index when they have one number in one session. -/
@[simp] lemma clash_sessionNumber :
    TurnIndex.sessionNumber.index.clash a b = true ↔
      a.sessionId = b.sessionId ∧ a.turnNumber = b.turnNumber := by
  rw [TurnIndex.index, UniqueIndex.clash_on]
  simp [eq_comm]

/-- Rows clash in the anchor index when they have one anchor in one session. -/
@[simp] lemma clash_sessionAnchor :
    TurnIndex.sessionAnchor.index.clash a b = true ↔
      a.sessionId = b.sessionId ∧
        ∃ anchor, a.turnAnchorId = some anchor ∧ b.turnAnchorId = some anchor := by
  rw [TurnIndex.index, UniqueIndex.clash_on]
  constructor
  · rintro ⟨k, ha, hb⟩
    obtain ⟨anchor, ha', rfl⟩ := Option.map_eq_some_iff.mp ha
    obtain ⟨anchor', hb', heq⟩ := Option.map_eq_some_iff.mp hb
    obtain ⟨hsession, rfl⟩ := Prod.mk.inj heq
    exact ⟨hsession.symm, anchor', ha', hb'⟩
  · rintro ⟨hsession, anchor, ha, hb⟩
    exact ⟨(a.sessionId, anchor), by rw [ha]; rfl, by rw [hb, hsession]; rfl⟩

namespace TurnTable

/-- Rows of one turn are one. -/
lemma eq_of_turnId (ha : a ∈ t.rows) (hb : b ∈ t.rows) (h : a.turnId = b.turnId) : a = b :=
  t.eq_of_clash (i := TurnIndex.primaryKey.index) (by simp [turnIndexes]) ha hb
    (clash_primaryKey.mpr h)

/-- Rows of one number of a session are one. -/
lemma eq_of_turnNumber (ha : a ∈ t.rows) (hb : b ∈ t.rows) (hsession : a.sessionId = b.sessionId)
    (hnumber : a.turnNumber = b.turnNumber) : a = b :=
  t.eq_of_clash (i := TurnIndex.sessionNumber.index) (by simp [turnIndexes]) ha hb
    (clash_sessionNumber.mpr ⟨hsession, hnumber⟩)

variable {anchor turnId sessionId : String}

/-- Rows of one anchor of a session are one. -/
lemma eq_of_turnAnchorId (ha : a ∈ t.rows) (hb : b ∈ t.rows) (hsession : a.sessionId = b.sessionId)
    (hanchor : a.turnAnchorId = some anchor) (hanchor' : b.turnAnchorId = some anchor) : a = b :=
  t.eq_of_clash (i := TurnIndex.sessionAnchor.index) (by simp [turnIndexes]) ha hb
    (clash_sessionAnchor.mpr ⟨hsession, anchor, hanchor, hanchor'⟩)

/-- No row is listed twice. -/
lemma nodup_rows (t : TurnTable) : t.rows.Nodup :=
  t.nodup (i := TurnIndex.primaryKey.index) (by simp [turnIndexes]) fun _ => clash_primaryKey.mpr rfl

/-- The row of a turn is the row with its identifier. -/
lemma byId_eq_some : t.byId turnId = some row ↔ row ∈ t.rows ∧ row.turnId = turnId := by
  refine (Table.find?_eq_some fun a ha b hb hpa hpb => ?_).trans (by rw [decide_eq_true_eq])
  exact eq_of_turnId ha hb ((of_decide_eq_true hpa).trans (of_decide_eq_true hpb).symm)

/-- A turn without row. -/
lemma byId_eq_none : t.byId turnId = none ↔ ∀ row ∈ t.rows, row.turnId ≠ turnId := by
  simp [byId]

/-- The row of an anchor is the row with it. -/
lemma byAnchor_eq_some :
    t.byAnchor sessionId anchor = some row ↔
      row ∈ t.rows ∧ row.sessionId = sessionId ∧ row.turnAnchorId = some anchor := by
  refine (Table.find?_eq_some fun a ha b hb hpa hpb => ?_).trans (by rw [decide_eq_true_eq])
  have hka := of_decide_eq_true hpa
  have hkb := of_decide_eq_true hpb
  exact eq_of_turnAnchorId ha hb (hka.1.trans hkb.1.symm) hka.2 hkb.2

/-- The maximum bounds the numbers of its session. -/
lemma le_maxTurnNumber (h : row ∈ t.rows) : row.turnNumber ≤ t.maxTurnNumber row.sessionId := by
  have hmem : row.turnNumber ∈
      (t.rows.filter fun r => r.sessionId = row.sessionId).map TurnRow.turnNumber :=
    List.mem_map.mpr ⟨row, List.mem_filter.mpr ⟨h, decide_eq_true rfl⟩, rfl⟩
  exact List.le_max_of_le hmem le_rfl

/-- The maximum is the least bound. -/
lemma maxTurnNumber_le {n : ℕ} (h : ∀ row ∈ t.rows, row.sessionId = sessionId → row.turnNumber ≤ n) :
    t.maxTurnNumber sessionId ≤ n := by
  refine List.max_le_of_forall_le _ _ fun k hk => ?_
  obtain ⟨row, hrow, rfl⟩ := List.mem_map.mp hk
  obtain ⟨hmem, hsession⟩ := List.mem_filter.mp hrow
  exact h row hmem (of_decide_eq_true hsession)

end TurnTable

/-! ### Statements -/

namespace Database

/-- A row that clashes in no index. -/
lemma violated_eq_none :
    violated t row = none ↔ ∀ r ∈ t.rows, r.turnId ≠ row.turnId ∧
      (r.sessionId = row.sessionId → r.turnNumber ≠ row.turnNumber) ∧
      (∀ anchor, row.turnAnchorId = some anchor →
        r.sessionId = row.sessionId → r.turnAnchorId ≠ some anchor) := by
  rw [violated, List.find?_eq_none]
  constructor
  · intro h r hr
    have hclash : ∀ i : TurnIndex, i.index.clash r row ≠ true := fun i hi =>
      h i (by cases i <;> simp [turnIndexes]) (Table.violates_iff.mpr ⟨r, hr, hi⟩)
    exact ⟨fun hid => hclash .primaryKey (clash_primaryKey.mpr hid),
      fun hs hn => hclash .sessionNumber (clash_sessionNumber.mpr ⟨hs, hn⟩),
      fun anchor ha hs hra => hclash .sessionAnchor (clash_sessionAnchor.mpr ⟨hs, anchor, hra, ha⟩)⟩
  · intro h i _ hviolates
    obtain ⟨r, hr, hclash⟩ := Table.violates_iff.mp hviolates
    obtain ⟨hid, hnumber, hanchor⟩ := h r hr
    cases i with
    | primaryKey => exact hid (clash_primaryKey.mp hclash)
    | sessionNumber =>
      obtain ⟨hs, hn⟩ := clash_sessionNumber.mp hclash
      exact hnumber hs hn
    | sessionAnchor =>
      obtain ⟨hs, anchor, hra, ha⟩ := clash_sessionAnchor.mp hclash
      exact hanchor anchor ha hs hra

/-- An insertion of a row that clashes in no index adds it. -/
lemma insert_of_unviolated (hsession : db.hasSession row.sessionId = true) (h : violated t row = none) :
    ∃ t', db.insert t row = .ok t' ∧ ∀ r, r ∈ t'.rows ↔ r ∈ t.rows ∨ r = row := by
  refine ⟨t.insert row (violates_of_violated h), ?_, fun r => Table.mem_insert⟩
  rw [insert, if_pos hsession]
  split
  · rename_i i hi
    rw [h] at hi
    cases hi
  · rfl

/-- What an insertion that succeeds has done. -/
lemma mem_of_insert (h : db.insert t row = .ok t') :
    violated t row = none ∧ ∀ r, r ∈ t'.rows ↔ r ∈ t.rows ∨ r = row := by
  rw [insert] at h
  split_ifs at h with hsession
  split at h
  · cases h
  · rename_i hviolated
    cases h
    exact ⟨hviolated, fun r => Table.mem_insert⟩

/-- A retry loop whose first attempt does not violate the number index runs its statement once. -/
lemma insertWithRetry_of_ne {statement : TurnTable → Except DatabaseError TurnTable}
    (h : statement t ≠ .error (.unique .sessionNumber)) (attempts : ℕ) :
    db.insertWithRetry statement t attempts = statement t := by
  cases attempts with
  | zero => rfl
  | succ attempts =>
    rw [insertWithRetry]
    cases hs : statement t with
    | ok t' => rfl
    | error e =>
      dsimp only
      rw [if_neg]
      rintro ⟨-, rfl⟩
      exact h hs

end Database

end Makaio.TurnStorage

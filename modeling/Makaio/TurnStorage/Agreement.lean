import Makaio.TurnStorage.Drizzle
import Makaio.TurnStorage.Memory

set_option autoImplicit false

/-!
# The two turn stores side by side

What the maps of the store in memory and the rows of the table have in common, and that an operation
keeps it and is answered alike by both, as long as it does not meet one of the places in which the
handlers differ.

## Main definitions

* `Agree` — the maps hold the turns of the rows.
* `Alike` — the operations that both stores treat alike.

## Main results

* `Agree.run` — such an operation is answered alike and keeps the agreement.
-/

namespace Makaio.TurnStorage

open Foundations

/-- The maps hold the turns of the rows. -/
structure AgreeTurns (db : Database) (m : MemoryStore) (t : TurnTable) : Prop where
  turns : ∀ turnId turn, m.turnsById.get? turnId = some turn ↔
    ∃ row ∈ t.rows, row.turnId = turnId ∧ db.rowToTurn row = turn
  ids : ∀ sessionId turnId, turnId ∈ m.turnIds sessionId ↔
    ∃ row ∈ t.rows, row.turnId = turnId ∧ row.sessionId = sessionId
  nodup : ∀ sessionId, (m.turnIds sessionId).Nodup
  maxTurnNumber : ∀ sessionId, m.maxTurnNumber sessionId = t.maxTurnNumber sessionId

/-- The maps hold the turns and the anchors of the rows. -/
structure Agree (db : Database) (m : MemoryStore) (t : TurnTable) : Prop extends AgreeTurns db m t where
  anchors : ∀ sessionId anchor turnId, m.anchoredTurnId sessionId anchor = some turnId ↔
    ∃ row ∈ t.rows, row.sessionId = sessionId ∧ row.turnAnchorId = some anchor ∧ row.turnId = turnId

/-- The operations that both stores treat alike: not those of a session that does not exist, a new turn
under an identifier in use, a completion that expects the terminal status the turn has and brings a
usage, a restored turn that takes the number of another turn, moves to another session or lowers the
highest number of its session, and a list of active turns of which two started at one time. -/
def Alike (db : Database) (t : TurnTable) : Operation → Prop
  | .create request _ randomUUID =>
    db.hasSession request.sessionId = true ∧
      ∀ row ∈ t.rows, row.turnId ≠ request.turnId.getD randomUUID
  | .ingestCompleted request randomUUID =>
    db.hasSession request.sessionId = true ∧ ∀ row ∈ t.rows, row.turnId ≠ randomUUID
  | .complete request _ =>
    ∀ row ∈ t.rows, row.turnId = request.turnId → row.status.isTerminal = true →
      request.expectedStatus = some row.status → request.usage = none
  | .set turn =>
    db.hasSession turn.sessionId = true ∧
      (∀ row ∈ t.rows, row.turnId ≠ turn.turnId → row.sessionId = turn.sessionId →
        row.turnNumber ≠ turn.turnNumber) ∧
      ∀ row ∈ t.rows, row.turnId = turn.turnId → row.sessionId = turn.sessionId ∧
        (row.turnNumber ≤ turn.turnNumber ∨ ∃ other ∈ t.rows, other.turnId ≠ turn.turnId ∧
          other.sessionId = turn.sessionId ∧ row.turnNumber ≤ other.turnNumber)
  | .listActive =>
    ∀ a ∈ t.rows, ∀ b ∈ t.rows, a.status = .active → b.status = .active →
      a.startedAt = b.startedAt → a = b
  | .get _ => True
  | .getBySession _ _ _ => True
  | .getActive _ => True

instance (db : Database) (t : TurnTable) : DecidablePred (Alike db t)
  | .create _ _ _ => inferInstanceAs (Decidable (_ ∧ _))
  | .ingestCompleted _ _ => inferInstanceAs (Decidable (_ ∧ _))
  | .complete _ _ => inferInstanceAs (Decidable (∀ row ∈ t.rows, _))
  | .set _ => inferInstanceAs (Decidable (_ ∧ (∀ row ∈ t.rows, _) ∧ ∀ row ∈ t.rows, _))
  | .listActive => inferInstanceAs (Decidable (∀ a ∈ t.rows, ∀ b ∈ t.rows, _))
  | .get _ => .isTrue trivial
  | .getBySession _ _ _ => .isTrue trivial
  | .getActive _ => .isTrue trivial

/-- A table with the row of one turn put in, in place of an earlier one. -/
def Put (t t' : TurnTable) (row : TurnRow) : Prop :=
  ∀ r, r ∈ t'.rows ↔ (r ∈ t.rows ∧ r.turnId ≠ row.turnId) ∨ r = row

variable {db : Database} {m : MemoryStore} {t t' : TurnTable} {row : TurnRow}

/-! ### Putting a row -/

/-- A row that stands in the table is put in without effect. -/
lemma Put.self (h : row ∈ t.rows) : Put t t row := by
  intro r
  constructor
  · intro hr
    by_cases hid : r.turnId = row.turnId
    · exact .inr (TurnTable.eq_of_turnId hr h hid)
    · exact .inl ⟨hr, hid⟩
  · rintro (⟨hr, -⟩ | rfl)
    · exact hr
    · exact h

/-- The insertion of a new turn puts its row in. -/
lemma Put.of_insert (hnew : ∀ r ∈ t.rows, r.turnId ≠ row.turnId)
    (h : ∀ r, r ∈ t'.rows ↔ r ∈ t.rows ∨ r = row) : Put t t' row := by
  intro r
  rw [h]
  constructor
  · rintro (hr | hr)
    · exact .inl ⟨hr, hnew r hr⟩
    · exact .inr hr
  · rintro (⟨hr, -⟩ | hr)
    · exact .inl hr
    · exact .inr hr

variable {old : TurnRow} {p : TurnRow → Bool} {now : ℤ} {request : CompleteRequest}
variable {f : TurnRow → TurnRow} {randomUUID : String} {turn : Turn}

/-- An update of one row puts in what it becomes. -/
lemma Put.of_update (hold : old ∈ t.rows) (hp : ∀ r ∈ t.rows, p r = true ↔ r = old)
    (hf : (f old).turnId = old.turnId) (h : t.update? p f = some t') : Put t t' (f old) := by
  intro r
  rw [Table.mem_update? h]
  constructor
  · rintro ⟨r₀, hr₀, ⟨hpr, rfl⟩ | ⟨hpr, rfl⟩⟩
    · exact .inr (congrArg f ((hp r₀ hr₀).mp hpr))
    · refine .inl ⟨hr₀, fun hid => ?_⟩
      have hsame := TurnTable.eq_of_turnId hr₀ hold (hid.trans hf)
      rw [(hp r hr₀).mpr hsame] at hpr
      cases hpr
  · rintro (⟨hr, hid⟩ | rfl)
    · refine ⟨r, hr, .inr ⟨?_, rfl⟩⟩
      rw [← Bool.not_eq_true, hp r hr]
      rintro rfl
      exact hid hf.symm
    · exact ⟨old, hold, .inl ⟨(hp old hold).mpr rfl, rfl⟩⟩

/-- Putting in a row whose number is not below that of the row before does not lower the maximum. -/
lemma Put.max_le (hput : Put t t' row) (hold : ∀ old ∈ t.rows, old.turnId = row.turnId →
    old.sessionId = row.sessionId → old.turnNumber ≤ row.turnNumber) :
    t.maxTurnNumber row.sessionId ≤ t'.maxTurnNumber row.sessionId := by
  refine TurnTable.maxTurnNumber_le fun r hr hs => ?_
  by_cases hid : r.turnId = row.turnId
  · exact (hold r hr hid hs).trans (TurnTable.le_maxTurnNumber ((hput row).mpr (.inr rfl)))
  · exact hs ▸ TurnTable.le_maxTurnNumber ((hput r).mpr (.inl ⟨hr, hid⟩))

/-- The row of a turn can be updated when what it becomes clashes with no other row. -/
lemma exists_put_of_update (hold : old ∈ t.rows) (hp : ∀ r ∈ t.rows, p r = true ↔ r = old)
    (hf : (f old).turnId = old.turnId)
    (hnumber : ∀ r ∈ t.rows, r ≠ old → (f old).sessionId = r.sessionId → (f old).turnNumber ≠ r.turnNumber)
    (hsession : (f old).sessionId = old.sessionId) (hanchor : (f old).turnAnchorId = old.turnAnchorId) :
    ∃ t' : TurnTable, t.update? p f = some t' ∧ Put t t' (f old) := by
  have hexists : ∃ t', t.update? p f = some t' := by
    refine (Table.exists_update?_iff (i := TurnIndex.primaryKey.index) (by simp [turnIndexes])
      fun a ha b hb hpa hpb => ?_).mpr fun a ha hpa b hb hpb j hj => ?_
    · rw [(hp a ha).mp hpa, (hp b hb).mp hpb]
      exact clash_primaryKey.mpr rfl
    · have hne : b ≠ old := fun heq => by
        rw [(hp b hb).mpr heq] at hpb
        cases hpb
      rw [(hp a ha).mp hpa, ← Bool.not_eq_true]
      obtain ⟨i, -, rfl⟩ := List.mem_map.mp hj
      intro hclash
      cases i with
      | primaryKey =>
        exact hne (TurnTable.eq_of_turnId hb hold ((clash_primaryKey.mp hclash).symm.trans hf))
      | sessionNumber =>
        obtain ⟨hs, hn⟩ := clash_sessionNumber.mp hclash
        exact hnumber b hb hne hs hn
      | sessionAnchor =>
        obtain ⟨hs, anchor, ha', hb'⟩ := clash_sessionAnchor.mp hclash
        exact hne (TurnTable.eq_of_turnAnchorId hb hold (hs.symm.trans hsession) hb'
          (hanchor.symm.trans ha'))
  obtain ⟨t', ht'⟩ := hexists
  exact ⟨t', ht', .of_update hold hp hf ht'⟩

/-! ### Indexing the turn of a row -/

/-- Indexing the turn of a row that is put in keeps the turns in agreement. -/
lemma AgreeTurns.indexTurn (h : AgreeTurns db m t) (hput : Put t t' row)
    (hsession : ∀ old ∈ t.rows, old.turnId = row.turnId → old.sessionId = row.sessionId)
    (hmax : t.maxTurnNumber row.sessionId ≤ t'.maxTurnNumber row.sessionId) :
    AgreeTurns db (m.indexTurn (db.rowToTurn row)) t' := by
  have hrow : row ∈ t'.rows := (hput row).mpr (.inr rfl)
  constructor
  · intro turnId turn
    rw [MemoryStore.get?_indexTurn]
    change (if turnId = row.turnId then _ else _) = _ ↔ _
    split_ifs with hid
    · rw [Option.some.injEq]
      constructor
      · intro hturn
        exact ⟨row, hrow, hid.symm, hturn⟩
      · rintro ⟨r, hr, hrid, hturn⟩
        rw [TurnTable.eq_of_turnId hrow hr (hid.symm.trans hrid.symm), hturn]
    · rw [h.turns]
      constructor
      · rintro ⟨r, hr, hrid, hturn⟩
        exact ⟨r, (hput r).mpr (.inl ⟨hr, fun heq => hid (hrid.symm.trans heq)⟩), hrid, hturn⟩
      · rintro ⟨r, hr, hrid, hturn⟩
        obtain ⟨hr', -⟩ | rfl := (hput r).mp hr
        · exact ⟨r, hr', hrid, hturn⟩
        · exact absurd hrid.symm hid
  · intro sessionId turnId
    rw [MemoryStore.mem_turnIds_indexTurn, h.ids]
    constructor
    · rintro (⟨r, hr, hrid, hrs⟩ | ⟨hs, hid⟩)
      · by_cases hid : r.turnId = row.turnId
        · exact ⟨row, hrow, hid.symm.trans hrid, (hsession r hr hid).symm.trans hrs⟩
        · exact ⟨r, (hput r).mpr (.inl ⟨hr, hid⟩), hrid, hrs⟩
      · exact ⟨row, hrow, hid.symm, hs.symm⟩
    · rintro ⟨r, hr, hrid, hrs⟩
      obtain ⟨hr', -⟩ | rfl := (hput r).mp hr
      · exact .inl ⟨r, hr', hrid, hrs⟩
      · exact .inr ⟨hrs.symm, hrid.symm⟩
  · exact fun sessionId => MemoryStore.nodup_turnIds_indexTurn (h.nodup sessionId)
  · intro sessionId
    rw [MemoryStore.maxTurnNumber_indexTurn, h.maxTurnNumber, h.maxTurnNumber]
    change (if sessionId = row.sessionId then max (t.maxTurnNumber row.sessionId) row.turnNumber
      else _) = _
    split_ifs with hs
    · subst hs
      refine le_antisymm (max_le hmax (TurnTable.le_maxTurnNumber hrow))
        (TurnTable.maxTurnNumber_le fun r hr hrs => ?_)
      obtain ⟨hr', -⟩ | rfl := (hput r).mp hr
      · exact le_max_of_le_left (hrs ▸ TurnTable.le_maxTurnNumber hr')
      · exact le_max_right _ _
    · refine le_antisymm (TurnTable.maxTurnNumber_le fun r hr hrs => ?_)
        (TurnTable.maxTurnNumber_le fun r hr hrs => ?_)
      · by_cases hid : r.turnId = row.turnId
        · exact absurd (hrs.symm.trans (hsession r hr hid)) hs
        · exact hrs ▸ TurnTable.le_maxTurnNumber ((hput r).mpr (.inl ⟨hr, hid⟩))
      · obtain ⟨hr', -⟩ | rfl := (hput r).mp hr
        · exact hrs ▸ TurnTable.le_maxTurnNumber hr'
        · exact absurd hrs.symm hs

/-- Indexing the turn of a row that is put in keeps the stores in agreement when the row has the anchor
that the turn had before. -/
lemma Agree.indexTurn (h : Agree db m t) (hput : Put t t' row)
    (hsession : ∀ old ∈ t.rows, old.turnId = row.turnId → old.sessionId = row.sessionId)
    (hmax : t.maxTurnNumber row.sessionId ≤ t'.maxTurnNumber row.sessionId)
    (hanchor : ∀ anchor, row.turnAnchorId = some anchor ↔
      ∃ old ∈ t.rows, old.turnId = row.turnId ∧ old.turnAnchorId = some anchor) :
    Agree db (m.indexTurn (db.rowToTurn row)) t' := by
  refine ⟨h.toAgreeTurns.indexTurn hput hsession hmax, fun sessionId anchor turnId => ?_⟩
  rw [MemoryStore.anchoredTurnId_indexTurn, h.anchors]
  constructor
  · rintro ⟨r, hr, hrs, hra, hrid⟩
    by_cases hid : r.turnId = row.turnId
    · exact ⟨row, (hput row).mpr (.inr rfl), (hsession r hr hid).symm.trans hrs,
        (hanchor anchor).mpr ⟨r, hr, hid, hra⟩, hid.symm.trans hrid⟩
    · exact ⟨r, (hput r).mpr (.inl ⟨hr, hid⟩), hrs, hra, hrid⟩
  · rintro ⟨r, hr, hrs, hra, hrid⟩
    obtain ⟨hr', -⟩ | rfl := (hput r).mp hr
    · exact ⟨r, hr', hrs, hra, hrid⟩
    · obtain ⟨old, hold, hid, ha⟩ := (hanchor anchor).mp hra
      exact ⟨old, hold, (hsession old hold hid).trans hrs, ha, hid.trans hrid⟩

/-- Indexing the turn of a row that takes the place of a row with the same session and anchor and no
higher number. -/
lemma Agree.indexTurn_update (h : Agree db m t) (hold : old ∈ t.rows) (hput : Put t t' row)
    (hid : row.turnId = old.turnId) (hs : row.sessionId = old.sessionId)
    (hanchor : row.turnAnchorId = old.turnAnchorId) (hnumber : old.turnNumber ≤ row.turnNumber) :
    Agree db (m.indexTurn (db.rowToTurn row)) t' := by
  have hsame : ∀ r ∈ t.rows, r.turnId = row.turnId → r = old := fun r hr hrid =>
    TurnTable.eq_of_turnId hr hold (hrid.trans hid)
  refine h.indexTurn hput (fun r hr hrid => ?_) (hput.max_le fun r hr hrid _ => ?_) fun anchor => ?_
  · rw [hsame r hr hrid, hs]
  · rw [hsame r hr hrid]
    exact hnumber
  · rw [hanchor]
    constructor
    · exact fun ha => ⟨old, hold, hid.symm, ha⟩
    · rintro ⟨r, hr, hrid, ha⟩
      exact hsame r hr hrid ▸ ha

/-! ### The operations that write -/

/-- The insertion of a new turn under the next number of its session. -/
lemma exists_put_of_insert (hsession : db.hasSession row.sessionId = true)
    (hnew : ∀ r ∈ t.rows, r.turnId ≠ row.turnId)
    (hnumber : row.turnNumber = t.maxTurnNumber row.sessionId + 1)
    (hanchor : ∀ r ∈ t.rows, ∀ anchor, row.turnAnchorId = some anchor →
      r.sessionId = row.sessionId → r.turnAnchorId ≠ some anchor) :
    ∃ t', db.insert t row = .ok t' ∧ Put t t' row := by
  have hviolated : Database.violated t row = none := by
    refine Database.violated_eq_none.mpr fun r hr => ⟨hnew r hr, fun hs hn => ?_, hanchor r hr⟩
    have hle := TurnTable.le_maxTurnNumber hr
    rw [hs, hn, hnumber] at hle
    exact absurd hle (Nat.not_succ_le_self _)
  obtain ⟨t', ht', hmem⟩ := Database.insert_of_unviolated hsession hviolated
  exact ⟨t', ht', .of_insert hnew hmem⟩

/-- The turn of a row that `turn.create` inserts. -/
lemma rowToTurn_createRow (db : Database) (request : CreateRequest) (turnId : String) (now : ℤ)
    (turnNumber : ℕ) :
    db.rowToTurn (db.createRow request turnId now turnNumber) =
      { turnId, sessionId := request.sessionId, turnNumber, startedAt := now, completedAt := none,
        status := .active, error := none, usage := none, initiator := request.initiator } := by
  simp [Database.rowToTurn, Database.createRow, parseUsage]

/-- The usage of a request is read back from its column. -/
@[simp] lemma parseUsage_map (format : NumberFormat) (usage : Option TurnUsage) :
    parseUsage format (usage.map (stringifyUsage format)) = usage := by
  cases usage with
  | none => rfl
  | some usage => exact parseUsage_stringifyUsage format usage

/-- The turn of a row that `turn.ingestCompleted` inserts. -/
lemma rowToTurn_ingestRow (db : Database) (request : IngestCompletedRequest) (turnId : String)
    (turnNumber : ℕ) :
    db.rowToTurn (db.ingestRow request turnId turnNumber) =
      { turnId, sessionId := request.sessionId, turnNumber, startedAt := request.startedAt,
        completedAt := some request.completedAt, status := request.status.toStatus,
        error := request.error, usage := request.usage, initiator := request.initiator } := by
  simp [Database.rowToTurn, Database.ingestRow]

/-- Both stores create a new turn alike. -/
lemma Agree.create (h : Agree db m t) {request : CreateRequest}
    (hsession : db.hasSession request.sessionId = true)
    (hnew : ∀ row ∈ t.rows, row.turnId ≠ request.turnId.getD randomUUID) :
    (m.create request now randomUUID).1 = (db.create t request now randomUUID).1 ∧
      Agree db (m.create request now randomUUID).2 (db.create t request now randomUUID).2 := by
  have hturn := rowToTurn_createRow db request (request.turnId.getD randomUUID) now
    (t.maxTurnNumber request.sessionId + 1)
  generalize hrowdef : db.createRow request (request.turnId.getD randomUUID) now
    (t.maxTurnNumber request.sessionId + 1) = row at hturn
  have hid : row.turnId = request.turnId.getD randomUUID := by rw [← hrowdef]; rfl
  have hs : row.sessionId = request.sessionId := by rw [← hrowdef]; rfl
  have hn : row.turnNumber = t.maxTurnNumber row.sessionId + 1 := by rw [hs, ← hrowdef]; rfl
  have hanchor : row.turnAnchorId = none := by rw [← hrowdef]; rfl
  have hnew' : ∀ r ∈ t.rows, r.turnId ≠ row.turnId := fun r hr => hid ▸ hnew r hr
  obtain ⟨t', hinsert, hput⟩ := exists_put_of_insert (hs ▸ hsession) hnew' hn
    (fun _ _ anchor ha => by rw [hanchor] at ha; cases ha)
  have hrow : row ∈ t'.rows := (hput row).mpr (.inr rfl)
  have hstatement : db.createStatement request (request.turnId.getD randomUUID) now t = .ok t' := by
    rw [Database.createStatement, hrowdef, hinsert]
  have hcreate : db.create t request now randomUUID = (.ok (.turn (db.rowToTurn row)), t') := by
    rw [Database.create, Database.insertWithRetry_of_ne (by rw [hstatement]; simp), hstatement]
    dsimp only
    rw [TurnTable.byId_eq_some.mpr ⟨hrow, hid⟩, hturn]
    dsimp only
    rw [hn, hs]
  have hmemory : m.create request now randomUUID =
      (.ok (.turn (db.rowToTurn row)), m.indexTurn (db.rowToTurn row)) := by
    rw [MemoryStore.create, hturn, h.maxTurnNumber]
  rw [hcreate, hmemory]
  refine ⟨rfl, h.indexTurn hput (fun old hold hid => absurd hid (hnew' old hold))
    (hput.max_le fun old hold hid => absurd hid (hnew' old hold)) fun anchor => ?_⟩
  rw [hanchor]
  refine ⟨fun ha => (by cases ha), ?_⟩
  rintro ⟨old, hold, hid, -⟩
  exact absurd hid (hnew' old hold)

/-- Both stores ingest a turn under a new anchor alike. -/
lemma Agree.ingestCompleted_new (h : Agree db m t) {request : IngestCompletedRequest}
    (hsession : db.hasSession request.sessionId = true) (hnew : ∀ row ∈ t.rows, row.turnId ≠ randomUUID)
    (hnone : m.anchoredTurnId request.sessionId request.turnAnchorId = none) :
    (m.ingestCompleted request randomUUID).1 = (db.ingestCompleted t request randomUUID).1 ∧
      Agree db (m.ingestCompleted request randomUUID).2 (db.ingestCompleted t request randomUUID).2 := by
  have hturn := rowToTurn_ingestRow db request randomUUID (t.maxTurnNumber request.sessionId + 1)
  generalize hrowdef : db.ingestRow request randomUUID (t.maxTurnNumber request.sessionId + 1) = row
    at hturn
  have hid : row.turnId = randomUUID := by rw [← hrowdef]; rfl
  have hs : row.sessionId = request.sessionId := by rw [← hrowdef]; rfl
  have hn : row.turnNumber = t.maxTurnNumber row.sessionId + 1 := by rw [hs, ← hrowdef]; rfl
  have hanchor : row.turnAnchorId = some request.turnAnchorId := by rw [← hrowdef]; rfl
  have hnew' : ∀ r ∈ t.rows, r.turnId ≠ row.turnId := fun r hr => hid ▸ hnew r hr
  have hfree : ∀ r ∈ t.rows, r.sessionId = request.sessionId →
      r.turnAnchorId ≠ some request.turnAnchorId := fun r hr hrs hra => by
    have hsome := (h.anchors _ _ _).mpr ⟨r, hr, hrs, hra, rfl⟩
    rw [hnone] at hsome
    cases hsome
  obtain ⟨t', hinsert, hput⟩ := exists_put_of_insert (hs ▸ hsession) hnew' hn
    fun r hr anchor ha hrs hra =>
      hfree r hr (hrs.trans hs) (hra.trans (ha.symm.trans hanchor))
  have hrow : row ∈ t'.rows := (hput row).mpr (.inr rfl)
  have hviolates : ¬t.violates TurnIndex.sessionAnchor.index row = true := fun hv => by
    obtain ⟨r, hr, hclash⟩ := Table.violates_iff.mp hv
    obtain ⟨hrs, anchor, hra, ha⟩ := clash_sessionAnchor.mp hclash
    exact hfree r hr (hrs.trans hs) (hra.trans (ha.symm.trans hanchor))
  have hstatement : db.ingestStatement request randomUUID t = .ok t' := by
    rw [Database.ingestStatement, hrowdef, Database.upsertAnchored, if_neg hviolates, hinsert]
  have hdatabase : db.ingestCompleted t request randomUUID =
      (.ok (.ingested (db.rowToTurn row) true), t') := by
    rw [Database.ingestCompleted, Database.insertWithRetry_of_ne (by rw [hstatement]; simp), hstatement]
    dsimp only
    rw [TurnTable.byAnchor_eq_some.mpr ⟨hrow, hs, hanchor⟩]
    dsimp only
    rw [decide_eq_true hid]
  have hmemory : m.ingestCompleted request randomUUID = (.ok (.ingested (db.rowToTurn row) true),
      (m.indexTurn (db.rowToTurn row)).setAnchor request.sessionId request.turnAnchorId randomUUID) := by
    rw [MemoryStore.ingestCompleted, hnone, hturn, h.maxTurnNumber]
  rw [hdatabase, hmemory]
  have hturns := h.toAgreeTurns.indexTurn hput (fun old hold hid => absurd hid (hnew' old hold))
    (hput.max_le fun old hold hid => absurd hid (hnew' old hold))
  refine ⟨rfl, ⟨hturns.turns, hturns.ids, hturns.nodup, hturns.maxTurnNumber⟩, ?_⟩
  intro sessionId anchor turnId
  rw [MemoryStore.anchoredTurnId_setAnchor, MemoryStore.anchoredTurnId_indexTurn]
  split_ifs with hkey
  · obtain ⟨rfl, rfl⟩ := hkey
    rw [Option.some.injEq]
    constructor
    · rintro rfl
      exact ⟨row, hrow, hs, hanchor, hid⟩
    · rintro ⟨r, hr, hrs, hra, hrid⟩
      obtain ⟨hr', -⟩ | rfl := (hput r).mp hr
      · exact absurd hra (hfree r hr' hrs)
      · exact hid.symm.trans hrid
  · rw [h.anchors]
    constructor
    · rintro ⟨r, hr, hrs, hra, hrid⟩
      exact ⟨r, (hput r).mpr (.inl ⟨hr, hnew' r hr⟩), hrs, hra, hrid⟩
    · rintro ⟨r, hr, hrs, hra, hrid⟩
      obtain ⟨hr', -⟩ | rfl := (hput r).mp hr
      · exact ⟨r, hr', hrs, hra, hrid⟩
      · exact absurd ⟨hrs.symm.trans hs, Option.some.inj (hra.symm.trans hanchor)⟩ hkey

/-- Both stores ingest a turn again under its anchor alike. -/
lemma Agree.ingestCompleted_again (h : Agree db m t) {request : IngestCompletedRequest}
    (hnew : ∀ row ∈ t.rows, row.turnId ≠ randomUUID) (hold : old ∈ t.rows)
    (hs : old.sessionId = request.sessionId) (hanchor : old.turnAnchorId = some request.turnAnchorId) :
    (m.ingestCompleted request randomUUID).1 = (db.ingestCompleted t request randomUUID).1 ∧
      Agree db (m.ingestCompleted request randomUUID).2 (db.ingestCompleted t request randomUUID).2 := by
  have hturn : db.rowToTurn (Database.completionFields
      (db.ingestRow request randomUUID (t.maxTurnNumber request.sessionId + 1)) old) =
        { db.rowToTurn old with
          completedAt := some request.completedAt
          status := request.status.toStatus
          error := request.error
          usage := request.usage } := by
    simp [Database.rowToTurn, Database.completionFields, Database.ingestRow]
  generalize hrowdef : db.ingestRow request randomUUID (t.maxTurnNumber request.sessionId + 1) = row
    at hturn
  have hrs : row.sessionId = request.sessionId := by rw [← hrowdef]; rfl
  have hra : row.turnAnchorId = some request.turnAnchorId := by rw [← hrowdef]; rfl
  have hp : ∀ r ∈ t.rows, TurnIndex.sessionAnchor.index.clash row r = true ↔ r = old := by
    intro r hr
    rw [clash_sessionAnchor, hrs, hra]
    constructor
    · rintro ⟨hs', anchor, ha, ha'⟩
      cases ha
      exact TurnTable.eq_of_turnAnchorId hr hold (hs'.symm.trans hs.symm) ha' hanchor
    · rintro rfl
      exact ⟨hs.symm, _, rfl, hanchor⟩
  obtain ⟨t', hupdate, hput⟩ := exists_put_of_update (f := Database.completionFields row) hold hp rfl
    (fun r hr hne hs' hn => hne (TurnTable.eq_of_turnNumber hr hold hs'.symm hn.symm)) rfl rfl
  have hrow : Database.completionFields row old ∈ t'.rows := (hput _).mpr (.inr rfl)
  have hviolates : t.violates TurnIndex.sessionAnchor.index row = true :=
    Table.violates_iff.mpr
      ⟨old, hold, clash_sessionAnchor.mpr ⟨hs.trans hrs.symm, _, hanchor, hra⟩⟩
  have hstatement : db.ingestStatement request randomUUID t = .ok t' := by
    rw [Database.ingestStatement, hrowdef, Database.upsertAnchored, if_pos hviolates, hupdate]
  have hdatabase : db.ingestCompleted t request randomUUID =
      (.ok (.ingested (db.rowToTurn (Database.completionFields row old)) false), t') := by
    rw [Database.ingestCompleted, Database.insertWithRetry_of_ne (by rw [hstatement]; simp), hstatement]
    dsimp only
    rw [TurnTable.byAnchor_eq_some.mpr ⟨hrow, hs, hanchor⟩]
    dsimp only
    rw [show (Database.completionFields row old).turnId = old.turnId from rfl,
      decide_eq_false (hnew old hold)]
  have hmemory : m.ingestCompleted request randomUUID =
      (.ok (.ingested (db.rowToTurn (Database.completionFields row old)) false),
        m.indexTurn (db.rowToTurn (Database.completionFields row old))) := by
    rw [MemoryStore.ingestCompleted, (h.anchors _ _ _).mpr ⟨old, hold, hs, hanchor, rfl⟩]
    dsimp only
    rw [(h.turns _ _).mpr ⟨old, hold, rfl, rfl⟩, hturn]
  rw [hdatabase, hmemory]
  exact ⟨rfl, h.indexTurn_update hold hput rfl rfl rfl le_rfl⟩

/-- The usage after a completion is read back from its column. -/
@[simp] lemma parseUsage_usageColumn (usage : Option (Option TurnUsage)) (column : Option (List Char)) :
    parseUsage db.format (db.usageColumn usage column) =
      replacementUsage usage (parseUsage db.format column) := by
  cases usage with
  | none => rfl
  | some usage => exact parseUsage_map db.format usage

/-- An update of the row of a turn that keeps its session, number and anchor. -/
lemma exists_put_of_completion (hold : old ∈ t.rows) (hp : ∀ r ∈ t.rows, p r = true ↔ r = old)
    (hid : (f old).turnId = old.turnId) (hs : (f old).sessionId = old.sessionId)
    (hn : (f old).turnNumber = old.turnNumber) (ha : (f old).turnAnchorId = old.turnAnchorId) :
    ∃ t', Database.update t p f = .ok t' ∧ Put t t' (f old) := by
  obtain ⟨t', hupdate, hput⟩ := exists_put_of_update hold hp hid
    (fun r hr hne hrs hrn => hne (TurnTable.eq_of_turnNumber hr hold
      (hrs.symm.trans hs) (hrn.symm.trans hn))) hs ha
  exact ⟨t', by rw [Database.update, hupdate], hput⟩

variable {status : TurnStatus} {existing : Turn} {κ : Type}

/-- No other status is expected than the one of the turn. -/
lemma not_any_of_all {expected : Option TurnStatus} (h : expected.all (fun st => status = st) = true) :
    ¬(expected.any fun st => status ≠ st) = true := by
  cases expected with
  | none => simp
  | some st =>
    rw [Option.all_some, decide_eq_true_eq] at h
    rw [Option.any_some, decide_eq_true_eq]
    exact not_not.mpr h

/-- Both stores complete an active turn of the expected status alike. -/
lemma Agree.complete_active (h : Agree db m t) (hold : old ∈ t.rows) (hid : old.turnId = request.turnId)
    (hexpected : request.expectedStatus.all (fun status => old.status = status) = true)
    (hactive : old.status.isTerminal = false) :
    (m.complete request now).1 = (db.complete t request now).1 ∧
      Agree db (m.complete request now).2 (db.complete t request now).2 := by
  have hp : ∀ r ∈ t.rows, Database.transitionWhere request r = true ↔ r = old := by
    intro r hr
    rw [Database.transitionWhere, decide_eq_true_eq]
    constructor
    · exact fun hr' => TurnTable.eq_of_turnId hr hold (hr'.1.trans hid.symm)
    · rintro rfl
      exact ⟨hid, hexpected, hactive⟩
  have hfind : t.rows.find? (Database.transitionWhere request) = some old :=
    (Table.find?_eq_some fun a ha b hb hpa hpb =>
      ((hp a ha).mp hpa).trans ((hp b hb).mp hpb).symm).mpr ⟨hold, (hp old hold).mpr rfl⟩
  obtain ⟨t', hupdate, hput⟩ := exists_put_of_completion (f := db.transitionFields request now)
    hold hp rfl rfl rfl rfl
  have hdatabase : db.complete t request now =
      (.ok (.completed (db.rowToTurn (db.transitionFields request now old)) true), t') := by
    rw [Database.complete, hfind]
    rw [hupdate]
  have hmemory : m.complete request now =
      (.ok (.completed (db.rowToTurn (db.transitionFields request now old)) true),
        m.indexTurn (db.rowToTurn (db.transitionFields request now old))) := by
    have hturn : db.rowToTurn (db.transitionFields request now old) =
        { db.rowToTurn old with
          completedAt := some now
          status := request.status.toStatus
          error := request.error
          usage := replacementUsage request.usage (db.rowToTurn old).usage } := by
      simp [Database.rowToTurn, Database.transitionFields]
    have hstatus : (db.rowToTurn old).status.isTerminal = false := hactive
    have hany : ¬(request.expectedStatus.any fun st => (db.rowToTurn old).status ≠ st) = true :=
      not_any_of_all hexpected
    rw [MemoryStore.complete, (h.turns _ _).mpr ⟨old, hold, hid, rfl⟩]
    dsimp only
    rw [if_neg hany, hstatus, if_neg Bool.false_ne_true, hturn]
    rfl
  rw [hdatabase, hmemory]
  exact ⟨rfl, h.indexTurn_update hold hput rfl rfl rfl le_rfl⟩

/-- The database finds no turn to move when the turn is settled or has another status than expected. -/
lemma find?_transitionWhere_eq_none (h : ∀ row ∈ t.rows, row.turnId = request.turnId →
      request.expectedStatus.all (fun status => row.status = status) = true →
      row.status.isTerminal = true) :
    t.rows.find? (Database.transitionWhere request) = none := by
  refine List.find?_eq_none.mpr fun r hr hr' => ?_
  rw [Database.transitionWhere, decide_eq_true_eq] at hr'
  rw [h r hr hr'.1 hr'.2.1] at hr'
  cases hr'.2.2

/-- The database answers a completion that makes no transition and replaces no usage with the turn. -/
lemma complete_of_settled (hfind : t.rows.find? (Database.transitionWhere request) = none)
    (hbyId : t.byId request.turnId = some old)
    (hkeep : request.expectedStatus.isSome = true ∨ request.usage = none) :
    db.complete t request now = (.ok (.completed (db.rowToTurn old) false), t) := by
  rw [Database.complete, hfind]
  rw [hbyId]
  dsimp only
  split_ifs with hexpected husage
  · rfl
  · rfl
  · obtain hsome | hnone := hkeep
    · exact absurd hsome hexpected
    · rw [hnone] at husage
      exact absurd (.inr rfl) husage

/-- The store in memory answers a completion that expects another status with the turn. -/
lemma memory_complete_of_ne (hget : m.turnsById.get? request.turnId = some existing)
    (hexpected : request.expectedStatus = some status) (hne : existing.status ≠ status) :
    m.complete request now = (.ok (.completed existing false), m) := by
  rw [MemoryStore.complete, hget]
  dsimp only
  rw [hexpected, Option.any_some, if_pos (decide_eq_true hne)]

/-- The store in memory replaces the usage of a turn with a terminal status. -/
lemma memory_complete_of_terminal (hget : m.turnsById.get? request.turnId = some existing)
    (hexpected : request.expectedStatus.all (fun status => existing.status = status) = true)
    (hterminal : existing.status.isTerminal = true) :
    m.complete request now =
      (.ok (.completed { existing with usage := replacementUsage request.usage existing.usage } false),
        m.indexTurn { existing with usage := replacementUsage request.usage existing.usage }) := by
  rw [MemoryStore.complete, hget]
  dsimp only
  rw [if_neg (not_any_of_all hexpected), hterminal, if_pos rfl]
  rfl

/-- Both stores answer a completion alike of a turn with a terminal status. -/
lemma Agree.complete_terminal (h : Agree db m t) (hold : old ∈ t.rows) (hid : old.turnId = request.turnId)
    (hfind : t.rows.find? (Database.transitionWhere request) = none)
    (halike : request.expectedStatus = some old.status → request.usage = none)
    (hexpected : request.expectedStatus.all (fun status => old.status = status) = true)
    (hterminal : old.status.isTerminal = true) :
    (m.complete request now).1 = (db.complete t request now).1 ∧
      Agree db (m.complete request now).2 (db.complete t request now).2 := by
  have hbyId : t.byId request.turnId = some old := TurnTable.byId_eq_some.mpr ⟨hold, hid⟩
  rw [memory_complete_of_terminal ((h.turns _ _).mpr ⟨old, hold, hid, rfl⟩) hexpected hterminal]
  have hturn : db.rowToTurn (db.usageField request old) = { db.rowToTurn old with
      usage := replacementUsage request.usage (db.rowToTurn old).usage } := by
    simp [Database.rowToTurn, Database.usageField]
  rw [← hturn]
  by_cases husage : request.usage = none
  · -- the store in memory indexes the turn again as it is
    have hself : db.usageField request old = old := by
      rw [Database.usageField, husage]
      rfl
    rw [hself, complete_of_settled hfind hbyId (.inr husage)]
    exact ⟨rfl, h.indexTurn_update hold (.self hold) rfl rfl rfl le_rfl⟩
  · have hnone : request.expectedStatus = none := by
      cases he : request.expectedStatus with
      | none => rfl
      | some status =>
        rw [he, Option.all_some, decide_eq_true_eq] at hexpected
        exact absurd (halike (he.trans (congrArg some hexpected.symm))) husage
    have hp : ∀ r ∈ t.rows, Database.terminalWhere request r = true ↔ r = old := by
      intro r hr
      rw [Database.terminalWhere, decide_eq_true_eq]
      constructor
      · exact fun hr' => TurnTable.eq_of_turnId hr hold (hr'.1.trans hid.symm)
      · rintro rfl
        exact ⟨hid, hterminal⟩
    obtain ⟨t', hupdate, hput⟩ := exists_put_of_completion (f := db.usageField request)
      hold hp rfl rfl rfl rfl
    have hdatabase : db.complete t request now =
        (.ok (.completed (db.rowToTurn (db.usageField request old)) false), t') := by
      rw [Database.complete, hfind]
      rw [hbyId]
      dsimp only
      rw [if_neg (by rw [hnone]; simp), if_neg (by simp [hterminal, husage]), hupdate]
    rw [hdatabase]
    exact ⟨rfl, h.indexTurn_update hold hput rfl rfl rfl le_rfl⟩

/-- Both stores complete a turn alike. -/
lemma Agree.complete (h : Agree db m t)
    (halike : ∀ row ∈ t.rows, row.turnId = request.turnId → row.status.isTerminal = true →
      request.expectedStatus = some row.status → request.usage = none) :
    (m.complete request now).1 = (db.complete t request now).1 ∧
      Agree db (m.complete request now).2 (db.complete t request now).2 := by
  cases hget : m.turnsById.get? request.turnId with
  | none =>
    have hno : ∀ row ∈ t.rows, row.turnId ≠ request.turnId := fun row hrow hid => by
      rw [(h.turns _ _).mpr ⟨row, hrow, hid, rfl⟩] at hget
      cases hget
    have hfind : t.rows.find? (Database.transitionWhere request) = none :=
      find?_transitionWhere_eq_none fun row hrow hid => absurd hid (hno row hrow)
    rw [MemoryStore.complete, hget, Database.complete, hfind]
    rw [TurnTable.byId_eq_none.mpr hno]
    exact ⟨rfl, h⟩
  | some existing =>
    obtain ⟨old, hold, hid, rfl⟩ := (h.turns _ _).mp hget
    have hsame : ∀ row ∈ t.rows, row.turnId = request.turnId → row = old := fun row hrow hrid =>
      TurnTable.eq_of_turnId hrow hold (hrid.trans hid.symm)
    by_cases hexpected : request.expectedStatus.all (fun status => old.status = status) = true
    · by_cases hterminal : old.status.isTerminal = true
      · have hfind : t.rows.find? (Database.transitionWhere request) = none :=
          find?_transitionWhere_eq_none fun row hrow hrid _ => hsame row hrow hrid ▸ hterminal
        exact h.complete_terminal hold hid hfind (halike old hold hid hterminal) hexpected hterminal
      · exact h.complete_active hold hid hexpected (Bool.eq_false_iff.mpr hterminal)
    · have hfind : t.rows.find? (Database.transitionWhere request) = none :=
        find?_transitionWhere_eq_none fun row hrow hrid hall =>
          absurd (hsame row hrow hrid ▸ hall) hexpected
      cases he : request.expectedStatus with
      | none =>
        rw [he] at hexpected
        exact absurd rfl hexpected
      | some status =>
        have hne : (db.rowToTurn old).status ≠ status := fun heq => hexpected (by
          rw [he, Option.all_some]
          exact decide_eq_true heq)
        rw [memory_complete_of_ne hget he hne, complete_of_settled hfind
          (TurnTable.byId_eq_some.mpr ⟨hold, hid⟩) (.inl (by rw [he]; rfl))]
        exact ⟨rfl, h⟩

/-! ### Restoring a turn -/

/-- The turn of a row that `turn.set` writes. -/
lemma rowToTurn_setColumns (turn : Turn) (old : TurnRow) :
    db.rowToTurn (db.setColumns turn old) = turn := by
  simp [Database.rowToTurn, Database.setColumns]

/-- The turn of a row that `turn.set` inserts. -/
lemma rowToTurn_setRow (turn : Turn) : db.rowToTurn (db.setRow turn) = turn := by
  simp [Database.rowToTurn, Database.setRow]

/-- Both stores restore a new turn alike. -/
lemma Agree.set_new (h : Agree db m t) (hsession : db.hasSession turn.sessionId = true)
    (hnumber : ∀ row ∈ t.rows, row.turnId ≠ turn.turnId → row.sessionId = turn.sessionId →
      row.turnNumber ≠ turn.turnNumber) (hnew : ∀ row ∈ t.rows, row.turnId ≠ turn.turnId) :
    (.ok (.turn turn) : Except Failure Result) = (db.set t turn).1 ∧
      Agree db (m.indexTurn turn) (db.set t turn).2 := by
  have hviolated : Database.violated t (db.setRow turn) = none :=
    Database.violated_eq_none.mpr fun r hr =>
      ⟨hnew r hr, hnumber r hr (hnew r hr), fun _ ha => by cases ha⟩
  obtain ⟨t', hinsert, hmem⟩ := Database.insert_of_unviolated
    (show db.hasSession (db.setRow turn).sessionId = true from hsession) hviolated
  have hput : Put t t' (db.setRow turn) := .of_insert hnew hmem
  have hset : db.set t turn = (.ok (.turn turn), t') := by
    rw [Database.set, Database.upsertTurn, TurnTable.byId_eq_none.mpr hnew]
    rw [hinsert]
  rw [hset]
  refine ⟨rfl, ?_⟩
  have hagree := h.indexTurn hput (fun old hold hid => absurd hid (hnew old hold))
    (hput.max_le fun old hold hid => absurd hid (hnew old hold)) fun anchor =>
      ⟨fun ha => (by cases ha), fun ⟨old, hold, hid, _⟩ => absurd hid (hnew old hold)⟩
  rwa [rowToTurn_setRow] at hagree

/-- Both stores restore a turn again alike. -/
lemma Agree.set_again (h : Agree db m t) (hsession : db.hasSession turn.sessionId = true)
    (hnumber : ∀ row ∈ t.rows, row.turnId ≠ turn.turnId → row.sessionId = turn.sessionId →
      row.turnNumber ≠ turn.turnNumber) (hold : old ∈ t.rows) (hid : old.turnId = turn.turnId)
    (hs : old.sessionId = turn.sessionId)
    (hmax : old.turnNumber ≤ turn.turnNumber ∨ ∃ other ∈ t.rows, other.turnId ≠ turn.turnId ∧
      other.sessionId = turn.sessionId ∧ old.turnNumber ≤ other.turnNumber) :
    (.ok (.turn turn) : Except Failure Result) = (db.set t turn).1 ∧
      Agree db (m.indexTurn turn) (db.set t turn).2 := by
  have hp : ∀ r ∈ t.rows, decide (r.turnId = turn.turnId) = true ↔ r = old := by
    intro r hr
    rw [decide_eq_true_eq]
    constructor
    · exact fun hrid => TurnTable.eq_of_turnId hr hold (hrid.trans hid.symm)
    · rintro rfl
      exact hid
  obtain ⟨t', hupdate, hput⟩ := exists_put_of_update (f := db.setColumns turn) hold hp hid.symm
    (fun r hr hne hrs hrn => hnumber r hr (fun hrid => hne ((hp r hr).mp (decide_eq_true hrid)))
      hrs.symm hrn.symm) hs.symm rfl
  have hset : db.set t turn = (.ok (.turn turn), t') := by
    rw [Database.set, Database.upsertTurn, TurnTable.byId_eq_some.mpr ⟨hold, hid⟩]
    rw [if_pos hsession, Database.update, hupdate]
  rw [hset]
  refine ⟨rfl, ?_⟩
  have hsame : ∀ r ∈ t.rows, r.turnId = turn.turnId → r = old := fun r hr hrid =>
    TurnTable.eq_of_turnId hr hold (hrid.trans hid.symm)
  have hrow : db.setColumns turn old ∈ t'.rows := (hput _).mpr (.inr rfl)
  have hle : t.maxTurnNumber turn.sessionId ≤ t'.maxTurnNumber turn.sessionId := by
    refine TurnTable.maxTurnNumber_le fun r hr hrs => ?_
    by_cases hrid : r.turnId = turn.turnId
    · rw [hsame r hr hrid]
      obtain hle | ⟨other, hother, hoid, hos, hle⟩ := hmax
      · exact hle.trans (TurnTable.le_maxTurnNumber hrow)
      · exact hle.trans (hos ▸ TurnTable.le_maxTurnNumber ((hput other).mpr (.inl ⟨hother, hoid⟩)))
    · exact hrs ▸ TurnTable.le_maxTurnNumber ((hput r).mpr (.inl ⟨hr, hrid⟩))
  have hagree := h.indexTurn hput (fun r hr hrid => (congrArg _ (hsame r hr hrid)).trans hs) hle
    fun anchor => ⟨fun ha => ⟨old, hold, hid, ha⟩, fun ⟨r, hr, hrid, ha⟩ => hsame r hr hrid ▸ ha⟩
  rwa [rowToTurn_setColumns] at hagree

/-! ### Reading -/

/-- A limit counts turns as it counts rows. -/
lemma map_limited {α β : Type*} (f : α → β) (limit : Option ℕ) (list : List α) :
    (limited limit list).map f = limited limit (list.map f) := by
  cases limit with
  | none => rfl
  | some n => cases n with
    | zero => rfl
    | succ n => exact List.map_take

/-- The turns of distinct rows are distinct. -/
lemma nodup_map_rowToTurn (db : Database) (t : TurnTable) (p : TurnRow → Bool) :
    ((t.rows.filter p).map db.rowToTurn).Nodup := by
  refine (t.nodup_rows.filter p).map_on fun a ha b hb hab => ?_
  exact TurnTable.eq_of_turnId (List.mem_filter.mp ha).1 (List.mem_filter.mp hb).1
    (congrArg Turn.turnId hab)

/-- Selected rows with distinct keys have the turns in one order. -/
lemma map_select [LinearOrder κ] (key : Turn → κ)
    (hkey : ∀ a ∈ t.rows, ∀ b ∈ t.rows, p a = true → p b = true →
      key (db.rowToTurn a) = key (db.rowToTurn b) → a = b) :
    (db.select t p fun row => key (db.rowToTurn row)).map db.rowToTurn =
      sortBy key ((t.rows.filter p).map db.rowToTurn) := by
  have hone : db.select t p (fun row => key (db.rowToTurn row)) =
      sortBy (fun row => key (db.rowToTurn row)) (t.rows.filter p) :=
    sortBy_eq_sortBy (fun a ha b hb => hkey a (List.mem_filter.mp ha).1 b (List.mem_filter.mp hb).1
      (List.mem_filter.mp ha).2 (List.mem_filter.mp hb).2) (db.scan_perm _)
  rw [hone]
  exact map_sortBy db.rowToTurn _ fun _ _ => rfl

/-- The turns of a session are those of its rows. -/
lemma AgreeTurns.mem_turnsOf (h : AgreeTurns db m t) {sessionId : String} :
    turn ∈ m.turnsOf sessionId ↔
      ∃ row ∈ t.rows, row.sessionId = sessionId ∧ db.rowToTurn row = turn := by
  rw [MemoryStore.turnsOf, List.mem_filterMap]
  constructor
  · rintro ⟨turnId, hid, hget⟩
    obtain ⟨row, hrow, hrid, hs⟩ := (h.ids _ _).mp hid
    obtain ⟨row', hrow', hrid', hturn⟩ := (h.turns _ _).mp hget
    rw [TurnTable.eq_of_turnId hrow hrow' (hrid.trans hrid'.symm)] at hs
    exact ⟨row', hrow', hs, hturn⟩
  · rintro ⟨row, hrow, hs, hturn⟩
    exact ⟨row.turnId, (h.ids _ _).mpr ⟨row, hrow, rfl, hs⟩, (h.turns _ _).mpr ⟨row, hrow, rfl, hturn⟩⟩

/-- No turn of a session is listed twice. -/
lemma AgreeTurns.nodup_turnsOf (h : AgreeTurns db m t) (sessionId : String) :
    (m.turnsOf sessionId).Nodup := by
  refine (h.nodup sessionId).filterMap fun a b turn ha hb => ?_
  obtain ⟨row, -, rfl, hturn⟩ := (h.turns _ _).mp ha
  obtain ⟨row', -, rfl, hturn'⟩ := (h.turns _ _).mp hb
  exact congrArg Turn.turnId (hturn.trans hturn'.symm)

/-- The turns of a session with a property are those of its rows, in another order. -/
lemma AgreeTurns.perm_turnsOf (h : AgreeTurns db m t) (sessionId : String) (q : Turn → Bool)
    (hp : ∀ row, p row = true ↔ row.sessionId = sessionId ∧ q (db.rowToTurn row) = true) :
    ((m.turnsOf sessionId).filter q).Perm ((t.rows.filter p).map db.rowToTurn) := by
  refine (List.perm_ext_iff_of_nodup ((h.nodup_turnsOf sessionId).filter q)
    (nodup_map_rowToTurn db t p)).mpr fun turn => ?_
  rw [List.mem_filter, h.mem_turnsOf, List.mem_map]
  constructor
  · rintro ⟨⟨row, hrow, hs, rfl⟩, hq⟩
    exact ⟨row, List.mem_filter.mpr ⟨hrow, (hp row).mpr ⟨hs, hq⟩⟩, rfl⟩
  · rintro ⟨row, hrow, rfl⟩
    obtain ⟨hmem, hprow⟩ := List.mem_filter.mp hrow
    obtain ⟨hs, hq⟩ := (hp row).mp hprow
    exact ⟨⟨row, hmem, hs, rfl⟩, hq⟩

/-- The turns with a property are those of the rows, in another order. -/
lemma AgreeTurns.perm_values (h : AgreeTurns db m t) (q : Turn → Bool) :
    (m.turnsById.values.filter q).Perm
      ((t.rows.filter fun row => q (db.rowToTurn row)).map db.rowToTurn) := by
  have hkeys : m.turnsById.values.map Turn.turnId = m.turnsById.keys := by
    rw [OrderedMap.values, OrderedMap.keys, List.map_map]
    refine List.map_congr_left fun e he => ?_
    obtain ⟨row, -, hid, hturn⟩ := (h.turns _ _).mp (OrderedMap.mem_entries_iff.mp he)
    rw [Function.comp_apply, ← hturn]
    exact hid
  have hnodup : m.turnsById.values.Nodup := List.Nodup.of_map Turn.turnId (hkeys ▸ m.turnsById.nodup)
  refine (List.perm_ext_iff_of_nodup (hnodup.filter q) (nodup_map_rowToTurn db t _)).mpr fun turn => ?_
  rw [List.mem_filter, OrderedMap.mem_values_iff, List.mem_map]
  constructor
  · rintro ⟨⟨turnId, hget⟩, hq⟩
    obtain ⟨row, hrow, -, rfl⟩ := (h.turns _ _).mp hget
    exact ⟨row, List.mem_filter.mpr ⟨hrow, hq⟩, rfl⟩
  · rintro ⟨row, hrow, rfl⟩
    obtain ⟨hmem, hq⟩ := List.mem_filter.mp hrow
    exact ⟨⟨row.turnId, (h.turns _ _).mpr ⟨row, hmem, rfl, rfl⟩⟩, hq⟩

/-- Both stores list the turns of a session in one order: their numbers are distinct. -/
lemma AgreeTurns.sortBy_turnsOf (h : AgreeTurns db m t) [LinearOrder κ] (number : ℕ → κ)
    (hinj : Function.Injective number) (sessionId : String) (q : Turn → Bool)
    (hp : ∀ row, p row = true ↔ row.sessionId = sessionId ∧ q (db.rowToTurn row) = true) :
    sortBy (fun turn => number turn.turnNumber) ((m.turnsOf sessionId).filter q) =
      (db.select t p fun row => number row.turnNumber).map db.rowToTurn := by
  have hkey : ∀ a ∈ t.rows, ∀ b ∈ t.rows, p a = true → p b = true →
      number (db.rowToTurn a).turnNumber = number (db.rowToTurn b).turnNumber → a = b :=
    fun a ha b hb hpa hpb heq => TurnTable.eq_of_turnNumber ha hb
      (((hp a).mp hpa).1.trans ((hp b).mp hpb).1.symm) (hinj heq)
  refine Eq.trans ?_ (map_select (fun turn => number turn.turnNumber) hkey).symm
  refine sortBy_eq_sortBy (fun a ha b hb heq => ?_) (h.perm_turnsOf sessionId q hp)
  obtain ⟨row, hrow, rfl⟩ := List.mem_map.mp ha
  obtain ⟨row', hrow', rfl⟩ := List.mem_map.mp hb
  obtain ⟨hmem, hprow⟩ := List.mem_filter.mp hrow
  obtain ⟨hmem', hprow'⟩ := List.mem_filter.mp hrow'
  exact congrArg _ (hkey row hmem row' hmem' hprow hprow' heq)

/-- **Both stores answer alike** and stay in agreement, for the operations that they treat alike. -/
theorem Agree.run (h : Agree db m t) {op : Operation} (halike : Alike db t op) :
    (m.run op).1 = (db.run t op).1 ∧ Agree db (m.run op).2 (db.run t op).2 := by
  cases op with
  | create request now randomUUID => exact h.create halike.1 halike.2
  | ingestCompleted request randomUUID =>
    cases hanchor : m.anchoredTurnId request.sessionId request.turnAnchorId with
    | none => exact h.ingestCompleted_new halike.1 halike.2 hanchor
    | some turnId =>
      obtain ⟨old, hold, hs, ha, -⟩ := (h.anchors _ _ _).mp hanchor
      exact h.ingestCompleted_again halike.2 hold hs ha
  | complete request now => exact h.complete halike
  | set turn =>
    obtain ⟨hsession, hnumber, hmax⟩ := halike
    by_cases hnew : ∀ row ∈ t.rows, row.turnId ≠ turn.turnId
    · exact h.set_new hsession hnumber hnew
    · push Not at hnew
      obtain ⟨old, hold, hid⟩ := hnew
      obtain ⟨hs, hle⟩ := hmax old hold hid
      exact h.set_again hsession hnumber hold hid hs hle
  | get turnId =>
    refine ⟨?_, h⟩
    have hget : m.turnsById.get? turnId = (t.byId turnId).map db.rowToTurn := by
      refine Option.ext fun turn => ?_
      rw [h.turns, Option.map_eq_some_iff]
      simp only [TurnTable.byId_eq_some, and_assoc]
    rw [MemoryStore.run, Database.run, hget]
  | getBySession sessionId status limit =>
    refine ⟨?_, h⟩
    rw [MemoryStore.run, Database.run]
    rw [map_limited]
    have hlist := h.sortBy_turnsOf id Function.injective_id sessionId
      (fun turn => status.all fun st => turn.status = st)
      (p := fun row => row.sessionId = sessionId ∧ status.all fun st => row.status = st)
      fun row => by rw [decide_eq_true_eq]; rfl
    exact congrArg (fun turns => Except.ok (Result.turns (limited limit turns))) hlist
  | getActive sessionId =>
    refine ⟨?_, h⟩
    rw [MemoryStore.run, Database.run]
    rw [← List.head?_map]
    have hlist := h.sortBy_turnsOf OrderDual.toDual OrderDual.toDual.injective sessionId
      (fun turn => turn.status = .active)
      (p := fun row => row.sessionId = sessionId ∧ row.status = .active)
      fun row => by rw [decide_eq_true_eq, decide_eq_true_eq]; rfl
    exact congrArg (fun turns => Except.ok (Result.found (List.head? turns))) hlist
  | listActive =>
    refine ⟨?_, h⟩
    have hkey : ∀ a ∈ t.rows, ∀ b ∈ t.rows, decide (a.status = .active) = true →
        decide (b.status = .active) = true →
        (db.rowToTurn a).startedAt = (db.rowToTurn b).startedAt → a = b :=
      fun a ha b hb hpa hpb heq => halike a ha b hb (of_decide_eq_true hpa) (of_decide_eq_true hpb) heq
    have hlist : sortBy Turn.startedAt (m.turnsById.values.filter fun turn => turn.status = .active) =
        (db.select t (fun row => row.status = .active) TurnRow.startedAt).map db.rowToTurn := by
      refine Eq.trans ?_ (map_select Turn.startedAt hkey).symm
      refine sortBy_eq_sortBy (fun a ha b hb heq => ?_) (h.perm_values _)
      obtain ⟨row, hrow, rfl⟩ := List.mem_map.mp ha
      obtain ⟨row', hrow', rfl⟩ := List.mem_map.mp hb
      obtain ⟨hmem, hprow⟩ := List.mem_filter.mp hrow
      obtain ⟨hmem', hprow'⟩ := List.mem_filter.mp hrow'
      exact congrArg _ (hkey row hmem row' hmem' hprow hprow' heq)
    rw [MemoryStore.run, Database.run]
    exact congrArg (fun turns => Except.ok (Result.turns turns)) hlist

end Makaio.TurnStorage

import Makaio.Foundations.Machine
import Makaio.TurnStorage.Agreement
import Makaio.TurnStorage.Interleaving

set_option autoImplicit false

/-!
# Two turn stores on one run

The store in memory and the store in a database under the same operations, and what the turns of a
store are for its users: a map in which every operation replaces one turn at most, new turns take the
number after the highest of their session, and a completion moves a turn once.

## Main definitions

* `Stores` — both stores, and one operation on both.
* `Orderly` — what an operation may do to the turns of a store.

## Main results

* `turn_stores` — operations that both stores treat alike are answered alike and
  orderly, in every run of them; and in every interleaving of creations and ingestions on the database,
  new turns have numbers of their own.
* `not_turn_stores` — a creation under an identifier in use is not.
-/

namespace Makaio.TurnStorage

open Foundations

/-- Both stores. -/
structure Stores where
  memory : MemoryStore
  table : TurnTable

/-- The stores without turns. -/
def Stores.start : Stores := ⟨.empty, .empty⟩

/-- One operation on both stores. -/
def Stores.step (db : Database) (s : Stores) (op : Operation) : Option Stores :=
  some ⟨(s.memory.run op).2, (db.run s.table op).2⟩

/-! ### The turns of a store -/

def MemoryStore.turns (m : MemoryStore) (turnId : String) : Option Turn := m.turnsById.get? turnId

/-- The turns of the store in the database. -/
def Database.turns (db : Database) (t : TurnTable) (turnId : String) : Option Turn :=
  (t.byId turnId).map db.rowToTurn

/-- The turn of an anchor in the database. -/
def TurnTable.anchoredTurnId (t : TurnTable) (sessionId anchor : String) : Option String :=
  (t.byAnchor sessionId anchor).map TurnRow.turnId

/-- The highest number of a session, or `0` without turns. -/
def Highest (turns : String → Option Turn) (sessionId : String) (n : ℕ) : Prop :=
  (∀ turnId turn, turns turnId = some turn → turn.sessionId = sessionId → turn.turnNumber ≤ n) ∧
    (n = 0 ∨ ∃ turnId turn, turns turnId = some turn ∧ turn.sessionId = sessionId ∧ turn.turnNumber = n)

/-- A new turn has a new identifier and the number after the highest of its session. -/
def IsNew (turns : String → Option Turn) (turn : Turn) : Prop :=
  turns turn.turnId = none ∧ ∃ n, Highest turns turn.sessionId n ∧ turn.turnNumber = n + 1

/-- Turns with one of them stored and the others as they were. -/
def StoredIn (turns turns' : String → Option Turn) (turn : Turn) : Prop :=
  ∀ turnId, turns' turnId = if turnId = turn.turnId then some turn else turns turnId

/-- No two turns of a session share a number. -/
def DistinctNumbers (turns : String → Option Turn) : Prop :=
  ∀ id id' turn turn', turns id = some turn → turns id' = some turn' →
    turn.sessionId = turn'.sessionId → turn.turnNumber = turn'.turnNumber → id = id'

/-- What an operation that is answered may do to the turns of a store: a new turn is new, an anchor that
is ingested again keeps the identity of its turn, and a completion moves an active turn to a terminal
status or changes the usage at most. -/
def Orderly (turns turns' : String → Option Turn) (anchored : String → String → Option String) :
    Operation → Except Failure Result → Prop
  | .create _ _ _, .ok (.turn turn) => IsNew turns turn ∧ StoredIn turns turns' turn
  | .ingestCompleted request _, .ok (.ingested turn true) =>
    anchored request.sessionId request.turnAnchorId = none ∧ IsNew turns turn ∧
      StoredIn turns turns' turn
  | .ingestCompleted request _, .ok (.ingested turn false) =>
    anchored request.sessionId request.turnAnchorId = some turn.turnId ∧ StoredIn turns turns' turn ∧
      ∃ old, turns turn.turnId = some old ∧ turn.sessionId = old.sessionId ∧
        turn.turnNumber = old.turnNumber ∧ turn.startedAt = old.startedAt ∧
        turn.initiator = old.initiator
  | .complete request _, .ok (.completed turn transitioned) =>
    StoredIn turns turns' turn ∧ ∃ old, turns request.turnId = some old ∧
      if transitioned then old.status = .active ∧ turn.status = request.status.toStatus
      else turn = { old with usage := turn.usage }
  | _, _ => True

variable {db : Database} {m : MemoryStore} {t : TurnTable}

/-- Stores in agreement have the same turns. -/
lemma Agree.turns_eq (h : Agree db m t) : m.turns = db.turns t := by
  refine funext fun turnId => Option.ext fun turn => ?_
  rw [MemoryStore.turns, h.turns, Database.turns, Option.map_eq_some_iff]
  simp only [TurnTable.byId_eq_some, and_assoc]

/-- Stores in agreement have the same anchors. -/
lemma Agree.anchored_eq (h : Agree db m t) : m.anchoredTurnId = t.anchoredTurnId := by
  refine funext fun sessionId => funext fun anchor => Option.ext fun turnId => ?_
  rw [h.anchors, TurnTable.anchoredTurnId, Option.map_eq_some_iff]
  simp only [TurnTable.byAnchor_eq_some, and_assoc]

/-- The highest number that the store in memory has seen is the highest of its turns. -/
lemma Agree.highest (h : Agree db m t) (sessionId : String) :
    Highest m.turns sessionId (m.maxTurnNumber sessionId) := by
  rw [h.maxTurnNumber]
  constructor
  · intro turnId turn hturn hs
    obtain ⟨row, hrow, -, rfl⟩ := (h.turns _ _).mp hturn
    exact hs ▸ TurnTable.le_maxTurnNumber hrow
  · by_cases hrows : ∃ row ∈ t.rows, row.sessionId = sessionId ∧
        row.turnNumber = t.maxTurnNumber sessionId
    · obtain ⟨row, hrow, hs, hn⟩ := hrows
      exact .inr ⟨row.turnId, _, (h.turns _ _).mpr ⟨row, hrow, rfl, rfl⟩, hs, hn⟩
    · push Not at hrows
      refine .inl (Nat.eq_zero_of_not_pos fun hpos => ?_)
      have hle : t.maxTurnNumber sessionId ≤ t.maxTurnNumber sessionId - 1 :=
        TurnTable.maxTurnNumber_le fun row hrow hs =>
          Nat.le_sub_one_of_lt (lt_of_le_of_ne (hs ▸ TurnTable.le_maxTurnNumber hrow) (hrows row hrow hs))
      omega

lemma storedIn_indexTurn (m : MemoryStore) (turn : Turn) :
    StoredIn m.turns (m.indexTurn turn).turns turn :=
  fun turnId => MemoryStore.get?_indexTurn m turn turnId

/-- A turn that is stored already is stored in the same turns. -/
lemma storedIn_self {turns : String → Option Turn} {turn : Turn} (h : turns turn.turnId = some turn) :
    StoredIn turns turns turn := by
  intro turnId
  split_ifs with hid
  · rw [hid, h]
  · rfl

/-- The turns in memory have the identifiers that they are under. -/
lemma Agree.turnId_of_get (h : Agree db m t) {turnId : String} {turn : Turn}
    (hget : m.turnsById.get? turnId = some turn) : turn.turnId = turnId := by
  obtain ⟨row, -, hid, rfl⟩ := (h.turns _ _).mp hget
  exact hid

/-- Stores in agreement have turns with numbers of their own. -/
lemma Agree.distinctNumbers (h : Agree db m t) : DistinctNumbers m.turns := by
  intro id id' turn turn' hturn hturn' hs hn
  obtain ⟨row, hrow, hid, rfl⟩ := (h.turns _ _).mp hturn
  obtain ⟨row', hrow', hid', rfl⟩ := (h.turns _ _).mp hturn'
  rw [← hid, ← hid', TurnTable.eq_of_turnNumber hrow hrow' hs hn]

/-- The store in memory is orderly. -/
lemma Agree.orderly (h : Agree db m t) {op : Operation} (halike : Alike db t op) :
    Orderly m.turns (m.run op).2.turns m.anchoredTurnId op (m.run op).1 := by
  have hnone : ∀ turnId, (∀ row ∈ t.rows, row.turnId ≠ turnId) → m.turns turnId = none := by
    intro turnId hno
    rw [h.turns_eq, Database.turns, TurnTable.byId_eq_none.mpr hno, Option.map_none]
  cases op with
  | create request now randomUUID =>
    exact ⟨⟨hnone _ halike.2, _, h.highest _, rfl⟩, storedIn_indexTurn _ _⟩
  | ingestCompleted request randomUUID =>
    rw [MemoryStore.run, MemoryStore.ingestCompleted]
    cases hanchor : m.anchoredTurnId request.sessionId request.turnAnchorId with
    | none => exact ⟨hanchor, ⟨hnone _ halike.2, _, h.highest _, rfl⟩, storedIn_indexTurn _ _⟩
    | some turnId =>
      dsimp only
      cases hget : m.turnsById.get? turnId with
      | none => trivial
      | some old =>
        have hid := h.turnId_of_get hget
        refine ⟨hanchor.trans (congrArg some hid.symm), storedIn_indexTurn _ _, old, ?_, rfl, rfl, rfl, rfl⟩
        exact (congrArg m.turnsById.get? hid).trans hget
  | complete request now =>
    rw [MemoryStore.run, MemoryStore.complete]
    cases hget : m.turnsById.get? request.turnId with
    | none => trivial
    | some old =>
      dsimp only
      have hid := h.turnId_of_get hget
      split_ifs with hother hterminal
      · exact ⟨storedIn_self ((congrArg m.turnsById.get? hid).trans hget), old, hget, rfl⟩
      · refine ⟨storedIn_indexTurn _ _, old, hget, ?_⟩
        rw [hterminal]
        rfl
      · refine ⟨storedIn_indexTurn _ _, old, hget, ?_⟩
        rw [Bool.eq_false_iff.mpr hterminal]
        refine ⟨?_, rfl⟩
        cases hstatus : old.status with
        | active => rfl
        | completed | error => exact absurd (by rw [hstatus]; rfl) hterminal
  | set turn | get turnId | getBySession sessionId status limit | getActive sessionId | listActive => trivial

/-- The empty stores agree. -/
lemma agree_start : Agree db .empty .empty where
  turns _ _ := ⟨fun h => (by cases h), fun ⟨_, h, _⟩ => (by cases h)⟩
  ids _ _ := ⟨fun h => (by cases h), fun ⟨_, h, _⟩ => (by cases h)⟩
  nodup _ := .nil
  maxTurnNumber _ := rfl
  anchors _ _ _ := ⟨fun h => (by cases h), fun ⟨_, h, _⟩ => (by cases h)⟩

/-- The stores agree in every run of operations that they treat alike. -/
lemma agree_of_reach {s : Stores}
    (h : Reach (· = Stores.start) (Stores.step db) (fun s op => Alike db s.table op) s) :
    Agree db s.memory s.table := by
  refine h.invariant (fun s => Agree db s.memory s.table) ?_ fun s op s' hs halike hstep => ?_
  · rintro s rfl
    exact agree_start
  · cases hstep
    exact (hs.run halike).2

/-- **Two turn stores on one run**: in every run of operations that both stores treat alike, they answer
alike, do to their turns what the operations are for, and keep numbers and anchors apart; and from any
table, in every interleaving of creations and ingestions on the database, each row that a step adds has
the number after the maximum of its session, no step changes what identifies a row, calls that have
returned new turns have numbers of their own, no call fails to read its row back, and none runs out of
attempts among as many calls as there are attempts. -/
theorem turn_stores (db : Database) :
    (∀ s, Reach (· = Stores.start) (Stores.step db) (fun s op => Alike db s.table op) s →
      DistinctNumbers s.memory.turns ∧ DistinctNumbers (db.turns s.table) ∧
        ∀ op, Alike db s.table op →
          (s.memory.run op).1 = (db.run s.table op).1 ∧
            Orderly s.memory.turns (s.memory.run op).2.turns s.memory.anchoredTurnId op
              (s.memory.run op).1 ∧
            Orderly (db.turns s.table) (db.turns (db.run s.table op).2) s.table.anchoredTurnId op
              (db.run s.table op).1) ∧
    ∀ t₀ s, Reach (· = ⟨t₀, []⟩) (System.step db) System.Fresh s →
      (∀ a ∈ s.table.rows, ∀ b ∈ s.table.rows, a.sessionId = b.sessionId →
        (a.turnNumber = b.turnNumber ∨ ∃ anchor, a.turnAnchorId = some anchor ∧
          b.turnAnchorId = some anchor) → a = b) ∧
      (∀ (i j : ℕ) (c c' : Call) (turn turn' : Turn), i ≠ j → s.calls[i]? = some c →
        s.calls[j]? = some c' → c.phase = .returned turn true → c'.phase = .returned turn' true →
        turn.sessionId = turn'.sessionId → turn.turnNumber ≠ turn'.turnNumber) ∧
      (∀ c ∈ s.calls, ∀ turn, c.phase = .returned turn true → ∃ row ∈ s.table.rows,
        row.turnId = turn.turnId ∧ row.sessionId = turn.sessionId ∧
          row.turnNumber = turn.turnNumber) ∧
      (∀ c ∈ s.calls, c.phase ≠ .lost) ∧
      (s.calls.length ≤ turnCreateMaxAttempts →
        ∀ c ∈ s.calls, c.phase ≠ .failed (.unique .sessionNumber)) ∧
      ∀ step s', s.Fresh step → s.step db step = some s' →
        (∀ row ∈ s'.table.rows, (∀ r ∈ s.table.rows, r.turnId ≠ row.turnId) →
          row.turnNumber = s.table.maxTurnNumber row.sessionId + 1) ∧
        Kept s.table s'.table := by
  constructor
  · intro s hs
    have hagree := agree_of_reach hs
    refine ⟨hagree.distinctNumbers, hagree.turns_eq ▸ hagree.distinctNumbers, fun op halike => ?_⟩
    obtain ⟨hanswer, hagree'⟩ := hagree.run halike
    have horderly := hagree.orderly halike
    refine ⟨hanswer, horderly, ?_⟩
    rwa [hanswer, hagree.turns_eq, hagree'.turns_eq, hagree.anchored_eq] at horderly
  · intro t₀ s hs
    have hsound := interleaved_of_reach hs
    refine ⟨?_, ?_, fun c hc turn => hsound.row_of_returned hc, fun c hc => hsound.not_lost hc,
      fun hcalls c hc => hsound.not_failed hcalls hc,
      fun step s' _ hstep => ⟨fun row hrow hnew => hsound.step_new hstep hrow hnew,
        hsound.step_kept hstep⟩⟩
    · rintro a ha b hb hsession (hnumber | ⟨anchor, hanchor, hanchor'⟩)
      · exact TurnTable.eq_of_turnNumber ha hb hsession hnumber
      · exact TurnTable.eq_of_turnAnchorId ha hb hsession hanchor hanchor'
    · intro i j c c' turn turn' hij hi hj hc hc' hsession hnumber
      obtain ⟨r, hr, hid, hs, hn⟩ := hsound.row_of_returned (List.mem_of_getElem? hi) hc
      obtain ⟨r', hr', hid', hs', hn'⟩ := hsound.row_of_returned (List.mem_of_getElem? hj) hc'
      have hsame := TurnTable.eq_of_turnNumber hr hr' (hs.trans (hsession.trans hs'.symm))
        (hn.trans (hnumber.trans hn'.symm))
      exact hsound.turnId_ne hij hi hj hc hc' (hid.symm.trans ((congrArg _ hsame).trans hid'))

/-! ### Runs -/

/-- A database that has every session, lets assignments race, and returns rows in the order of their
insertion. -/
def Database.ofInsertion : Database where
  format := .plain
  hasSession _ := true
  maxCounterAssignmentRaces := true
  scan rows := rows
  scan_perm rows := .refl rows

/-- A turn that is created and completed beside one that is ingested. -/
def managedAndIngested : List Operation :=
  [.create ⟨"s", some "a", none⟩ 10 "u", .ingestCompleted ⟨"s", "m", 1, 2, .error, none, none, none⟩ "v",
    .complete ⟨"a", .completed, some .active, none, none⟩ 20]

/-- Two creations of which one takes the number that the other has computed. -/
def racingCreations : List Step :=
  [.call (.create ⟨"s", none, none⟩ "a" 1), .call (.create ⟨"s", none, none⟩ "b" 1), .snapshot 0,
    .snapshot 1, .write 1, .write 0, .snapshot 0, .write 0, .readBack 1, .readBack 0]

/-- Whether a call has returned a new turn with a number. -/
def Call.hasReturned (c : Call) (turnNumber : ℕ) : Bool :=
  match c.phase with
  | .returned turn true => turn.turnNumber = turnNumber
  | _ => false

/-- The stores answer alike after a managed and an ingested turn, and two racing creations get the
numbers `2` and `1`. -/
theorem turn_stores_managed_and_racing :
    (∃ s, runGuarded (Stores.step .ofInsertion) (fun s op => Alike .ofInsertion s.table op) Stores.start
        managedAndIngested = some s ∧ s.table.maxTurnNumber "s" = 2 ∧
      (s.memory.run (.getBySession "s" none none)).1 =
        (Database.run .ofInsertion s.table (.getBySession "s" none none)).1) ∧
    ∃ s c, Reach (· = ⟨.empty, []⟩) (System.step .ofInsertion) System.Fresh s ∧ c ∈ s.calls ∧
      c.hasReturned 2 = true ∧ c.phase ≠ .failed (.unique .sessionNumber) := by
  constructor
  · have hrun : ((runGuarded (Stores.step .ofInsertion) (fun s op => Alike .ofInsertion s.table op)
        Stores.start managedAndIngested).any fun s => s.table.maxTurnNumber "s" = 2) = true := by
      decide +kernel
    obtain ⟨s, hs, hmax⟩ := (Option.any_eq_true _ _).mp hrun
    refine ⟨s, hs, of_decide_eq_true hmax, ?_⟩
    exact (((turn_stores .ofInsertion).1 s (.of_runGuarded _ (.start rfl) hs)).2.2
      (.getBySession "s" none none) trivial).1
  · have hrun : ((runGuarded (System.step .ofInsertion) System.Fresh ⟨.empty, []⟩ racingCreations).any
        fun s => s.calls.length ≤ turnCreateMaxAttempts ∧ s.calls.any fun c => c.hasReturned 2) =
          true := by
      decide +kernel
    obtain ⟨s, hs, hcalls⟩ := (Option.any_eq_true _ _).mp hrun
    obtain ⟨hlength, hany⟩ := of_decide_eq_true hcalls
    obtain ⟨c, hc, hreturned⟩ := List.any_eq_true.mp hany
    have hreach : Reach (· = ⟨.empty, []⟩) (System.step .ofInsertion) System.Fresh s :=
      .of_runGuarded _ (.start rfl) hs
    exact ⟨s, c, hreach, hc, hreturned,
      ((turn_stores .ofInsertion).2 .empty s hreach).2.2.2.2.1 hlength c hc⟩

/-- A creation under an identifier in use is accepted by the store in memory and rejected by the
database. -/
theorem not_turn_stores : ¬∀ (db : Database) (s : Stores),
    Reach (· = Stores.start) (Stores.step db) (fun _ _ => True) s →
      ∀ op, (s.memory.run op).1 = (db.run s.table op).1 := by
  intro h
  have hrun : ((runGuarded (Stores.step .ofInsertion) (fun _ _ => True) Stores.start
      [.create ⟨"s", some "a", none⟩ 10 "u"]).any fun s =>
        ¬((s.memory.run (.create ⟨"s", some "a", none⟩ 20 "v")).1 =
          (Database.run .ofInsertion s.table (.create ⟨"s", some "a", none⟩ 20 "v")).1)) = true := by
    decide +kernel
  obtain ⟨s, hs, hne⟩ := (Option.any_eq_true _ _).mp hrun
  exact of_decide_eq_true hne (h .ofInsertion s (.of_runGuarded _ (.start rfl) hs) _)

end Makaio.TurnStorage

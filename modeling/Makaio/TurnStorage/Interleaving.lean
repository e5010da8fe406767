import Makaio.Foundations.Counting
import Makaio.Foundations.Machine
import Makaio.TurnStorage.Drizzle

set_option autoImplicit false

/-!
# Concurrent creations and ingestions

Calls of `turn.create` and `turn.ingestCompleted` that run at once on one database: each computes a
number, runs its statement, tries again when the number is taken, and reads the row back.  Where the
engine lets assignments race, other calls can come between the maximum that a statement sees and its
write.

## Main definitions

* `Request`, `Phase` — the calls and how far they are.
* `System.step` — one step of one call.
* `Interleaved` — what holds of the calls in every state.

## Main results

* `Interleaved.step` — every step keeps it.
* `step_new` — a row that a step adds has the number after the maximum.
* `step_kept` — a step keeps what identifies the rows.
-/

namespace Makaio.TurnStorage

open Foundations

/-- A call of `turn.create` or `turn.ingestCompleted`, with the identifier and time it has taken. -/
inductive Request
  | create (request : CreateRequest) (turnId : String) (now : ℤ)
  | ingestCompleted (request : IngestCompletedRequest) (candidateId : String)

namespace Request

/-- The identifier that the row of a call would have. -/
def turnId : Request → String
  | .create _ turnId _ => turnId
  | .ingestCompleted _ candidateId => candidateId

/-- The session of a call. -/
def sessionId : Request → String
  | .create request _ _ => request.sessionId
  | .ingestCompleted request _ => request.sessionId

/-- Whether the identifier of a call is generated for it. -/
def isIngestion : Request → Bool
  | .create _ _ _ => false
  | .ingestCompleted _ _ => true

/-- The row that a call inserts, under the number it has computed. -/
def row (db : Database) (turnNumber : ℕ) : Request → TurnRow
  | .create request turnId now => db.createRow request turnId now turnNumber
  | .ingestCompleted request candidateId => db.ingestRow request candidateId turnNumber

/-- The statement of a call, under the number it has computed. -/
def statement (db : Database) (turnNumber : ℕ) (t : TurnTable) :
    Request → Except DatabaseError TurnTable
  | .create request turnId now => db.insert t (db.createRow request turnId now turnNumber)
  | .ingestCompleted request candidateId =>
    db.upsertAnchored t (db.ingestRow request candidateId turnNumber)

/-- The row that a call reads back. -/
def readBack (t : TurnTable) : Request → Option TurnRow
  | .create _ turnId _ => t.byId turnId
  | .ingestCompleted request _ => t.byAnchor request.sessionId request.turnAnchorId

/-- Whether a row is the one that a call reads back. -/
def Reads (r : TurnRow) : Request → Prop
  | .create request turnId _ => r.turnId = turnId ∧ r.sessionId = request.sessionId
  | .ingestCompleted request _ =>
    r.sessionId = request.sessionId ∧ r.turnAnchorId = some request.turnAnchorId

/-- What a call answers for the row it has read back: the turn, and whether it is new. -/
def answer (db : Database) (row : TurnRow) : Request → Turn × Bool
  | .create request turnId now =>
    ({ turnId, sessionId := request.sessionId, turnNumber := row.turnNumber, startedAt := now,
       completedAt := none, status := .active, error := none, usage := none,
       initiator := request.initiator }, true)
  | .ingestCompleted _ candidateId => (db.rowToTurn row, row.turnId = candidateId)

end Request

/-- How far a call is. -/
inductive Phase
  /-- about to run its statement, for the given time -/
  | ready (attempt : ℕ)
  /-- the statement has computed a number -/
  | computed (attempt : ℕ) (turnNumber : ℕ)
  /-- the statement has written -/
  | written
  | returned (turn : Turn) (created : Bool)
  | failed (error : DatabaseError)
  /-- the row could not be read back -/
  | lost

/-- Whether the statement of a call has written. -/
def Phase.isDone : Phase → Bool
  | .written => true
  | .returned _ _ => true
  | _ => false

/-- A call and how far it is. -/
structure Call where
  request : Request
  phase : Phase

/-- The table and the calls. -/
structure System where
  table : TurnTable
  calls : List Call

/-- The steps of the calls. -/
inductive Step
  | call (request : Request)
  | snapshot (i : ℕ)
  | write (i : ℕ)
  | readBack (i : ℕ)

namespace System

variable (db : Database)

/-- A call with another phase. -/
def setPhase (s : System) (i : ℕ) (request : Request) (phase : Phase) : System :=
  { s with calls := s.calls.set i ⟨request, phase⟩ }

/-- The write of a statement; a violation of the number index is tried again where assignments race. -/
def write (s : System) (i : ℕ) (request : Request) (attempt turnNumber : ℕ) : System :=
  match request.statement db turnNumber s.table with
  | .ok t' => { s.setPhase i request .written with table := t' }
  | .error e =>
    if attempt ≥ turnCreateMaxAttempts ∨ db.maxCounterAssignmentRaces = false ∨
        e ≠ .unique .sessionNumber then
      s.setPhase i request (.failed e)
    else s.setPhase i request (.ready (attempt + 1))

def step (s : System) : Step → Option System
  | .call request => some { s with calls := s.calls ++ [⟨request, .ready 1⟩] }
  | .snapshot i =>
    match s.calls[i]? with
    | some ⟨request, .ready attempt⟩ =>
      if db.maxCounterAssignmentRaces then
        some (s.setPhase i request
          (.computed attempt (s.table.maxTurnNumber request.sessionId + 1)))
      else none
    | _ => none
  | .write i =>
    match s.calls[i]? with
    | some ⟨request, .ready attempt⟩ =>
      -- the statement computes its number and writes in one step
      if db.maxCounterAssignmentRaces then none
      else some (s.write db i request attempt (s.table.maxTurnNumber request.sessionId + 1))
    | some ⟨request, .computed attempt turnNumber⟩ =>
      if db.maxCounterAssignmentRaces then some (s.write db i request attempt turnNumber) else none
    | _ => none
  | .readBack i =>
    match s.calls[i]? with
    | some ⟨request, .written⟩ =>
      match request.readBack s.table with
      | some row =>
        some (s.setPhase i request
          (.returned (request.answer db row).1 (request.answer db row).2))
      | none => some (s.setPhase i request .lost)
    | _ => none

/-- Generated identifiers are new: an ingestion takes one that is in no row and in no other call. -/
def Fresh (s : System) : Step → Prop
  | .call request =>
    (request.isIngestion = true → ∀ row ∈ s.table.rows, row.turnId ≠ request.turnId) ∧
      ∀ c ∈ s.calls, (c.request.isIngestion = true ∨ request.isIngestion = true) →
        c.request.turnId ≠ request.turnId
  | .snapshot _ => True
  | .write _ => True
  | .readBack _ => True

instance (s : System) : DecidablePred s.Fresh
  | .call request => inferInstanceAs (Decidable
      ((request.isIngestion = true → ∀ row ∈ s.table.rows, _) ∧ ∀ c ∈ s.calls, _))
  | .snapshot _ => .isTrue trivial
  | .write _ => .isTrue trivial
  | .readBack _ => .isTrue trivial

end System

variable {db : Database} {t t' : TurnTable} {row : TurnRow}

/-! ### What a statement writes -/

/-- Two rows that differ in the columns of a completion at most. -/
structure Identical (a b : TurnRow) : Prop where
  turnId : a.turnId = b.turnId
  sessionId : a.sessionId = b.sessionId
  turnNumber : a.turnNumber = b.turnNumber
  startedAt : a.startedAt = b.startedAt
  initiator : a.initiator = b.initiator
  turnAnchorId : a.turnAnchorId = b.turnAnchorId

/-- A row is identical to itself. -/
lemma Identical.refl (a : TurnRow) : Identical a a := ⟨rfl, rfl, rfl, rfl, rfl, rfl⟩

variable {request : Request} {c : Call}

/-- A call reads back a row up to the columns of a completion. -/
lemma Identical.reads {a b : TurnRow} (h : Identical a b) (ha : request.Reads a) :
    request.Reads b := by
  cases request with
  | create request turnId now => exact ⟨h.turnId.symm.trans ha.1, h.sessionId.symm.trans ha.2⟩
  | ingestCompleted request candidateId =>
    exact ⟨h.sessionId.symm.trans ha.1, h.turnAnchorId.symm.trans ha.2⟩

/-- The completion fields do not identify a row. -/
lemma identical_completionFields (excluded existing : TurnRow) :
    Identical existing (Database.completionFields excluded existing) := ⟨rfl, rfl, rfl, rfl, rfl, rfl⟩

/-- Every row of a table is in another one, up to the columns of a completion. -/
def Kept (t t' : TurnTable) : Prop := ∀ r ∈ t.rows, ∃ r' ∈ t'.rows, Identical r r'

/-- A number is taken in a session. -/
def Taken (t : TurnTable) (sessionId : String) (turnNumber : ℕ) : Prop :=
  ∃ r ∈ t.rows, r.sessionId = sessionId ∧ r.turnNumber = turnNumber

/-- What a statement with a row writes. -/
inductive Written (t t' : TurnTable) (row : TurnRow) : Prop
  /-- the row is new -/
  | inserted (hfree : Database.violated t row = none) (hmem : ∀ r, r ∈ t'.rows ↔ r ∈ t.rows ∨ r = row)
      (hlength : t'.rows.length = t.rows.length + 1)
  /-- the row of the anchor has other completion fields -/
  | updated (hkept : Kept t t') (hback : Kept t' t) (hlength : t'.rows.length = t.rows.length)
      (hanchored : ∃ r ∈ t.rows, r.sessionId = row.sessionId ∧
        ∃ anchor, r.turnAnchorId = some anchor ∧ row.turnAnchorId = some anchor)

/-- An insertion that succeeds writes its row. -/
lemma written_of_insert (h : db.insert t row = .ok t') : Written t t' row := by
  obtain ⟨hfree, hmem⟩ := Database.mem_of_insert h
  refine .inserted hfree hmem ?_
  rw [Database.insert] at h
  split_ifs at h
  split at h
  · cases h
  · cases h
    rw [Table.insert, List.length_append, List.length_singleton]

/-- A statement of an ingestion that succeeds writes. -/
lemma written_of_upsertAnchored (h : db.upsertAnchored t row = .ok t') : Written t t' row := by
  rw [Database.upsertAnchored] at h
  split_ifs at h with hviolates
  · split at h
    · rename_i t₁ hupdate
      cases h
      obtain ⟨r, hr, hclash⟩ := Table.violates_iff.mp hviolates
      refine .updated (fun r hr => ?_) (fun r' hr' => ?_) ?_
        ⟨r, hr, clash_sessionAnchor.mp hclash⟩
      · by_cases hp : TurnIndex.sessionAnchor.index.clash row r = true
        · exact ⟨_, (Table.mem_update? hupdate).mpr ⟨r, hr, .inl ⟨hp, rfl⟩⟩,
            identical_completionFields row r⟩
        · exact ⟨r, (Table.mem_update? hupdate).mpr ⟨r, hr, .inr ⟨Bool.eq_false_iff.mpr hp, rfl⟩⟩,
            .refl r⟩
      · obtain ⟨r, hr, ⟨-, rfl⟩ | ⟨-, rfl⟩⟩ := (Table.mem_update? hupdate).mp hr'
        · exact ⟨r, hr, ⟨rfl, rfl, rfl, rfl, rfl, rfl⟩⟩
        · exact ⟨r', hr, .refl r'⟩
      · rw [Table.rows_update? hupdate, List.length_map]
    · cases h
  · exact written_of_insert h

variable {turnNumber i : ℕ} {phase : Phase}

/-- What a statement of a call writes. -/
lemma written_of_statement (h : request.statement db turnNumber t = .ok t') :
    Written t t' (request.row db turnNumber) := by
  cases request with
  | create request turnId now => exact written_of_insert h
  | ingestCompleted request candidateId => exact written_of_upsertAnchored h

/-- An insertion that violates the number index has a number that is taken. -/
lemma taken_of_insert (h : db.insert t row = .error (.unique .sessionNumber)) :
    Taken t row.sessionId row.turnNumber := by
  rw [Database.insert] at h
  split_ifs at h
  · split at h
    · rename_i i hi
      cases h
      obtain ⟨r, hr, hclash⟩ :=
        Table.violates_iff.mp (Database.violates_of_violated_eq_some hi)
      exact ⟨r, hr, clash_sessionNumber.mp hclash⟩
    · cases h
  · cases h

/-- A statement that violates the number index has a number that is taken. -/
lemma taken_of_statement (h : request.statement db turnNumber t = .error (.unique .sessionNumber)) :
    Taken t request.sessionId turnNumber := by
  cases request with
  | create request turnId now => exact taken_of_insert h
  | ingestCompleted request candidateId =>
    rw [Request.statement, Database.upsertAnchored] at h
    split_ifs at h
    · split at h <;> cases h
    · exact taken_of_insert h

/-! ### Numbers -/

/-- Numbers stay taken. -/
lemma Kept.taken (h : Kept t t') {sessionId : String} {n : ℕ} (ht : Taken t sessionId n) :
    Taken t' sessionId n := by
  obtain ⟨r, hr, hs, hn⟩ := ht
  obtain ⟨r', hr', hsame⟩ := h r hr
  exact ⟨r', hr', hsame.sessionId.symm.trans hs, hsame.turnNumber.symm.trans hn⟩

/-- The maximum does not go down. -/
lemma Kept.max_le (h : Kept t t') (sessionId : String) :
    t.maxTurnNumber sessionId ≤ t'.maxTurnNumber sessionId := by
  refine TurnTable.maxTurnNumber_le fun r hr hs => ?_
  obtain ⟨r', hr', hsame⟩ := h r hr
  rw [hsame.turnNumber, ← hs, hsame.sessionId]
  exact TurnTable.le_maxTurnNumber hr'

/-- A number after the maximum is not taken. -/
lemma not_taken_succ_max (t : TurnTable) (sessionId : String) :
    ¬Taken t sessionId (t.maxTurnNumber sessionId + 1) := by
  rintro ⟨r, hr, rfl, hn⟩
  have hle := TurnTable.le_maxTurnNumber hr
  rw [hn] at hle
  exact absurd hle (Nat.not_succ_le_self _)

/-- What is written keeps the rows. -/
lemma Written.kept (h : Written t t' row) : Kept t t' := by
  cases h with
  | inserted hfree hmem hlength => exact fun r hr => ⟨r, (hmem r).mpr (.inl hr), .refl r⟩
  | updated hkept hback hlength hanchored => exact hkept

/-- The number after the maximum is after the maximum or taken once a number after a maximum has been
written. -/
lemma Written.next (h : Written t t' row)
    (hnumber : Database.violated t row = none → row.turnNumber = t.maxTurnNumber row.sessionId + 1)
    (sessionId : String) :
    t.maxTurnNumber sessionId + 1 = t'.maxTurnNumber sessionId + 1 ∨
      Taken t' sessionId (t.maxTurnNumber sessionId + 1) := by
  cases h with
  | inserted hfree hmem hlength =>
    by_cases hs : row.sessionId = sessionId
    · subst hs
      exact .inr ⟨row, (hmem row).mpr (.inr rfl), rfl, hnumber hfree⟩
    · refine .inl (congrArg (· + 1) (le_antisymm (TurnTable.maxTurnNumber_le fun r hr hrs => ?_)
        (TurnTable.maxTurnNumber_le fun r hr hrs => ?_)))
      · exact hrs ▸ TurnTable.le_maxTurnNumber ((hmem r).mpr (.inl hr))
      · obtain hr' | rfl := (hmem r).mp hr
        · exact hrs ▸ TurnTable.le_maxTurnNumber hr'
        · exact absurd hrs hs
  | updated hkept hback hlength hanchored =>
    exact .inl (congrArg (· + 1) (le_antisymm (hkept.max_le sessionId) (hback.max_le sessionId)))

/-- The number of a statement that inserts was not taken. -/
lemma not_taken_of_free (hfree : Database.violated t row = none) :
    ¬Taken t row.sessionId row.turnNumber := by
  rintro ⟨r, hr, hs, hn⟩
  exact (Database.violated_eq_none.mp hfree r hr).2.1 hs hn

/-! ### The invariant -/

/-- What holds of a call, where the table had a number of rows at first. -/
def Sound (rows₀ : ℕ) (t : TurnTable) (c : Call) : Prop :=
  match c.phase with
  | .ready attempt => attempt + rows₀ ≤ t.rows.length + 1
  | .computed attempt turnNumber =>
    (turnNumber = t.maxTurnNumber c.request.sessionId + 1 ∨ Taken t c.request.sessionId turnNumber) ∧
      attempt + rows₀ ≤ t.rows.length + 1 ∧
      (Taken t c.request.sessionId turnNumber → attempt + rows₀ ≤ t.rows.length)
  | .written => ∃ r ∈ t.rows, c.request.Reads r
  | .returned turn created => created = true → turn.turnId = c.request.turnId ∧
      ∃ r ∈ t.rows, r.turnId = turn.turnId ∧ r.sessionId = turn.sessionId ∧
        r.turnNumber = turn.turnNumber
  | .failed e => e = .unique .sessionNumber → turnCreateMaxAttempts + rows₀ ≤ t.rows.length
  | .lost => False

/-- What holds of the table and the calls. -/
structure Interleaved (rows₀ : ℕ) (s : System) : Prop where
  le : rows₀ ≤ s.table.rows.length
  grown : s.table.rows.length ≤ rows₀ + s.calls.countP fun c => c.phase.isDone
  sound : ∀ c ∈ s.calls, Sound rows₀ s.table c
  created : ∀ c ∈ s.calls, c.request.isIngestion = false →
    ∀ turn flag, c.phase = .returned turn flag → flag = true
  identifiers : ∀ (i j : ℕ) (c c' : Call), i ≠ j → s.calls[i]? = some c → s.calls[j]? = some c' →
    c.request.isIngestion = true → c.request.turnId ≠ c'.request.turnId
  creations : ∀ (i j : ℕ) (c c' : Call), i ≠ j → s.calls[i]? = some c → s.calls[j]? = some c' →
    c.request.isIngestion = false → c'.request.isIngestion = false →
    c.phase.isDone = true → c'.phase.isDone = true → c.request.turnId ≠ c'.request.turnId

/-- What is written drops no row. -/
lemma Written.length_le (h : Written t t' row) : t.rows.length ≤ t'.rows.length := by
  cases h with
  | inserted hfree hmem hlength => exact hlength ▸ Nat.le_succ _
  | updated hkept hback hlength hanchored => exact hlength.ge

/-- What holds of a call stays true when a number after a maximum is written. -/
lemma Sound.written {rows₀ : ℕ} (h : Sound rows₀ t c) (hw : Written t t' row)
    (hnumber : Database.violated t row = none → row.turnNumber = t.maxTurnNumber row.sessionId + 1) :
    Sound rows₀ t' c := by
  have hlength := hw.length_le
  obtain ⟨request, phase⟩ := c
  cases phase with
  | ready attempt => exact le_trans h (Nat.succ_le_succ hlength)
  | computed attempt turnNumber =>
    obtain ⟨hnext, hattempt, htaken⟩ := h
    refine ⟨?_, le_trans hattempt (Nat.succ_le_succ hlength), fun ht => ?_⟩
    · obtain heq | ht := hnext
      · rw [heq]
        exact hw.next hnumber request.sessionId
      · exact .inr (hw.kept.taken ht)
    · cases hw with
      | inserted hfree hmem hlength' =>
        rw [hlength']
        exact hattempt
      | updated hkept hback hlength' hanchored =>
        rw [hlength']
        exact htaken (hback.taken ht)
  | written =>
    obtain ⟨r, hr, hreads⟩ := h
    obtain ⟨r', hr', hsame⟩ := hw.kept r hr
    exact ⟨r', hr', hsame.reads hreads⟩
  | returned turn created =>
    intro hcreated
    obtain ⟨hid, r, hr, hrid, hs, hn⟩ := h hcreated
    obtain ⟨r', hr', hsame⟩ := hw.kept r hr
    exact ⟨hid, r', hr', hsame.turnId.symm.trans hrid, hsame.sessionId.symm.trans hs,
      hsame.turnNumber.symm.trans hn⟩
  | failed e => exact fun he => (h he).trans hlength
  | lost => exact h

/-- The row of a call is of its turn. -/
@[simp] lemma Request.turnId_row (request : Request) (turnNumber : ℕ) :
    (request.row db turnNumber).turnId = request.turnId := by
  cases request <;> rfl

/-- The row of a call is of its session. -/
@[simp] lemma Request.sessionId_row (request : Request) (turnNumber : ℕ) :
    (request.row db turnNumber).sessionId = request.sessionId := by
  cases request <;> rfl

/-- The row of a call has the computed number. -/
@[simp] lemma Request.turnNumber_row (request : Request) (turnNumber : ℕ) :
    (request.row db turnNumber).turnNumber = turnNumber := by
  cases request <;> rfl

/-- The row of a creation has no anchor. -/
lemma Request.turnAnchorId_row (h : request.isIngestion = false) :
    (request.row db turnNumber).turnAnchorId = none := by
  cases request with
  | create request turnId now => rfl
  | ingestCompleted request candidateId => cases h

/-- After its statement has written, a call can read a row back. -/
lemma Written.reads (request : Request) (h : Written t t' (request.row db turnNumber)) :
    ∃ r ∈ t'.rows, request.Reads r := by
  cases h with
  | inserted hfree hmem hlength =>
    refine ⟨_, (hmem _).mpr (.inr rfl), ?_⟩
    cases request with
    | create request turnId now | ingestCompleted request candidateId => exact ⟨rfl, rfl⟩
  | updated hkept hback hlength hanchored =>
    obtain ⟨r, hr, hs, anchor, hra, hanchor⟩ := hanchored
    obtain ⟨r', hr', hsame⟩ := hkept r hr
    refine ⟨r', hr', ?_⟩
    cases request with
    | create request turnId now => cases hanchor
    | ingestCompleted request candidateId =>
      exact ⟨hsame.sessionId.symm.trans hs, hsame.turnAnchorId.symm.trans (hra.trans hanchor.symm)⟩

/-- The row that a call reads back. -/
lemma Request.readBack_eq_some (h : ∃ r ∈ t.rows, request.Reads r) :
    ∃ row, request.readBack t = some row ∧ row ∈ t.rows ∧ request.Reads row := by
  obtain ⟨r, hr, hreads⟩ := h
  cases request with
  | create request turnId now =>
    exact ⟨r, TurnTable.byId_eq_some.mpr ⟨hr, hreads.1⟩, hr, hreads⟩
  | ingestCompleted request candidateId =>
    exact ⟨r, TurnTable.byAnchor_eq_some.mpr ⟨hr, hreads⟩, hr, hreads⟩

variable {s s' : System} {rows₀ : ℕ}

/-! ### Steps -/

variable {j attempt : ℕ} {turn : Turn}

/-- Another phase of one call leaves the other calls. -/
lemma getElem?_setPhase (hc : (s.setPhase i request phase).calls[j]? = some c) :
    (j = i ∧ c = ⟨request, phase⟩) ∨ (j ≠ i ∧ s.calls[j]? = some c) := by
  rw [System.setPhase, List.getElem?_set] at hc
  split_ifs at hc with hij hlt
  · exact .inl ⟨hij.symm, (Option.some.inj hc).symm⟩
  · exact .inr ⟨fun h => hij h.symm, hc⟩

/-- A call that takes another phase while the table changes keeps the invariant when the call is sound
then, the other calls stay sound, and the rows grow as the calls that have written do. -/
lemma Interleaved.update (h : Interleaved rows₀ s) (hc : s.calls[i]? = some c) {t' : TurnTable}
    (hle : s.table.rows.length ≤ t'.rows.length)
    (hgrown : t'.rows.length + (if c.phase.isDone then 1 else 0) ≤
      s.table.rows.length + if phase.isDone then 1 else 0)
    (hothers : ∀ c' ∈ s.calls, Sound rows₀ s.table c' → Sound rows₀ t' c')
    (hsound : Sound rows₀ t' ⟨c.request, phase⟩)
    (hcreated : c.request.isIngestion = false → ∀ turn flag, phase = .returned turn flag → flag = true)
    (hcreation : c.request.isIngestion = false → phase.isDone = true → c.phase.isDone = false →
      ∀ c' ∈ s.calls, c'.request.isIngestion = false → c'.phase.isDone = true →
        c'.request.turnId ≠ c.request.turnId) :
    Interleaved rows₀ { s.setPhase i c.request phase with table := t' } := by
  have hlt := (List.getElem?_eq_some_iff.mp hc).1
  have hget := (List.getElem?_eq_some_iff.mp hc).2
  constructor
  · exact h.le.trans hle
  · change t'.rows.length ≤ rows₀ + (s.calls.set i ⟨c.request, phase⟩).countP _
    rw [List.countP_set hlt, hget]
    dsimp only
    have hpos : (if c.phase.isDone then 1 else 0) ≤ s.calls.countP fun c => c.phase.isDone := by
      split_ifs with hdone
      · exact List.countP_pos_iff.mpr ⟨c, List.mem_of_getElem? hc, hdone⟩
      · exact Nat.zero_le _
    have hrows := h.grown
    omega
  · intro c' hc'
    obtain hc' | rfl := List.mem_or_eq_of_mem_set hc'
    · exact hothers c' hc' (h.sound c' hc')
    · exact hsound
  · intro c' hc' hcreation'
    obtain hc' | rfl := List.mem_or_eq_of_mem_set hc'
    · exact h.created c' hc' hcreation'
    · exact hcreated hcreation'
  · intro j k c₁ c₂ hjk hj hk hingestion
    obtain ⟨rfl, rfl⟩ | ⟨-, hj'⟩ := getElem?_setPhase hj
    · obtain ⟨rfl, -⟩ | ⟨-, hk'⟩ := getElem?_setPhase hk
      · exact absurd rfl hjk
      · exact h.identifiers _ _ c c₂ hjk hc hk' hingestion
    · obtain ⟨rfl, rfl⟩ | ⟨-, hk'⟩ := getElem?_setPhase hk
      · exact h.identifiers _ _ c₁ c hjk hj' hc hingestion
      · exact h.identifiers _ _ c₁ c₂ hjk hj' hk' hingestion
  · intro j k c₁ c₂ hjk hj hk h₁ h₂ hdone₁ hdone₂
    obtain ⟨rfl, rfl⟩ | ⟨-, hj'⟩ := getElem?_setPhase hj
    · obtain ⟨rfl, -⟩ | ⟨-, hk'⟩ := getElem?_setPhase hk
      · exact absurd rfl hjk
      · cases hdone : c.phase.isDone with
        | true => exact h.creations _ _ c c₂ hjk hc hk' h₁ h₂ hdone hdone₂
        | false => exact (hcreation h₁ hdone₁ hdone c₂ (List.mem_of_getElem? hk') h₂ hdone₂).symm
    · obtain ⟨rfl, rfl⟩ | ⟨-, hk'⟩ := getElem?_setPhase hk
      · cases hdone : c.phase.isDone with
        | true => exact h.creations _ _ c₁ c hjk hj' hc h₁ h₂ hdone₁ hdone
        | false => exact hcreation h₂ hdone₂ hdone c₁ (List.mem_of_getElem? hj') h₁ hdone₁
      · exact h.creations _ _ c₁ c₂ hjk hj' hk' h₁ h₂ hdone₁ hdone₂

/-- A call that takes another phase without a write keeps the invariant. -/
lemma Interleaved.setPhase (h : Interleaved rows₀ s) (hc : s.calls[i]? = some c)
    (hdone : phase.isDone = c.phase.isDone) (hsound : Sound rows₀ s.table ⟨c.request, phase⟩)
    (hcreated : c.request.isIngestion = false → ∀ turn flag, phase = .returned turn flag → flag = true) :
    Interleaved rows₀ (s.setPhase i c.request phase) := by
  refine h.update hc le_rfl (by rw [hdone]) (fun _ _ hs => hs) hsound hcreated ?_
  intro _ hphase hnot
  rw [hdone, hnot] at hphase
  cases hphase

/-- A creation that has written or returned has its row. -/
lemma Interleaved.row_of_creation (h : Interleaved rows₀ s) (hc : c ∈ s.calls)
    (hcreation : c.request.isIngestion = false) (hdone : c.phase.isDone = true) :
    ∃ r ∈ s.table.rows, r.turnId = c.request.turnId := by
  have hsound := h.sound c hc
  obtain ⟨request, phase⟩ := c
  cases phase with
  | written =>
    obtain ⟨r, hr, hreads⟩ := hsound
    cases request with
    | create request turnId now => exact ⟨r, hr, hreads.1⟩
    | ingestCompleted request candidateId => cases hcreation
  | returned turn created =>
    obtain ⟨hid, r, hr, hrid, -⟩ := hsound (h.created _ hc hcreation turn created rfl)
    exact ⟨r, hr, hrid.trans hid⟩
  | ready attempt | computed attempt turnNumber | failed e | lost => cases hdone

/-- A write keeps the invariant. -/
lemma Interleaved.write (h : Interleaved rows₀ s) (hc : s.calls[i]? = some c) (hdone : c.phase.isDone = false)
    (hnext : turnNumber = s.table.maxTurnNumber c.request.sessionId + 1 ∨
      Taken s.table c.request.sessionId turnNumber) (htaken : Taken s.table c.request.sessionId turnNumber →
      attempt + rows₀ ≤ s.table.rows.length ∧ db.maxCounterAssignmentRaces = true) :
    Interleaved rows₀ (s.write db i c.request attempt turnNumber) := by
  rw [System.write]
  cases hstatement : c.request.statement db turnNumber s.table with
  | ok t' =>
    have hw := written_of_statement hstatement
    refine h.update hc hw.length_le ?_ (fun c' hc' hs => hs.written hw fun hfree => ?_)
      (hw.reads c.request) (fun _ _ _ h => by cases h)
      fun hcreation _ _ c' hc' hcreation' hdone' => ?_
    · rw [hdone]
      cases hw with
      | inserted hfree hmem hlength =>
        rw [hlength]
        exact le_rfl
      | updated hkept hback hlength hanchored =>
        rw [hlength]
        exact Nat.le_succ _
    · rw [Request.turnNumber_row, Request.sessionId_row]
      refine hnext.resolve_right fun ht => not_taken_of_free hfree ?_
      rwa [Request.turnNumber_row, Request.sessionId_row]
    · obtain ⟨r, hr, hid⟩ := h.row_of_creation hc' hcreation' hdone'
      cases hw with
      | inserted hfree hmem hlength =>
        have hne := (Database.violated_eq_none.mp hfree r hr).1
        rw [Request.turnId_row] at hne
        exact hid ▸ hne
      | updated hkept hback hlength hanchored =>
        obtain ⟨-, -, -, anchor, -, hanchor⟩ := hanchored
        rw [Request.turnAnchorId_row hcreation] at hanchor
        cases hanchor
  | error e =>
    dsimp only
    split_ifs with hfails
    · refine h.setPhase hc (by rw [hdone]; rfl) (fun he => ?_) (fun _ _ _ h => by cases h)
      subst he
      obtain ⟨hlength, hraces⟩ := htaken (taken_of_statement hstatement)
      obtain hmax | hno | hne := hfails
      · omega
      · rw [hraces] at hno
        cases hno
      · exact absurd rfl hne
    · push Not at hfails
      refine h.setPhase hc (by rw [hdone]; rfl) ?_ (fun _ _ _ h => by cases h)
      obtain ⟨-, -, rfl⟩ := hfails
      have hlength := (htaken (taken_of_statement hstatement)).1
      change attempt + 1 + rows₀ ≤ _
      omega

lemma table_write :
    (s.write db i request attempt turnNumber).table = s.table ∨
      Written s.table (s.write db i request attempt turnNumber).table (request.row db turnNumber) := by
  rw [System.write]
  cases hstatement : request.statement db turnNumber s.table with
  | ok t' => exact .inr (written_of_statement hstatement)
  | error e =>
    dsimp only
    split_ifs <;> exact .inl rfl

section

variable (h : Interleaved rows₀ s)
include h

lemma Interleaved.table_step {step : Step} (hstep : s.step db step = some s') :
    s'.table = s.table ∨ ∃ row, Written s.table s'.table row ∧ (Database.violated s.table row = none →
        row.turnNumber = s.table.maxTurnNumber row.sessionId + 1) := by
  cases step with
  | call request =>
    cases hstep
    exact .inl rfl
  | snapshot i =>
    rw [System.step] at hstep
    split at hstep
    · split_ifs at hstep
      cases hstep
      exact .inl rfl
    · cases hstep
  | write i =>
    rw [System.step] at hstep
    split at hstep
    · rename_i request attempt hcall
      split_ifs at hstep
      cases hstep
      refine table_write.imp_right fun hw => ⟨_, hw, fun _ => ?_⟩
      rw [Request.turnNumber_row, Request.sessionId_row]
    · rename_i request attempt turnNumber hcall
      split_ifs at hstep
      cases hstep
      refine table_write.imp_right fun hw => ⟨_, hw, fun hfree => ?_⟩
      have hnext := (h.sound _ (List.mem_of_getElem? hcall)).1
      rw [Request.turnNumber_row, Request.sessionId_row]
      refine hnext.resolve_right fun ht => not_taken_of_free hfree ?_
      rwa [Request.turnNumber_row, Request.sessionId_row]
    · cases hstep
  | readBack i =>
    rw [System.step] at hstep
    split at hstep
    · split at hstep <;>
      · cases hstep
        exact .inl rfl
    · cases hstep

/-- A row that a step adds has the number after the maximum of its session. -/
theorem Interleaved.step_new {step : Step} (hstep : s.step db step = some s')
    {row : TurnRow} (hrow : row ∈ s'.table.rows) (hnew : ∀ r ∈ s.table.rows, r.turnId ≠ row.turnId) :
    row.turnNumber = s.table.maxTurnNumber row.sessionId + 1 := by
  obtain heq | ⟨row', hw, hnumber⟩ := h.table_step hstep
  · rw [heq] at hrow
    exact absurd rfl (hnew row hrow)
  · cases hw with
    | inserted hfree hmem hlength =>
      obtain hrow | rfl := (hmem row).mp hrow
      · exact absurd rfl (hnew row hrow)
      · exact hnumber hfree
    | updated hkept hback hlength hanchored =>
      obtain ⟨r, hr, hsame⟩ := hback row hrow
      exact absurd hsame.turnId.symm (hnew r hr)

/-- A step keeps what identifies the rows. -/
theorem Interleaved.step_kept {step : Step} (hstep : s.step db step = some s') : Kept s.table s'.table := by
  obtain heq | ⟨row, hw, -⟩ := h.table_step hstep
  · rw [heq]
    exact fun r hr => ⟨r, hr, .refl r⟩
  · exact hw.kept

/-- A new call keeps the invariant. -/
lemma Interleaved.call (hfresh : s.Fresh (.call request)) :
    Interleaved rows₀ { s with calls := s.calls ++ [⟨request, .ready 1⟩] } := by
  have hget : ∀ {j : ℕ} {c : Call}, (s.calls ++ [⟨request, .ready 1⟩])[j]? = some c →
      (j = s.calls.length ∧ c = ⟨request, .ready 1⟩) ∨ (j ≠ s.calls.length ∧ s.calls[j]? = some c) := by
    intro j c hc
    rcases getElem?_concat_eq_some.mp hc with hc | ⟨hj, rfl⟩
    · exact .inr ⟨(List.getElem?_eq_some_iff.mp hc).1.ne, hc⟩
    · exact .inl ⟨hj, rfl⟩
  constructor
  · exact h.le
  · have hgrown := h.grown
    rw [List.countP_append]
    exact hgrown.trans (by omega)
  · intro c hc
    obtain hc | hc := List.mem_append.mp hc
    · exact h.sound c hc
    · rw [List.mem_singleton.mp hc]
      have hle := h.le
      change 1 + rows₀ ≤ s.table.rows.length + 1
      omega
  · intro c hc hcreation turn flag hphase
    obtain hc | hc := List.mem_append.mp hc
    · exact h.created c hc hcreation turn flag hphase
    · rw [List.mem_singleton.mp hc] at hphase
      cases hphase
  · intro j k c c' hjk hj hk hingestion
    obtain ⟨rfl, rfl⟩ | ⟨-, hj'⟩ := hget hj
    · obtain ⟨rfl, -⟩ | ⟨-, hk'⟩ := hget hk
      · exact absurd rfl hjk
      · exact (hfresh.2 c' (List.mem_of_getElem? hk') (.inr hingestion)).symm
    · obtain ⟨rfl, rfl⟩ | ⟨-, hk'⟩ := hget hk
      · exact hfresh.2 c (List.mem_of_getElem? hj') (.inl hingestion)
      · exact h.identifiers j k c c' hjk hj' hk' hingestion
  · intro j k c c' hjk hj hk h₁ h₂ hdone₁ hdone₂
    obtain ⟨-, rfl⟩ | ⟨-, hj'⟩ := hget hj
    · cases hdone₁
    · obtain ⟨-, rfl⟩ | ⟨-, hk'⟩ := hget hk
      · cases hdone₂
      · exact h.creations j k c c' hjk hj' hk' h₁ h₂ hdone₁ hdone₂

/-- A call that reads its row back keeps the invariant. -/
lemma Interleaved.readBack (hcall : s.calls[i]? = some ⟨request, .written⟩) {row : TurnRow}
    (hmem : row ∈ s.table.rows) (hreads : request.Reads row) :
    Interleaved rows₀ (s.setPhase i request
      (.returned (request.answer db row).1 (request.answer db row).2)) := by
  refine h.setPhase hcall rfl (fun hcreated => ?_) fun hcreation turn flag hphase => ?_
  · cases request with
    | create request turnId now => exact ⟨rfl, row, hmem, hreads.1, hreads.2, rfl⟩
    | ingestCompleted request candidateId =>
      exact ⟨of_decide_eq_true hcreated, row, hmem, rfl, rfl, rfl⟩
  · cases request with
    | create request turnId now =>
      cases hphase
      rfl
    | ingestCompleted request candidateId => cases hcreation

/-- **Every step keeps the invariant**. -/
theorem Interleaved.step {step : Step} (hfresh : s.Fresh step)
    (hstep : s.step db step = some s') : Interleaved rows₀ s' := by
  cases step with
  | call request =>
    cases hstep
    exact h.call hfresh
  | snapshot i =>
    rw [System.step] at hstep
    split at hstep
    · rename_i request attempt hcall
      split_ifs at hstep
      cases hstep
      refine h.setPhase hcall rfl ⟨.inl rfl, h.sound _ (List.mem_of_getElem? hcall), fun ht => ?_⟩
        (fun _ _ _ h => by cases h)
      exact absurd ht (not_taken_succ_max _ _)
    · cases hstep
  | write i =>
    rw [System.step] at hstep
    split at hstep
    · rename_i request attempt hcall
      split_ifs at hstep
      cases hstep
      exact h.write hcall rfl (.inl rfl) fun ht => absurd ht (not_taken_succ_max _ _)
    · rename_i request attempt turnNumber hcall
      split_ifs at hstep with hraces
      cases hstep
      obtain ⟨hnext, -, htaken⟩ := h.sound _ (List.mem_of_getElem? hcall)
      exact h.write hcall rfl hnext fun ht => ⟨htaken ht, hraces⟩
    · cases hstep
  | readBack i =>
    rw [System.step] at hstep
    split at hstep
    · rename_i request hcall
      obtain ⟨row, hrow, hmem, hreads⟩ :=
        Request.readBack_eq_some (h.sound _ (List.mem_of_getElem? hcall))
      rw [hrow] at hstep
      cases hstep
      exact h.readBack hcall hmem hreads
    · cases hstep

end

/-- The invariant holds before any call. -/
lemma interleaved_start (t : TurnTable) : Interleaved t.rows.length ⟨t, []⟩ where
  le := le_rfl
  grown := le_rfl
  sound c hc := by cases hc
  created c hc := by cases hc
  identifiers i j c c' hij hi := by cases hi
  creations i j c c' hij hi := by cases hi

/-- **The invariant holds in every interleaving**. -/
theorem interleaved_of_reach {t₀ : TurnTable}
    (h : Reach (· = ⟨t₀, []⟩) (System.step db) System.Fresh s) : Interleaved t₀.rows.length s := by
  refine h.invariant _ ?_ fun s step s' hs hfresh hstep => hs.step hfresh hstep
  rintro s rfl
  exact interleaved_start t₀

/-- Calls that have returned new turns have turns of their own. -/
lemma Interleaved.turnId_ne (h : Interleaved rows₀ s) (hij : i ≠ j) {c c' : Call} (hi : s.calls[i]? = some c)
    (hj : s.calls[j]? = some c') {turn' : Turn} (hc : c.phase = .returned turn true)
    (hc' : c'.phase = .returned turn' true) :
    turn.turnId ≠ turn'.turnId := by
  have hid : turn.turnId = c.request.turnId := by
    have hsound := h.sound c (List.mem_of_getElem? hi)
    rw [Sound, hc] at hsound
    exact (hsound rfl).1
  have hid' : turn'.turnId = c'.request.turnId := by
    have hsound := h.sound c' (List.mem_of_getElem? hj)
    rw [Sound, hc'] at hsound
    exact (hsound rfl).1
  rw [hid, hid']
  cases h₁ : c.request.isIngestion with
  | true => exact h.identifiers i j c c' hij hi hj h₁
  | false => cases h₂ : c'.request.isIngestion with
    | true => exact (h.identifiers j i c' c hij.symm hj hi h₂).symm
    | false => exact h.creations i j c c' hij hi hj h₁ h₂ (by rw [hc]; rfl) (by rw [hc']; rfl)

/-- The row of a new turn that a call has returned. -/
lemma Interleaved.row_of_returned (h : Interleaved rows₀ s) (hc : c ∈ s.calls)
    (hphase : c.phase = .returned turn true) :
    ∃ r ∈ s.table.rows, r.turnId = turn.turnId ∧ r.sessionId = turn.sessionId ∧
      r.turnNumber = turn.turnNumber := by
  have hsound := h.sound c hc
  rw [Sound, hphase] at hsound
  exact (hsound rfl).2

/-- No call runs out of attempts among as many calls as there are attempts. -/
lemma Interleaved.not_failed (h : Interleaved rows₀ s) (hcalls : s.calls.length ≤ turnCreateMaxAttempts)
    (hc : c ∈ s.calls) : c.phase ≠ .failed (.unique .sessionNumber) := by
  intro hphase
  have hsound := h.sound c hc
  rw [Sound, hphase] at hsound
  have hattempts := hsound rfl
  have hgrown := h.grown
  have hlt : (s.calls.countP fun c => c.phase.isDone) < s.calls.length := by
    refine lt_of_le_of_ne List.countP_le_length fun heq => ?_
    have hdone := List.countP_eq_length.mp heq c hc
    rw [hphase] at hdone
    cases hdone
  omega

/-- Every row can be read back that a statement has written. -/
lemma Interleaved.not_lost (h : Interleaved rows₀ s) (hc : c ∈ s.calls) : c.phase ≠ .lost := by
  intro hphase
  have hsound := h.sound c hc
  rw [Sound, hphase] at hsound
  exact hsound

end Makaio.TurnStorage

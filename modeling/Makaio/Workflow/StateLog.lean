import Makaio.Workflow.StatePatch

set_option autoImplicit false

/-!
# The log of the workflow state

The snapshot of an execution's state and the log of its mutations are two tables that one transaction writes: the
snapshot by compare-and-set on its sequence number, the log by inserting the patch under the next number.  A
transaction reads the snapshot first, and others may commit before it writes; that the log never has two rows of
one number keeps it from writing a patch for a snapshot that is gone.

## Main definitions

* `StateNumber` — the numbers of JavaScript, in which zero has a sign, and `columnNumber`, what a
  column keeps of them.
* `StateStore` — the tables and the open transactions; `StateStore.advance` — their steps.
* `replayLog` — the value that the patches of the log lead to.
* `LogOk` — the log leads to the snapshot.

## Main results

* `LogOk.advance` — each step of each transaction preserves it.
* `statePatch_roundTrip` — patches make one value of another, are empty between identical values
  only, and replaying a log gives the snapshot.
* `statePatch_of_equal` — a patch between values that are equal as JSON values.
-/

namespace Makaio.Workflow

open Foundations JsonPatch

/-! ### Numbers -/

/-- A finite number of JavaScript: `Object.is` tells the two zeros apart. -/
inductive StateNumber
  | negativeZero
  | rational (q : ℚ)
  deriving DecidableEq

namespace StateNumber

/-- The number. -/
def value : StateNumber → ℚ
  | negativeZero => 0
  | rational q => q

/-- The number that is read back from a JSON column: the text of both zeros is `0`. -/
def columnNumber (n : StateNumber) : StateNumber := rational n.value

end StateNumber

/-- The JSON value of a state: its numbers are numbers, whatever their sign of zero. -/
def jsonValue (value : Value StateNumber) : Value ℚ := value.map StateNumber.value

/-- The value that is read back from a JSON column; null is written as the JSON literal. -/
def jsonColumnValue (value : Value StateNumber) : Value StateNumber :=
  value.map StateNumber.columnNumber

variable (patch : List (JsonPatchOperation StateNumber))

/-- The patch that is read back from a JSON column. -/
def jsonColumnPatch : List (JsonPatchOperation StateNumber) :=
  patch.map fun op => { op with edit := op.edit.map StateNumber.columnNumber }

/-! ### The tables -/

/-- A row of the snapshots. -/
structure StateRow where
  sequence : ℕ
  value : Value StateNumber

/-- A row of the mutation log. -/
structure StateEvent where
  patch : List (JsonPatchOperation StateNumber)
  value : Value StateNumber

/-- A patch whose transaction has read the snapshot. -/
structure PatchTransaction where
  executionId : String
  expectedSequence : ℕ
  nextValue : Value StateNumber
  current : StateRow

/-- The tables, under their primary keys, and the transactions between their read and their write. -/
structure StateStore where
  state : String → Option StateRow
  events : String → ℕ → Option StateEvent
  transactions : List PatchTransaction

namespace StateStore

/-- No execution has any state. -/
def empty : StateStore := ⟨fun _ => none, fun _ _ => none, []⟩

/-- A row of the log. -/
def insertEvent (store : StateStore) (executionId : String) (sequence : ℕ) (event : StateEvent) : StateStore :=
  { store with
    events := Function.update store.events executionId
      (Function.update (store.events executionId) sequence (some event)) }

/-- The snapshot of an execution. -/
def setState (store : StateStore) (executionId : String) (row : StateRow) : StateStore :=
  { store with state := Function.update store.state executionId (some row) }

/-- Initialize workflow state for an execution; rows that exist stay. -/
def initializeWorkflowState (store : StateStore) (executionId : String) (initialValue : Value StateNumber) :
    StateStore :=
  let initialColumnValue := jsonColumnValue initialValue
  let store := match store.state executionId with
    | some _ => store
    | none => store.setState executionId ⟨0, initialColumnValue⟩
  match store.events executionId 0 with
  | some _ => store
  | none => store.insertEvent executionId 0 ⟨[], initialColumnValue⟩

/-- Apply a state mutation: the transaction reads the current snapshot. -/
def beginPatch (store : StateStore) (executionId : String) (expectedSequence : ℕ)
    (nextValue : Value StateNumber) : Except String PatchTransaction :=
  match store.state executionId with
  | none => .error ("no workflow state for execution " ++ executionId)
  | some current => .ok ⟨executionId, expectedSequence, nextValue, current⟩

/-- Apply a state mutation: the transaction writes the snapshot and the log, or neither. -/
def finishPatch (store : StateStore) (transaction : PatchTransaction) : Except String StateStore :=
  let nextSequence := transaction.current.sequence + 1
  let persistedPatch := createWorkflowStatePatch transaction.current.value transaction.nextValue
  let nextColumnValue := jsonColumnValue transaction.nextValue
  if (store.state transaction.executionId).any fun row => row.sequence = transaction.expectedSequence then
    if (store.events transaction.executionId nextSequence).isSome then .error "UNIQUE constraint failed"
    else
      .ok ((store.setState transaction.executionId ⟨nextSequence, nextColumnValue⟩).insertEvent
        transaction.executionId nextSequence ⟨jsonColumnPatch persistedPatch, nextColumnValue⟩)
  else
    .error ("state sequence conflict: expected " ++ toString transaction.expectedSequence ++ ", got " ++
      toString transaction.current.sequence)

/-- What can happen to the tables. -/
inductive Action
  | start (executionId : String) (initialValue : Value StateNumber)
  | beginPatch (executionId : String) (expectedSequence : ℕ) (nextValue : Value StateNumber)
  | finishPatch (transaction : ℕ)
  | rollback (transaction : ℕ)

/-- One step; a step that fails leaves the tables as they are. -/
def advance (store : StateStore) : Action → StateStore
  | .start executionId initialValue => store.initializeWorkflowState executionId initialValue
  | .beginPatch executionId expectedSequence nextValue =>
    match store.beginPatch executionId expectedSequence nextValue with
    | .error _ => store
    | .ok transaction => { store with transactions := transaction :: store.transactions }
  | .finishPatch i =>
    match store.transactions[i]? with
    | none => store
    | some transaction =>
      let closed := { store with transactions := store.transactions.eraseIdx i }
      match closed.finishPatch transaction with
      | .error _ => closed
      | .ok committed => committed
  | .rollback i => { store with transactions := store.transactions.eraseIdx i }

/-- The tables after some steps. -/
def run (actions : List Action) : StateStore := actions.foldl advance empty

end StateStore

/-- The value that the log leads to: the initial value, and the patches up to a sequence number applied to it. -/
def replayLog (events : ℕ → Option StateEvent) : ℕ → Option (Value StateNumber)
  | 0 => (events 0).map StateEvent.value
  | sequence + 1 => (replayLog events sequence).bind fun value =>
      (events (sequence + 1)).bind fun event => applyPatch event.patch value

/-! ### Column values -/

/-- A column value is read back as it was read before. -/
lemma jsonColumnValue_idem (value : Value StateNumber) :
    jsonColumnValue (jsonColumnValue value) =
      jsonColumnValue value := by
  rw [jsonColumnValue, jsonColumnValue, Value.map_map]
  rfl

/-- A patch applies to the column as it does to the document. -/
lemma applyPatch_columnValue (doc : Value StateNumber) :
    applyPatch (jsonColumnPatch patch) (jsonColumnValue doc) =
      (applyPatch patch doc).map jsonColumnValue := by
  induction patch generalizing doc with
  | nil => rfl
  | cons op patch ih =>
    rw [applyPatch, jsonColumnPatch, List.map_cons, List.foldlM_cons, applyPatch, List.foldlM_cons]
    cases parsePointer op.path with
    | none => rfl
    | some tokens =>
      simp only [Option.bind_some, jsonColumnValue, applyAt_map]
      cases op.edit.applyAt tokens doc with
      | none => rfl
      | some edited => exact ih edited

/-- A patch does the same to the same values. -/
lemma applyPatch_same {a b : Value StateNumber} (h : Same a b) :
    OptSame (applyPatch patch a) (applyPatch patch b) := by
  induction patch generalizing a b with
  | nil => exact h
  | cons op patch ih =>
    rw [applyPatch, applyPatch, List.foldlM_cons, List.foldlM_cons]
    cases parsePointer op.path with
    | none => trivial
    | some tokens =>
      have hfirst := applyAt_same op.edit tokens h
      simp only [Option.bind_some]
      revert hfirst
      cases op.edit.applyAt tokens a <;> cases op.edit.applyAt tokens b <;> intro hfirst
      · trivial
      · exact hfirst.elim
      · exact hfirst.elim
      · exact ih hfirst

/-- The persisted patch makes the next column value of any value that is the same as the current one. -/
lemma applyPatch_persisted {current next doc : Value StateNumber}
    (hcolumn : jsonColumnValue current = current) (hdoc : Same doc current) :
    ∃ result, applyPatch (jsonColumnPatch (createWorkflowStatePatch current next)) doc = some result ∧
      Same result (jsonColumnValue next) := by
  obtain ⟨result, hresult, hsame⟩ := applyPatch_createWorkflowStatePatch current next
  have hstored := applyPatch_columnValue (createWorkflowStatePatch current next) current
  rw [hcolumn, hresult, Option.map_some] at hstored
  have hopt := applyPatch_same (jsonColumnPatch (createWorkflowStatePatch current next)) hdoc
  rw [hstored] at hopt
  cases happly : applyPatch (jsonColumnPatch (createWorkflowStatePatch current next)) doc with
  | none =>
    rw [happly] at hopt
    exact hopt.elim
  | some value =>
    rw [happly] at hopt
    exact ⟨value, rfl, hopt.trans (hsame.map _)⟩

/-- Later rows of a log do not matter. -/
lemma replayLog_congr {events events' : ℕ → Option StateEvent} {sequence : ℕ}
    (h : ∀ i, i ≤ sequence → events i = events' i) : replayLog events sequence = replayLog events' sequence := by
  induction sequence with
  | zero => rw [replayLog, replayLog, h 0 (le_refl 0)]
  | succ sequence ih =>
    rw [replayLog, replayLog, ih fun i hi => h i (by omega), h (sequence + 1) (le_refl _)]

/-! ### The log leads to the snapshot -/

/-- The log of an execution leads to its snapshot, and open transactions have read what the log has. -/
structure LogOk (store : StateStore) (executionId : String) : Prop where
  without : store.state executionId = none → ∀ i, store.events executionId i = none
  column : ∀ row, store.state executionId = some row → jsonColumnValue row.value = row.value
  /-- The numbers of the log are those up to the sequence of the snapshot. -/
  numbers : ∀ row, store.state executionId = some row →
    ∀ i, (store.events executionId i).isSome ↔ i ≤ row.sequence
  last : ∀ row, store.state executionId = some row →
    (store.events executionId row.sequence).map StateEvent.value = some row.value
  replay : ∀ row, store.state executionId = some row →
    ∃ value, replayLog (store.events executionId) row.sequence = some value ∧ Same value row.value
  /-- The log has the value that a transaction has read. -/
  read : ∀ transaction ∈ store.transactions, transaction.executionId = executionId →
    (store.events executionId transaction.current.sequence).map StateEvent.value = some transaction.current.value

namespace LogOk

variable {store : StateStore} {executionId : String}

/-- The empty log. -/
lemma empty (executionId : String) : LogOk .empty executionId where
  without _ _ := rfl
  column _ h := by cases h
  numbers _ h := by cases h
  last _ h := by cases h
  replay _ h := by cases h
  read _ h := by cases h

section

variable (h : LogOk store executionId)
include h

/-- Only the tables of the execution and its transactions matter. -/
lemma congr {store' : StateStore} (hstate : store'.state executionId = store.state executionId)
    (hevents : store'.events executionId = store.events executionId)
    (htransactions : ∀ transaction ∈ store'.transactions, transaction ∈ store.transactions) :
    LogOk store' executionId where
  without := by rw [hstate, hevents]; exact h.without
  column := by rw [hstate]; exact h.column
  numbers := by rw [hstate, hevents]; exact h.numbers
  last := by rw [hstate, hevents]; exact h.last
  replay := by rw [hstate, hevents]; exact h.replay
  read := by
    rw [hevents]
    exact fun transaction hmem => h.read transaction (htransactions transaction hmem)

/-- The first initialization of an execution. -/
lemma start_self (hnone : store.state executionId = none) (initialValue : Value StateNumber) :
    LogOk (store.initializeWorkflowState executionId initialValue) executionId := by
  have hevents := h.without hnone
  have hstore : store.initializeWorkflowState executionId initialValue =
      (store.setState executionId ⟨0, jsonColumnValue initialValue⟩).insertEvent executionId 0
        ⟨[], jsonColumnValue initialValue⟩ := by
    rw [StateStore.initializeWorkflowState]
    simp only [hnone]
    rw [show (store.setState executionId _).events executionId 0 = none from hevents 0]
  rw [hstore]
  have hstate : ∀ row, ((store.setState executionId
      ⟨0, jsonColumnValue initialValue⟩).insertEvent executionId 0
      ⟨[], jsonColumnValue initialValue⟩).state executionId = some row →
      row = ⟨0, jsonColumnValue initialValue⟩ := by
    intro row hrow
    simpa [StateStore.insertEvent, StateStore.setState, eq_comm] using hrow
  constructor
  · intro hnot
    simp [StateStore.insertEvent, StateStore.setState] at hnot
  · intro row hrow
    rw [hstate row hrow]
    exact jsonColumnValue_idem initialValue
  · intro row hrow i
    rw [hstate row hrow]
    by_cases hi : i = 0 <;> simp [StateStore.insertEvent, StateStore.setState, hi, hevents]
  · intro row hrow
    rw [hstate row hrow]
    simp [StateStore.insertEvent, StateStore.setState]
  · intro row hrow
    rw [hstate row hrow]
    exact ⟨_, by simp [replayLog, StateStore.insertEvent, StateStore.setState], .refl _⟩
  · intro transaction hmem heq
    have hread := h.read transaction hmem heq
    rw [hevents] at hread
    cases hread

variable {row : StateRow} {transaction : PatchTransaction}

/-- An initialization changes nothing once there is a state. -/
lemma start_of_some (hrow : store.state executionId = some row) (initialValue : Value StateNumber) :
    store.initializeWorkflowState executionId initialValue = store := by
  obtain ⟨event, hevent⟩ := Option.isSome_iff_exists.mp ((h.numbers row hrow 0).mpr (Nat.zero_le _))
  rw [StateStore.initializeWorkflowState]
  simp only [hrow, hevent]

/-- A transaction that writes has read the snapshot it replaces. -/
lemma current_of_finish
    (hread : (store.events executionId transaction.current.sequence).map StateEvent.value =
      some transaction.current.value) (hrow : store.state executionId = some row)
    (hnext : store.events executionId (transaction.current.sequence + 1) = none) :
    transaction.current = row := by
  have hle : transaction.current.sequence ≤ row.sequence := by
    rw [← h.numbers row hrow]
    rw [Option.map_eq_some_iff] at hread
    obtain ⟨event, hevent, -⟩ := hread
    simp [hevent]
  have hge : ¬transaction.current.sequence + 1 ≤ row.sequence := by
    rw [← h.numbers row hrow, hnext]
    simp
  have hsequence : transaction.current.sequence = row.sequence := by omega
  have hlast := h.last row hrow
  rw [← hsequence, hread, Option.some_inj] at hlast
  cases hcurrent : transaction.current
  cases row
  simp_all

/-- A patch is written. -/
lemma finishPatch {committed : StateStore} (hread : transaction.executionId = executionId →
      (store.events executionId transaction.current.sequence).map StateEvent.value =
        some transaction.current.value) (hfinish : store.finishPatch transaction = .ok committed) :
    LogOk committed executionId := by
  rw [StateStore.finishPatch] at hfinish
  split_ifs at hfinish with hexpected hsome
  cases hfinish
  by_cases hid : transaction.executionId = executionId
  · subst hid
    obtain ⟨row, hrow, -⟩ := Option.any_eq_true _ _ |>.mp hexpected
    have hnext : store.events transaction.executionId (transaction.current.sequence + 1) = none := by
      simpa using hsome
    have hcurrent := h.current_of_finish (hread rfl) hrow hnext
    have hnumbers := h.numbers row hrow
    rw [← hcurrent] at hnumbers
    obtain ⟨value, hvalue, hsame⟩ := h.replay row hrow
    have hcolumn := h.column row hrow
    rw [← hcurrent] at hvalue hsame hcolumn
    obtain ⟨result, hresult, hresultSame⟩ := applyPatch_persisted hcolumn hsame
    have hold : ∀ i, i ≤ transaction.current.sequence → i ≠ transaction.current.sequence + 1 := by
      intro i hi
      omega
    constructor
    · intro hnone
      simp [StateStore.insertEvent, StateStore.setState] at hnone
    · intro next hrow'
      obtain rfl : _ = next := by simpa [StateStore.insertEvent, StateStore.setState] using hrow'
      exact jsonColumnValue_idem _
    · intro next hrow' i
      obtain rfl : _ = next := by simpa [StateStore.insertEvent, StateStore.setState] using hrow'
      by_cases hi : i = transaction.current.sequence + 1
      · simp [StateStore.insertEvent, StateStore.setState, hi]
      · simp only [StateStore.insertEvent, StateStore.setState, Function.update_self,
          Function.update_of_ne hi, hnumbers]
        omega
    · intro next hrow'
      obtain rfl : _ = next := by simpa [StateStore.insertEvent, StateStore.setState] using hrow'
      simp [StateStore.insertEvent, StateStore.setState]
    · intro next hrow'
      obtain rfl : _ = next := by simpa [StateStore.insertEvent, StateStore.setState] using hrow'
      refine ⟨result, ?_, hresultSame⟩
      rw [replayLog, replayLog_congr fun i hi => ?_, hvalue, Option.bind_some]
      · simpa [StateStore.insertEvent, StateStore.setState] using hresult
      · simp [StateStore.insertEvent, StateStore.setState, Function.update_of_ne (hold i hi)]
    · intro other hmem hother
      have hevent := h.read other hmem hother
      have hne : other.current.sequence ≠ transaction.current.sequence + 1 := by
        rintro heq
        rw [heq, hnext] at hevent
        cases hevent
      simpa [StateStore.insertEvent, StateStore.setState, Function.update_of_ne hne] using hevent
  · refine h.congr ?_ ?_ fun _ hmem => hmem
    · simp [StateStore.insertEvent, StateStore.setState, Function.update_of_ne (Ne.symm hid)]
    · simp [StateStore.insertEvent, StateStore.setState, Function.update_of_ne (Ne.symm hid)]

end

/-- Each step of each transaction preserves that the log leads to the snapshot. -/
theorem advance (h : ∀ executionId, LogOk store executionId) (action : StateStore.Action) :
    ∀ executionId, LogOk (store.advance action) executionId := by
  intro executionId
  cases action with
  | start id initialValue =>
    rw [StateStore.advance]
    cases hstate : store.state id with
    | some row =>
      rw [(h id).start_of_some hstate]
      exact h executionId
    | none =>
      by_cases hid : id = executionId
      · subst hid
        exact (h id).start_self hstate initialValue
      · have hevents := (h id).without hstate 0
        refine (h executionId).congr ?_ ?_ ?_ <;>
          simp [StateStore.initializeWorkflowState, hstate, StateStore.setState, StateStore.insertEvent, hevents,
            Function.update_of_ne (Ne.symm hid)]
  | beginPatch id expectedSequence nextValue =>
    rw [StateStore.advance, StateStore.beginPatch]
    cases hstate : store.state id with
    | none => exact h executionId
    | some row =>
      have hok := h executionId
      refine ⟨hok.without, hok.column, hok.numbers, hok.last, hok.replay, ?_⟩
      intro transaction hmem heq
      rcases List.mem_cons.mp hmem with rfl | hmem
      · obtain rfl : id = executionId := heq
        exact hok.last row hstate
      · exact hok.read transaction hmem heq
  | finishPatch i =>
    rw [StateStore.advance]
    cases hget : store.transactions[i]? with
    | none => exact h executionId
    | some transaction =>
      have hclosed : LogOk { store with transactions := store.transactions.eraseIdx i } executionId :=
        (h executionId).congr rfl rfl fun _ hmem => List.mem_of_mem_eraseIdx hmem
      dsimp only
      cases hfinish : StateStore.finishPatch { store with transactions := store.transactions.eraseIdx i }
          transaction with
      | error _ => exact hclosed
      | ok committed =>
        exact hclosed.finishPatch (fun heq => (h executionId).read transaction
          (List.mem_of_getElem? hget) heq) hfinish
  | rollback i => exact (h executionId).congr rfl rfl fun _ hmem => List.mem_of_mem_eraseIdx hmem

/-- After any steps, the log of each execution leads to its snapshot. -/
theorem run (actions : List StateStore.Action) (executionId : String) :
    LogOk (StateStore.run actions) executionId := by
  have hall : ∀ executionId, LogOk (StateStore.run actions) executionId := by
    induction actions using List.reverseRecOn with
    | nil => exact empty
    | append_singleton actions action ih =>
      rw [StateStore.run, List.foldl_concat]
      exact LogOk.advance ih action
  exact hall executionId

end LogOk

/-! ### The result -/

/-- **Patches of the workflow state.**  Applied to the value before, a patch gives the value after, up to the order
of members; it is empty exactly when the two are the same, where the two zeros are different numbers; and after any
interleaving of initializations and patches, the log of an execution leads to its snapshot. -/
theorem statePatch_roundTrip :
    (∀ before after : Value StateNumber, ∃ result,
      applyPatch (createWorkflowStatePatch before after) before = some result ∧ Same result after) ∧
    (∀ before after : Value StateNumber, createWorkflowStatePatch before after = [] ↔ Same before after) ∧
    ∀ (actions : List StateStore.Action) (executionId : String) (row : StateRow),
      (StateStore.run actions).state executionId = some row →
        ∃ value, replayLog ((StateStore.run actions).events executionId) row.sequence = some value ∧
          Same value row.value :=
  ⟨applyPatch_createWorkflowStatePatch, fun _ _ => createWorkflowStatePatch_eq_nil_iff,
    fun actions executionId => (LogOk.run actions executionId).replay⟩

/-- The log of an execution whose state was initialized with nothing and patched once. -/
theorem statePatch_roundTrip_patched :
    ∃ value, replayLog ((StateStore.run [.start "e" .null, .beginPatch "e" 0 (.bool true),
      .finishPatch 0]).events "e") 1 = some value ∧ Same value (.bool true) := by
  have hrow : (StateStore.run [.start "e" .null, .beginPatch "e" 0 (.bool true), .finishPatch 0]).state "e" =
      some ⟨1, .bool true⟩ := by
    simp [StateStore.run, StateStore.advance, StateStore.initializeWorkflowState, StateStore.empty,
      StateStore.setState, StateStore.insertEvent, StateStore.beginPatch, StateStore.finishPatch,
      jsonColumnValue, Value.map]
  exact statePatch_roundTrip.2.2 _ "e" ⟨1, .bool true⟩ hrow

/-- Between zero and negative zero there is a patch. -/
theorem statePatch_of_equal :
    ¬∀ before after : Value StateNumber,
      createWorkflowStatePatch before after = [] ↔ Same (jsonValue before) (jsonValue after) := by
  intro h
  have hequal : Same (jsonValue (.num (.rational 0))) (jsonValue (.num .negativeZero)) := by
    simpa [jsonValue, Value.map, StateNumber.value] using Same.num (0 : ℚ)
  have hempty := createWorkflowStatePatch_eq_nil_iff.mp ((h _ _).mpr hequal)
  cases hempty

end Makaio.Workflow

import Sawang.Foundation.LockedObject
import Sawang.RespondTable.Reference

/-!
# The respond tables, statement by statement

Between two statements of a function of the respond tables an entry may have no uuid, or
a loop may be half through.  The functions run under `respond_table_lock`, and so the
threads that call them see the reference all the same.
-/

namespace Sawang

/-! ## The statements -/

/-- `g_ptr_array_add` to the array of a key. -/
def gPtrArrayAdd (taskKey requestUuid : String) (table : GHashTable) : GHashTable :=
  match table.lookup taskKey with
  | none => table
  | some arr => table.insert taskKey (arr ++ [requestUuid])

/-- `g_ptr_array_remove_index` from the array of a key. -/
def gPtrArrayRemoveIndex (taskKey : String) (idx : Nat) (table : GHashTable) : GHashTable :=
  match table.lookup taskKey with
  | none => table
  | some arr => table.insert taskKey (arr.eraseIdx idx)

namespace GHashTable

open Statements

/-- `respond_table_set_do`. -/
def setStatements (taskKey requestUuid : String) : Statements GHashTable TableResult :=
  .read fun table =>
    match table.lookup taskKey with
    | none =>
        .write (AList.insert taskKey []) <|
        .write (gPtrArrayAdd taskKey requestUuid) <|
        .result (.bool true)
    | some _ =>
        .read fun table =>
          if requestUuid ∈ table.uuids taskKey then .result (.bool false)
          else .write (gPtrArrayAdd taskKey requestUuid) (.result (.bool true))

/-- `respond_table_drop_do`; the search in a NULL array finds nothing. -/
def dropStatements (taskKey requestUuid : String) : Statements GHashTable TableResult :=
  .read fun table =>
    match table.lookup taskKey with
    | none => .result (.dropped ⟨false, 0⟩)
    | some _ =>
        .read fun table =>
          match (table.uuids taskKey).idxOf? requestUuid with
          | none => .result (.dropped ⟨false, 0⟩)
          | some idx =>
              .write (gPtrArrayRemoveIndex taskKey idx) <|
              .read fun table =>
                let count := (table.uuids taskKey).length
                if count < 1 then
                  .write (AList.erase taskKey) (.result (.dropped ⟨true, count⟩))
                else .result (.dropped ⟨true, count⟩)

/-- The loop of `g_ptr_array_copy`, with the number of elements left. -/
def copyStatements (taskKey : String) :
    Nat → List String → Statements GHashTable TableResult
  | 0, copy => .result (.uuids (some copy))
  | left + 1, copy =>
      .read fun table =>
        copyStatements taskKey left (copy ++ ((table.uuids taskKey)[copy.length]?).toList)

/-- `respond_table_request_dup`. -/
def requestDupStatements (taskKey : String) : Statements GHashTable TableResult :=
  .read fun table =>
    match table.lookup taskKey with
    | none => .result (.uuids none)
    | some arr => copyStatements taskKey arr.length []

/-- The loop of `respond_table_dup_task_key` over the keys still to be visited. -/
def iterStatements (requestUuid : String) : List String → Statements GHashTable TableResult
  | [] => .result (.taskKey none)
  | tk :: rest =>
      .read fun table =>
        if requestUuid ∈ table.uuids tk then .result (.taskKey (some tk))
        else iterStatements requestUuid rest

/-- `respond_table_dup_task_key`. -/
def dupTaskKeyStatements (env : Environment) (requestUuid : String) :
    Statements GHashTable TableResult :=
  .read fun table =>
    iterStatements requestUuid ((env.hashOrder table.entries).map Sigma.fst)

/-- `respond_table_request_exists`. -/
def requestExistsStatements (taskKey requestUuid : String) :
    Statements GHashTable TableResult :=
  .read fun table =>
    match table.lookup taskKey with
    | none => .result (.bool false)
    | some _ => .read fun table => .result (.bool (requestUuid ∈ table.uuids taskKey))

end GHashTable

/-- The two tables at any time. -/
structure HashTables where
  singleshotTable : GHashTable
  multirespondTable : GHashTable

namespace HashTables

def which (type : RespondTableType) (tables : HashTables) : GHashTable :=
  match type with
  | .singleshot => tables.singleshotTable
  | .multirespond => tables.multirespondTable

def put (type : RespondTableType) (tables : HashTables) (table : GHashTable) : HashTables :=
  match type with
  | .singleshot => { tables with singleshotTable := table }
  | .multirespond => { tables with multirespondTable := table }

/-- The statements of a call on the table it is about. -/
def statements (env : Environment) (call : TableCall) : Statements HashTables TableResult :=
  match call with
  | .set type taskKey requestUuid =>
      (GHashTable.setStatements taskKey requestUuid).within (which type) (put type)
  | .drop type taskKey requestUuid =>
      (GHashTable.dropStatements taskKey requestUuid).within (which type) (put type)
  | .remove type taskKey =>
      (Statements.write (AList.erase taskKey) (.result .void)).within (which type) (put type)
  | .requestDup type taskKey =>
      (GHashTable.requestDupStatements taskKey).within (which type) (put type)
  | .dupTaskKey type requestUuid =>
      (GHashTable.dupTaskKeyStatements env requestUuid).within (which type) (put type)
  | .taskExists type taskKey =>
      (Statements.read fun table : GHashTable =>
        .result (.bool (table.lookup taskKey).isSome)).within (which type) (put type)
  | .requestExists type taskKey requestUuid =>
      (GHashTable.requestExistsStatements taskKey requestUuid).within (which type) (put type)

end HashTables

/-! ## What the statements do -/

namespace GHashTable

variable (table : GHashTable) (taskKey requestUuid : String)

theorem run_setStatements :
    (setStatements taskKey requestUuid).run table =
      (.bool (respondTableSetDo table taskKey requestUuid).1,
        (respondTableSetDo table taskKey requestUuid).2) := by
  unfold setStatements respondTableSetDo
  cases found : table.lookup taskKey with
  | none => simp [found, gPtrArrayAdd, AList.insert_insert]
  | some arr =>
      by_cases member : requestUuid ∈ arr
      · simp [found, GHashTable.uuids, member]
      · simp [found, GHashTable.uuids, member, gPtrArrayAdd]

/-- The entry that loses its array is the one it had. -/
theorem erase_insert (arr : List String) :
    (AList.insert taskKey arr table).erase taskKey = table.erase taskKey := by
  apply AList.ext
  change List.kerase taskKey (AList.insert taskKey arr table).entries = _
  rw [AList.entries_insert]
  exact List.kerase_cons_eq rfl

theorem run_dropStatements :
    (dropStatements taskKey requestUuid).run table =
      (.dropped (respondTableDropDo table taskKey requestUuid).1,
        (respondTableDropDo table taskKey requestUuid).2) := by
  unfold dropStatements respondTableDropDo
  cases found : table.lookup taskKey with
  | none => simp [found]
  | some arr =>
      have listed : table.uuids taskKey = arr := by simp [GHashTable.uuids, found]
      cases position : arr.idxOf? requestUuid with
      | none =>
          have absent : requestUuid ∉ arr := List.idxOf?_eq_none_iff.mp position
          simp [found, listed, position, absent]
      | some idx =>
          have member : requestUuid ∈ arr := by
            rw [← List.isSome_idxOf?, position]
            rfl
          have erased : arr.erase requestUuid = arr.eraseIdx idx := by
            rw [List.erase_eq_eraseIdx, position]
          have removed : gPtrArrayRemoveIndex taskKey idx table =
              table.insert taskKey (arr.erase requestUuid) := by
            simp only [gPtrArrayRemoveIndex, found, erased]
          have left : (AList.insert taskKey (arr.erase requestUuid) table).lookup taskKey =
              some (arr.erase requestUuid) := AList.lookup_insert _
          have count : GHashTable.uuids (table.insert taskKey (arr.erase requestUuid)) taskKey =
              arr.erase requestUuid := by simp [GHashTable.uuids]
          simp only [Statements.run_read, found, listed, position, Statements.run_write,
            removed, count, if_pos member]
          split
          · simp [erase_insert]
          · rfl

/-- The elements copied so far and those left make up the array. -/
theorem run_copyStatements {arr : List String} (found : table.lookup taskKey = some arr) :
    ∀ copy : List String, copy = arr.take copy.length → ∀ left,
      copy.length + left = arr.length →
      (copyStatements taskKey left copy).run table = (.uuids (some arr), table) := by
  intro copy taken left
  induction left generalizing copy with
  | zero =>
      intro complete
      have whole : copy = arr := by
        rw [taken, List.take_of_length_le (by omega)]
      simp [copyStatements, whole]
  | succ left inductionHypothesis =>
      intro incomplete
      have listed : table.uuids taskKey = arr := by simp [GHashTable.uuids, found]
      have inside : copy.length < arr.length := by omega
      have element : (table.uuids taskKey)[copy.length]? = some arr[copy.length] := by
        rw [listed, List.getElem?_eq_getElem inside]
      simp only [copyStatements, Statements.run_read, element, Option.toList_some]
      apply inductionHypothesis
      · rw [List.length_append, List.length_singleton, List.take_add_one,
          List.getElem?_eq_getElem inside, ← taken]
        rfl
      · simp only [List.length_append, List.length_singleton]
        omega

theorem run_requestDupStatements :
    (requestDupStatements taskKey).run table = (.uuids (table.lookup taskKey), table) := by
  unfold requestDupStatements
  cases found : table.lookup taskKey with
  | none => simp [found]
  | some arr =>
      simp only [Statements.run_read, found]
      exact run_copyStatements table taskKey found [] rfl _ (by simp)

theorem run_iterStatements (entries : List (Σ _ : String, List String))
    (listed : ∀ entry ∈ entries, table.uuids entry.1 = entry.2) :
    (iterStatements requestUuid (entries.map Sigma.fst)).run table =
      (.taskKey ((entries.find? fun entry => requestUuid ∈ entry.2).map Sigma.fst), table) := by
  induction entries with
  | nil => rfl
  | cons entry rest inductionHypothesis =>
      have here := listed entry List.mem_cons_self
      have later := inductionHypothesis fun other member =>
        listed other (List.mem_cons_of_mem _ member)
      by_cases member : requestUuid ∈ entry.2
      · simp [iterStatements, here, member]
      · simp [iterStatements, here, member, later]

theorem run_dupTaskKeyStatements (env : Environment) :
    (dupTaskKeyStatements env requestUuid).run table =
      (.taskKey (((env.hashOrder table.entries).find? fun entry =>
        requestUuid ∈ entry.2).map Sigma.fst), table) := by
  apply run_iterStatements
  intro entry member
  have there : entry ∈ table.entries := (env.hashOrder_perm _).mem_iff.mp member
  have found : table.lookup entry.1 = some entry.2 := AList.mem_lookup_iff.mpr there
  simp [GHashTable.uuids, found]

theorem run_requestExistsStatements :
    (requestExistsStatements taskKey requestUuid).run table =
      (.bool (match table.lookup taskKey with
        | none => false
        | some arr => decide (requestUuid ∈ arr)), table) := by
  unfold requestExistsStatements
  cases found : table.lookup taskKey with
  | none => simp [found]
  | some arr => simp [found, GHashTable.uuids]

end GHashTable

/-! ## The tables behind the lock -/

namespace RespondTables

/-- The two hash tables of the source. -/
def hashTables (tables : RespondTables) : HashTables where
  singleshotTable := tables.singleshotTable.1
  multirespondTable := tables.multirespondTable.1

variable (tables : RespondTables) (type : RespondTableType)

theorem which_hashTables : tables.hashTables.which type = (tables.which type).1 := by
  cases type <;> rfl

theorem hashTables_put (table : RespondTable) :
    (tables.put table type).hashTables = tables.hashTables.put type table.1 := by
  cases type <;> rfl

theorem put_same : tables.hashTables.put type (tables.which type).1 = tables.hashTables := by
  cases type <;> rfl

/-- Statements on one table leave the other alone. -/
theorem run_within (statements : Statements GHashTable TableResult) :
    (statements.within (HashTables.which type) (HashTables.put type)).run tables.hashTables =
      ((statements.run (tables.which type).1).1,
        tables.hashTables.put type (statements.run (tables.which type).1).2) := by
  rw [Statements.run_within, which_hashTables]
  · intro whole part
    cases type <;> rfl
  · intro whole first second
    cases type <;> rfl
  · intro whole
    cases type <;> rfl

/-- A function of the respond tables as a whole. -/
def operation (env : Environment) (call : TableCall) (tables : RespondTables) :
    TableResult × RespondTables :=
  tables.call env call

/-- Every function of the respond tables does, statement by statement, what it does as a
whole. -/
theorem implements_statements (env : Environment) :
    Implements (HashTables.statements env) (operation env) hashTables := by
  intro call tables
  cases call with
  | set type taskKey requestUuid =>
      simp only [HashTables.statements, run_within, GHashTable.run_setStatements, operation,
        call, hashTables_put]
      rfl
  | drop type taskKey requestUuid =>
      simp only [HashTables.statements, run_within, GHashTable.run_dropStatements, operation,
        call, hashTables_put]
      rfl
  | remove type taskKey =>
      simp only [HashTables.statements, run_within, operation, call, hashTables_put]
      rfl
  | requestDup type taskKey =>
      simp only [HashTables.statements, run_within, GHashTable.run_requestDupStatements,
        operation, call, put_same]
      rfl
  | dupTaskKey type requestUuid =>
      simp only [HashTables.statements, run_within, GHashTable.run_dupTaskKeyStatements,
        operation, call, put_same]
      rfl
  | taskExists type taskKey =>
      simp only [HashTables.statements, run_within, operation, call, put_same, Statements.run_read,
        Statements.run_result]
      rfl
  | requestExists type taskKey requestUuid =>
      simp only [HashTables.statements, run_within, GHashTable.run_requestExistsStatements,
        operation, call, put_same]
      rfl

theorem answers_of_performs {env : Environment} {tables last : RespondTables}
    {performed : List (TableCall × TableResult)}
    (performs : Performs (operation env) tables performed last) :
    Waiting.Answers tables.waiting (performed.map Prod.fst) (performed.map Prod.snd)
      last.waiting := by
  induction performs with
  | nil => exact .nil
  | @cons tables last call rest later inductionHypothesis =>
      obtain ⟨admits, effect⟩ := call_refines env tables call
      have effects : (operation env call tables).2.waiting = tables.waiting.after call := effect
      rw [effects] at inductionHypothesis
      exact .cons admits inductionHypothesis

end RespondTables

/-- The threads see what they would see if each call were answered by the reference in one
step between its call and its return, and the tables are those of the reference whenever
their lock is free. -/
def SeesReference {ι : Type} [DecidableEq ι] (env : Environment)
    (object : LockedObject ι TableCall TableResult HashTables) : Prop :=
  ∃ (atomic : AtomicObject ι TableCall TableResult RespondTables) (waiting : Waiting),
    Runs.Reaches (AtomicObject.step (RespondTables.operation env)) Runs.unrestricted
      (AtomicObject.initial .create) atomic ∧
    atomic.events.filter ObjectEvent.visible = object.events ∧
    Waiting.Answers .nobody (atomic.performed.map Prod.fst) (atomic.performed.map Prod.snd)
      waiting ∧
    atomic.shared.Represents waiting ∧
    (object.owner = none → object.shared = atomic.shared.hashTables)

/-- However the statements of any number of threads interleave, the respond tables are
linearizable. -/
theorem respondTables_linearizable {ι : Type} [DecidableEq ι] {env : Environment}
    {object : LockedObject ι TableCall TableResult HashTables}
    (reached : Runs.Reaches (LockedObject.step (HashTables.statements env)) Runs.unrestricted
      (LockedObject.initial RespondTables.create.hashTables) object) :
    SeesReference env object := by
  obtain ⟨atomic, run, events, free⟩ :=
    LockedObject.linearizable (RespondTables.implements_statements env) reached
  have answers := RespondTables.answers_of_performs (AtomicObject.performs_of_reaches run)
  rw [RespondTables.waiting_create] at answers
  exact ⟨atomic, _, run, events, answers, RespondTables.represents_waiting _, free⟩

/-- One thread has made an entry without a uuid while another waits for the lock. -/
theorem respondTables_linearizable_inside :
    ∃ object : LockedObject Bool TableCall TableResult HashTables,
      object.shared.singleshotTable.lookup "k" = some [] ∧ object.events.length = 2 ∧
      SeesReference .reference object := by
  obtain ⟨object, reached, tested⟩ :=
    Runs.reaches_of_execute_test (LockedObject.step (HashTables.statements .reference))
      Runs.unrestricted
      [.call true (.set .singleshot "k" "u"), .call false (.requestDup .singleshot "k"),
        .proceed true, .proceed true, .proceed true]
      (LockedObject.initial RespondTables.create.hashTables)
      (fun object : LockedObject Bool TableCall TableResult HashTables =>
        decide (object.shared.singleshotTable.lookup "k" = some [] ∧ object.events.length = 2))
      (by decide +kernel)
  obtain ⟨empty, called⟩ := of_decide_eq_true tested
  exact ⟨object, empty, called, respondTables_linearizable reached⟩

end Sawang

import Sawang.RespondTable

/-!
# What the respond tables are for

`Waiting` says for each table and task key who waits for the reply, in the order
of registration; a key under which nobody waits does not exist.  The two tables
of the source answer every sequence of calls as `Waiting` does.
-/

namespace Sawang

/-- A call of a function of the respond tables. -/
inductive TableCall where
  | set (which : RespondTableType) (taskKey requestUuid : String)
  | drop (which : RespondTableType) (taskKey requestUuid : String)
  | remove (which : RespondTableType) (taskKey : String)
  | requestDup (which : RespondTableType) (taskKey : String)
  | dupTaskKey (which : RespondTableType) (requestUuid : String)
  | taskExists (which : RespondTableType) (taskKey : String)
  | requestExists (which : RespondTableType) (taskKey requestUuid : String)

/-- What the functions return; `none` is the NULL pointer. -/
inductive TableResult where
  | void
  | bool (value : Bool)
  | dropped (result : DropResult)
  | uuids (copy : Option (List String))
  | taskKey (copy : Option String)
deriving DecidableEq

/-! ## The two tables -/

structure RespondTables where
  singleshotTable : RespondTable
  multirespondTable : RespondTable

namespace RespondTables

/-- `respond_table_create`. -/
def create : RespondTables where
  singleshotTable := .empty
  multirespondTable := .empty

/-- `respond_table_which`. -/
def which (tables : RespondTables) : RespondTableType → RespondTable
  | .singleshot => tables.singleshotTable
  | .multirespond => tables.multirespondTable

def put (tables : RespondTables) (table : RespondTable) :
    RespondTableType → RespondTables
  | .singleshot => { tables with singleshotTable := table }
  | .multirespond => { tables with multirespondTable := table }

/-- One call under `respond_table_lock`. -/
def call (env : Environment) (tables : RespondTables) :
    TableCall → TableResult × RespondTables
  | .set which taskKey requestUuid =>
      let done := (tables.which which).set taskKey requestUuid
      (.bool done.1, tables.put done.2 which)
  | .drop which taskKey requestUuid =>
      let done := (tables.which which).drop taskKey requestUuid
      (.dropped done.1, tables.put done.2 which)
  | .remove which taskKey =>
      (.void, tables.put ((tables.which which).remove taskKey) which)
  | .requestDup which taskKey => (.uuids ((tables.which which).requestDup taskKey), tables)
  | .dupTaskKey which requestUuid =>
      (.taskKey ((tables.which which).dupTaskKey env requestUuid), tables)
  | .taskExists which taskKey => (.bool ((tables.which which).taskExists taskKey), tables)
  | .requestExists which taskKey requestUuid =>
      (.bool ((tables.which which).requestExists taskKey requestUuid), tables)

/-- A sequence of calls: their results in order and the tables after them. -/
def run (env : Environment) : List TableCall → RespondTables →
    List TableResult × RespondTables
  | [], tables => ([], tables)
  | call :: rest, tables =>
      let done := tables.call env call
      let later := run env rest done.2
      (done.1 :: later.1, later.2)

end RespondTables

/-! ## The reference -/

/-- Who waits in each table under each key. -/
abbrev Waiting := RespondTableType → String → List String

namespace Waiting

def nobody : Waiting := fun _ _ => []

def put (waiting : Waiting) (which : RespondTableType) (taskKey : String)
    (uuids : List String) : Waiting :=
  Function.update waiting which (Function.update (waiting which) taskKey uuids)

theorem put_apply (waiting : Waiting) (which other : RespondTableType)
    (taskKey otherKey : String) (uuids : List String) :
    waiting.put which taskKey uuids other otherKey =
      if other = which ∧ otherKey = taskKey then uuids else waiting other otherKey := by
  unfold put
  by_cases table : other = which
  · subst table
    rw [Function.update_self, Function.update_apply]
    simp
  · rw [Function.update_of_ne table, if_neg fun same => table same.1]

/-- The effect of a call. -/
def after (waiting : Waiting) : TableCall → Waiting
  | .set which taskKey requestUuid =>
      if requestUuid ∈ waiting which taskKey then waiting
      else waiting.put which taskKey (waiting which taskKey ++ [requestUuid])
  | .drop which taskKey requestUuid =>
      waiting.put which taskKey ((waiting which taskKey).filter (· ≠ requestUuid))
  | .remove which taskKey => waiting.put which taskKey []
  | _ => waiting

/-- The results a call may have. -/
def Admits (waiting : Waiting) : TableCall → TableResult → Prop
  | .set which taskKey requestUuid, result =>
      result = .bool (requestUuid ∉ waiting which taskKey)
  | .drop which taskKey requestUuid, result =>
      result = .dropped
        (if requestUuid ∈ waiting which taskKey then
          ⟨true, ((waiting which taskKey).filter (· ≠ requestUuid)).length⟩
        else ⟨false, 0⟩)
  | .remove _ _, result => result = .void
  | .requestDup which taskKey, result =>
      result = .uuids (if waiting which taskKey = [] then none
        else some (waiting which taskKey))
  | .dupTaskKey which requestUuid, result =>
      (∃ taskKey, result = .taskKey (some taskKey) ∧
        requestUuid ∈ waiting which taskKey) ∨
      (result = .taskKey none ∧ ∀ taskKey, requestUuid ∉ waiting which taskKey)
  | .taskExists which taskKey, result => result = .bool (waiting which taskKey ≠ [])
  | .requestExists which taskKey requestUuid, result =>
      result = .bool (requestUuid ∈ waiting which taskKey)

/-- A sequence of calls with results that the reference admits, and what is left. -/
inductive Answers : Waiting → List TableCall → List TableResult → Waiting → Prop
  | nil {waiting : Waiting} : Answers waiting [] [] waiting
  | cons {waiting last : Waiting} {call : TableCall} {result : TableResult}
      {calls : List TableCall} {results : List TableResult}
      (admits : waiting.Admits call result)
      (rest : Answers (waiting.after call) calls results last) :
      Answers waiting (call :: calls) (result :: results) last

end Waiting

/-! ## The tables refine the reference -/

namespace RespondTables

/-- What the tables say about who waits. -/
def waiting (tables : RespondTables) : Waiting :=
  fun which taskKey => (tables.which which).uuids taskKey

/-- Exactly the keys under which somebody waits are in the tables, each with its list. -/
structure Represents (tables : RespondTables) (waiting : Waiting) : Prop where
  lookup : ∀ which taskKey, (tables.which which).1.lookup taskKey =
    if waiting which taskKey = [] then none else some (waiting which taskKey)
  nodup : ∀ which taskKey, (waiting which taskKey).Nodup

theorem represents_waiting (tables : RespondTables) : tables.Represents tables.waiting where
  lookup := fun which taskKey => (tables.which which).requestDup_eq taskKey
  nodup := fun which taskKey => (tables.which which).uuids_nodup taskKey

@[simp]
theorem waiting_create : create.waiting = .nobody := by
  funext which taskKey
  cases which <;> rfl

@[simp]
theorem which_put (tables : RespondTables) (table : RespondTable)
    (which other : RespondTableType) :
    (tables.put table which).which other = if other = which then table else tables.which other := by
  cases which <;> cases other <;> rfl

/-- Replacing a table by one that differs in the list of one key. -/
theorem waiting_put {tables : RespondTables} {table : RespondTable}
    {which : RespondTableType} {taskKey : String} {uuids : List String}
    (changed : ∀ other, table.uuids other =
      if other = taskKey then uuids else (tables.which which).uuids other) :
    (tables.put table which).waiting = tables.waiting.put which taskKey uuids := by
  funext whose other
  rw [Waiting.put_apply]
  unfold waiting
  rw [which_put]
  by_cases same : whose = which
  · subst same
    rw [if_pos rfl, changed]
    simp
  · rw [if_neg same, if_neg fun both => same both.1]

theorem waiting_set (tables : RespondTables) (which : RespondTableType)
    (taskKey requestUuid : String) :
    (tables.put ((tables.which which).set taskKey requestUuid).2 which).waiting =
      tables.waiting.after (.set which taskKey requestUuid) := by
  by_cases member : requestUuid ∈ tables.waiting which taskKey
  · rw [Waiting.after, if_pos member]
    funext whose other
    unfold waiting at member ⊢
    rw [which_put]
    split
    · rename_i same
      subst same
      rw [RespondTable.uuids_set, if_neg (fun new => new.2 member)]
    · rfl
  · rw [Waiting.after, if_neg member]
    apply waiting_put
    intro other
    rw [RespondTable.uuids_set]
    by_cases own : other = taskKey
    · rw [if_pos ⟨own, member⟩, if_pos own]
      rfl
    · rw [if_neg (fun new => own new.1), if_neg own]

theorem waiting_drop (tables : RespondTables) (which : RespondTableType)
    (taskKey requestUuid : String) :
    (tables.put ((tables.which which).drop taskKey requestUuid).2 which).waiting =
      tables.waiting.after (.drop which taskKey requestUuid) := by
  apply waiting_put
  intro other
  rw [RespondTable.uuids_drop, RespondTable.erase_uuids]
  rfl

theorem waiting_remove (tables : RespondTables) (which : RespondTableType)
    (taskKey : String) :
    (tables.put ((tables.which which).remove taskKey) which).waiting =
      tables.waiting.after (.remove which taskKey) :=
  waiting_put fun other => (tables.which which).uuids_remove taskKey other

/-- One call has a result and an effect of the reference. -/
theorem call_refines (env : Environment) (tables : RespondTables) (call : TableCall) :
    tables.waiting.Admits call (tables.call env call).1 ∧
      (tables.call env call).2.waiting = tables.waiting.after call := by
  cases call with
  | set which taskKey requestUuid =>
      refine ⟨?_, tables.waiting_set which taskKey requestUuid⟩
      exact congrArg TableResult.bool (RespondTable.set_fst _ _ _)
  | drop which taskKey requestUuid =>
      refine ⟨?_, tables.waiting_drop which taskKey requestUuid⟩
      refine congrArg TableResult.dropped ?_
      rw [RespondTable.drop_fst, RespondTable.erase_uuids]
      rfl
  | remove which taskKey => exact ⟨rfl, tables.waiting_remove which taskKey⟩
  | requestDup which taskKey =>
      exact ⟨congrArg TableResult.uuids (RespondTable.requestDup_eq _ _), rfl⟩
  | dupTaskKey which requestUuid =>
      refine ⟨?_, rfl⟩
      cases resolved : (tables.which which).dupTaskKey env requestUuid with
      | none =>
          exact Or.inr ⟨congrArg TableResult.taskKey resolved,
            RespondTable.not_mem_of_dupTaskKey_eq_none resolved⟩
      | some taskKey =>
          exact Or.inl ⟨taskKey, congrArg TableResult.taskKey resolved,
            RespondTable.mem_of_dupTaskKey_eq_some resolved⟩
  | taskExists which taskKey =>
      exact ⟨congrArg TableResult.bool (RespondTable.taskExists_eq _ _), rfl⟩
  | requestExists which taskKey requestUuid =>
      exact ⟨congrArg TableResult.bool (RespondTable.requestExists_eq _ _ _), rfl⟩

theorem run_refines (env : Environment) (calls : List TableCall) :
    ∀ tables : RespondTables, Waiting.Answers tables.waiting calls
      (run env calls tables).1 (run env calls tables).2.waiting := by
  induction calls with
  | nil =>
      intro tables
      exact .nil
  | cons call rest inductionHypothesis =>
      intro tables
      obtain ⟨admits, effect⟩ := call_refines env tables call
      have later := inductionHypothesis (tables.call env call).2
      rw [effect] at later
      exact .cons admits later

end RespondTables

/-- Whatever is called in whatever order, the tables answer as the reference and
hold exactly its keys, none with an empty list or a repeated uuid. -/
theorem respondTables_refine (env : Environment) (calls : List TableCall) :
    ∃ waiting, Waiting.Answers .nobody calls (RespondTables.run env calls .create).1 waiting ∧
      (RespondTables.run env calls .create).2.Represents waiting := by
  have refines := RespondTables.run_refines env calls .create
  rw [RespondTables.waiting_create] at refines
  exact ⟨_, refines, RespondTables.represents_waiting _⟩

end Sawang

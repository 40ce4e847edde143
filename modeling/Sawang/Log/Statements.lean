import Sawang.Foundation.LockedObject
import Sawang.Log.Rotation

/-!
# The log, statement by statement

`proxy_log` looks at the file, opens it and writes an entry in six pieces.  It does so
under `proxy_log_lock`, and so the entries of the threads do not run into each other, and
no thread truncates what another one has just written.
-/

namespace Sawang

/-! ## The statements -/

inductive OpenFlags where
  | append
  | truncate
  | create

namespace LogCall

variable (ctx : LogContext) (localtime : Int → Tm)

/-- The flags that `proxy_log` opens the file with, from its `stat`. -/
def openFlags (call : LogCall) : Option LogFile → OpenFlags
  | none => .create
  | some file =>
      if sameDay (call.now localtime) (localtime file.time) then .append else .truncate

/-- `open`. -/
def openFile (call : LogCall) (path : List Char) (flags : OpenFlags)
    (files : List Char → Option LogFile) : List Char → Option LogFile :=
  match flags, files path with
  | .create, none | .truncate, some _ =>
      Function.update files path (some ⟨[], call.instant⟩)
  | _, _ => files

/-- `write` to a file that was opened for appending. -/
def writeFile (call : LogCall) (path text : List Char)
    (files : List Char → Option LogFile) : List Char → Option LogFile :=
  match files path with
  | none => files
  | some file => Function.update files path (some ⟨file.content ++ text, call.instant⟩)

def writeStatements (call : LogCall) (path : List Char) :
    List (List Char) → Statements (List Char → Option LogFile) Unit
  | [] => .result ()
  | text :: rest => .write (call.writeFile path text) (call.writeStatements path rest)

/-- The pieces of an entry, but for its time. -/
def pieces (call : LogCall) : List (List Char) :=
  [" [".toList ++ (toString ctx.pid).toList ++ "] ".toList, call.level, ": ".toList,
    call.message, ['\n']]

/-- `proxy_log` between its lock and its unlock. -/
def statements (call : LogCall) : Statements (List Char → Option LogFile) Unit :=
  let path := filepath ctx (call.now localtime).wday
  .read fun files =>
    if call.statFails ∨ call.openFails then .result ()
    else
      .write (call.openFile path (call.openFlags localtime (files path))) <|
        if call.mallocFails ∨ call.message = [] then .result ()
        else call.writeStatements path (call.tmstr (call.now localtime) :: call.pieces ctx)

end LogCall

/-! ## Without interruption -/

variable {ctx : LogContext} {localtime : Int → Tm}

theorem LogCall.openFile_openFlags (call : LogCall) (path : List Char)
    (files : List Char → Option LogFile) :
    call.openFile path (call.openFlags localtime (files path)) files =
      Function.update files path (some (openLog localtime call (files path))) := by
  unfold openFile openFlags openLog
  cases there : files path with
  | none => rfl
  | some file =>
      dsimp only
      by_cases today : sameDay (localtime call.instant.sec) (localtime file.time) = true
      · rw [now, if_pos today, if_pos today, ← there, Function.update_eq_self]
      · rw [now, if_neg today, if_neg today]

/-- Writes one behind the other write all of it. -/
theorem LogCall.run_writeStatements (call : LogCall) {path : List Char} {file : LogFile}
    {files : List Char → Option LogFile} (there : files path = some file)
    (text : List Char) (rest : List (List Char)) :
    (call.writeStatements path (text :: rest)).run files =
      ((), Function.update files path
        (some ⟨file.content ++ (text :: rest).flatten, call.instant⟩)) := by
  induction rest generalizing file files text with
  | nil =>
      rw [writeStatements, writeStatements, Statements.run_write, Statements.run_result,
        writeFile, there, List.flatten_singleton]
  | cons next rest inductionHypothesis =>
      have written : call.writeFile path text files path =
          some ⟨file.content ++ text, call.instant⟩ := by
        rw [writeFile, there]
        exact Function.update_self ..
      rw [writeStatements, Statements.run_write, inductionHypothesis written, writeFile, there]
      simp

/-- The pieces make up the entry. -/
theorem LogCall.flatten_pieces (call : LogCall) :
    (call.tmstr (call.now localtime) :: call.pieces ctx).flatten =
      call.written ctx localtime := by
  unfold pieces written logEntry
  simp

theorem LogCall.implements_statements :
    Implements (LogCall.statements ctx localtime)
      (fun call files => ((), proxyLog ctx localtime files call)) id := by
  intro call files
  unfold LogCall.statements proxyLog
  dsimp only [id]
  rw [Statements.run_read]
  by_cases fails : call.statFails = true ∨ call.openFails = true
  · rw [if_pos fails, if_pos fails, Statements.run_result]
  · rw [if_neg fails, if_neg fails, Statements.run_write, call.openFile_openFlags]
    by_cases nothing : call.mallocFails = true ∨ call.message = []
    · rw [if_pos nothing, if_pos nothing, Statements.run_result]
      rfl
    · rw [if_neg nothing, if_neg nothing, call.run_writeStatements (Function.update_self ..),
        call.flatten_pieces, Function.update_idem]
      rfl

/-! ## Any number of threads -/

/-- Calls performed one after the other leave what the log's own loop leaves. -/
theorem foldl_proxyLog_of_performs {files last : List Char → Option LogFile}
    {performed : List (LogCall × Unit)}
    (performs : Performs (fun call files => ((), proxyLog ctx localtime files call)) files
      performed last) :
    (performed.map Prod.fst).foldl (proxyLog ctx localtime) files = last := by
  induction performs with
  | nil => rfl
  | cons later inductionHypothesis => exact inductionHypothesis

/-- Every file consists of what some of the calls have written, in their order. -/
def WholeEntries (ctx : LogContext) (localtime : Int → Tm) (files : List Char → Option LogFile)
    (calls : List LogCall) : Prop :=
  ∀ path file, files path = some file → ∃ entries : List LogCall,
    entries.Sublist calls ∧
      file.content = entries.flatMap (LogCall.written ctx localtime)

/-- What is left of a file when it is opened. -/
theorem WholeEntries.openLog {files : List Char → Option LogFile} {calls : List LogCall}
    (whole : WholeEntries ctx localtime files calls) (call : LogCall) (path : List Char) :
    ∃ entries : List LogCall, entries.Sublist calls ∧
      (openLog localtime call (files path)).content =
        entries.flatMap (LogCall.written ctx localtime) := by
  cases there : files path with
  | none => exact ⟨[], List.nil_sublist _, rfl⟩
  | some file =>
      unfold Sawang.openLog
      dsimp only
      split
      · exact whole path file there
      · exact ⟨[], List.nil_sublist _, rfl⟩

theorem WholeEntries.proxyLog {files : List Char → Option LogFile} {calls : List LogCall}
    (whole : WholeEntries ctx localtime files calls) (call : LogCall) :
    WholeEntries ctx localtime (proxyLog ctx localtime files call) (calls ++ [call]) := by
  have earlier : ∀ entries : List LogCall, entries.Sublist calls →
      entries.Sublist (calls ++ [call]) :=
    fun entries sublist => sublist.trans (List.sublist_append_left _ _)
  intro path file there
  unfold Sawang.proxyLog at there
  dsimp only at there
  split at there
  · obtain ⟨entries, sublist, content⟩ := whole path file there
    exact ⟨entries, earlier entries sublist, content⟩
  · obtain ⟨entries, sublist, opened⟩ :=
      whole.openLog call (filepath ctx (localtime call.instant.sec).wday)
    by_cases own : path = filepath ctx (localtime call.instant.sec).wday
    · subst own
      split at there <;> rw [Function.update_self] at there <;> cases there
      · exact ⟨entries, earlier entries sublist, opened⟩
      · refine ⟨entries ++ [call], sublist.append (List.Sublist.refl _), ?_⟩
        rw [opened, List.flatMap_append, List.flatMap_singleton]
        rfl
    · obtain ⟨entries, sublist, content⟩ := whole path file (by
        split at there <;> rwa [Function.update_of_ne own] at there)
      exact ⟨entries, earlier entries sublist, content⟩

theorem wholeEntries_logAll (ctx : LogContext) (localtime : Int → Tm) (calls : List LogCall) :
    WholeEntries ctx localtime (logAll ctx localtime calls) calls := by
  induction calls using List.reverseRecOn with
  | nil => exact nofun
  | append_singleton calls call inductionHypothesis =>
      unfold logAll at inductionHypothesis ⊢
      rw [List.foldl_append]
      exact inductionHypothesis.proxyLog call

/-- There is an order of the calls in which the threads could have made them one after the
other.  Whoever finds the lock free finds what the log is after them: files of whole
entries, rotated if the calls have something to write and their dates do not go back.
An entry is as it was written, with what `strftime` leaves of its time. -/
def SeesLog {ι : Type} [DecidableEq ι] (ctx : LogContext) (localtime : Int → Tm)
    (object : LockedObject ι LogCall Unit (List Char → Option LogFile)) : Prop :=
  ∃ (atomic : AtomicObject ι LogCall Unit (List Char → Option LogFile))
    (calls : List LogCall),
    Runs.Reaches (AtomicObject.step fun call files => ((), proxyLog ctx localtime files call))
      Runs.unrestricted (AtomicObject.initial fun _ => none) atomic ∧
    atomic.events.filter ObjectEvent.visible = object.events ∧
    calls = atomic.performed.map Prod.fst ∧
    (object.owner = none → object.shared = logAll ctx localtime calls ∧
      WholeEntries ctx localtime object.shared calls ∧
      ((∀ call ∈ calls, call.Writes) →
        (calls.Pairwise fun earlier later =>
          (earlier.now localtime).date ≤ (later.now localtime).date) →
        ∀ wday, KeepsLatest ctx localtime (LogCall.written ctx localtime) object.shared
          calls wday))

/-- However the statements of `proxy_log` interleave in any number of threads, the log is
one that calls made one after the other leave. -/
theorem log_linearizable {ι : Type} [DecidableEq ι] {ctx : FittingContext}
    {object : LockedObject ι LogCall Unit (List Char → Option LogFile)}
    (reached : Runs.Reaches (LockedObject.step (LogCall.statements ctx.toLogContext localtime))
      Runs.unrestricted (LockedObject.initial fun _ => none) object) :
    SeesLog ctx.toLogContext localtime object := by
  obtain ⟨atomic, run, events, free⟩ :=
    LockedObject.linearizable LogCall.implements_statements reached
  refine ⟨atomic, _, run, events, rfl, fun unowned => ?_⟩
  have shared :
      object.shared = logAll ctx.toLogContext localtime (atomic.performed.map Prod.fst) :=
    (free unowned).trans (foldl_proxyLog_of_performs (AtomicObject.performs_of_reaches run)).symm
  rw [shared]
  exact ⟨rfl, wholeEntries_logAll _ localtime _, fun writes forward wday =>
    keepsLatest_of_rotated (rotated_logAll writes forward wday)⟩

private def context : FittingContext where
  pid := 1
  path := ['.']
  name := ['p']
  fits := by decide

private def newYear : Tm where
  year := 70
  mon := 0
  mday := 1
  hour := 0
  min := 0
  sec := 0
  zone := "UTC".toList
  wday := weekday 70 0 1
  ofDate := rfl

private def newYearCall (level : String) : LogCall where
  instant := ⟨0, 0, Nat.pow_pos (Nat.succ_pos 9)⟩
  level := level.toList
  message := ['x']
  indeterminate := []
  statFails := false
  openFails := false
  mallocFails := false

private def newYearLog : List Char :=
  ("1970-01-01 00:00:00 UTC [1] INFO: x\n" ++
    "1970-01-01 00:00:00 UTC [1] ERROR: x\n").toList

/-- One thread is called while the other one is at its entry. -/
theorem log_linearizable_twice :
    ∃ object : LockedObject Bool LogCall Unit (List Char → Option LogFile),
      (object.shared "./p-Thu.log".toList).map LogFile.content = some newYearLog ∧
      SeesLog context.toLogContext (fun _ => newYear) object := by
  obtain ⟨object, reached, tested⟩ :=
    Runs.reaches_of_execute_test
      (LockedObject.step (LogCall.statements context.toLogContext fun _ => newYear))
      Runs.unrestricted
      ([.call true (newYearCall "INFO")] ++ List.replicate 5 (.proceed true) ++
        [.call false (newYearCall "ERROR")] ++ List.replicate 6 (.proceed true) ++
        List.replicate 10 (.proceed false))
      (LockedObject.initial fun _ => none)
      (fun object : LockedObject Bool LogCall Unit (List Char → Option LogFile) =>
        decide ((object.shared "./p-Thu.log".toList).map LogFile.content =
          some newYearLog))
      (by decide +kernel)
  exact ⟨object, of_decide_eq_true tested, log_linearizable reached⟩

end Sawang

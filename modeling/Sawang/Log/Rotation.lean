import Mathlib.Data.List.Basic
import Mathlib.Data.List.Induction
import Mathlib.Order.Bounds.Basic
import Sawang.Log

/-!
# Weekly rotation

Dates are compared as year, month and day.  The file of a weekday was last changed on
the latest date of that weekday anything was logged on, and holds what was written
then.  That is what was logged, as long as the time of an entry fits its array.
-/

namespace Sawang

/-- The date in the calendar's order. -/
def Tm.date (tm : Tm) : Lex (Int × Lex (Nat × Nat)) :=
  toLex (tm.year, toLex (tm.mon, tm.mday))

theorem sameDay_iff {now file : Tm} : sameDay now file = true ↔ now.date = file.date := by
  unfold sameDay Tm.date
  simp

/-- The day of the week of a time is that of its date. -/
theorem wday_eq_of_date_eq {first second : Tm} (same : first.date = second.date) :
    first.wday = second.wday := by
  unfold Tm.date at same
  simp only [EmbeddingLike.apply_eq_iff_eq, Prod.mk.injEq] at same
  rw [first.ofDate, second.ofDate, same.1, same.2.1, same.2.2]

theorem abbreviation_injective : Function.Injective abbreviation := by
  intro first second same
  revert first second
  decide

theorem filepath_injective (ctx : LogContext) : Function.Injective (filepath ctx) := by
  intro first second same
  unfold filepath at same
  have named := List.cons.inj (List.append_cancel_left same)
  have suffixed := List.cons.inj (List.append_cancel_left named.2)
  exact abbreviation_injective (List.append_cancel_right suffixed.2)

/-- A file is as old as its last write. -/
theorem time_eq (content : List Char) (instant : Timespec) :
    (LogFile.mk content instant).time = instant.sec := by
  have inside := instant.inside
  unfold LogFile.time
  dsimp only
  omega

section

variable (ctx : LogContext) (localtime : Int → Tm)

def LogCall.now (call : LogCall) : Tm := localtime call.instant.sec

/-- The file operations succeed and there is something to write. -/
def LogCall.Writes (call : LogCall) : Prop :=
  call.statFails = false ∧ call.openFails = false ∧ call.mallocFails = false ∧
    call.message ≠ []

/-- The path and the time of an entry fit their arrays, with their terminators. -/
def LogCall.Fits (call : LogCall) : Prop :=
  (filepath ctx (call.now localtime).wday).length < filepathLen ∧
    (timeStamp (call.now localtime)).length < tmstrbuflen

/-- The entry of a call, and what is written of it. -/
def LogCall.entry (call : LogCall) : List Char :=
  logEntry ctx (timeStamp (call.now localtime)) call

def LogCall.written (call : LogCall) : List Char :=
  logEntry ctx (call.tmstr (call.now localtime)) call

/-- The files after the calls, with no file before them. -/
def logAll (calls : List LogCall) : List Char → Option LogFile :=
  calls.foldl (proxyLog ctx localtime) fun _ => none

/-- The dates of a weekday that something was logged on. -/
def loggedDates (calls : List LogCall) (wday : Fin 7) : Set (Lex (Int × Lex (Nat × Nat))) :=
  {date | ∃ call ∈ calls, (call.now localtime).wday = wday ∧ (call.now localtime).date = date}

variable (entry : LogCall → List Char)

/-- What was logged on a date, in order. -/
def loggedOn (calls : List LogCall) (date : Lex (Int × Lex (Nat × Nat))) : List Char :=
  (calls.filter fun call => (call.now localtime).date = date).flatMap entry

/-- The file of the weekday holds the entries of its latest date, and there is none
before anything was logged on such a day. -/
structure KeepsLatest (files : List Char → Option LogFile) (calls : List LogCall)
    (wday : Fin 7) : Prop where
  absent : loggedDates localtime calls wday = ∅ → files (filepath ctx wday) = none
  latest : ∀ date, IsGreatest (loggedDates localtime calls wday) date →
    (files (filepath ctx wday)).map LogFile.content =
      some (loggedOn localtime entry calls date)

/-- What the loop of calls keeps for each weekday: a file was changed on the latest date. -/
structure Rotated (files : List Char → Option LogFile) (calls : List LogCall)
    (wday : Fin 7) : Prop where
  absent : files (filepath ctx wday) = none → loggedDates localtime calls wday = ∅
  present : ∀ file, files (filepath ctx wday) = some file →
    IsGreatest (loggedDates localtime calls wday) (localtime file.time).date ∧
      file.content =
        loggedOn localtime (LogCall.written ctx localtime) calls (localtime file.time).date

end

variable {ctx : LogContext} {localtime : Int → Tm}

theorem keepsLatest_of_rotated {files : List Char → Option LogFile} {calls : List LogCall}
    {wday : Fin 7} (rotated : Rotated ctx localtime files calls wday) :
    KeepsLatest ctx localtime (LogCall.written ctx localtime) files calls wday := by
  cases there : files (filepath ctx wday) with
  | none =>
      refine ⟨fun _ => there, fun date greatest => ?_⟩
      have none := rotated.absent there
      rw [none] at greatest
      exact absurd greatest.1 (Set.notMem_empty date)
  | some file =>
      obtain ⟨greatest, content⟩ := rotated.present file there
      constructor
      · intro none
        rw [none] at greatest
        exact absurd greatest.1 (Set.notMem_empty _)
      · intro date other
        rw [there, other.unique greatest]
        exact congrArg some content

/-! ## One call -/

theorem mem_loggedDates_append {calls : List LogCall} {call : LogCall} {wday : Fin 7}
    {date : Lex (Int × Lex (Nat × Nat))} :
    date ∈ loggedDates localtime (calls ++ [call]) wday ↔
      date ∈ loggedDates localtime calls wday ∨
        ((call.now localtime).wday = wday ∧ (call.now localtime).date = date) := by
  unfold loggedDates
  simp only [Set.mem_ofPred_eq, List.mem_append, List.mem_singleton]
  constructor
  · rintro ⟨other, earlier | rfl, dated⟩
    · exact Or.inl ⟨other, earlier, dated⟩
    · exact Or.inr dated
  · rintro (⟨other, earlier, dated⟩ | dated)
    · exact ⟨other, Or.inl earlier, dated⟩
    · exact ⟨call, Or.inr rfl, dated⟩

theorem loggedOn_append_same (entry : LogCall → List Char) (calls : List LogCall)
    (call : LogCall) :
    loggedOn localtime entry (calls ++ [call]) (call.now localtime).date =
      loggedOn localtime entry calls (call.now localtime).date ++ entry call := by
  unfold loggedOn
  simp

theorem loggedOn_append_other {entry : LogCall → List Char} {calls : List LogCall}
    {call : LogCall} {date : Lex (Int × Lex (Nat × Nat))}
    (other : (call.now localtime).date ≠ date) :
    loggedOn localtime entry (calls ++ [call]) date = loggedOn localtime entry calls date := by
  unfold loggedOn
  simp [other]

/-- Entries that are written alike make up the same day. -/
theorem loggedOn_congr {first second : LogCall → List Char} {calls : List LogCall}
    (alike : ∀ call ∈ calls, first call = second call)
    (date : Lex (Int × Lex (Nat × Nat))) :
    loggedOn localtime first calls date = loggedOn localtime second calls date := by
  unfold loggedOn
  exact List.flatMap_congr fun call member => alike call (List.mem_of_mem_filter member)

/-- Nothing is logged on a date that is missing among those of its weekday. -/
theorem loggedOn_eq_nil {entry : LogCall → List Char} {calls : List LogCall} {now : Tm}
    (missing : now.date ∉ loggedDates localtime calls now.wday) :
    loggedOn localtime entry calls now.date = [] := by
  have none : calls.filter (fun call => (call.now localtime).date = now.date) = [] := by
    rw [List.filter_eq_nil_iff]
    intro call member dated
    have same := of_decide_eq_true dated
    exact missing ⟨call, member, wday_eq_of_date_eq same, same⟩
  unfold loggedOn
  rw [none]
  rfl

/-- A call that writes leaves what it found today, or nothing, and its entry. -/
theorem proxyLog_own {files : List Char → Option LogFile} {call : LogCall}
    (writes : call.Writes) :
    proxyLog ctx localtime files call (filepath ctx (call.now localtime).wday) =
      some ⟨(openLog localtime call (files (filepath ctx (call.now localtime).wday))).content ++
        call.written ctx localtime, call.instant⟩ := by
  obtain ⟨found, opened, allocated, more⟩ := writes
  unfold proxyLog
  simp [found, opened, allocated, more, LogCall.now, LogCall.written]

theorem proxyLog_other {files : List Char → Option LogFile} {call : LogCall} {wday : Fin 7}
    (other : (call.now localtime).wday ≠ wday) :
    proxyLog ctx localtime files call (filepath ctx wday) = files (filepath ctx wday) := by
  have elsewhere : filepath ctx wday ≠ filepath ctx (localtime call.instant.sec).wday :=
    fun same => other (filepath_injective ctx same).symm
  unfold proxyLog
  dsimp only
  split
  · rfl
  · split <;> rw [Function.update_of_ne elsewhere]

/-- What `open` leaves in the file is what was logged today. -/
theorem content_openLog {files : List Char → Option LogFile} {calls : List LogCall}
    {call : LogCall}
    (rotated : Rotated ctx localtime files calls (call.now localtime).wday)
    (forward : ∀ earlier ∈ calls,
      (earlier.now localtime).date ≤ (call.now localtime).date) :
    (openLog localtime call (files (filepath ctx (call.now localtime).wday))).content =
      loggedOn localtime (LogCall.written ctx localtime) calls (call.now localtime).date := by
  cases there : files (filepath ctx (call.now localtime).wday) with
  | none =>
      have missing := rotated.absent there
      unfold openLog
      rw [loggedOn_eq_nil (by rw [missing]; exact Set.notMem_empty _)]
  | some file =>
      obtain ⟨greatest, content⟩ := rotated.present file there
      unfold openLog
      dsimp only
      by_cases today : sameDay (localtime call.instant.sec) (localtime file.time) = true
      · rw [if_pos today, content, ← sameDay_iff.mp today]
        rfl
      · rw [if_neg today, loggedOn_eq_nil]
        intro logged
        -- The file's date is the latest, and no later than today.
        obtain ⟨earlier, member, _, dated⟩ := greatest.1
        have before := forward earlier member
        rw [dated] at before
        exact today (sameDay_iff.mpr (le_antisymm (greatest.2 logged) before))

theorem rotated_proxyLog {files : List Char → Option LogFile} {calls : List LogCall}
    {call : LogCall} (rotated : ∀ wday, Rotated ctx localtime files calls wday)
    (writes : call.Writes)
    (forward : ∀ earlier ∈ calls,
      (earlier.now localtime).date ≤ (call.now localtime).date) (wday : Fin 7) :
    Rotated ctx localtime (proxyLog ctx localtime files call) (calls ++ [call]) wday := by
  by_cases own : (call.now localtime).wday = wday
  · subst own
    have content := content_openLog (rotated _) forward
    constructor
    · intro absent
      rw [proxyLog_own writes] at absent
      cases absent
    · intro file there
      rw [proxyLog_own writes, content] at there
      cases there
      rw [time_eq]
      refine ⟨⟨mem_loggedDates_append.mpr (Or.inr ⟨rfl, rfl⟩), ?_⟩, ?_⟩
      · intro date logged
        rcases mem_loggedDates_append.mp logged with ⟨earlier, member, _, rfl⟩ | ⟨_, rfl⟩
        · exact forward earlier member
        · exact le_refl _
      · exact (loggedOn_append_same _ calls call).symm
  · have dates : loggedDates localtime (calls ++ [call]) wday =
        loggedDates localtime calls wday := by
      ext date
      rw [mem_loggedDates_append]
      exact or_iff_left fun same => own same.1
    constructor
    · intro absent
      rw [proxyLog_other own] at absent
      rw [dates]
      exact (rotated wday).absent absent
    · intro file there
      rw [proxyLog_other own] at there
      obtain ⟨greatest, content⟩ := (rotated wday).present file there
      rw [dates]
      refine ⟨greatest, ?_⟩
      obtain ⟨earlier, _, onDay, dated⟩ := greatest.1
      rw [loggedOn_append_other, content]
      intro same
      exact own ((wday_eq_of_date_eq (same.trans dated.symm)).trans onDay)

/-! ## All calls -/

theorem rotated_logAll {calls : List LogCall} (writes : ∀ call ∈ calls, call.Writes)
    (forward : calls.Pairwise fun earlier later =>
      (earlier.now localtime).date ≤ (later.now localtime).date) (wday : Fin 7) :
    Rotated ctx localtime (logAll ctx localtime calls) calls wday := by
  induction calls using List.reverseRecOn generalizing wday with
  | nil =>
      constructor
      · intro _
        ext date
        simp [loggedDates]
      · intro file there
        cases there
  | append_singleton calls call ih =>
      rw [List.pairwise_append] at forward
      obtain ⟨earlier, _, last⟩ := forward
      have before := ih (fun other member => writes other (List.mem_append_left _ member)) earlier
      have after := rotated_proxyLog before
        (writes call (List.mem_append_right _ List.mem_cons_self))
        (fun other member => last other member call List.mem_cons_self) wday
      unfold logAll at after ⊢
      rw [List.foldl_append]
      exact after

/-- What fits is written as it is. -/
theorem LogCall.Fits.written {call : LogCall} (fits : call.Fits ctx localtime) :
    call.written ctx localtime = call.entry ctx localtime := by
  unfold LogCall.written LogCall.entry LogCall.tmstr
  rw [if_pos fits.2]

/-- After calls that fit and whose dates do not go back, each weekday's file holds exactly
what was logged on the latest date of that weekday. -/
theorem logAll_keepsLatest (ctx : LogContext) (localtime : Int → Tm) (calls : List LogCall)
    (writes : ∀ call ∈ calls, call.Writes)
    (forward : calls.Pairwise fun earlier later =>
      (earlier.now localtime).date ≤ (later.now localtime).date)
    (fits : ∀ call ∈ calls, call.Fits ctx localtime) (wday : Fin 7) :
    KeepsLatest ctx localtime (LogCall.entry ctx localtime) (logAll ctx localtime calls)
      calls wday := by
  have kept := keepsLatest_of_rotated (@rotated_logAll ctx localtime calls writes forward wday)
  refine ⟨kept.absent, fun date greatest => ?_⟩
  rw [kept.latest date greatest]
  exact congrArg some (loggedOn_congr (fun call member => (fits call member).written) date)

/-- `localtime` in January 1970 in a zone without offset. -/
private def january (zone : String) (t : Int) : Tm where
  year := 70
  mon := 0
  mday := (t / 86400).toNat + 1
  hour := (t % 86400 / 3600).toNat
  min := (t % 3600 / 60).toNat
  sec := (t % 60).toNat
  zone := zone.toList
  wday := weekday 70 0 ((t / 86400).toNat + 1)
  ofDate := rfl

private def januaryCall (day : Nat) : LogCall where
  instant := ⟨day * 86400, 0, by decide⟩
  level := "INFO".toList
  message := ['x']
  indeterminate := "1970-01-01 00:00:00 ".toList
  statFails := false
  openFails := false
  mallocFails := false

/-- Two Thursdays. -/
theorem logAll_keepsLatest_thursdays :
    KeepsLatest ⟨1, ['.'], ['p']⟩ (january "UTC")
      (LogCall.entry ⟨1, ['.'], ['p']⟩ (january "UTC"))
      (logAll ⟨1, ['.'], ['p']⟩ (january "UTC") [januaryCall 0, januaryCall 7])
      [januaryCall 0, januaryCall 7] 4 := by
  have writes : ∀ call ∈ [januaryCall 0, januaryCall 7], call.Writes := by
    simp [LogCall.Writes, januaryCall]
  have fits : ∀ call ∈ [januaryCall 0, januaryCall 7],
      call.Fits ⟨1, ['.'], ['p']⟩ (january "UTC") := by
    unfold LogCall.Fits
    decide
  exact logAll_keepsLatest _ (january "UTC") _ writes (by decide) fits 4

/-- A name of fifteen letters for the time zone, and `strftime` stops before it. -/
theorem logAll_not_keepsLatest :
    ¬∀ calls : List LogCall, (∀ call ∈ calls, call.Writes) →
      (calls.Pairwise fun earlier later =>
        (earlier.now (january "ABCDEFGHIJKLMNO")).date ≤
          (later.now (january "ABCDEFGHIJKLMNO")).date) →
      ∀ wday, KeepsLatest ⟨1, ['.'], ['p']⟩ (january "ABCDEFGHIJKLMNO")
        (LogCall.entry ⟨1, ['.'], ['p']⟩ (january "ABCDEFGHIJKLMNO"))
        (logAll ⟨1, ['.'], ['p']⟩ (january "ABCDEFGHIJKLMNO") calls) calls wday := by
  intro always
  have kept := always [januaryCall 0] (by simp [LogCall.Writes, januaryCall])
    (List.pairwise_singleton _ _) 4
  have latest := kept.latest ((januaryCall 0).now (january "ABCDEFGHIJKLMNO")).date
    ⟨⟨_, List.mem_cons_self, by decide, rfl⟩, by
      rintro date ⟨call, member, _, rfl⟩
      rw [List.mem_singleton.mp member]⟩
  revert latest
  decide

end Sawang

import Mathlib.Algebra.Group.Nat.Defs
import Mathlib.Data.Prod.Lex
import Mathlib.Logic.Function.Basic

/-!
# The log

`proxy_log` has one file for each day of the week.  It appends to the file if the
file was changed today, and truncates it otherwise.  `st_ctime` stands for the birth
time: every write of a file changes it.

`localtime` is the time zone's; whatever it is, its `tm_wday` is the day of the
week of its date.

The path and the time of an entry are written to arrays of fixed size.  `strftime`
does not write more than its array takes, and then leaves it indeterminate; the path
is written without a bound.
-/

namespace Sawang

/-- `struct timespec`. -/
structure Timespec where
  sec : Int
  nsec : Nat
  inside : nsec < 10 ^ 9

/-- The day of the week of a date, 0 for Sunday.  Years count from 1900 and months from
0, as in `struct tm`; a year begins with its March here. -/
def weekday (year : Int) (mon mday : Nat) : Fin 7 :=
  let y := year + 1900 - if mon < 2 then 1 else 0
  let t := [0, 3, 2, 5, 0, 3, 5, 1, 4, 6, 2, 4]
  Fin.ofNat 7 ((y + y / 4 - y / 100 + y / 400 + t.getD mon 0 + mday) % 7).toNat

/-- `struct tm` with the name of the time zone. -/
structure Tm where
  year : Int
  mon : Nat
  mday : Nat
  hour : Nat
  min : Nat
  sec : Nat
  zone : List Char
  wday : Fin 7
  ofDate : wday = weekday year mon mday

/-- `strftime` with `%a`, in the C locale. -/
def abbreviation (wday : Fin 7) : List Char :=
  (["Sun", "Mon", "Tue", "Wed", "Thu", "Fri", "Sat"].get wday).toList

theorem length_abbreviation (wday : Fin 7) : (abbreviation wday).length = 3 := by
  revert wday
  decide

/-- `%02d`. -/
def twoDigits (number : Nat) : List Char :=
  if number < 10 then '0' :: (toString number).toList else (toString number).toList

/-- `strftime` with `%Y-%m-%d %H:%M:%S %Z`. -/
def timeStamp (now : Tm) : List Char :=
  (toString (now.year + 1900)).toList ++ '-' :: twoDigits (now.mon + 1) ++
    '-' :: twoDigits now.mday ++ ' ' :: twoDigits now.hour ++ ':' :: twoDigits now.min ++
    ':' :: twoDigits now.sec ++ ' ' :: now.zone

/-- The length of `tmstr`, `TMSTRBUFLEN`. -/
def tmstrbuflen : Nat := 35

/-- The length of `filepath` in `proxy_log`. -/
def filepathLen : Nat := 100

/-- `proxy_log_pid`, `proxy_log_path` and `proxy_name`. -/
structure LogContext where
  pid : Int
  path : List Char
  name : List Char

/-- A file with its `st_ctime`. -/
structure LogFile where
  content : List Char
  ctime : Timespec

/-- A call with the instant it takes place at, its formatted message, and what
fails: `stat` with another error than `ENOENT`, `open`, `malloc`. -/
structure LogCall where
  instant : Timespec
  level : List Char
  message : List Char
  /-- The text found in `tmstr` after a `strftime` that had too little room. -/
  indeterminate : List Char
  statFails : Bool
  openFails : Bool
  mallocFails : Bool

def filepath (ctx : LogContext) (wday : Fin 7) : List Char :=
  ctx.path ++ '/' :: (ctx.name ++ '-' :: (abbreviation wday ++ ".log".toList))

/-- Around the path and the name stand nine characters. -/
theorem length_filepath (ctx : LogContext) (wday : Fin 7) :
    (filepath ctx wday).length = ctx.path.length + ctx.name.length + 9 := by
  unfold filepath
  simp [length_abbreviation]
  omega

/-- A context whose paths fit their array, with their terminators. -/
structure FittingContext extends LogContext where
  fits : ∀ wday, (filepath toLogContext wday).length < filepathLen

/-- `tmstr` behind the second `strftime`, whose result is not looked at. -/
def LogCall.tmstr (call : LogCall) (now : Tm) : List Char :=
  if (timeStamp now).length < tmstrbuflen then timeStamp now else call.indeterminate

/-- An entry behind its time. -/
def logEntry (ctx : LogContext) (time : List Char) (call : LogCall) : List Char :=
  time ++ " [".toList ++ (toString ctx.pid).toList ++ "] ".toList ++ call.level ++
    ": ".toList ++ call.message ++ ['\n']

/-- The time of a file in seconds, from its `birthtime`. -/
def LogFile.time (file : LogFile) : Int := file.ctime.sec + (file.ctime.nsec / 10 ^ 9 : Nat)

def sameDay (now file : Tm) : Bool :=
  now.year = file.year ∧ now.mon = file.mon ∧ now.mday = file.mday

/-- What `open` makes of the file: `O_CREAT`, `O_APPEND` or `O_TRUNC`. -/
def openLog (localtime : Int → Tm) (call : LogCall) : Option LogFile → LogFile
  | none => ⟨[], call.instant⟩
  | some file =>
      if sameDay (localtime call.instant.sec) (localtime file.time) then file
      else ⟨[], call.instant⟩

def proxyLog (ctx : LogContext) (localtime : Int → Tm)
    (files : List Char → Option LogFile) (call : LogCall) : List Char → Option LogFile :=
  let now := localtime call.instant.sec
  let path := filepath ctx now.wday
  if call.statFails ∨ call.openFails then files
  else
    let file := openLog localtime call (files path)
    if call.mallocFails ∨ call.message = [] then Function.update files path (some file)
    else
      Function.update files path
        (some ⟨file.content ++ logEntry ctx (call.tmstr now) call, call.instant⟩)

end Sawang

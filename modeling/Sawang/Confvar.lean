import Sawang.Foundation.CString

/-!
# The configuration file

`parse` works in place on the block that `getline` filled: the newline is cut, the
line is split at its first `=`, and both halves are squeezed, which also cuts them
at a `#`.  `lineEntry` says what comes out of that for the text of a line; the
rest of the development reads configurations through it.
-/

namespace Sawang

open CString

structure ConfVar where
  name : List Char
  value : List Char
deriving DecidableEq

def confPidfile : List Char := "pidfile".toList
def confLogpath : List Char := "logpath".toList
def confSawang : List Char := "sawang".toList
def confGonggo : List Char := "gonggo".toList

/-! ## In the buffer -/

/-- The loop of `squeeze_space`, with the fuel to reach the end of the block. -/
def squeezeSpaceLoop : Nat → List Char → Nat → Nat → List Char
  | 0, block, _, run => block.set run nul
  | fuel + 1, block, p, run =>
      match block[p]? with
      | none => block.set run nul
      | some c =>
          if c = nul ∨ c = '#' then block.set run nul
          else if c ≠ ' ' ∧ c ≠ '\t' then
            squeezeSpaceLoop fuel (block.set run c) (p + 1) (run + 1)
          else squeezeSpaceLoop fuel block (p + 1) run

def squeezeSpace (block : List Char) (stmt : Nat) : List Char :=
  squeezeSpaceLoop (block.length - stmt) block stmt stmt

/-- Write a NUL where `strchr` has found a character. -/
def terminate (block : List Char) : Option Nat → List Char
  | none => block
  | some t => block.set t nul

def parse (block : List Char) : Option ConfVar :=
  let line := terminate block (strchr block 0 '\n')
  match strchr line 0 '=' with
  | none => none
  | some t =>
      let key := squeezeSpace (line.set t nul) 0
      let val := squeezeSpace key (t + 1)
      if 0 < strlen val (t + 1) then some ⟨textAt val 0, textAt val (t + 1)⟩ else none

/-! ## The file -/

/-- The next line with its newline, and what is left of the file. -/
def getline (content : List Char) : Option (List Char × List Char) :=
  match content with
  | [] => none
  | _ :: _ =>
      match content.dropWhile (· ≠ '\n') with
      | [] => some (content, [])
      | newline :: rest => some (content.takeWhile (· ≠ '\n') ++ [newline], rest)

/-- The loop of `create`, with the fuel to reach the end of the file. -/
def createLoop : Nat → List Char → List ConfVar
  | 0, _ => []
  | fuel + 1, content =>
      match getline content with
      | none => []
      | some (line, rest) =>
          match parse (line ++ [nul]) with
          | none => createLoop fuel rest
          | some p => p :: createLoop fuel rest

def create (content : List Char) : List ConfVar :=
  createLoop content.length content

/-- `none` is a file that cannot be opened. -/
def confvarCreate : Option (List Char) → List ConfVar
  | none => []
  | some content => create content

/-- The value of the first entry with the name; `none` is the NULL pointer. -/
def confvarValue (head : List ConfVar) (key : List Char) : Option (List Char) :=
  (head.find? fun p => p.name = key).map ConfVar.value

/-! ## The mandatory keys -/

def mandatory : List (List Char) := [confPidfile, confLogpath, confSawang, confGonggo]

/-- The size of the buffer for a missing key. -/
def buflen : Nat := 50

/-- The first missing key, as much of it as fits the buffer. -/
def confvarAbsent (head : List ConfVar) : List Char :=
  match mandatory.find? fun key => confvarValue head key = none with
  | none => []
  | some key => key.take (buflen - 1)

def confvarValidate (file : Option (List Char)) : Except (List Char) (List ConfVar) :=
  let cv := confvarCreate file
  if cv = [] then .error "invalid configuration file content".toList
  else if 0 < (confvarAbsent cv).length then
    .error ("configuration file does not have key ".toList ++ confvarAbsent cv)
  else .ok cv

/-! ## What becomes of a line -/

def isBlank (c : Char) : Bool := c = ' ' || c = '\t'

/-- A text up to its first `#`, without spaces and tabs. -/
def squeezed (text : List Char) : List Char :=
  (text.takeWhile (· ≠ '#')).filter fun c => !isBlank c

/-- The entry of a line that is split at its first `=`. -/
def splitEntry (name value : List Char) : Option ConfVar :=
  if squeezed value = [] then none else some ⟨squeezed name, squeezed value⟩

/-- The entry of a line. -/
def lineEntry (line : List Char) : Option ConfVar :=
  match line.dropWhile (· ≠ '=') with
  | [] => none
  | _ :: value => splitEntry (line.takeWhile (· ≠ '=')) value

end Sawang

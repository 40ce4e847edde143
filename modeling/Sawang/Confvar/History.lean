import Sawang.Confvar.Numbers

/-!
# Sequences of numeric reads

The calls of a sequence share `errno`.  The module says which sequences do not notice
it: those where no range error precedes a call that would have come to something.
-/

namespace Sawang

open Strto

variable {φ : Type}

/-- The numbers of the three readers, those of `strtof` whatever they are. -/
inductive Number (φ : Type) where
  | long (number : Int)
  | uint (number : Nat)
  | float (number : φ)

/-- A call with its key and what `*value` holds before it. -/
inductive NumericCall (φ : Type) where
  | long (key : List Char) (value : Option Int)
  | uint (key : List Char) (value : Option Nat)
  | float (key : List Char) (value : Option φ)

def Reading.map {α β : Type} (number : α → β) (reading : Reading α) : Reading β :=
  ⟨reading.returned, reading.value.map number, reading.erange⟩

/-- What the caller sees of a call. -/
def Reading.outcome {α : Type} (reading : Reading α) : Bool × Option α :=
  (reading.returned, reading.value)

namespace NumericCall

def read (strtof : List Char → Conversion φ) (head : List ConfVar) (erange : Bool) :
    NumericCall φ → Reading (Number φ)
  | .long key value => (confvarLong erange head key value).map .long
  | .uint key value => (confvarUint erange head key value).map .uint
  | .float key value => (confvarFloat strtof erange head key value).map .float

/-- The outcomes of calls made one after the other. -/
def readAll (strtof : List Char → Conversion φ) (head : List ConfVar) :
    Bool → List (NumericCall φ) → List (Bool × Option (Number φ))
  | _, [] => []
  | erange, call :: calls =>
      let reading := call.read strtof head erange
      reading.outcome :: readAll strtof head reading.erange calls

/-- The outcome of a call made first. -/
def alone (strtof : List Char → Conversion φ) (head : List ConfVar) (call : NumericCall φ) :
    Bool × Option (Number φ) :=
  (call.read strtof head false).outcome

end NumericCall

/-! ## One body -/

/-- The text of the key is out of the conversion's range. -/
def KeyOutOfRange {α : Type} (convert : List Char → Conversion α) (head : List ConfVar)
    (key : List Char) : Prop :=
  ∃ text, confvarValue head key = some text ∧ (convert text).erange = true

/-- The call returns false in any case and stores nothing new. -/
def KeyIndifferent {α : Type} (convert : List Char → Conversion α) (head : List ConfVar)
    (key : List Char) (value : Option α) : Prop :=
  ∀ text, confvarValue head key = some text → (convert text).erange = true ∨
    ((convert text).rest ≠ [] ∧ ∀ old ∈ value, old = (convert text).value)

section

variable {α : Type} {convert : List Char → Conversion α} {head : List ConfVar}
  {key : List Char} {value : Option α}

theorem confvarNumber_erange (value : Option α) (erange : Bool) :
    (confvarNumber convert erange head key value).erange = true ↔
      erange = true ∨ KeyOutOfRange convert head key := by
  unfold confvarNumber KeyOutOfRange
  cases found : confvarValue head key with
  | none => simp
  | some text =>
      dsimp only
      have only : (∃ other, some text = some other ∧ (convert other).erange = true) ↔
          (convert text).erange = true := by
        simp only [Option.some.injEq, exists_eq_left']
      rw [only]
      cases erange with
      | true => simp
      | false => cases (convert text).erange <;> simp

theorem confvarNumber_sticky :
    (confvarNumber convert true head key value).outcome = (false, value) := by
  unfold confvarNumber
  cases confvarValue head key with
  | none => rfl
  | some text => rfl

theorem confvarNumber_alone :
    (confvarNumber convert false head key value).outcome = (false, value) ↔
      KeyIndifferent convert head key value := by
  unfold confvarNumber KeyIndifferent
  cases found : confvarValue head key with
  | none => simp [Reading.outcome]
  | some text =>
      cases ranged : (convert text).erange with
      | true => simp [ranged, Reading.outcome]
      | false =>
          have kept : (value.map fun _ => (convert text).value) = value ↔
              ∀ old ∈ value, old = (convert text).value := by
            cases value with
            | none => simp
            | some old =>
                constructor
                · intro same other held
                  rw [← Option.mem_some_iff.mp held]
                  exact (Option.some.inj same).symm
                · intro same
                  exact congrArg some (same old rfl).symm
          simp [ranged, Reading.outcome, kept]

end

/-! ## The calls -/

namespace NumericCall

/-- The key's text is a number out of range. -/
def OutOfRange (strtof : List Char → Conversion φ) (head : List ConfVar) :
    NumericCall φ → Prop
  | .long key _ => KeyOutOfRange strtol head key
  | .uint key _ => KeyOutOfRange strtoui head key
  | .float key _ => KeyOutOfRange strtof head key

/-- The key is absent, or its text is out of range, or it has something left over and
the number is in `*value` already. -/
def Indifferent (strtof : List Char → Conversion φ) (head : List ConfVar) :
    NumericCall φ → Prop
  | .long key value => KeyIndifferent strtol head key value
  | .uint key value => KeyIndifferent strtoui head key value
  | .float key value => KeyIndifferent strtof head key value

variable {strtof : List Char → Conversion φ} {head : List ConfVar}

theorem read_erange (erange : Bool) (call : NumericCall φ) :
    (call.read strtof head erange).erange = true ↔
      erange = true ∨ call.OutOfRange strtof head := by
  cases call with
  | long key value => exact confvarNumber_erange value erange
  | uint key value => exact confvarNumber_erange value erange
  | float key value => exact confvarNumber_erange value erange

theorem outcome_map {α β : Type} {number : α → β} (reading : Reading α) :
    (reading.map number).outcome = (reading.outcome.1, reading.outcome.2.map number) := rfl

theorem outcome_map_inj {α β : Type} {number : α → β} (injective : Function.Injective number)
    {first second : Reading α} :
    (first.map number).outcome = (second.map number).outcome ↔
      first.outcome = second.outcome := by
  rw [outcome_map, outcome_map, Prod.ext_iff, Prod.ext_iff]
  exact and_congr_right fun _ => (Option.map_injective injective).eq_iff

/-- A call after a range error is as good as one made first if it is indifferent. -/
theorem read_sticky (call : NumericCall φ) :
    (call.read strtof head true).outcome = call.alone strtof head ↔
      call.Indifferent strtof head := by
  have same {α : Type} {convert : List Char → Conversion α} {number : α → Number φ}
      (injective : Function.Injective number) (key : List Char) (value : Option α) :
      ((confvarNumber convert true head key value).map number).outcome =
          ((confvarNumber convert false head key value).map number).outcome ↔
        KeyIndifferent convert head key value := by
    rw [outcome_map_inj injective, confvarNumber_sticky, eq_comm, confvarNumber_alone]
  cases call with
  | long key value => exact same (fun _ _ => Number.long.inj) key value
  | uint key value => exact same (fun _ _ => Number.uint.inj) key value
  | float key value => exact same (fun _ _ => Number.float.inj) key value

/-- After a range error every call has to be indifferent. -/
theorem readAll_sticky (calls : List (NumericCall φ)) :
    readAll strtof head true calls = calls.map (alone strtof head) ↔
      ∀ call ∈ calls, call.Indifferent strtof head := by
  induction calls with
  | nil => simp [readAll]
  | cons call calls ih =>
      have sticky : (call.read strtof head true).erange = true :=
        (read_erange true call).mpr (Or.inl rfl)
      unfold readAll
      rw [List.map_cons, List.cons.injEq, List.forall_mem_cons, sticky, ih, read_sticky]

/-- The calls of a sequence do what each does alone unless a number out of range
precedes a call that is not indifferent. -/
theorem readAll_eq_alone_iff (strtof : List Char → Conversion φ) (head : List ConfVar)
    (calls : List (NumericCall φ)) :
    readAll strtof head false calls = calls.map (alone strtof head) ↔
      calls.Pairwise fun earlier later =>
        earlier.OutOfRange strtof head → later.Indifferent strtof head := by
  induction calls with
  | nil => simp [readAll]
  | cons call calls ih =>
      unfold readAll
      rw [List.map_cons, List.cons.injEq, List.pairwise_cons]
      have first : (call.read strtof head false).outcome = call.alone strtof head := rfl
      rw [and_iff_right first]
      by_cases range : call.OutOfRange strtof head
      · have sticky : (call.read strtof head false).erange = true :=
          (read_erange false call).mpr (Or.inr range)
        rw [sticky, readAll_sticky]
        constructor
        · intro indifferent
          refine ⟨fun later there _ => indifferent later there, ?_⟩
          exact List.pairwise_of_forall_mem_list fun _ _ later there _ => indifferent later there
        · intro sound later there
          exact sound.1 later there range
      · have clear : (call.read strtof head false).erange = false := by
          rw [Bool.eq_false_iff]
          intro sticky
          rcases (read_erange false call).mp sticky with impossible | impossible
          · cases impossible
          · exact range impossible
        rw [clear, ih]
        simp [range]

/-- A number out of range is read before a good one. -/
theorem not_readAll_eq_alone :
    ¬∀ (strtof : List Char → Conversion Unit) (head : List ConfVar)
      (calls : List (NumericCall Unit)),
        readAll strtof head false calls = calls.map (alone strtof head) := by
  intro same
  have outcomes := same (fun text => ⟨(), text, false⟩)
    [⟨['a'], "9223372036854775808".toList⟩, ⟨['b'], ['1']⟩]
    [.long ['a'] (some 0), .long ['b'] (some 0)]
  have second := congrArg (fun outcomes => outcomes.map Prod.fst) outcomes
  exact absurd second (by decide)

end NumericCall

end Sawang

import Mathlib.Data.List.Basic
import Mathlib.Logic.Function.Basic
import Sawang.Foundation.Runs

/-!
# Objects behind a lock

Any number of threads call the operations of one object.  Each operation takes the
object's lock, executes statement after statement and gives the lock back, and between
two statements of one thread the others go on.

An atomic object answers each call in one step between the call and its return.  If the
statements of every operation, executed without interruption, do what the operation is
meant to do, then the threads cannot tell the object behind the lock from an atomic one.
-/

universe u

variable {ι κ ρ σ τ : Type u}

/-! ## Critical sections -/

/-- The statements of a critical section.  A statement writes the object and goes on by
what it has read there. -/
inductive Statements (σ ρ : Type u) where
  | result (value : ρ)
  | statement (write : σ → σ) (next : σ → Statements σ ρ)

namespace Statements

/-- A statement that only reads. -/
def read (next : σ → Statements σ ρ) : Statements σ ρ := .statement id next

/-- A statement that only writes. -/
def write (change : σ → σ) (next : Statements σ ρ) : Statements σ ρ :=
  .statement change fun _ => next

/-- The statements executed without interruption. -/
def run : Statements σ ρ → σ → ρ × σ
  | .result value, object => (value, object)
  | .statement write next, object => (next object).run (write object)

@[simp]
theorem run_result (value : ρ) (object : σ) :
    (Statements.result value).run object = (value, object) := rfl

@[simp]
theorem run_read (next : σ → Statements σ ρ) (object : σ) :
    (read next).run object = (next object).run object := rfl

/-- The statements on a part of an object. -/
def within (get : τ → σ) (put : τ → σ → τ) : Statements σ ρ → Statements τ ρ
  | .result value => .result value
  | .statement write next =>
      .statement (fun whole => put whole (write (get whole)))
        fun whole => (next (get whole)).within get put

theorem run_within {get : τ → σ} {put : τ → σ → τ}
    (get_put : ∀ whole part, get (put whole part) = part)
    (put_put : ∀ whole first second, put (put whole first) second = put whole second)
    (put_get : ∀ whole, put whole (get whole) = whole) (statements : Statements σ ρ)
    (whole : τ) :
    (statements.within get put).run whole =
      ((statements.run (get whole)).1, put whole (statements.run (get whole)).2) := by
  induction statements generalizing whole with
  | result value => exact Prod.ext rfl (put_get whole).symm
  | statement write next inductionHypothesis =>
      simp only [within, run]
      rw [inductionHypothesis, get_put, put_put]

@[simp]
theorem run_write (change : σ → σ) (next : Statements σ ρ) (object : σ) :
    (write change next).run object = next.run (change object) := rfl

end Statements

/-! ## Calls and returns -/

inductive ObjectEvent (ι κ ρ : Type u) where
  | called (thread : ι) (call : κ)
  /-- The call takes effect. -/
  | effect (thread : ι) (call : κ) (result : ρ)
  | returned (thread : ι) (result : ρ)

namespace ObjectEvent

/-- What the threads see. -/
def visible : ObjectEvent ι κ ρ → Bool
  | .called .. | .returned .. => true
  | .effect .. => false

/-- A call that takes effect, and its result. -/
def performed : ObjectEvent ι κ ρ → Option (κ × ρ)
  | .effect _ call result => some (call, result)
  | .called .. | .returned .. => none

end ObjectEvent

inductive ObjectAction (ι κ : Type u) where
  | call (thread : ι) (call : κ)
  | proceed (thread : ι)

/-! ## The object behind its lock -/

/-- Where a thread is in a call. -/
inductive Client (κ ρ σ : Type u) where
  | idle
  /-- Before the lock. -/
  | called (call : κ)
  | inside (call : κ) (rest : Statements σ ρ)
  /-- Behind the lock. -/
  | answered (result : ρ)

structure LockedObject (ι κ ρ σ : Type u) where
  shared : σ
  owner : Option ι
  clients : ι → Client κ ρ σ
  /-- Ghost: newest first. -/
  events : List (ObjectEvent ι κ ρ)

namespace LockedObject

def initial (shared : σ) : LockedObject ι κ ρ σ where
  shared := shared
  owner := none
  clients := fun _ => .idle
  events := []

variable [DecidableEq ι]

def step (body : κ → Statements σ ρ) (action : ObjectAction ι κ)
    (object : LockedObject ι κ ρ σ) : Option (LockedObject ι κ ρ σ) :=
  match action with
  | .call thread call =>
      match object.clients thread with
      | .idle =>
          some { object with
            clients := Function.update object.clients thread (.called call)
            events := .called thread call :: object.events }
      | _ => none
  | .proceed thread =>
      match object.clients thread with
      | .idle => none
      | .called call =>
          match object.owner with
          | some _ => none
          | none =>
              some { object with
                owner := some thread
                clients := Function.update object.clients thread
                  (.inside call (body call)) }
      | .inside call (.statement write next) =>
          some { object with
            shared := write object.shared
            clients := Function.update object.clients thread
              (.inside call (next object.shared)) }
      | .inside _ (.result value) =>
          some { object with
            owner := none
            clients := Function.update object.clients thread (.answered value) }
      | .answered result =>
          some { object with
            clients := Function.update object.clients thread .idle
            events := .returned thread result :: object.events }

end LockedObject

/-! ## The atomic object -/

inductive Caller (κ ρ : Type u) where
  | idle
  | called (call : κ)
  | answered (result : ρ)

structure AtomicObject (ι κ ρ τ : Type u) where
  shared : τ
  callers : ι → Caller κ ρ
  /-- Newest first. -/
  events : List (ObjectEvent ι κ ρ)

namespace AtomicObject

def initial (shared : τ) : AtomicObject ι κ ρ τ where
  shared := shared
  callers := fun _ => .idle
  events := []

/-- The calls that have taken effect with their results, in their order. -/
def performed (object : AtomicObject ι κ ρ τ) : List (κ × ρ) :=
  (object.events.filterMap ObjectEvent.performed).reverse

variable [DecidableEq ι]

def step (operation : κ → τ → ρ × τ) (action : ObjectAction ι κ)
    (object : AtomicObject ι κ ρ τ) : Option (AtomicObject ι κ ρ τ) :=
  match action with
  | .call thread call =>
      match object.callers thread with
      | .idle =>
          some { object with
            callers := Function.update object.callers thread (.called call)
            events := .called thread call :: object.events }
      | _ => none
  | .proceed thread =>
      match object.callers thread with
      | .idle => none
      | .called call =>
          some { object with
            shared := (operation call object.shared).2
            callers := Function.update object.callers thread
              (.answered (operation call object.shared).1)
            events := .effect thread call (operation call object.shared).1 :: object.events }
      | .answered result =>
          some { object with
            callers := Function.update object.callers thread .idle
            events := .returned thread result :: object.events }

end AtomicObject

/-- Calls performed one after the other, with their results. -/
inductive Performs (operation : κ → τ → ρ × τ) : τ → List (κ × ρ) → τ → Prop
  | nil {state : τ} : Performs operation state [] state
  | cons {state last : τ} {call : κ} {rest : List (κ × ρ)}
      (later : Performs operation (operation call state).2 rest last) :
      Performs operation state ((call, (operation call state).1) :: rest) last

namespace Performs

variable {operation : κ → τ → ρ × τ}

theorem snoc {state last : τ} {performed : List (κ × ρ)}
    (performs : Performs operation state performed last) (call : κ) :
    Performs operation state (performed ++ [(call, (operation call last).1)])
      (operation call last).2 := by
  induction performs with
  | nil => exact .cons .nil
  | cons later inductionHypothesis => exact .cons inductionHypothesis

end Performs

/-- The effects of an atomic object are those of its calls one after the other. -/
theorem AtomicObject.performs_of_reaches [DecidableEq ι] {operation : κ → τ → ρ × τ}
    {start : τ} {object : AtomicObject ι κ ρ τ}
    (reached : Runs.Reaches (AtomicObject.step operation) Runs.unrestricted
      (AtomicObject.initial start) object) :
    Performs operation start object.performed object.shared := by
  apply reached.invariant
  · exact .nil
  · intro before action after performs _ next
    cases action with
    | call thread call =>
        simp only [AtomicObject.step] at next
        split at next
        · cases next
          exact performs
        · cases next
    | proceed thread =>
        simp only [AtomicObject.step] at next
        split at next
        · cases next
        · rename_i call waits
          cases next
          have effect := performs.snoc call
          simpa [AtomicObject.performed, ObjectEvent.performed] using effect
        · cases next
          exact performs

/-! ## Behind the lock nobody interferes -/

/-- Executed without interruption, the statements of a call do what its operation does. -/
def Implements (body : κ → Statements σ ρ) (operation : κ → τ → ρ × τ) (represent : τ → σ) :
    Prop :=
  ∀ call state, (body call).run (represent state) =
    ((operation call state).1, represent (operation call state).2)

/-- A thread inside its critical section is on its way to the result and the effect of the
operation; the others do not see what it does. -/
inductive Matches (operation : κ → τ → ρ × τ) (represent : τ → σ) (shared : σ) (state : τ) :
    Client κ ρ σ → Caller κ ρ → Prop
  | idle : Matches operation represent shared state .idle .idle
  | called (call : κ) : Matches operation represent shared state (.called call) (.called call)
  | inside (call : κ) (rest : Statements σ ρ)
      (pending : rest.run shared =
        ((operation call state).1, represent (operation call state).2)) :
      Matches operation represent shared state (.inside call rest) (.called call)
  | answered (result : ρ) :
      Matches operation represent shared state (.answered result) (.answered result)

def Client.isInside : Client κ ρ σ → Bool
  | .inside .. => true
  | _ => false

variable {operation : κ → τ → ρ × τ} {represent : τ → σ}

namespace Matches

variable {shared : σ} {state : τ} {caller : Caller κ ρ}

theorem of_idle (same : Matches operation represent shared state .idle caller) :
    caller = .idle := by
  cases same
  rfl

theorem of_called {call : κ}
    (same : Matches operation represent shared state (.called call) caller) :
    caller = .called call := by
  cases same
  rfl

theorem of_inside {call : κ} {rest : Statements σ ρ}
    (same : Matches operation represent shared state (.inside call rest) caller) :
    caller = .called call ∧
      rest.run shared = ((operation call state).1, represent (operation call state).2) := by
  cases same with
  | inside call rest pending => exact ⟨rfl, pending⟩

theorem of_answered {result : ρ}
    (same : Matches operation represent shared state (.answered result) caller) :
    caller = .answered result := by
  cases same
  rfl

/-- What happens to the object does not matter to a thread outside. -/
theorem outside {client : Client κ ρ σ} (out : client.isInside = false)
    (same : Matches operation represent shared state client caller) (later : σ) (next : τ) :
    Matches operation represent later next client caller := by
  cases same with
  | idle => exact .idle
  | called call => exact .called call
  | inside call rest pending => cases out
  | answered result => exact .answered result

end Matches

structure Simulates (operation : κ → τ → ρ × τ) (represent : τ → σ)
    (object : LockedObject ι κ ρ σ) (atomic : AtomicObject ι κ ρ τ) : Prop where
  events : atomic.events.filter ObjectEvent.visible = object.events
  clients : ∀ thread, Matches operation represent object.shared atomic.shared
    (object.clients thread) (atomic.callers thread)
  owner : ∀ thread, (object.clients thread).isInside = true → object.owner = some thread
  free : object.owner = none → object.shared = represent atomic.shared

/-- Only the owner of the lock is inside. -/
theorem Simulates.outside {object : LockedObject ι κ ρ σ} {atomic : AtomicObject ι κ ρ τ}
    (simulates : Simulates operation represent object atomic) {thread other : ι}
    (owns : object.owner = some thread) (different : other ≠ thread) :
    (object.clients other).isInside = false := by
  by_contra inside
  have other_owns := simulates.owner other (Bool.of_not_eq_false inside)
  rw [owns] at other_owns
  exact different (Option.some.inj other_owns).symm

/-- Nobody is inside while the lock is free. -/
theorem Simulates.outside_of_free {object : LockedObject ι κ ρ σ}
    {atomic : AtomicObject ι κ ρ τ} (simulates : Simulates operation represent object atomic)
    (free : object.owner = none) (thread : ι) : (object.clients thread).isInside = false := by
  by_contra inside
  have owns := simulates.owner thread (Bool.of_not_eq_false inside)
  rw [free] at owns
  cases owns

namespace LockedObject

variable [DecidableEq ι] {body : κ → Statements σ ρ} {before after : LockedObject ι κ ρ σ}

inductive Step (body : κ → Statements σ ρ) :
    LockedObject ι κ ρ σ → ObjectAction ι κ → LockedObject ι κ ρ σ → Prop
  | call {object : LockedObject ι κ ρ σ} {thread : ι} {call : κ}
      (idle : object.clients thread = .idle) :
      Step body object (.call thread call)
        { object with
          clients := Function.update object.clients thread (.called call)
          events := .called thread call :: object.events }
  | lock {object : LockedObject ι κ ρ σ} {thread : ι} {call : κ}
      (waits : object.clients thread = .called call) (free : object.owner = none) :
      Step body object (.proceed thread)
        { object with
          owner := some thread
          clients := Function.update object.clients thread (.inside call (body call)) }
  | statement {object : LockedObject ι κ ρ σ} {thread : ι} {call : κ} {write : σ → σ}
      {next : σ → Statements σ ρ}
      (inside : object.clients thread = .inside call (.statement write next)) :
      Step body object (.proceed thread)
        { object with
          shared := write object.shared
          clients := Function.update object.clients thread
            (.inside call (next object.shared)) }
  | unlock {object : LockedObject ι κ ρ σ} {thread : ι} {call : κ} {value : ρ}
      (inside : object.clients thread = .inside call (.result value)) :
      Step body object (.proceed thread)
        { object with
          owner := none
          clients := Function.update object.clients thread (.answered value) }
  | leave {object : LockedObject ι κ ρ σ} {thread : ι} {result : ρ}
      (answered : object.clients thread = .answered result) :
      Step body object (.proceed thread)
        { object with
          clients := Function.update object.clients thread .idle
          events := .returned thread result :: object.events }

theorem step_cases {action : ObjectAction ι κ} (next : before.step body action = some after) :
    Step body before action after := by
  cases action with
  | call thread call =>
      simp only [step] at next
      split at next
      · rename_i idle
        cases next
        exact .call idle
      · cases next
  | proceed thread =>
      simp only [step] at next
      split at next
      · cases next
      · rename_i call waits
        split at next
        · cases next
        · rename_i free
          cases next
          exact .lock waits free
      · rename_i call write rest inside
        cases next
        exact .statement inside
      · rename_i call value inside
        cases next
        exact .unlock inside
      · rename_i result answered
        cases next
        exact .leave answered

omit [DecidableEq ι] in
theorem simulates_initial (start : τ) :
    Simulates operation represent (initial (represent start) : LockedObject ι κ ρ σ)
      (AtomicObject.initial start) where
  events := rfl
  clients := fun _ => .idle
  owner := nofun
  free := fun _ => rfl

section

variable {clients : ι → Client κ ρ σ} {callers : ι → Caller κ ρ} {thread : ι}
  {client : Client κ ρ σ} {caller : Caller κ ρ}

private theorem matches_update {shared : σ} {state : τ}
    (own : Matches operation represent shared state client caller)
    (others : ∀ other, other ≠ thread →
      Matches operation represent shared state (clients other) (callers other)) (other : ι) :
    Matches operation represent shared state (Function.update clients thread client other)
      (Function.update callers thread caller other) := by
  by_cases same : other = thread
  · subst same
    rw [Function.update_self, Function.update_self]
    exact own
  · rw [Function.update_of_ne same, Function.update_of_ne same]
    exact others other same

/-- The same where the thread sees nothing of what it does. -/
private theorem matches_unseen {shared : σ} {state : τ} (unseen : callers thread = caller)
    (own : Matches operation represent shared state client caller)
    (others : ∀ other, other ≠ thread →
      Matches operation represent shared state (clients other) (callers other)) (other : ι) :
    Matches operation represent shared state (Function.update clients thread client other)
      (callers other) := by
  have updated := matches_update own others other
  rw [← unseen, Function.update_eq_self] at updated
  exact updated

/-- A thread that has come to stand outside leaves the owner to the others. -/
private theorem owner_update {owner : Option ι} (outside : client.isInside = false)
    (others : ∀ other, other ≠ thread → (clients other).isInside = true →
      owner = some other) (other : ι)
    (inside : (Function.update clients thread client other).isInside = true) :
    owner = some other := by
  by_cases same : other = thread
  · subst same
    rw [Function.update_self, outside] at inside
    cases inside
  · rw [Function.update_of_ne same] at inside
    exact others other same inside

/-- The owner alone may come to stand inside. -/
private theorem owner_inside
    (others : ∀ other, other ≠ thread → (clients other).isInside = false) (other : ι)
    (inside : (Function.update clients thread client other).isInside = true) :
    some thread = some other := by
  by_cases same : other = thread
  · rw [same]
  · rw [Function.update_of_ne same, others other same] at inside
    cases inside

end

variable {atomic : AtomicObject ι κ ρ τ}

theorem simulates_step {action : ObjectAction ι κ}
    (implements : Implements body operation represent)
    (simulates : Simulates operation represent before atomic)
    (step : Step body before action after) :
    ∃ later, Runs.Reaches (AtomicObject.step operation) Runs.unrestricted atomic later ∧
      Simulates operation represent after later := by
  cases step with
  | call idle =>
      rename_i thread call
      have same := simulates.clients thread
      rw [idle] at same
      have next : atomic.step operation (.call thread call) = some { atomic with
          callers := Function.update atomic.callers thread (.called call)
          events := .called thread call :: atomic.events } := by
        simp only [AtomicObject.step, same.of_idle]
      refine ⟨_, .single trivial next, congrArg (_ :: ·) simulates.events, ?_, ?_,
        simulates.free⟩
      · exact matches_update (.called call) fun other _ => simulates.clients other
      · exact owner_update rfl fun other _ => simulates.owner other
  | lock waits free =>
      rename_i thread call
      have same := simulates.clients thread
      rw [waits] at same
      have pending := implements call atomic.shared
      rw [← simulates.free free] at pending
      refine ⟨atomic, .refl, simulates.events, ?_, ?_, nofun⟩
      · exact matches_unseen same.of_called (.inside call (body call) pending)
          fun other _ => simulates.clients other
      · exact owner_inside fun other _ => simulates.outside_of_free free other
  | statement inside =>
      rename_i thread call write next
      have same := simulates.clients thread
      rw [inside] at same
      obtain ⟨waits, pending⟩ := same.of_inside
      have owns := simulates.owner thread (by rw [inside]; rfl)
      have outside : ∀ other, other ≠ thread → (before.clients other).isInside = false :=
        fun other different => simulates.outside owns different
      refine ⟨atomic, .refl, simulates.events, ?_, ?_, ?_⟩
      · exact matches_unseen waits (.inside call (next before.shared) pending)
          fun other different => (simulates.clients other).outside (outside other different) _ _
      · rw [owns]
        exact owner_inside outside
      · intro free
        rw [owns] at free
        cases free
  | unlock inside =>
      rename_i thread call value
      have same := simulates.clients thread
      rw [inside] at same
      obtain ⟨waits, done⟩ := same.of_inside
      obtain ⟨rfl, shared⟩ := Prod.mk.inj done
      have owns := simulates.owner thread (by rw [inside]; rfl)
      have outside : ∀ other, other ≠ thread → (before.clients other).isInside = false :=
        fun other different => simulates.outside owns different
      have next : atomic.step operation (.proceed thread) = some { atomic with
          shared := (operation call atomic.shared).2
          callers := Function.update atomic.callers thread
            (.answered (operation call atomic.shared).1)
          events := .effect thread call (operation call atomic.shared).1 ::
            atomic.events } := by
        simp only [AtomicObject.step, waits]
      refine ⟨_, .single trivial next, simulates.events, ?_, ?_, fun _ => shared⟩
      · exact matches_update (.answered _)
          fun other different => (simulates.clients other).outside (outside other different) _ _
      · exact owner_update rfl fun other different inside => by
          rw [outside other different] at inside
          cases inside
  | leave answered =>
      rename_i thread result
      have same := simulates.clients thread
      rw [answered] at same
      have next : atomic.step operation (.proceed thread) = some { atomic with
          callers := Function.update atomic.callers thread .idle
          events := .returned thread result :: atomic.events } := by
        simp only [AtomicObject.step, same.of_answered]
      refine ⟨_, .single trivial next, congrArg (_ :: ·) simulates.events, ?_, ?_,
        simulates.free⟩
      · exact matches_update .idle fun other _ => simulates.clients other
      · exact owner_update rfl fun other _ => simulates.owner other

/-- The threads see what they would see of an atomic object, and whoever finds the lock
free finds what the atomic object holds. -/
theorem linearizable (implements : Implements body operation represent) {start : τ}
    {object : LockedObject ι κ ρ σ}
    (reached : Runs.Reaches (step body) Runs.unrestricted (initial (represent start)) object) :
    ∃ atomic : AtomicObject ι κ ρ τ,
      Runs.Reaches (AtomicObject.step operation) Runs.unrestricted
        (AtomicObject.initial start) atomic ∧
      atomic.events.filter ObjectEvent.visible = object.events ∧
      (object.owner = none → object.shared = represent atomic.shared) := by
  have trivially : ∀ other : LockedObject ι κ ρ σ,
      Runs.Reaches (step body) Runs.unrestricted (initial (represent start)) other → True :=
    fun _ _ => trivial
  have initially : Simulates operation represent
      (initial (represent start) : LockedObject ι κ ρ σ) (AtomicObject.initial start) :=
    simulates_initial start
  obtain ⟨atomic, run, simulates⟩ := reached.simulate trivially initially
    fun before action after image _ simulates _ next =>
      simulates_step implements simulates (step_cases next)
  exact ⟨atomic, run, simulates.events, simulates.free⟩

end LockedObject

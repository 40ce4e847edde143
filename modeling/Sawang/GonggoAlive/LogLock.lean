import Mathlib.Data.List.Infix
import Sawang.Foundation.Runs

/-!
# The watch and the log

The statements of the main thread from its wait in `work` to the last message, beside the
end of the watch.  The watch is cancelled asynchronously, and `proxy_log` holds a lock that
is not robust: a watch that is cancelled inside it leaves the lock locked for good.  The
dispatcher's lock is robust and kept in a list of the thread: a watch that is cancelled
while it takes that lock or gives it back leaves the list half changed, and the unlock of
the cleanup handler ends the process.
-/

namespace Sawang

inductive LogUser where
  | main
  | watch
  | other
deriving DecidableEq

/-- How far a call of `proxy_log` is. -/
inductive Logging where
  | before
  | inside
deriving DecidableEq

inductive WatchEnd where
  /-- In the loop, with the cleanup handler in place. -/
  | loop
  /-- `gonggo_dead` is set, and the handler is in place. -/
  | told
  /-- In `gonggo_alive_cleanup`, run by `pthread_cleanup_pop`: the handler is not in
  place any more. -/
  | cleanup (logging : Logging)
  /-- At the last message. -/
  | stopped (logging : Logging)
  /-- In `gonggo_alive_cleanup`, run by the cancellation. -/
  | cancelled (logging : Logging)
  | ended
deriving DecidableEq

inductive StopOp where
  | log
  | gonggoAliveStop
  /-- `pthread_join` of the watch. -/
  | join
  /-- The end of the wait, or a part of stopping or joining one of the other threads. -/
  | thread
deriving DecidableEq

structure LogLock where
  watch : WatchEnd
  gonggoDead : Bool
  /-- `pthread_cancel` was called, and the cancellation has not arrived. -/
  cancelling : Bool
  owner : Option LogUser
  /-- What the main thread has still to do. -/
  main : List StopOp
  /-- Ghost: `gonggo_alive_stop` has found `gonggo_dead` not set. -/
  foundAlive : Bool
  /-- The process has died in the cleanup handler. -/
  crashed : Bool
deriving DecidableEq

namespace LogLock

/-- The wait, `threads_stop` between its two messages, and the end of `work`.  The subscribe
thread is stopped in two parts, at its segment and at its queue. -/
def threadsStop : List StopOp :=
  [.thread, .log] ++
    [.log, .thread, .log] ++ [.log, .thread, .thread, .log] ++
    [.log, .gonggoAliveStop, .log] ++ [.log, .thread, .log] ++
    [.log, .thread, .log] ++ [.log, .thread, .log] ++
    [.log, .join, .log] ++ [.log, .thread, .log] ++
    [.log]

def initial : LogLock where
  watch := .loop
  gonggoDead := false
  cancelling := false
  owner := none
  main := threadsStop
  foundAlive := false
  crashed := false

/-- The watch takes the lock of the log, or gives it back and goes on. -/
def watchLogs (logging : Logging) (inside next : WatchEnd) (state : LogLock) :
    Option LogLock :=
  match logging with
  | .before =>
      if state.owner = none then some { state with owner := some .watch, watch := inside }
      else none
  | .inside => some { state with owner := none, watch := next }

def stepWatch (state : LogLock) : Option LogLock :=
  match state.watch with
  | .loop => some { state with gonggoDead := true, watch := .told }
  | .told => some { state with watch := .cleanup .before }
  | .cleanup logging => state.watchLogs logging (.cleanup .inside) (.stopped .before)
  | .stopped logging => state.watchLogs logging (.stopped .inside) .ended
  | .cancelled logging => state.watchLogs logging (.cancelled .inside) .ended
  | .ended => none

/-- The cancellation arrives; a handler that is in place is run, and is not cancelled.  With
the list of robust locks torn the handler does not live through its unlock. -/
def stepCancel (torn : Bool) (state : LogLock) : Option LogLock :=
  if state.cancelling then
    match state.watch with
    | .loop | .told =>
        if torn then some { state with crashed := true }
        else some { state with cancelling := false, watch := .cancelled .before }
    | .cleanup _ | .stopped _ => some { state with cancelling := false, watch := .ended }
    | .cancelled _ | .ended => none
  else none

def stepMain (state : LogLock) : Option LogLock :=
  match state.main with
  | [] => none
  | .log :: rest =>
      match state.owner with
      | none => some { state with owner := some .main }
      | some .main => some { state with owner := none, main := rest }
      | some _ => none
  | .gonggoAliveStop :: rest =>
      if state.gonggoDead then some { state with main := rest }
      else some { state with cancelling := true, foundAlive := true, main := rest }
  | .join :: rest => if state.watch = .ended then some { state with main := rest } else none
  | .thread :: rest => some { state with main := rest }

inductive Action where
  | watch
  /-- The cancellation arrives; `torn` if it does inside `pthread_mutex_lock` or
  `pthread_mutex_unlock` of the dispatcher's lock. -/
  | cancel (torn : Bool)
  | main
  /-- Another thread takes the lock of the log and gives it back. -/
  | otherLocks
  | otherUnlocks
deriving DecidableEq

def stepAlive (action : Action) (state : LogLock) : Option LogLock :=
  match action with
  | .watch => state.stepWatch
  | .cancel torn => state.stepCancel torn
  | .main => state.stepMain
  | .otherLocks =>
      if state.owner = none then some { state with owner := some .other } else none
  | .otherUnlocks =>
      if state.owner = some .other then some { state with owner := none } else none

def step (action : Action) (state : LogLock) : Option LogLock :=
  if state.crashed then none else state.stepAlive action

/-- The watch has ended inside `proxy_log`. -/
def Lost (state : LogLock) : Prop := state.owner = some .watch ∧ state.watch = .ended

instance (state : LogLock) : Decidable state.Lost := inferInstanceAs (Decidable (_ ∧ _))

end LogLock

/-- The watch is inside a call of `proxy_log`. -/
def WatchEnd.inside : WatchEnd → Bool
  | .cleanup .inside | .stopped .inside | .cancelled .inside => true
  | _ => false

/-- The watch ends by itself. -/
def WatchEnd.noticed : WatchEnd → Bool
  | .told | .cleanup _ | .stopped _ => true
  | _ => false

/-- How far the watch is from its end. -/
def WatchEnd.remaining : WatchEnd → Nat
  | .loop => 7
  | .told => 6
  | .cleanup .before => 5
  | .cleanup .inside => 4
  | .stopped .before => 3
  | .stopped .inside => 2
  | .cancelled .before => 2
  | .cancelled .inside => 1
  | .ended => 0

namespace LogLock

/-! ## What the runs keep -/

structure Sound (state : LogLock) : Prop where
  watchOwns : state.watch.inside = true → state.owner = some .watch
  watchInside : state.owner = some .watch → state.watch.inside = true ∨ state.watch = .ended
  mainInside : state.owner = some .main → ∃ rest, state.main = .log :: rest
  main : state.main <:+ threadsStop
  fresh : state.watch = .loop → state.gonggoDead = false
  noticed : state.watch.noticed = true → state.gonggoDead = true
  /-- Behind `gonggo_alive_stop` a watch in its loop is being cancelled. -/
  asked : state.watch = .loop → .gonggoAliveStop ∉ state.main → state.cancelling = true
  found : state.cancelling = true → state.foundAlive = true
  joined : .join ∉ state.main → state.watch = .ended
  lost : state.Lost → state.foundAlive = true ∧ state.gonggoDead = true
  crashed : state.crashed = true → state.foundAlive = true

theorem sound_initial : initial.Sound where
  watchOwns := nofun
  watchInside := nofun
  mainInside := nofun
  main := List.suffix_rfl
  fresh := fun _ => rfl
  noticed := nofun
  asked := fun _ stopped => absurd (by decide) stopped
  found := nofun
  joined := fun joined => absurd (by decide) joined
  lost := by
    rintro ⟨owner, _⟩
    cases owner
  crashed := nofun

variable {before after : LogLock}

theorem stepAlive_of_step {action : Action} (next : before.step action = some after) :
    before.crashed = false ∧ before.stepAlive action = some after := by
  unfold step at next
  split at next
  · cases next
  · exact ⟨Bool.eq_false_iff.mpr ‹_›, next⟩

theorem step_of_alive {action : Action} (alive : before.crashed = false) :
    before.step action = before.stepAlive action := by
  unfold step
  rw [if_neg (by simp [alive])]

private theorem sound_watch (sound : before.Sound) (next : before.stepWatch = some after) :
    after.Sound := by
  obtain ⟨watch, gonggoDead, cancelling, owner, main, foundAlive, crashed⟩ := before
  obtain ⟨watchOwns, watchInside, mainInside, suffix, fresh, noticed, asked, found, joined,
    lost, crashes⟩ := sound
  -- nobody joins a watch that has not ended
  have unjoined : ∀ {next : WatchEnd}, watch ≠ .ended → .join ∉ main → next = .ended :=
    fun going gone => absurd (joined gone) going
  -- a watch that owns the lock has taken it from nobody
  have takes : ∀ {inside : WatchEnd}, watch ≠ .ended → owner = none → inside.inside = true →
      (inside.noticed = true → gonggoDead = true) →
      Sound ⟨inside, gonggoDead, cancelling, some .watch, main, foundAlive, crashed⟩ := by
    intro inside going free within told
    refine ⟨fun _ => rfl, fun _ => Or.inl within, nofun, suffix, ?_, told, ?_, found,
      unjoined going, ?_, crashes⟩
    · rintro rfl
      cases within
    · rintro rfl
      cases within
    · rintro ⟨_, rfl⟩
      cases within
  have gives : ∀ {next : WatchEnd}, watch ≠ .ended → next.inside = false → next ≠ .loop →
      (next.noticed = true → gonggoDead = true) →
      Sound ⟨next, gonggoDead, cancelling, none, main, foundAlive, crashed⟩ := by
    intro next going outside left told
    refine ⟨fun within => ?_, nofun, nofun, suffix, fun same => absurd same left, told,
      fun same => absurd same left, found, unjoined going, ?_, crashes⟩
    · rw [outside] at within
      cases within
    · rintro ⟨owner, _⟩
      cases owner
  cases watch with
  | loop =>
      cases next
      refine ⟨nofun, ?_, mainInside, suffix, nofun, fun _ => rfl, nofun, found,
        unjoined nofun, ?_, crashes⟩
      · intro owned
        rcases watchInside owned with within | ended
        · cases within
        · cases ended
      · rintro ⟨_, ended⟩
        cases ended
  | told =>
      cases next
      refine ⟨nofun, ?_, mainInside, suffix, nofun, fun _ => noticed rfl, nofun, found,
        unjoined nofun, ?_, crashes⟩
      · intro owned
        rcases watchInside owned with within | ended
        · cases within
        · cases ended
      · rintro ⟨_, ended⟩
        cases ended
  | cleanup logging =>
      cases logging with
      | before =>
          simp only [stepWatch, watchLogs] at next
          split at next <;> cases next
          rename_i free
          exact takes nofun free rfl fun _ => noticed rfl
      | inside =>
          cases next
          exact gives nofun rfl nofun fun _ => noticed rfl
  | stopped logging =>
      cases logging with
      | before =>
          simp only [stepWatch, watchLogs] at next
          split at next <;> cases next
          rename_i free
          exact takes nofun free rfl fun _ => noticed rfl
      | inside =>
          cases next
          exact gives nofun rfl nofun nofun
  | cancelled logging =>
      cases logging with
      | before =>
          simp only [stepWatch, watchLogs] at next
          split at next <;> cases next
          rename_i free
          exact takes nofun free rfl nofun
      | inside =>
          cases next
          exact gives nofun rfl nofun nofun
  | ended => cases next

private theorem sound_cancel {torn : Bool} (sound : before.Sound)
    (next : before.stepCancel torn = some after) : after.Sound := by
  obtain ⟨watch, gonggoDead, cancelling, owner, main, foundAlive, crashed⟩ := before
  obtain ⟨watchOwns, watchInside, mainInside, suffix, fresh, noticed, asked, found, joined,
    lost, crashes⟩ := sound
  simp only [stepCancel] at next
  split at next
  · rename_i sent
    have aliveFound := found sent
    -- the handler is run
    have handled : watch.inside = false → watch ≠ .ended →
        Sound ⟨.cancelled .before, gonggoDead, false, owner, main, foundAlive, crashed⟩ := by
      intro outside alive
      refine ⟨nofun, ?_, mainInside, suffix, nofun, nofun, nofun, nofun,
        fun gone => absurd (joined gone) alive, ?_, crashes⟩
      · intro owned
        rcases watchInside owned with within | ended
        · rw [outside] at within
          cases within
        · exact absurd ended alive
      · rintro ⟨_, ended⟩
        cases ended
    -- the watch ends where it is
    have ends : watch.noticed = true →
        Sound ⟨.ended, gonggoDead, false, owner, main, foundAlive, crashed⟩ := by
      intro told
      exact ⟨nofun, fun _ => Or.inr rfl, mainInside, suffix, nofun, nofun, nofun, nofun,
        fun _ => rfl, fun _ => ⟨aliveFound, noticed told⟩, crashes⟩
    cases watch with
    | loop | told =>
        dsimp only at next
        split at next <;> cases next
        · exact ⟨watchOwns, watchInside, mainInside, suffix, fresh, noticed, asked, found,
            joined, lost, fun _ => aliveFound⟩
        · exact handled rfl nofun
    | cleanup logging | stopped logging =>
        cases next
        exact ends rfl
    | cancelled logging | ended => cases next
  · cases next

private theorem sound_main (sound : before.Sound) (next : before.stepMain = some after) :
    after.Sound := by
  obtain ⟨watch, gonggoDead, cancelling, owner, main, foundAlive, crashed⟩ := before
  obtain ⟨watchOwns, watchInside, mainInside, suffix, fresh, noticed, asked, found, joined,
    lost, crashes⟩ := sound
  have unowned : owner ≠ some .watch → watch.inside = false := by
    intro other
    cases within : watch.inside with
    | false => rfl
    | true => exact absurd (watchOwns within) other
  cases main with
  | nil => cases next
  | cons op rest =>
      have shorter : rest <:+ threadsStop := (List.suffix_cons op rest).trans suffix
      have stillAsked : op ≠ .gonggoAliveStop → watch = .loop →
          .gonggoAliveStop ∉ rest → cancelling = true := by
        intro other looping gone
        apply asked looping
        intro member
        rcases List.mem_cons.mp member with same | later
        · exact other same.symm
        · exact gone later
      have stillJoined : op ≠ .join → .join ∉ rest → watch = .ended := by
        intro other gone
        apply joined
        intro member
        rcases List.mem_cons.mp member with same | later
        · exact other same.symm
        · exact gone later
      have notInside : op ≠ .log → owner ≠ some .main := by
        intro other inside
        obtain ⟨_, same⟩ := mainInside inside
        exact other (List.cons.inj same).1
      cases op with
      | log =>
          simp only [stepMain] at next
          split at next
          · cases next
            have outside := unowned nofun
            exact ⟨fun within => absurd within (by simp [outside]), nofun,
              fun _ => ⟨rest, rfl⟩, suffix, fresh, noticed, asked, found, joined,
              fun lost => (nomatch lost.1), crashes⟩
          · cases next
            have outside := unowned nofun
            exact ⟨fun within => absurd within (by simp [outside]), nofun, nofun, shorter,
              fresh, noticed, stillAsked nofun, found, stillJoined nofun,
              fun lost => (nomatch lost.1), crashes⟩
          · cases next
      | gonggoAliveStop =>
          simp only [stepMain] at next
          split at next <;> cases next
          · rename_i dead
            have left : watch ≠ .loop := by
              intro looping
              have alive : gonggoDead = false := fresh looping
              rw [alive] at dead
              cases dead
            exact ⟨watchOwns, watchInside, fun inside => absurd inside (notInside nofun), shorter,
              fresh, noticed, fun looping _ => absurd looping left, found, stillJoined nofun,
              lost, crashes⟩
          · exact ⟨watchOwns, watchInside, fun inside => absurd inside (notInside nofun), shorter,
              fresh, noticed, fun _ _ => rfl, fun _ => rfl, stillJoined nofun,
              fun gone => ⟨rfl, (lost gone).2⟩, fun _ => rfl⟩
      | join =>
          simp only [stepMain] at next
          split at next <;> cases next
          rename_i ended
          exact ⟨watchOwns, watchInside, fun inside => absurd inside (notInside nofun), shorter,
            fresh, noticed, stillAsked nofun, found, fun _ => ended, lost, crashes⟩
      | thread =>
          cases next
          exact ⟨watchOwns, watchInside, fun inside => absurd inside (notInside nofun), shorter,
            fresh, noticed, stillAsked nofun, found, stillJoined nofun, lost, crashes⟩

theorem sound_step {action : Action} (sound : before.Sound)
    (next : before.step action = some after) : after.Sound := by
  obtain ⟨_, next⟩ := stepAlive_of_step next
  cases action with
  | watch => exact sound_watch sound next
  | cancel torn => exact sound_cancel sound next
  | main => exact sound_main sound next
  | otherLocks =>
      simp only [stepAlive] at next
      split at next <;> cases next
      rename_i free
      refine ⟨fun within => ?_, nofun, nofun, sound.main, sound.fresh, sound.noticed,
        sound.asked, sound.found, sound.joined, fun lost => (nomatch lost.1),
        sound.crashed⟩
      have owned := sound.watchOwns within
      rw [free] at owned
      cases owned
  | otherUnlocks =>
      simp only [stepAlive] at next
      split at next <;> cases next
      rename_i other
      refine ⟨fun within => ?_, nofun, nofun, sound.main, sound.fresh, sound.noticed,
        sound.asked, sound.found, sound.joined, fun lost => (nomatch lost.1),
        sound.crashed⟩
      have owned := sound.watchOwns within
      rw [other] at owned
      cases owned

theorem sound_of_reaches {admissible : LogLock → Action → Prop} {state : LogLock}
    (reached : Runs.Reaches step admissible initial state) : state.Sound :=
  reached.invariant sound_initial fun _ _ _ sound _ next => sound_step sound next

/-! ## A lost lock -/

/-- The watch is stopped before it is joined. -/
theorem stopped_of_join {rest : List StopOp} (suffix : .join :: rest <:+ threadsStop) :
    .gonggoAliveStop ∉ .join :: rest := by
  have all : ∀ tail ∈ threadsStop.tails, tail.head? = some .join →
      .gonggoAliveStop ∉ tail := by decide
  exact all _ ((List.mem_tails _ _).mpr suffix) rfl

/-- What is left to do, the main thread's part first. -/
def remaining (state : LogLock) : Nat :=
  20 * (2 * state.main.length - if state.owner = some .main then 1 else 0) +
    2 * state.watch.remaining + (if state.owner = some .other then 1 else 0) +
    if state.crashed then 0 else 1

private theorem remaining_watch (sound : before.Sound) (next : before.stepWatch = some after) :
    after.remaining < before.remaining := by
  have watchOwns := sound.watchOwns
  obtain ⟨watch, gonggoDead, cancelling, owner, main, foundAlive, crashed⟩ := before
  -- a watch that takes the lock takes it from nobody, one that gives it back owned it
  have takes : ∀ {inside : WatchEnd}, owner = none → inside.remaining < watch.remaining →
      remaining ⟨inside, gonggoDead, cancelling, some .watch, main, foundAlive, crashed⟩ <
        remaining ⟨watch, gonggoDead, cancelling, owner, main, foundAlive, crashed⟩ := by
    intro inside free less
    simpa [remaining, free] using less
  have gives : ∀ {next : WatchEnd}, watch.inside = true →
      next.remaining < watch.remaining →
      remaining ⟨next, gonggoDead, cancelling, none, main, foundAlive, crashed⟩ <
        remaining ⟨watch, gonggoDead, cancelling, owner, main, foundAlive, crashed⟩ := by
    intro next inside less
    cases watchOwns inside
    simpa [remaining] using less
  cases watch with
  | loop | told =>
      cases next
      simp [remaining, WatchEnd.remaining]
  | cleanup logging | stopped logging | cancelled logging =>
      cases logging with
      | before =>
          simp only [stepWatch, watchLogs] at next
          split at next <;> cases next
          rename_i free
          exact takes free (by decide)
      | inside =>
          cases next
          exact gives rfl (by decide)
  | ended => cases next

private theorem remaining_cancel {torn : Bool} (alive : before.crashed = false)
    (next : before.stepCancel torn = some after) : after.remaining < before.remaining := by
  obtain ⟨watch, gonggoDead, cancelling, owner, main, foundAlive, crashed⟩ := before
  simp only [stepCancel] at next
  split at next
  · cases watch with
    | loop | told =>
        dsimp only at next
        split at next <;> cases next
        · cases alive
          simp [remaining]
        · simp [remaining, WatchEnd.remaining]
    | cleanup logging | stopped logging =>
        cases next
        cases logging <;> simp [remaining, WatchEnd.remaining]
    | cancelled logging | ended => cases next
  · cases next

private theorem remaining_main (sound : before.Sound) (next : before.stepMain = some after) :
    after.remaining < before.remaining := by
  have mainInside := sound.mainInside
  obtain ⟨watch, gonggoDead, cancelling, owner, main, foundAlive, crashed⟩ := before
  cases main with
  | nil => cases next
  | cons op rest =>
      have outside : op ≠ .log → owner ≠ some .main := by
        intro other inside
        obtain ⟨_, same⟩ := mainInside inside
        exact other (List.cons.inj same).1
      cases op with
      | log =>
          simp only [stepMain] at next
          split at next <;> cases next
          · simp only [remaining, List.length_cons, reduceCtorEq, Option.some.injEq, if_false,
              if_true]
            omega
          · simp only [remaining, List.length_cons, reduceCtorEq, Option.some.injEq, if_false,
              if_true]
            omega
      | gonggoAliveStop =>
          have free := outside nofun
          simp only [stepMain] at next
          split at next <;> cases next <;> simp [remaining, free]
      | join =>
          have free := outside nofun
          simp only [stepMain] at next
          split at next <;> cases next
          simp [remaining, free]
      | thread =>
          have free := outside nofun
          cases next
          simp [remaining, free]

/-- Every step takes from what is left, but for another thread that takes the lock. -/
theorem remaining_step {action : Action} (sound : before.Sound) (own : action ≠ .otherLocks)
    (next : before.step action = some after) : after.remaining < before.remaining := by
  obtain ⟨alive, next⟩ := stepAlive_of_step next
  cases action with
  | watch => exact remaining_watch sound next
  | cancel torn => exact remaining_cancel alive next
  | main => exact remaining_main sound next
  | otherLocks => exact absurd rfl own
  | otherUnlocks =>
      simp only [stepAlive] at next
      split at next <;> cases next
      rename_i other
      simp [remaining, other]

/-- Only a watch that gives the lock back, or that has been cancelled, ends. -/
private theorem progress_watch (alive : before.crashed = false)
    (outside : before.owner = none ∨ before.watch.inside = true)
    (going : before.watch ≠ .ended) (left : before.watch ≠ .loop) :
    ∃ after, before.step .watch = some after ∧ ¬after.Lost ∧ after.crashed = false := by
  rw [step_of_alive alive]
  obtain ⟨watch, gonggoDead, cancelling, owner, main, foundAlive, crashed⟩ := before
  have free : watch.inside = false → owner = none := by
    intro not
    rcases outside with free | inside
    · exact free
    · rw [not] at inside
      cases inside
  cases watch with
  | loop => exact absurd rfl left
  | ended => exact absurd rfl going
  | told => exact ⟨_, rfl, nofun, alive⟩
  | cleanup logging | stopped logging | cancelled logging =>
      cases logging with
      | before =>
          cases free rfl
          exact ⟨_, rfl, nofun, alive⟩
      | inside => exact ⟨_, rfl, nofun, alive⟩

/-- There is a step that leads on. -/
theorem progress (sound : before.Sound) (kept : ¬before.Lost)
    (alive : before.crashed = false) (busy : before.main ≠ []) :
    ∃ action after, action ≠ .otherLocks ∧ before.step action = some after ∧
      ¬after.Lost ∧ after.crashed = false := by
  cases owner : before.owner with
  | none =>
      cases main : before.main with
      | nil => exact absurd main busy
      | cons op rest =>
          have suffix := sound.main
          rw [main] at suffix
          cases op with
          | log =>
              refine ⟨.main, { before with owner := some .main }, nofun, ?_, nofun, alive⟩
              simp [step_of_alive alive, stepAlive, stepMain, main, owner]
          | gonggoAliveStop =>
              cases dead : before.gonggoDead with
              | true =>
                  refine ⟨.main, { before with main := rest }, nofun, ?_, kept, alive⟩
                  simp [step_of_alive alive, stepAlive, stepMain, main, dead]
              | false =>
                  refine ⟨.main, { before with
                    cancelling := true, foundAlive := true, main := rest }, nofun, ?_, kept,
                    alive⟩
                  simp [step_of_alive alive, stepAlive, stepMain, main, dead]
          | thread =>
              refine ⟨.main, { before with main := rest }, nofun, ?_, kept, alive⟩
              simp [step_of_alive alive, stepAlive, stepMain, main]
          | join =>
              by_cases ended : before.watch = .ended
              · refine ⟨.main, { before with main := rest }, nofun, ?_, kept, alive⟩
                simp [step_of_alive alive, stepAlive, stepMain, main, ended]
              · by_cases looping : before.watch = .loop
                · -- the cancellation is on its way
                  have passed : .gonggoAliveStop ∉ before.main := by
                    rw [main]
                    exact stopped_of_join suffix
                  have sent := sound.asked looping passed
                  refine ⟨.cancel false, { before with
                    cancelling := false, watch := .cancelled .before }, nofun, ?_, nofun, alive⟩
                  simp [step_of_alive alive, stepAlive, stepCancel, sent, looping]
                · obtain ⟨after, next, found⟩ :=
                    progress_watch alive (Or.inl owner) ended looping
                  exact ⟨.watch, after, nofun, next, found⟩
  | some user =>
      cases user with
      | main =>
          obtain ⟨rest, main⟩ := sound.mainInside owner
          refine ⟨.main, { before with owner := none, main := rest }, nofun, ?_, nofun, alive⟩
          simp [step_of_alive alive, stepAlive, stepMain, main, owner]
      | watch =>
          rcases sound.watchInside owner with inside | ended
          · have going : before.watch ≠ .ended := by
              intro ended
              rw [ended] at inside
              cases inside
            have left : before.watch ≠ .loop := by
              intro looping
              rw [looping] at inside
              cases inside
            obtain ⟨after, next, found⟩ := progress_watch alive (Or.inr inside) going left
            exact ⟨.watch, after, nofun, next, found⟩
          · exact absurd ⟨owner, ended⟩ kept
      | other =>
          refine ⟨.otherUnlocks, { before with owner := none }, nofun, ?_, nofun, alive⟩
          simp [step_of_alive alive, stepAlive, owner]

end LogLock

end Sawang

import Sawang.Foundation.Runs

/-!
# The main thread's wait

The loop of `work` that waits for `proxy_exit`, with everything that sets the flag:
the handler of `SIGTERM`, which runs in the main thread wherever that stands, and the
two threads that set the flag and then call `kill`.  A signal sent while one is
pending is not queued, and the handler is not interrupted by its own signal.
-/

namespace Sawang

inductive WaitPosition where
  /-- Before the test of `proxy_exit`. -/
  | test
  /-- Behind a test that failed, before `pause`. -/
  | call
  | paused
  | left
deriving DecidableEq

inductive HandlerPosition where
  | outside
  /-- Before the write of `proxy_exit`. -/
  | entered
  | written
deriving DecidableEq

/-- A thread that stops the proxy. -/
inductive StopperPosition where
  | watching
  /-- Between the write of `proxy_exit` and `kill`. -/
  | flagged
  | finished
deriving DecidableEq

structure MainWait where
  position : WaitPosition
  handler : HandlerPosition
  proxyExit : Bool
  /-- A `SIGTERM` is sent and not delivered. -/
  pending : Bool
  gonggoAlive : StopperPosition
  channel : StopperPosition
deriving DecidableEq

namespace MainWait

def initial : MainWait where
  position := .test
  handler := .outside
  proxyExit := false
  pending := false
  gonggoAlive := .watching
  channel := .watching

inductive Action where
  | main
  | handler
  | deliver
  | gonggoAlive
  | channel
  /-- Someone else sends `SIGTERM`. -/
  | sigterm
deriving DecidableEq

/-- The main thread's next step is one of the loop's. -/
def stepMain (wait : MainWait) : Option MainWait :=
  if wait.handler ≠ .outside then none
  else
    match wait.position with
    | .test => some { wait with position := if wait.proxyExit then .left else .call }
    | .call => some { wait with position := .paused }
    | .paused | .left => none

/-- A `pause` that a handler interrupted returns. -/
def stepHandler (wait : MainWait) : Option MainWait :=
  match wait.handler with
  | .outside => none
  | .entered => some { wait with handler := .written, proxyExit := true }
  | .written =>
      some { wait with
        handler := .outside
        position := if wait.position = .paused then .test else wait.position }

def step (action : Action) (wait : MainWait) : Option MainWait :=
  match action with
  | .main => wait.stepMain
  | .handler => wait.stepHandler
  | .deliver =>
      if wait.pending ∧ wait.handler = .outside then
        some { wait with handler := .entered, pending := false }
      else none
  | .gonggoAlive =>
      match wait.gonggoAlive with
      | .watching => some { wait with gonggoAlive := .flagged, proxyExit := true }
      | .flagged => some { wait with gonggoAlive := .finished, pending := true }
      | .finished => none
  | .channel =>
      match wait.channel with
      | .watching => some { wait with channel := .flagged, proxyExit := true }
      | .flagged => some { wait with channel := .watching, pending := true }
      | .finished => none
  | .sigterm => some { wait with pending := true }

/-- The main thread sleeps in `pause`. -/
def Blocked (wait : MainWait) : Prop := wait.position = .paused ∧ wait.handler = .outside

/-- The main thread sleeps, the stop is requested, and no signal is on its way. -/
def Stranded (wait : MainWait) : Prop :=
  wait.proxyExit = true ∧ wait.pending = false ∧ wait.Blocked

/-- A thread has set the flag and not sent its signal yet. -/
def Flagged (wait : MainWait) : Prop :=
  wait.gonggoAlive = .flagged ∨ wait.channel = .flagged

instance (wait : MainWait) : Decidable wait.Stranded :=
  inferInstanceAs (Decidable (_ ∧ _ ∧ _ ∧ _))

/-- No signal is delivered between the test of the flag and `pause`. -/
def Outside (wait : MainWait) (action : Action) : Prop :=
  ¬(action = .deliver ∧ wait.position = .call)

instance (wait : MainWait) (action : Action) : Decidable (wait.Outside action) :=
  inferInstanceAs (Decidable (¬_))

/-! ## What the wait keeps -/

/-- While the main thread is on its way to sleep or sleeps, a stop request has its
signal still to come. -/
structure Sound (wait : MainWait) : Prop where
  handler : wait.handler ≠ .outside → wait.position ≠ .call
  flagged : wait.Flagged → wait.proxyExit = true
  signalled : wait.position = .call ∨ wait.position = .paused → wait.handler = .outside →
    wait.proxyExit = true → wait.pending = true ∨ wait.Flagged

theorem sound_initial : initial.Sound where
  handler := fun inside => absurd rfl inside
  flagged := by
    rintro (impossible | impossible) <;> cases impossible
  signalled := by
    intro _ _ impossible
    cases impossible

theorem Sound.stepMain {wait after : MainWait} (sound : wait.Sound)
    (next : wait.stepMain = some after) : after.Sound := by
  unfold MainWait.stepMain at next
  split at next
  · cases next
  · rename_i outside
    have free : wait.handler = .outside := Decidable.not_not.mp outside
    split at next
    · cases next
      refine ⟨fun inside => absurd free inside, sound.flagged, ?_⟩
      intro position _ exit
      dsimp only at position exit
      rw [if_pos exit] at position
      rcases position with impossible | impossible <;> cases impossible
    · rename_i called
      cases next
      exact ⟨fun inside => absurd free inside, sound.flagged,
        fun _ => sound.signalled (Or.inl called)⟩
    · cases next
    · cases next

theorem Sound.stepHandler {wait after : MainWait} (sound : wait.Sound)
    (next : wait.stepHandler = some after) : after.Sound := by
  unfold MainWait.stepHandler at next
  split at next
  · cases next
  · rename_i entered
    cases next
    refine ⟨fun _ => sound.handler ?_, fun _ => rfl, fun _ impossible => ?_⟩
    · rw [entered]
      exact HandlerPosition.noConfusion
    · cases impossible
  · rename_i written
    have elsewhere : wait.position ≠ .call := by
      apply sound.handler
      rw [written]
      exact HandlerPosition.noConfusion
    cases next
    refine ⟨fun inside => absurd rfl inside, sound.flagged, ?_⟩
    intro position _ _
    dsimp only at position
    split at position
    · rcases position with impossible | impossible <;> cases impossible
    · rename_i awake
      rcases position with called | paused
      · exact absurd called elsewhere
      · exact absurd paused awake

theorem Sound.step {wait after : MainWait} {action : Action} (sound : wait.Sound)
    (outside : wait.Outside action) (next : wait.step action = some after) : after.Sound := by
  cases action with
  | main => exact sound.stepMain next
  | handler => exact sound.stepHandler next
  | deliver =>
      simp only [MainWait.step] at next
      split at next
      · cases next
        refine ⟨fun _ called => outside ⟨rfl, called⟩, sound.flagged, fun _ impossible => ?_⟩
        cases impossible
      · cases next
  | gonggoAlive =>
      simp only [MainWait.step] at next
      split at next
      · cases next
        exact ⟨sound.handler, fun _ => rfl, fun _ _ _ => Or.inr (Or.inl rfl)⟩
      · rename_i flagged
        cases next
        exact ⟨sound.handler, fun _ => sound.flagged (Or.inl flagged),
          fun _ _ _ => Or.inl rfl⟩
      · cases next
  | channel =>
      simp only [MainWait.step] at next
      split at next
      · cases next
        exact ⟨sound.handler, fun _ => rfl, fun _ _ _ => Or.inr (Or.inr rfl)⟩
      · rename_i flagged
        cases next
        exact ⟨sound.handler, fun _ => sound.flagged (Or.inr flagged),
          fun _ _ _ => Or.inl rfl⟩
      · cases next
  | sigterm =>
      cases next
      exact ⟨sound.handler, sound.flagged, fun _ _ _ => Or.inl rfl⟩

theorem sound_of_reaches {wait : MainWait}
    (reached : Runs.Reaches step Outside initial wait) : wait.Sound := by
  apply reached.invariant
  · exact sound_initial
  · intro before action after sound outside next
    exact sound.step outside next

/-! ## The lost signal -/

/-- A delivery between the test and `pause` strands the main thread. -/
theorem stranded_of_deliver {wait after : MainWait} (called : wait.position = .call)
    (next : wait.step .deliver = some after) :
    ∃ later, Runs.execute step Runs.unrestricted [.handler, .handler, .main] after = some later ∧
      later.Stranded ∧ (later.Flagged ↔ wait.Flagged) := by
  obtain ⟨position, handler, proxyExit, pending, gonggoAlive, channel⟩ := wait
  subst called
  simp only [step] at next
  split at next
  · cases next
    exact ⟨_, rfl, ⟨rfl, rfl, rfl, rfl⟩, Iff.rfl⟩
  · cases next

/-- As long as no signal is delivered between the test and `pause`, the main thread
sleeps with the stop requested and no signal on its way only while a thread has its
`kill` before it.  A signal that is delivered there is lost: the main thread sleeps
then, and nobody has a signal for it who did not have one before. -/
theorem stop_ends_wait_iff {wait : MainWait}
    (reached : Runs.Reaches step Outside initial wait) :
    (¬wait.Stranded ↔ ¬(wait.Blocked ∧ wait.pending = false ∧ wait.Flagged)) ∧
      (wait.position = .call → ∀ after, wait.step .deliver = some after →
        ∃ later,
          Runs.execute step Runs.unrestricted [.handler, .handler, .main] after = some later ∧
            later.Stranded ∧ (later.Flagged ↔ wait.Flagged)) := by
  have sound := sound_of_reaches reached
  refine ⟨not_congr ⟨?_, ?_⟩, fun called after next => stranded_of_deliver called next⟩
  · rintro ⟨exit, quiet, blocked⟩
    rcases sound.signalled (Or.inr blocked.1) blocked.2 exit with coming | flagged
    · rw [quiet] at coming
      cases coming
    · exact ⟨blocked, quiet, flagged⟩
  · rintro ⟨blocked, quiet, flagged⟩
    exact ⟨sound.flagged flagged, quiet, blocked⟩

/-- The channel thread stops the proxy while the main thread sleeps. -/
theorem stop_ends_wait_iff_asleep :
    let wait : MainWait :=
      { initial with position := .paused, proxyExit := true, channel := .flagged }
    (¬wait.Stranded ↔ ¬(wait.Blocked ∧ wait.pending = false ∧ wait.Flagged)) ∧
      (wait.position = .call → ∀ after, wait.step .deliver = some after →
        ∃ later,
          Runs.execute step Runs.unrestricted [.handler, .handler, .main] after = some later ∧
            later.Stranded ∧ (later.Flagged ↔ wait.Flagged)) := by
  have executed : Runs.execute step Outside [.main, .main, .channel] initial =
      some { initial with position := .paused, proxyExit := true, channel := .flagged } := rfl
  exact stop_ends_wait_iff (Runs.reaches_of_execute step Outside executed)

/-- The signal of `gonggo_alive` arrives between the test and `pause`. -/
theorem stop_not_ends_wait :
    ¬∀ wait, Runs.Reaches step Runs.unrestricted initial wait → ¬wait.Stranded := by
  intro awake
  obtain ⟨wait, reached, stranded⟩ := Runs.reaches_of_execute_test step Runs.unrestricted
    [.main, .gonggoAlive, .gonggoAlive, .deliver, .handler, .handler, .main] initial
    (fun wait => decide wait.Stranded) (by rfl)
  exact awake wait reached (of_decide_eq_true stranded)

end MainWait

end Sawang

import Sawang.Board.Flow
import Sawang.Proxy.Layers

/-!
# The life cycle of a subscription

What an application that is told of emptied entries can rely on: while it has
subscribers it is asked to work for them, it is told once of each entry that ran
out, and late subscribers are not lost in the telling.
-/

namespace Sawang

open Board History

namespace Board

/-- The task has not been popped. -/
def Waits (board : Board) (task : ParseQueueTask) : Prop :=
  task ∈ board.parseQueue ∨ .parseQueueAppend task ∈ board.job

end Board

structure MultirespondLifecycle (env : Environment) (board : Board) : Prop where
  /-- `ProxyRun` is invoked for a subscription only while somebody subscribes. -/
  runListed : ∀ task rest, board.work = .run task :: rest →
    task.type = .multirespond → board.multirespond.uuids task.taskKey ≠ []
  /-- The clear callbacks answer the emptying drops one for one, each before any
  other callback. -/
  paired : Paired (proxyCommCreateReplyArg env) board.due board.chronicle
  /-- A run of the key comes before its first clear and between any two. -/
  clearsEarned : ClearsEarned board.chronicle
  /-- A subscriber that came after an emptying drop is run after its clear, if
  its task is popped at all. -/
  rerun : ∀ taskKey rid uuid,
    Follows board.chronicle (.registered .multirespond taskKey rid)
      (.emptied taskKey uuid) →
    let own := ownTask .multirespond taskKey rid
    board.Waits own ∨
      ∃ arg, proxyCommCreateReplyArg env taskKey = some arg ∧
        ((board.work = [.run own] ∧
            Follows board.chronicle (.cleared taskKey arg) (.emptied taskKey uuid)) ∨
          ∃ runArg, [.ran own runArg, .cleared taskKey arg,
            .emptied taskKey uuid].Sublist board.chronicle)

/-- The facts about tasks and tables together with the life cycle. -/
structure Cyclic (env : Environment) (board : Board) : Prop where
  wellformed : Wellformed env board
  cycle : (board.lifecycle env).Sound (proxyCommCreateReplyArg env)

theorem cyclic_of_reaches {env : Environment} {board : Board}
    (reached : Runs.Reaches (Board.move env) Board.Fresh Board.initial board) :
    Cyclic env board := by
  apply reached.invariant ⟨wellformed_initial env, lifecycle_sound_initial env⟩
  intro before action after cyclic fresh moved
  have step := boardStep_of_move moved
  have abstract := lifecycleStep_of_boardStep cyclic.wellformed step
  exact ⟨wellformed_step cyclic.wellformed fresh step,
    Lifecycle.sound_step abstract cyclic.cycle⟩

/-- An unsubscription in circulation names a registered subscriber. -/
theorem Cyclic.registered_of_drops {env : Environment} {board : Board}
    (cyclic : Cyclic env board) {task : ParseQueueTask} {taskKey uuid : String}
    (drops : task.Drops taskKey uuid) (pending : task ∈ board.pending) :
    .registered .multirespond taskKey uuid false ∈ board.history := by
  rcases cyclic.cycle.tasks task pending with
    ⟨type, key, rid, rfl⟩ | ⟨key, other, named, registered⟩
  · exact absurd drops not_drops_ownTask
  · obtain ⟨sameKey, sameUuid⟩ := named
    have key_eq := Option.some.inj (drops.1.symm.trans sameKey)
    have uuid_eq := Option.some.inj (drops.2.symm.trans sameUuid)
    subst key_eq uuid_eq
    exact mem_events_registered.mp registered

/-- A pending task of a normal request waits or is about to be run. -/
theorem waits_or_runs_of_pending {env : Environment} {board : Board}
    (tasks : TasksSound env board) {task : ParseQueueTask}
    (normal : task.unsubscribeTaskKey = none) (member : task ∈ board.pending) :
    board.Waits task ∨ board.work = [.run task] := by
  have stage := tasks.work
  unfold pending at member
  rcases List.mem_append.mp member with earlier | appending
  · rcases List.mem_append.mp earlier with popped | queued
    · generalize board.work = work at stage popped ⊢
      cases stage <;> simp [List.filterMap_cons, CommOp.task] at popped
      case unsubscribing single unsubscribes dropped =>
        rw [popped, unsubscribes] at normal
        cases normal
      case running unsubscribes key => exact Or.inr (popped ▸ rfl)
    · exact Or.inl (Or.inl queued)
  · obtain ⟨op, opMember, named⟩ := List.mem_filterMap.mp appending
    cases op <;> cases named
    exact Or.inl (Or.inr opMember)

theorem Cyclic.multirespondLifecycle {env : Environment} {board : Board}
    (cyclic : Cyclic env board) (clears : env.hasMultirespondClear = true) :
    MultirespondLifecycle env board := by
  obtain ⟨wellformed, cycle⟩ := cyclic
  have events : (board.lifecycle env).events = board.chronicle :=
    events_eq_chronicle clears
  have paired := cycle.paired
  rw [events] at paired
  refine ⟨?_, paired, events ▸ cycle.clearsEarned, ?_⟩
  · intro task rest next subscribes
    have stage := wellformed.tasks.work
    rw [next] at stage
    cases stage with
    | running normal key =>
        have member : task ∈ (board.lifecycle env).pending := by
          simp [lifecycle, pending, next, CommOp.task]
        obtain ⟨uuid, listed⟩ := cycle.exists_listed member subscribes normal
        exact List.ne_nil_of_mem listed
  · intro taskKey rid uuid follows
    have emptied := follows.mem_right
    rw [← events] at follows
    rcases cycle.rerun follows with pending | ⟨arg, runArg, built, sublist⟩
    · rcases waits_or_runs_of_pending wellformed.tasks rfl pending with waits | runs
      · exact Or.inl waits
      · right
        have idle : (board.lifecycle env).due = none := by
          simp [lifecycle, due, runs]
        rw [idle] at paired
        rcases paired.cleared_of_emptied emptied with stillDue | ⟨arg, built, cleared⟩
        · cases stillDue
        · exact ⟨arg, built, Or.inl ⟨runs, cleared⟩⟩
    · rw [events] at sublist
      exact Or.inr ⟨arg, built, Or.inr ⟨runArg, sublist⟩⟩

/-- In every run of the proxy with distinct request ids. -/
theorem multirespond_lifecycle {env : Environment}
    (clears : env.hasMultirespondClear = true) {state : ProxyState}
    (reached : Runs.Reaches (ProxyState.step env) (ProxyState.Lifted Board.Fresh)
      .initial state) :
    MultirespondLifecycle env state.board :=
  (cyclic_of_reaches (ProxyState.board_reaches reached)).multirespondLifecycle clears

/-- A run in which a key is subscribed, run and unsubscribed, and subscribed again
between the emptying drop and its clear. -/
theorem multirespond_lifecycle_resubscribed :
    ∃ state : ProxyState,
      state.board.chronicle.length = 6 ∧
        MultirespondLifecycle .reference state.board := by
  obtain ⟨state, reached, tested⟩ :=
    Runs.reaches_of_execute_test (ProxyState.step .reference)
      (ProxyState.Lifted Board.Fresh)
      (ProxyState.commActions 3 ++
        ProxyState.requestActions "s" (.object []) .multirespond false "r1" 5 ++
        ProxyState.commActions 6 ++
        ProxyState.requestActions "s" (.object [("rid", .string "r1")]) .singleshot
          true "r2" 6 ++
        ProxyState.commActions 4 ++
        ProxyState.requestActions "s" (.object []) .multirespond false "r3" 3 ++
        ProxyState.commActions 3 ++ ProxyState.replyActions 0 3 ++
        ProxyState.commActions 3)
      .initial (fun state => state.board.chronicle.length == 6) (by decide +kernel)
  exact ⟨state, eq_of_beq tested, multirespond_lifecycle rfl reached⟩

end Sawang

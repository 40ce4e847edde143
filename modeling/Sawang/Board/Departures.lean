import Sawang.Board.Flow
import Sawang.Board.Order

/-!
# Who leaves the multi-respond table

A subscriber stays listed under its key until the comm thread has taken an unsubscription
that names the key and the subscriber.
-/

namespace Sawang

open Board

namespace Board

/-- What the comm thread is about to unsubscribe is named by a task it has taken. -/
def UnsubscribesTaken (board : Board) : Prop :=
  ∀ task taskKey uuid, .unsubscribe task taskKey uuid ∈ board.work →
    task ∈ board.dequeuedTasks ∧ task.Drops taskKey uuid

/-- Every subscriber is listed, or an unsubscription that names it has been taken. -/
def SubscribersKept (board : Board) : Prop :=
  ∀ taskKey rid unsubscribe, .registered .multirespond taskKey rid unsubscribe ∈ board.history →
    rid ∈ board.multirespond.uuids taskKey ∨
      ∃ task ∈ board.dequeuedTasks, task.Drops taskKey rid

variable {env : Environment} {before after : Board} {action : Move}

/-- The comm thread takes on an unsubscription with the task that names it. -/
private theorem unsubscribe_mem_taskWork {task other : ParseQueueTask} {taskKey uuid : String}
    (member : .unsubscribe other taskKey uuid ∈ taskWork task) :
    other = task ∧ task.Drops taskKey uuid := by
  unfold taskWork at member
  split at member
  · rename_i named _ single key dropped
    simp only [List.mem_cons, CommOp.unsubscribe.injEq, reduceCtorEq, List.not_mem_nil,
      or_false] at member
    obtain ⟨rfl, rfl, rfl⟩ := member
    exact ⟨rfl, key, dropped⟩
  · simp at member

theorem unsubscribesTaken_step (taken : before.UnsubscribesTaken)
    (step : BoardStep env before action after) : after.UnsubscribesTaken := by
  -- statements of the rest of the work were there before
  have fewer : ∀ {op : CommOp} {rest : List CommOp}, before.work = op :: rest →
      ∀ {work : List CommOp}, (∀ task taskKey uuid,
        CommOp.unsubscribe task taskKey uuid ∈ work → .unsubscribe task taskKey uuid ∈ rest) →
      ∀ task taskKey uuid, .unsubscribe task taskKey uuid ∈ work →
        task ∈ before.dequeuedTasks ∧ task.Drops taskKey uuid := by
    intro op rest next work within task taskKey uuid member
    apply taken
    rw [next]
    exact List.mem_cons_of_mem _ (within task taskKey uuid member)
  cases step with
  | dequeue free head =>
      intro task taskKey uuid member
      obtain ⟨rfl, names⟩ := unsubscribe_mem_taskWork member
      exact ⟨List.mem_cons_self, names⟩
  | dropAbsent next | dropQuiet next | awaited next | callbackReturn next
  | requestUnknown next =>
      exact fewer next fun _ _ _ member => member
  | dropLast next | clear next | confirmCall next | run next | callbackReply next
  | requestFound next =>
      refine fewer next fun _ _ _ member => ?_
      simpa [record] using member
  | runDrop next =>
      refine fewer next fun _ _ _ member => ?_
      rcases List.mem_append.mp member with requested | rest
      · obtain ⟨uuid, _, same⟩ := List.mem_map.mp requested
        cases same
      · exact rest
  | _ => exact taken

theorem subscribersKept_step (tasks : TasksSound env before) (taken : before.UnsubscribesTaken)
    (kept : before.SubscribersKept) (step : BoardStep env before action after) :
    after.SubscribersKept := by
  have dropped : ∀ {op : CommOp} {rest : List CommOp} {taskKey uuid : String},
      before.work = op :: rest → op.drops = some (taskKey, uuid) →
      ∀ {table : RespondTable}, table = (before.multirespond.drop taskKey uuid).2 →
      ∀ key rid unsubscribe, .registered .multirespond key rid unsubscribe ∈ before.history →
        rid ∈ table.uuids key ∨ ∃ task ∈ before.dequeuedTasks, task.Drops key rid := by
    rintro op rest taskKey uuid next drops table rfl key rid unsubscribe member
    by_cases same : rid = uuid ∧ key = taskKey
    · obtain ⟨rfl, rfl⟩ := same
      obtain ⟨task, _, rfl, _⟩ := drop_stage tasks next drops
      obtain ⟨there, names⟩ := taken task key rid (next ▸ List.mem_cons_self)
      exact Or.inr ⟨task, there, names⟩
    · refine (kept key rid unsubscribe member).imp_left fun listed => ?_
      exact RespondTable.mem_uuids_drop.mpr ⟨listed, same⟩
  intro key rid unsubscribe member
  cases step with
  | subscribed next new =>
      rcases List.mem_cons.mp member with same | old
      · cases same
        exact Or.inl (RespondTable.mem_uuids_set.mpr (Or.inr ⟨rfl, rfl⟩))
      · refine (kept key rid unsubscribe old).imp_left fun listed => ?_
        exact RespondTable.mem_uuids_set.mpr (Or.inl listed)
  | registered next =>
      rcases List.mem_cons.mp member with same | old
      · cases same
      · exact kept key rid unsubscribe old
  | registeredUnsubscribe next =>
      rcases List.mem_cons.mp member with same | old
      · cases same
      · exact kept key rid unsubscribe old
  | dequeue free head =>
      rcases List.mem_cons.mp member with same | old
      · cases same
      · refine (kept key rid unsubscribe old).imp_right ?_
        rintro ⟨task, there, names⟩
        exact ⟨task, List.mem_cons_of_mem _ there, names⟩
  | dropLast next drops =>
      rcases List.mem_cons.mp member with same | old
      · cases same
      · exact dropped next drops rfl key rid unsubscribe old
  | dropQuiet next drops =>
      rcases List.mem_cons.mp member with same | old
      · cases same
      · exact dropped next drops rfl key rid unsubscribe old
  | confirm | reject | enqueue | clear | run | append =>
      rcases List.mem_cons.mp member with same | old
      · cases same
      · exact kept key rid unsubscribe old
  | _ => exact kept key rid unsubscribe member

theorem subscribersKept_of_reaches {board : Board}
    (reached : Runs.Reaches (move env) Runs.unrestricted initial board) :
    board.SubscribersKept := by
  have sound : TasksSound env board ∧ board.UnsubscribesTaken ∧ board.SubscribersKept := by
    apply reached.invariant
    · exact ⟨tasksSound_initial env, nofun, nofun⟩
    · rintro before action after ⟨tasks, taken, kept⟩ _ moved
      have step := boardStep_of_move moved
      exact ⟨tasksSound_step step tasks, unsubscribesTaken_step taken step,
        subscribersKept_step tasks taken kept step⟩
  exact sound.2.2

end Board

end Sawang

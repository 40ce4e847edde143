import Sawang.Board.MultiRespond
import Sawang.Board.Traces

/-!
# Single-shot requests are not forgotten

A request leaves the single-shot table only through a call that will name it.
As long as no reply does, it stays listed, and its own task is waiting, about to
be run, or has been run.
-/

namespace Sawang

open Board History

/-- The call has dropped the uuid and has not appended its reply yet. -/
def ReplyCall.HasDropped (call : ReplyCall) (uuid : String) : Prop :=
  match call.position with
  | .drops rid _ => uuid ∈ rid
  | .append rid => call.which = .singleshot ∧ 1 < rid.length ∧ uuid ∈ rid
  | _ => False

instance (call : ReplyCall) (uuid : String) : Decidable (call.HasDropped uuid) :=
  match position : call.position with
  | .drops rid _ =>
      decidable_of_iff (uuid ∈ rid) (by simp only [ReplyCall.HasDropped, position])
  | .append rid =>
      decidable_of_iff (call.which = .singleshot ∧ 1 < rid.length ∧ uuid ∈ rid)
        (by simp only [ReplyCall.HasDropped, position])
  | .lookupSingleshot | .lookupMultirespond | .awake | .returned =>
      isFalse (by simp [ReplyCall.HasDropped, position])

/-- A call that has dropped a uuid names it in its reply. -/
theorem tracing_hasDropped (env : Environment) (uuid : String) :
    Tracing env (fun call => call.HasDropped uuid) (Event.Names env uuid) where
  notAtLookup := by
    intro call position dropped
    rcases position with from_ | from_ | from_ <;>
      simp only [ReplyCall.HasDropped, from_] at dropped
  collected := by
    intro call collected shape position dropped
    simp only [ReplyCall.Shape, position, List.append_nil] at shape
    simp only [ReplyCall.HasDropped, position] at dropped
    obtain ⟨single, copied, several⟩ := shape
    rw [copied] at several
    exact ⟨single, several, dropped⟩
  dropping := by
    intro call collected named rest position dropped
    simp only [ReplyCall.HasDropped, position] at dropped
    exact List.mem_append_left _ dropped
  appending := by
    intro index call collected shape position dropped
    simp only [ReplyCall.HasDropped, position] at dropped
    refine ⟨_, rfl, ?_⟩
    rw [ReplyCall.recipients_reply]
    exact dropped.2.2

/-- Every registered single-shot request is listed, or a reply names it, or a
call that dropped it is going to. -/
def AllAccounted (env : Environment) (board : Board) : Prop :=
  ∀ taskKey rid unsubscribe,
    .registered .singleshot taskKey rid unsubscribe ∈ board.history →
    Traced (fun call => call.HasDropped rid) (Event.Names env rid) board taskKey rid

theorem allAccounted_step {env : Environment} {before after : Board} {action : Move}
    (wellformed : Wellformed env before) (step : BoardStep env before action after)
    (accounted : AllAccounted env before) : AllAccounted env after := by
  intro taskKey rid unsubscribe registered
  rcases listed_of_registered step registered with recorded | listed
  · apply Traced.step (tracing_hasDropped env rid) wellformed.calls ?_ step
      (accounted taskKey rid unsubscribe recorded)
    intro index _ call collected rest _ _ _
    exact Or.inl (List.mem_append_right _ List.mem_cons_self)
  · exact Or.inl listed

theorem allAccounted_of_reaches {env : Environment} {board : Board}
    (reached : Runs.Reaches (Board.move env) Board.Fresh Board.initial board) :
    AllAccounted env board := by
  have cyclic : ∀ other,
      Runs.Reaches (Board.move env) Board.Fresh Board.initial other → Cyclic env other :=
    fun other earlier => cyclic_of_reaches earlier
  apply reached.invariant_of cyclic
  · intro taskKey rid unsubscribe registered
    cases registered
  · intro before action after cyclic accounted fresh moved
    exact allAccounted_step cyclic.wellformed (boardStep_of_move moved) accounted

/-- The task of a registered request waits, is about to be run, or has been run. -/
theorem Cyclic.served {env : Environment} {board : Board} (cyclic : Cyclic env board)
    {type : RespondTableType} {taskKey rid : String}
    (registered : .registered type taskKey rid false ∈ board.history) :
    board.Waits (ownTask type taskKey rid) ∨ board.work = [.run (ownTask type taskKey rid)] ∨
      ∃ arg, proxyCommCreateReplyArg env taskKey = some arg ∧
        Follows board.chronicle (.ran (ownTask type taskKey rid) arg)
          (.registered type taskKey rid) := by
  have seen : .registered type taskKey rid ∈ board.events env :=
    mem_events_registered.mpr registered
  obtain ⟨later, past, split⟩ := List.append_of_mem seen
  have suffix : .registered type taskKey rid :: past <:+ (board.lifecycle env).events :=
    ⟨later, split.symm⟩
  rcases cyclic.cycle.followed type taskKey rid past suffix with pending | ⟨arg, built, ran⟩
  · rcases waits_or_runs_of_pending cyclic.wellformed.tasks rfl pending with waits | runs
    · exact Or.inl waits
    · exact Or.inr (Or.inl runs)
  · refine Or.inr (Or.inr ⟨arg, built, ?_⟩)
    exact List.Sublist.trans (ran _ List.mem_cons_self) List.filter_sublist

/-- In every run of the proxy with distinct request ids. -/
theorem singleshot_not_forgotten {env : Environment} {state : ProxyState}
    (reached : Runs.Reaches (ProxyState.step env) (ProxyState.Lifted Board.Fresh)
      .initial state)
    {taskKey rid : String}
    (registered : .registered .singleshot taskKey rid false ∈ state.board.history)
    (unnamed : ¬state.board.Named env rid)
    (undropped : ∀ call ∈ state.board.calls, ¬call.HasDropped rid) :
    let own := ownTask .singleshot taskKey rid
    rid ∈ state.board.singleshot.uuids taskKey ∧
      (state.board.Waits own ∨ state.board.work = [.run own] ∨
        ∃ arg, proxyCommCreateReplyArg env taskKey = some arg ∧
          Follows state.board.chronicle (.ran own arg)
            (.registered .singleshot taskKey rid)) := by
  have boardReached := ProxyState.board_reaches reached
  have cyclic := cyclic_of_reaches boardReached
  refine ⟨?_, cyclic.served registered⟩
  rcases allAccounted_of_reaches boardReached taskKey rid false registered with
    listed | ⟨call, member, dropped⟩ | ⟨event, member, names⟩
  · exact listed
  · exact absurd dropped (undropped call member)
  · exact absurd (named_of_names member names) unnamed

/-- A request that joins an entry whose reply is being collected. -/
theorem singleshot_not_forgotten_newcomer :
    let taskKey := taskKeyFromReplyArg .reference ⟨"s", some (.object [])⟩
    let own := ownTask .singleshot taskKey "r3"
    ∃ state : ProxyState,
      (.singleshot, taskKey, "r3", false) ∈ state.board.registrations ∧
        "r3" ∈ state.board.singleshot.uuids taskKey ∧
        (state.board.Waits own ∨ state.board.work = [.run own] ∨
          ∃ arg, proxyCommCreateReplyArg .reference taskKey = some arg ∧
            Follows state.board.chronicle (.ran own arg)
              (.registered .singleshot taskKey "r3")) := by
  intro taskKey own
  obtain ⟨state, reached, tested⟩ :=
    Runs.reaches_of_execute_test (ProxyState.step .reference)
      (ProxyState.Lifted Board.Fresh)
      (ProxyState.commActions 3 ++
        ProxyState.requestActions "s" (.object []) .singleshot false "r1" 5 ++
        ProxyState.requestActions "s" (.object []) .singleshot false "r2" 5 ++
        ProxyState.commActions 6 ++ [.proxyReply ⟨"s", some (.object [])⟩ none none] ++
        ProxyState.replyActions 0 2 ++
        ProxyState.requestActions "s" (.object []) .singleshot false "r3" 3 ++
        ProxyState.replyActions 0 3)
      .initial
      (fun state => decide (
        (.singleshot, taskKey, "r3", false) ∈ state.board.registrations ∧
          ¬(∃ reply ∈ state.board.replies .reference,
            "r3" ∈ reply.recipients .reference) ∧
          ∀ call ∈ state.board.calls, ¬call.HasDropped "r3"))
      (by decide +kernel)
  obtain ⟨registered, unnamed, undropped⟩ := of_decide_eq_true tested
  have kept := singleshot_not_forgotten reached
    (mem_registrations_iff.mp registered) unnamed undropped
  exact ⟨state, registered, kept⟩

end Sawang

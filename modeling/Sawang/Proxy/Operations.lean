import Sawang.Board.Drops
import Sawang.Proxy.Layers
import Sawang.Queue.Statements
import Sawang.RespondTable.Statements

/-!
# The proxy performs operations

The steps of the proxy take the functions of the respond tables and of the queues as a
whole.  Here they are seen to be operations of the objects behind their locks, never more
than one at a time on the same object.
-/

namespace Sawang

/-- A move of the delivery performs at most one operation of the reply queue. -/
theorem Delivery.replyQueue_of_step {before after : Delivery} {action : Delivery.Move}
    (step : DeliveryStep before action after) :
    after.replyQueue = before.replyQueue ∨
      ∃ call, after.replyQueue = (GQueue.operation call before.replyQueue).2 := by
  cases step with
  | append ticket => exact Or.inr ⟨.append _, rfl⟩
  | take position queue =>
      right
      refine ⟨.popHead, ?_⟩
      rw [queue]
      rfl
  | pushBack position => exact Or.inr ⟨.pushHead _, rfl⟩
  | _ => exact Or.inl rfl

namespace Board

variable {env : Environment} {before after : Board} {action : Move}

/-- A move of the board performs at most one operation of the parse queue. -/
theorem parseQueue_of_step (step : BoardStep env before action after) :
    after.parseQueue = before.parseQueue ∨
      ∃ call, after.parseQueue = (GQueue.operation call before.parseQueue).2 := by
  cases step with
  | enqueue next => exact Or.inr ⟨.append _, rfl⟩
  | dequeue free head =>
      right
      refine ⟨.popHead, ?_⟩
      rw [head]
      rfl
  | _ => exact Or.inl rfl

/-- A move of the board performs at most one operation of the respond tables that changes
them. -/
theorem tables_of_step (step : BoardStep env before action after) :
    after.tables = before.tables ∨
      ∃ call, after.tables = (RespondTables.operation env call before.tables).2 := by
  cases step with
  | subscribed next new => exact Or.inr ⟨.set .multirespond _ _, rfl⟩
  | registered next => exact Or.inr ⟨.set .singleshot _ _, rfl⟩
  | registeredUnsubscribe next => exact Or.inr ⟨.set .singleshot _ _, rfl⟩
  | dropLast next drops present last clears => exact Or.inr ⟨.drop .multirespond _ _, rfl⟩
  | dropQuiet next drops present quiet => exact Or.inr ⟨.drop .multirespond _ _, rfl⟩
  | dropRecipient there position => exact Or.inr ⟨.drop .singleshot _ _, rfl⟩
  | _ => exact Or.inl rfl

end Board

/-- What the shared objects of the proxy hold was made by operations, one after the
other. -/
structure ProxyState.PerformsOperations (env : Environment) (state : ProxyState) : Prop where
  tables : ∃ performed,
    Performs (RespondTables.operation env) .create performed state.board.tables
  parseQueue : ∃ performed, Performs GQueue.operation [] performed state.board.parseQueue
  replyQueue : ∃ performed, Performs GQueue.operation [] performed state.delivery.replyQueue

/-- One more operation, or none. -/
private theorem performs_snoc {κ ρ τ : Type} {operation : κ → τ → ρ × τ} {start last next : τ}
    (performs : ∃ performed, Performs operation start performed last)
    (step : next = last ∨ ∃ call, next = (operation call last).2) :
    ∃ performed, Performs operation start performed next := by
  obtain ⟨performed, performs⟩ := performs
  rcases step with rfl | ⟨call, rfl⟩
  · exact ⟨performed, performs⟩
  · exact ⟨_, performs.snoc call⟩

theorem ProxyState.performsOperations_of_reaches {env : Environment}
    {admissible : ProxyState → Action → Prop} {state : ProxyState}
    (reached : Runs.Reaches (ProxyState.step env) admissible .initial state) :
    state.PerformsOperations env := by
  apply reached.invariant
  · exact ⟨⟨[], .nil⟩, ⟨[], .nil⟩, ⟨[], .nil⟩⟩
  · intro before action after performs _ next
    have refines := refines_of_step next
    refine ⟨?_, ?_, ?_⟩
    · apply performs_snoc performs.tables
      rcases refines.board with same | ⟨move, _, moved⟩
      · rw [same]
        exact Or.inl rfl
      · exact Board.tables_of_step (Board.boardStep_of_move moved)
    · apply performs_snoc performs.parseQueue
      rcases refines.board with same | ⟨move, _, moved⟩
      · rw [same]
        exact Or.inl rfl
      · exact Board.parseQueue_of_step (Board.boardStep_of_move moved)
    · apply performs_snoc performs.replyQueue
      rcases refines.delivery with same | ⟨move, moved⟩
      · rw [same]
        exact Or.inl rfl
      · exact Delivery.replyQueue_of_step (Delivery.deliveryStep_of_move moved)

end Sawang

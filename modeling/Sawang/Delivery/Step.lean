import Sawang.Delivery

/-!
# What one move of the delivery can do

One constructor for each branch of the subscribe thread and for each move of the
other parties.
-/

namespace Sawang

open Delivery

inductive DeliveryStep : Delivery → Delivery.Move → Delivery → Prop
  | append {delivery : Delivery} {reply : ReplyQueueTask} {task : QueuedReply}
      (ticket : task = { toReplyQueueTask := reply, ticket := delivery.posted.length }) :
      DeliveryStep delivery (.append reply)
        { delivery with
          replyQueue := delivery.replyQueue ++ [task]
          posted := delivery.posted ++ [task] }
  | locked {delivery : Delivery} {answerCreated : Bool}
      (position : delivery.position = .lock) :
      DeliveryStep delivery (.thread answerCreated) { delivery with position := .loop }
  | enter {delivery : Delivery} {answerCreated : Bool}
      (position : delivery.position = .loop)
      (alive : delivery.alive = true) (running : delivery.ended = false)
      (live : delivery.state ≠ .termination) :
      DeliveryStep delivery (.thread answerCreated) { delivery with position := .idle }
  | finish {delivery : Delivery} {answerCreated : Bool}
      (position : delivery.position = .loop)
      (past : delivery.alive = false ∨ delivery.ended = true ∨
        delivery.state = .termination) :
      DeliveryStep delivery (.thread answerCreated)
        { delivery with
          failedTask := []
          position := .finished
          traffic := delivery.failedTask.map .discarded ++ delivery.traffic }
  | startPass {delivery : Delivery} {answerCreated : Bool}
      (position : delivery.position = .idle) :
      DeliveryStep delivery (.thread answerCreated)
        { delivery with
          position := .pop
          state := .idle
          traffic := .wroteIdle :: .passStarted :: delivery.traffic }
  | empty {delivery : Delivery} {answerCreated : Bool}
      (position : delivery.position = .pop) (queue : delivery.replyQueue = []) :
      DeliveryStep delivery (.thread answerCreated) { delivery with position := .pushBack }
  | take {delivery : Delivery} {answerCreated : Bool} {task : QueuedReply}
      {rest : List QueuedReply}
      (position : delivery.position = .pop) (queue : delivery.replyQueue = task :: rest) :
      DeliveryStep delivery (.thread answerCreated)
        { delivery with replyQueue := rest, position := .shmLock task }
  | abandon {delivery : Delivery} {answerCreated : Bool} {task : QueuedReply}
      {ownerDead : Bool}
      (position : delivery.position = .shmLock task ∧ delivery.ownerDead = true ∨
        delivery.position = .answerWait task ∧ delivery.proxyWakeup = true ∧
          (delivery.ownerDead = true ∨ delivery.state = .termination)) :
      DeliveryStep delivery (.thread answerCreated)
        { delivery with
          ownerDead := ownerDead
          alive := false
          position := .pushBack
          traffic := .discarded task :: delivery.traffic }
  | exchange {delivery : Delivery} {task : QueuedReply}
      (position : delivery.position = .shmLock task)
      (owned : delivery.ownerDead = false) :
      DeliveryStep delivery (.thread true)
        { delivery with
          state := .answer
          proxyWakeup := false
          position := .answerWait task
          traffic := .wroteAnswer :: .attempted task :: delivery.traffic }
  | unsent {delivery : Delivery} {task : QueuedReply}
      (position : delivery.position = .shmLock task)
      (owned : delivery.ownerDead = false) :
      DeliveryStep delivery (.thread false)
        { delivery with
          failedTask := delivery.failedTask ++ [task]
          position := .idleAgain
          traffic := .failed task :: .attempted task :: delivery.traffic }
  | deliver {delivery : Delivery} {answerCreated : Bool} {task : QueuedReply}
      (position : delivery.position = .answerWait task)
      (woken : delivery.proxyWakeup = true) (done : delivery.state = .done) :
      DeliveryStep delivery (.thread answerCreated)
        { delivery with
          position := .idleAgain
          traffic := .delivered task :: delivery.traffic }
  | fail {delivery : Delivery} {answerCreated : Bool} {task : QueuedReply}
      (position : delivery.position = .answerWait task)
      (woken : delivery.proxyWakeup = true)
      (live : delivery.state ≠ .termination) (undone : delivery.state ≠ .done) :
      DeliveryStep delivery (.thread answerCreated)
        { delivery with
          failedTask := delivery.failedTask ++ [task]
          position := .idleAgain
          traffic := .failed task :: delivery.traffic }
  | reset {delivery : Delivery} {answerCreated : Bool}
      (position : delivery.position = .idleAgain) :
      DeliveryStep delivery (.thread answerCreated)
        { delivery with
          position := .pop
          state := .idle
          traffic := .wroteIdle :: delivery.traffic }
  | pushBack {delivery : Delivery} {answerCreated : Bool}
      (position : delivery.position = .pushBack) :
      DeliveryStep delivery (.thread answerCreated)
        { delivery with
          replyQueue := delivery.failedTask ++ delivery.replyQueue
          failedTask := []
          position := .park }
  | park {delivery : Delivery} {answerCreated : Bool}
      (position : delivery.position = .park) (alive : delivery.alive = true) :
      DeliveryStep delivery (.thread answerCreated)
        { delivery with subscribeWakeup := false, position := .wait }
  | leave {delivery : Delivery} {answerCreated : Bool}
      (position : delivery.position = .park) (dead : delivery.alive = false) :
      DeliveryStep delivery (.thread answerCreated) { delivery with position := .loop }
  | unpark {delivery : Delivery} {answerCreated : Bool}
      (position : delivery.position = .wait)
      (woken : delivery.subscribeWakeup = true) :
      DeliveryStep delivery (.thread answerCreated) { delivery with position := .loop }
  | awake {delivery : Delivery} (free : delivery.holdsLock = false) :
      DeliveryStep delivery .awake { delivery with subscribeWakeup := true }
  | stopSegment {delivery : Delivery} :
      DeliveryStep delivery .stopSegment
        { delivery with
          ownerDead := false
          state := .termination
          proxyWakeup := true
          traffic := .terminationStored :: delivery.traffic }
  | stopThread {delivery : Delivery} (free : delivery.holdsLock = false) :
      DeliveryStep delivery .stopThread
        { delivery with ended := true, subscribeWakeup := true }
  | dispatcher {delivery : Delivery} {state : ProxySubscribeState} {signal : Bool} :
      DeliveryStep delivery (.dispatcher state signal)
        { delivery with
          state := state, proxyWakeup := delivery.proxyWakeup || signal }
  | ownerDies {delivery : Delivery} :
      DeliveryStep delivery .ownerDies { delivery with ownerDead := true }
  | spuriousAnswer {delivery : Delivery} :
      DeliveryStep delivery .spuriousAnswer { delivery with proxyWakeup := true }
  | spuriousWait {delivery : Delivery} :
      DeliveryStep delivery .spuriousWait { delivery with subscribeWakeup := true }

namespace Delivery

private theorem thread_deliveryStep
    {delivery after : Delivery} {answerCreated : Bool}
    (moved : delivery.thread answerCreated = some after) :
    DeliveryStep delivery (.thread answerCreated) after := by
  unfold thread at moved
  split at moved
  · rename_i position
    cases moved
    exact .locked position
  · rename_i position
    split at moved
    · rename_i running
      obtain ⟨alive, notEnded, live⟩ := running
      cases moved
      exact .enter position alive (Bool.eq_false_iff.mpr notEnded) live
    · rename_i past
      cases moved
      refine .finish position ?_
      cases alive : delivery.alive with
      | false => exact Or.inl rfl
      | true =>
          cases ended : delivery.ended with
          | true => exact Or.inr (Or.inl rfl)
          | false =>
              apply Or.inr ∘ Or.inr
              by_contra live
              exact past ⟨alive, by simp [ended], live⟩
  · rename_i position
    cases moved
    exact .startPass position
  · rename_i position
    split at moved
    · rename_i queue
      cases moved
      exact .empty position queue
    · rename_i task rest queue
      cases moved
      exact .take position queue
  · rename_i task position
    split at moved
    · rename_i ownerDead
      cases moved
      exact .abandon (Or.inl ⟨position, ownerDead⟩)
    · rename_i owned
      have alive : delivery.ownerDead = false := Bool.eq_false_iff.mpr owned
      split at moved
      · rename_i created
        subst created
        cases moved
        exact .exchange position alive
      · rename_i missing
        have uncreated : answerCreated = false := Bool.eq_false_iff.mpr missing
        subst uncreated
        cases moved
        exact .unsent position alive
  · rename_i task position
    split at moved
    · rename_i woken
      split at moved
      · rename_i ownerDead
        cases moved
        exact .abandon (Or.inr ⟨position, woken, Or.inl ownerDead⟩)
      · split at moved
        · rename_i terminated
          cases moved
          exact .abandon (Or.inr ⟨position, woken, Or.inr terminated⟩)
        · rename_i live
          cases moved
          by_cases done : delivery.state = .done
          · simp only [settle, done, beq_self_eq_true, if_true]
            have step : DeliveryStep delivery (.thread answerCreated) _ :=
              .deliver position woken done
            rw [done] at step
            exact step
          · have undone : (delivery.state == ProxySubscribeState.done) = false :=
              beq_eq_false_iff_ne.mpr done
            simp only [settle, undone]
            exact .fail position woken live done
    · cases moved
  · rename_i position
    cases moved
    exact .reset position
  · rename_i position
    cases moved
    exact .pushBack position
  · rename_i position
    split at moved
    · rename_i alive
      cases moved
      exact .park position alive
    · rename_i dead
      cases moved
      exact .leave position (Bool.eq_false_iff.mpr dead)
  · rename_i position
    split at moved
    · rename_i woken
      cases moved
      exact .unpark position woken
    · cases moved
  · cases moved

theorem deliveryStep_of_move
    {delivery after : Delivery} {action : Move}
    (moved : delivery.move action = some after) :
    DeliveryStep delivery action after := by
  cases action with
  | append reply =>
      cases moved
      exact .append rfl
  | thread answerCreated => exact thread_deliveryStep moved
  | awake =>
      simp only [move] at moved
      split at moved
      · cases moved
      · rename_i free
        cases moved
        exact .awake (Bool.eq_false_iff.mpr free)
  | stopSegment =>
      cases moved
      exact .stopSegment
  | stopThread =>
      simp only [move] at moved
      split at moved
      · cases moved
      · rename_i free
        cases moved
        exact .stopThread (Bool.eq_false_iff.mpr free)
  | dispatcher state signal =>
      cases moved
      exact .dispatcher
  | ownerDies =>
      cases moved
      exact .ownerDies
  | spuriousAnswer =>
      cases moved
      exact .spuriousAnswer
  | spuriousWait =>
      cases moved
      exact .spuriousWait

end Delivery

end Sawang

import Sawang.Proxy.Blocked

/-!
# Shutting down after the dispatcher has died

The main thread asks each thread to stop and then joins them.  The requests are
made in an order that works as long as no thread waits for the dispatcher: a
reply being exchanged keeps `proxy_subscribe_lock`, the channel thread keeps the
lock of its segment while it wakes the others, and the main thread needs the two
locks one after the other.
-/

namespace Sawang

open ProxyState

/-- How many of its waits and stops the main thread has behind it. -/
def MainPosition.stage : MainPosition → Nat
  | .running => 0
  | .stopChannel => 1
  | .stopSubscribe => 2
  | .endSubscribe => 3
  | .stopComm => 4
  | .joinChannel => 5
  | .joinSubscribe => 6
  | .joinComm => 7
  | .finished => 8

theorem MainPosition.stage_injective {first second : MainPosition}
    (same : first.stage = second.stage) : first = second := by
  cases first <;> cases second <;> first | rfl | cases same

namespace ProxyState

/-- Every thread of the proxy has ended. -/
def Finished (state : ProxyState) : Prop :=
  state.main = .finished ∧ state.channel.position = .finished ∧
    state.delivery.position = .finished ∧ state.comm.position = .finished

/-- The dispatcher is dead, the main thread is stopping the others, and of the
threads that have not ended none can go on. -/
structure Deadlocked (env : Environment) (state : ProxyState) : Prop where
  gonggoDead : state.gonggoDead = true
  stopping : state.main ≠ .running
  running : state.board.crashed = false
  unfinished : ¬state.Finished
  stuck : state.Stuck env

/-! ## Waiting for a dead dispatcher -/

/-- The main thread cannot end an exchange of the subscribe thread: it has asked for
the end already, or it cannot yet because the channel thread keeps the lock of its
segment. -/
def holdsUp (state : ProxyState) : Bool :=
  decide (3 ≤ state.main.stage) ||
    (!state.channel.ended && state.board.awakes state.board.job)

/-- The stopped channel thread waits for the dispatcher's reaction. -/
def ChannelNeedsGonggo (state : ProxyState) : Prop :=
  state.channel.ended = true ∧ state.channel.unanswered = true

/-- The subscribe thread waits for an answer that the main thread cannot replace. -/
def SubscribeNeedsGonggo (state : ProxyState) : Prop :=
  state.delivery.unanswered = true ∧ state.holdsUp = true

/-- Only the dispatcher can help. -/
def NeedsGonggo (state : ProxyState) : Prop :=
  state.ChannelNeedsGonggo ∨ state.SubscribeNeedsGonggo

instance (state : ProxyState) : Decidable state.NeedsGonggo :=
  inferInstanceAs (Decidable ((_ ∧ _) ∨ (_ ∧ _)))

/-- The channel thread waits for a request. -/
def idles (state : ProxyState) : Bool :=
  match state.channel.position with
  | .idleWait => true
  | _ => false

/-- The channel thread has returned. -/
def returned (state : ProxyState) : Bool :=
  match state.channel.position with
  | .finished => true
  | _ => false

/-- The subscribe thread is about to hand a reply to the dispatcher. -/
def handsOver (state : ProxyState) : Bool :=
  match state.delivery.position with
  | .shmLock _ => !state.delivery.ownerDead
  | _ => false

/-- The channel thread stands before the lock of the comm thread. -/
def wantsComm (state : ProxyState) : Bool :=
  match state.board.job with
  | .commAwake :: _ => true
  | _ => false

/-- The stopped channel thread finds a request. -/
def LateRequest (state : ProxyState) : Prop :=
  state.channel.ended = true ∧ state.idles = true ∧
    (state.channel.state = .request ∨ state.channel.state = .rest)

/-- A thread comes to need the dispatcher. -/
def ComesToNeed (state : ProxyState) : Action → Prop
  | .channel _ => state.LateRequest ∨
      (state.channel.ended = false ∧ state.delivery.unanswered = true ∧
        state.board.awakes state.board.job.tail = true)
  | .reply index => state.channel.ended = false ∧ state.delivery.unanswered = true ∧
      state.wantsComm = true ∧ state.board.awaited = some index ∧
      ∃ call ∈ state.board.calls[index]?, call.Appends
  | .subscribe answerCreated =>
      answerCreated = true ∧ state.handsOver = true ∧ state.holdsUp = true
  | _ => False

instance (state : ProxyState) : (action : Action) → Decidable (state.ComesToNeed action)
  | .channel _ => inferInstanceAs (Decidable ((_ ∧ _ ∧ (_ ∨ _)) ∨ (_ ∧ _ ∧ _)))
  | .reply index => inferInstanceAs (Decidable (_ ∧ _ ∧ _ ∧ _ ∧
      ∃ call ∈ state.board.calls[index]?, call.Appends))
  | .subscribe _ => inferInstanceAs (Decidable (_ ∧ _ ∧ _))
  | .comm _ | .proxyReply .. | .main | .sigterm | .request .. | .rest ..
  | .channelState .. | .sees | .subscribeState .. | .dies | .diesHoldingChannel
  | .diesHoldingSubscribe | .spuriousChannel | .spuriousAnswer | .spuriousSubscribe
  | .spuriousComm => inferInstanceAs (Decidable False)

def kills : Action → Bool
  | .dies | .diesHoldingChannel | .diesHoldingSubscribe => true
  | _ => false

/-- No thread comes to need a dead dispatcher, and the dispatcher does not die while
one needs it. -/
def AvoidsGonggo (state : ProxyState) (action : Action) : Prop :=
  (state.gonggoDead = true → ¬state.ComesToNeed action) ∧
    (kills action = true → ¬state.NeedsGonggo)

instance (state : ProxyState) (action : Action) : Decidable (state.AvoidsGonggo action) :=
  inferInstanceAs (Decidable (_ ∧ _))

/-- The dispatcher dies holding no lock. -/
def DiesFree (_ : ProxyState) : Action → Prop
  | .diesHoldingChannel | .diesHoldingSubscribe => False
  | _ => True

instance (state : ProxyState) : (action : Action) → Decidable (state.DiesFree action)
  | .diesHoldingChannel | .diesHoldingSubscribe => inferInstanceAs (Decidable False)
  | .channel _ | .comm _ | .reply _ | .proxyReply .. | .subscribe _ | .main | .sigterm
  | .request .. | .rest .. | .channelState .. | .sees | .subscribeState .. | .dies
  | .spuriousChannel | .spuriousAnswer | .spuriousSubscribe | .spuriousComm =>
      inferInstanceAs (Decidable True)

end ProxyState

/-! ## What the comm thread waits for -/

/-- Behind a statement of the comm thread never stands a wait for a call. -/
private theorem awaitedBy_rest {env : Environment} {op : CommOp} {rest : List CommOp}
    (stage : CommStage env (op :: rest)) : Board.awaitedBy rest = none := by
  cases stage <;> rfl

private theorem awaitedBy_taskWork {env : Environment} {task : ParseQueueTask}
    (sound : TaskSound env task) : Board.awaitedBy (Board.taskWork task) = none := by
  rcases sound with ⟨normal, _⟩ | ⟨single, taskKey, uuid, named, dropped⟩
  · rw [taskWork_normal normal]
    rfl
  · rw [taskWork_unsubscribe single named dropped]
    rfl

/-- The comm thread begins to wait for a call only when it makes the call. -/
theorem awaited_step {env : Environment} {before after : Board} {action : Board.Move}
    (tasks : TasksSound env before) (step : BoardStep env before action after)
    {index : Nat} (awaits : after.awaited = some index) :
    before.awaited = some index ∨ ∃ call, after.calls = before.calls ++ [call] ∧
      index = before.calls.length ∧ call.position = .lookupSingleshot := by
  have behind : ∀ {op : CommOp} {rest : List CommOp}, before.work = op :: rest →
      Board.awaitedBy rest ≠ some index := by
    intro op rest next awaits
    have stage := tasks.work
    rw [next] at stage
    rw [awaitedBy_rest stage] at awaits
    cases awaits
  unfold Board.awaited at awaits
  cases step with
  | dequeue free head =>
      have sound := tasks.queue _ (head ▸ List.mem_cons_self)
      change Board.awaitedBy (Board.taskWork _) = some index at awaits
      rw [awaitedBy_taskWork sound] at awaits
      cases awaits
  | dropAbsent next drops absent => exact absurd awaits (behind next)
  | dropLast next drops present last clears => cases awaits
  | dropQuiet next drops present quiet => exact absurd awaits (behind next)
  | clear next built => cases awaits
  | confirmCall next built =>
      cases awaits
      exact Or.inr ⟨_, rfl, rfl, rfl⟩
  | awaited next there finished => exact absurd awaits (behind next)
  | run next built normal => cases awaits
  | runDrop next built drop =>
      have stage := tasks.work
      rw [next] at stage
      cases stage with
      | running normal key => exact absurd drop (key.service _ built)
  | callbackReturn next => exact absurd awaits (behind next)
  | callbackReply next =>
      cases awaits
      exact Or.inr ⟨_, rfl, rfl, rfl⟩
  | requestUnknown next => exact absurd awaits (behind next)
  | requestFound next resolved => cases awaits
  | _ => exact Or.inl awaits

/-- The call the comm thread waits for comes to stand before
`proxy_subscribe_lock` by appending its reply. -/
theorem awaitsAwake_step {env : Environment} {before after : Board}
    {action : Board.Move} (tasks : TasksSound env before)
    (step : BoardStep env before action after) (awakes : after.awaitsAwake = true) :
    before.awaitsAwake = true ∨ ∃ index call, action = .reply index ∧
      before.awaited = some index ∧ before.calls[index]? = some call ∧ call.Appends := by
  obtain ⟨index, call, awaits, there, awake⟩ := Board.awaitsAwake_iff.mp awakes
  rcases awaited_step tasks step awaits with awaited | ⟨new, calls, last, lookup⟩
  · have same : before.calls[index]? = some call → before.awaitsAwake = true :=
      fun old => Board.awaitsAwake_iff.mpr ⟨index, call, awaited, old, awake⟩
    have pushed : ∀ {new : ReplyCall}, new.position ≠ .awake →
        (before.calls ++ [new])[index]? = some call → before.awaitsAwake = true := by
      intro new elsewhere found
      by_cases inside : index < before.calls.length
      · rw [List.getElem?_append_left inside] at found
        exact same found
      · rw [List.getElem?_append_right (by omega)] at found
        have member := List.mem_of_getElem? found
        rw [List.mem_singleton.mp member] at awake
        exact absurd awake elsewhere
    have replaced : ∀ {other : Nat} {moved : ReplyCall}, moved.position ≠ .awake →
        (before.calls.set other moved)[index]? = some call →
        before.awaitsAwake = true := by
      intro other moved elsewhere found
      by_cases own : other = index
      · subst own
        have member := List.mem_of_getElem? found
        have inside : other < before.calls.length := by
          have bound := (List.getElem?_eq_some_iff.mp found).1
          simpa using bound
        rw [List.getElem?_set_self inside] at found
        cases found
        exact absurd awake elsewhere
      · rw [List.getElem?_set_ne own] at found
        exact same found
    have fresh : ∀ (arg : ProxyReplyArg) (headers payload : Option Json)
        (confirms : Option ParseQueueTask),
        (replyCall env arg headers payload confirms).position ≠ .awake := by
      intro arg headers payload confirms
      simp [replyCall]
    cases step with
    | confirmCall next built => exact Or.inl (pushed (fresh _ _ _ _) there)
    | callbackReply next => exact Or.inl (pushed (fresh _ _ _ _) there)
    | proxyReply => exact Or.inl (pushed (fresh _ _ _ _) there)
    | foundSingleshot own position present =>
        exact Or.inl (replaced (ReplyCall.found_position _ _ _) there)
    | foundMultirespond own position present =>
        exact Or.inl (replaced (ReplyCall.found_position _ _ _) there)
    | advance own passes =>
        refine Or.inl (replaced ?_ there)
        rcases passes with ⟨_, rfl, _⟩ | ⟨_, rfl, _⟩ | ⟨_, _, rfl⟩ | ⟨_, rfl⟩ <;>
          simp [ReplyCall.moveTo]
    | dropRecipient own position =>
        exact Or.inl (replaced (by simp [ReplyCall.moveTo]) there)
    | @append other own collected at_ position =>
        by_cases moves : other = index
        · subst moves
          refine Or.inr ⟨other, own, rfl, awaited, at_, ?_⟩
          unfold ReplyCall.Appends
          rw [position]
          trivial
        · change (before.calls.set other _)[index]? = some call at there
          rw [List.getElem?_set_ne moves] at there
          exact Or.inl (same there)
    | _ => exact Or.inl (same there)
  · rw [calls, last, List.getElem?_concat_length] at there
    cases there
    rw [lookup] at awake
    cases awake

/-! ## What has been stopped stays stopped -/

namespace Delivery

/-- The subscribe thread will find `proxy_subscribe_end`. -/
def Stopped (delivery : Delivery) : Prop :=
  delivery.ended = true ∧
    (delivery.position = .lock ∨ delivery.position = .loop ∨
      delivery.position = .finished ∨
      (delivery.position = .wait ∧ delivery.subscribeWakeup = true))

theorem stopped_of_stopThread {before after : Delivery}
    (step : DeliveryStep before .stopThread after) : after.Stopped := by
  cases step with
  | stopThread free =>
      refine ⟨rfl, ?_⟩
      unfold holdsLock at free
      split at free
      · rename_i position
        exact Or.inl position
      · rename_i position
        exact Or.inr (Or.inr (Or.inr ⟨position, rfl⟩))
      · rename_i position
        exact Or.inr (Or.inr (Or.inl position))
      · cases free

theorem Stopped.woken {delivery : Delivery} (stopped : delivery.Stopped) :
    Stopped { delivery with subscribeWakeup := true } := by
  obtain ⟨ended, place⟩ := stopped
  exact ⟨ended, place.imp_right (Or.imp_right (Or.imp_right (And.imp_right fun _ => rfl)))⟩

theorem Stopped.step {before after : Delivery} {action : Delivery.Move}
    (stopped : before.Stopped) (step : DeliveryStep before action after) :
    after.Stopped := by
  have woken := stopped.woken
  obtain ⟨ended, place⟩ := stopped
  have inside : before.holdsLock = true → before.position = .loop := by
    intro holds
    rcases place with position | position | position | ⟨position, _⟩
    · simp [holdsLock, position] at holds
    · exact position
    · simp [holdsLock, position] at holds
    · simp [holdsLock, position] at holds
  have elsewhere : ∀ {here : SubscribePosition}, before.position = here →
      before.holdsLock = true → here = .loop := by
    intro here position holds
    rw [← position]
    exact inside holds
  cases step with
  | locked position => exact ⟨ended, Or.inr (Or.inl rfl)⟩
  | enter position alive running live =>
      rw [ended] at running
      cases running
  | finish position past => exact ⟨ended, Or.inr (Or.inr (Or.inl rfl))⟩
  | unpark position woken => exact ⟨ended, Or.inr (Or.inl rfl)⟩
  | abandon position =>
      rcases position with ⟨position, _⟩ | ⟨position, _⟩
      · cases elsewhere position (by simp [holdsLock, position])
      · cases elsewhere position (by simp [holdsLock, position])
  | startPass position | empty position | take position | exchange position
  | unsent position | deliver position | fail position | reset position
  | pushBack position | park position | leave position =>
      cases elsewhere position (by simp [holdsLock, position])
  | awake free => exact woken
  | stopThread free => exact ⟨rfl, woken.2⟩
  | spuriousWait => exact woken
  | _ => exact ⟨ended, place⟩

theorem finished_step {before after : Delivery} {action : Delivery.Move}
    (finished : before.position = .finished) (step : DeliveryStep before action after) :
    after.position = .finished := by
  cases step with
  | abandon position =>
      rcases position with ⟨position, _⟩ | ⟨position, _⟩ <;>
        rw [finished] at position <;> cases position
  | finish position past => rfl
  | append ticket => exact finished
  | awake free => exact finished
  | stopSegment => exact finished
  | stopThread free => exact finished
  | dispatcher => exact finished
  | ownerDies => exact finished
  | spuriousAnswer => exact finished
  | spuriousWait => exact finished
  | locked position | enter position | startPass position | empty position | take position
  | exchange position | unsent position | deliver position | fail position | reset position
  | pushBack position | park position | leave position | unpark position =>
      rw [finished] at position
      cases position

end Delivery

/-- The comm thread will find `proxy_comm_end`. -/
def Comm.Stopped (comm : Comm) : Prop :=
  comm.ended = true ∧
    (comm.position = .lock ∨ comm.position = .loop ∨ comm.position = .finished ∨
      (comm.position = .wait ∧ comm.wakeup = true))

theorem Comm.Stopped.woken {comm : Comm} (stopped : comm.Stopped) :
    Comm.Stopped { comm with wakeup := true } := by
  obtain ⟨ended, place⟩ := stopped
  exact ⟨ended, place.imp_right (Or.imp_right (Or.imp_right (And.imp_right fun _ => rfl)))⟩

theorem Comm.stopped_of_stop {comm : Comm} (free : comm.holdsLock = false) :
    Comm.Stopped { comm with ended := true, wakeup := true } := by
  refine ⟨rfl, ?_⟩
  change comm.position = .lock ∨ comm.position = .loop ∨ comm.position = .finished ∨
    (comm.position = .wait ∧ true = true)
  cases position : comm.position with
  | lock => exact Or.inl rfl
  | wait => exact Or.inr (Or.inr (Or.inr ⟨rfl, rfl⟩))
  | finished => exact Or.inr (Or.inr (Or.inl rfl))
  | loop => simp [holdsLock, position] at free
  | drain => simp [holdsLock, position] at free

/-- What the main thread has behind it where it comes to a position. -/
def ProxyState.Entered (state : ProxyState) : MainPosition → Prop
  | .stopComm => state.delivery.Stopped
  | .joinChannel => state.comm.Stopped
  | .joinSubscribe => state.channel.position = .finished
  | .joinComm => state.delivery.position = .finished
  | .finished => state.comm.position = .finished
  | _ => True

/-- How far the other threads are when the main thread has passed a stage. -/
structure Sequenced (state : ProxyState) : Prop where
  ended : state.channel.ended = true ↔ 2 ≤ state.main.stage
  woken : state.channel.ended = true → state.channel.position = .idleWait →
    state.channel.wakeup = true
  subscribeStops : 4 ≤ state.main.stage → state.delivery.Stopped
  commStops : 5 ≤ state.main.stage → state.comm.Stopped
  channelJoined : 6 ≤ state.main.stage → state.channel.position = .finished
  subscribeJoined : 7 ≤ state.main.stage → state.delivery.position = .finished
  commJoined : 8 ≤ state.main.stage → state.comm.position = .finished

namespace Sequenced

variable {env : Environment} {before after : ProxyState}

theorem initial : Sequenced ProxyState.initial where
  ended := by simp [ProxyState.initial, MainPosition.stage]
  woken := by
    intro ended
    cases ended
  subscribeStops := by simp [ProxyState.initial, MainPosition.stage]
  commStops := by simp [ProxyState.initial, MainPosition.stage]
  channelJoined := by simp [ProxyState.initial, MainPosition.stage]
  subscribeJoined := by simp [ProxyState.initial, MainPosition.stage]
  commJoined := by simp [ProxyState.initial, MainPosition.stage]

/-- A step of the channel thread to another position. -/
private theorem channel (kept : Sequenced before) {next : Channel} {board : Board}
    {proxyExit : Bool} (active : before.channel.position ≠ .finished)
    (ended : next.ended = before.channel.ended)
    (elsewhere : next.position = .idleWait → next.ended = false) :
    Sequenced { before with board := board, channel := next, proxyExit := proxyExit } where
  ended := by
    rw [ended]
    exact kept.ended
  woken := by
    intro past position
    have running := elsewhere position
    change next.ended = true at past
    rw [running] at past
    cases past
  subscribeStops := kept.subscribeStops
  commStops := kept.commStops
  channelJoined := by
    intro stage
    exact absurd (kept.channelJoined stage) active
  subscribeJoined := kept.subscribeJoined
  commJoined := kept.commJoined

/-- A change of the comm thread or of what it will find. -/
private theorem comm (kept : Sequenced before) {next : Comm}
    (finished : before.comm.position = .finished → next.position = .finished)
    (stopped : before.comm.Stopped → next.Stopped) :
    Sequenced { before with comm := next } where
  ended := kept.ended
  woken := kept.woken
  subscribeStops := kept.subscribeStops
  commStops := fun stage => stopped (kept.commStops stage)
  channelJoined := kept.channelJoined
  subscribeJoined := kept.subscribeJoined
  commJoined := fun stage => finished (kept.commJoined stage)

private theorem deliver (kept : Sequenced before) {next : Delivery} {move : Delivery.Move}
    (step : DeliveryStep before.delivery move next) (gonggoDead : Bool) :
    Sequenced { before with delivery := next, gonggoDead := gonggoDead } where
  ended := kept.ended
  woken := kept.woken
  subscribeStops := fun stage => (kept.subscribeStops stage).step step
  commStops := kept.commStops
  channelJoined := kept.channelJoined
  subscribeJoined := fun stage => Delivery.finished_step (kept.subscribeJoined stage) step
  commJoined := kept.commJoined

private theorem board (kept : Sequenced before) (next : Board) :
    Sequenced { before with board := next } :=
  ⟨kept.1, kept.2, kept.3, kept.4, kept.5, kept.6, kept.7⟩

private theorem perform (kept : Sequenced before) {move : Board.Move}
    (performed : before.perform env move = some after) : Sequenced after := by
  obtain ⟨next, moved, changed⟩ := performed_of_perform performed
  cases changed with
  | quiet effect => exact kept.board next
  | appends effect => exact (kept.deliver (.append rfl) before.gonggoDead).board next
  | awakesSubscribe effect free => exact (kept.deliver (.awake free) before.gonggoDead).board next
  | awakesComm effect free =>
      have woken : Sequenced { before with comm := { before.comm with wakeup := true } } :=
        kept.comm id Comm.Stopped.woken
      exact woken.board next

/-- A write to the channel segment that may signal. -/
private theorem write (kept : Sequenced before) {next : Channel} (gonggoDead : Bool)
    (position : next.position = before.channel.position)
    (ended : next.ended = before.channel.ended)
    (wakeup : before.channel.wakeup = true → next.wakeup = true) :
    Sequenced { before with channel := next, gonggoDead := gonggoDead } where
  ended := by
    rw [ended]
    exact kept.ended
  woken := by
    intro past idle
    rw [ended] at past
    rw [position] at idle
    exact wakeup (kept.woken past idle)
  subscribeStops := kept.subscribeStops
  commStops := kept.commStops
  channelJoined := fun stage => position.trans (kept.channelJoined stage)
  subscribeJoined := kept.subscribeJoined
  commJoined := kept.commJoined

private theorem advance (kept : Sequenced before) {next : MainPosition}
    (follows : next.stage = before.main.stage + 1) (opened : next ≠ .stopSubscribe)
    (entered : before.Entered next) : Sequenced { before with main := next } := by
  have settled : ∀ position : MainPosition, position.stage ≤ next.stage →
      position.stage ≤ before.main.stage ∨ position = next := by
    intro position passed
    rcases Nat.lt_or_ge before.main.stage position.stage with later | earlier
    · exact Or.inr (MainPosition.stage_injective (by omega))
    · exact Or.inl earlier
  exact {
    ended := by
      rw [kept.ended]
      constructor
      · intro passed
        change 2 ≤ next.stage
        omega
      · intro passed
        exact (settled .stopSubscribe passed).resolve_right opened.symm
    woken := kept.woken
    subscribeStops := by
      intro passed
      rcases settled .stopComm passed with earlier | rfl
      · exact kept.subscribeStops earlier
      · exact entered
    commStops := by
      intro passed
      rcases settled .joinChannel passed with earlier | rfl
      · exact kept.commStops earlier
      · exact entered
    channelJoined := by
      intro passed
      rcases settled .joinSubscribe passed with earlier | rfl
      · exact kept.channelJoined earlier
      · exact entered
    subscribeJoined := by
      intro passed
      rcases settled .joinComm passed with earlier | rfl
      · exact kept.subscribeJoined earlier
      · exact entered
    commJoined := by
      intro passed
      rcases settled .finished passed with earlier | rfl
      · exact kept.commJoined earlier
      · exact entered }

theorem step {action : Action} (kept : Sequenced before)
    (next : ProxyStep env before action after) : Sequenced after := by
  cases next with
  | perform chosen unconfirmed busy performed => exact kept.perform performed
  | deliver chosen moved =>
      exact kept.deliver (Delivery.deliveryStep_of_move moved) before.gonggoDead
  | channelEnd position ended => exact kept.channel (by simp [position]) rfl (by simp)
  | channelIdle position running =>
      exact kept.channel (by simp [position]) rfl fun _ => running
  | channelFinish ownerDead woken ends =>
      exact kept.channel ends.waits.not_finished rfl (by simp)
  | channelReturn proxyExit woken returns =>
      exact kept.channel returns.waits.not_finished rfl (by simp)
  | channelAccept written exchange position woken asked fits =>
      exact kept.channel (by simp [position]) rfl (by simp [Channel.accept, Channel.answer])
  | channelRest position woken asked =>
      exact kept.channel (by simp [position]) rfl (by simp [Channel.answer])
  | confirm position woken done moved =>
      exact kept.channel (by simp [position]) rfl (by simp)
  | jobDone position empty => exact kept.channel (by simp [position]) rfl (by simp)
  | commLock position =>
      exact kept.comm (by simp [position]) fun stopped => ⟨stopped.1, Or.inr (Or.inl rfl)⟩
  | commEnd position ended =>
      exact kept.comm (by simp [position]) fun stopped =>
        ⟨stopped.1, Or.inr (Or.inr (Or.inl rfl))⟩
  | commDrain position running =>
      refine kept.comm (by simp [position]) fun stopped => ?_
      have past := stopped.1
      rw [running] at past
      cases past
  | commWait position free empty =>
      refine kept.comm (by simp [position]) fun stopped => ?_
      have place := stopped.2
      simp [position] at place
  | commWake position woken =>
      exact kept.comm (by simp [position]) fun stopped => ⟨stopped.1, Or.inr (Or.inl rfl)⟩
  | request written rid signal asks free alive =>
      exact kept.write before.gonggoDead rfl rfl (by simp +contextual [signalChannel, writeRequest])
  | write plain free alive =>
      exact kept.write before.gonggoDead rfl rfl (by simp +contextual [signalChannel, writeState])
  | sees acknowledged free alive =>
      exact kept.write before.gonggoDead rfl rfl (by simp [signalChannel, see])
  | dies alive => exact kept.write true rfl rfl id
  | diesHoldingChannel free alive =>
      exact kept.write true rfl rfl (by simp [signalChannel])
  | diesHoldingSubscribe alive moved =>
      exact kept.deliver (Delivery.deliveryStep_of_move moved) true
  | sigterm => exact ⟨kept.1, kept.2, kept.3, kept.4, kept.5, kept.6, kept.7⟩
  | spuriousChannel => exact kept.write before.gonggoDead rfl rfl (by simp [signalChannel])
  | spuriousComm => exact kept.comm id Comm.Stopped.woken
  | stopping position =>
      exact kept.advance (by simp [position, MainPosition.stage]) nofun trivial
  | stopChannel position free =>
      exact {
        ended := by simp [MainPosition.stage]
        woken := fun _ _ => rfl
        subscribeStops := by simp [MainPosition.stage]
        commStops := by simp [MainPosition.stage]
        channelJoined := by simp [MainPosition.stage]
        subscribeJoined := by simp [MainPosition.stage]
        commJoined := by simp [MainPosition.stage] }
  | stopSubscribe position moved =>
      have delivered := kept.deliver (Delivery.deliveryStep_of_move moved) before.gonggoDead
      exact delivered.advance (by simp [position, MainPosition.stage]) nofun trivial
  | endSubscribe position moved =>
      have stop := Delivery.deliveryStep_of_move moved
      have delivered := kept.deliver stop before.gonggoDead
      exact delivered.advance (by simp [position, MainPosition.stage]) nofun
        (Delivery.stopped_of_stopThread stop)
  | stopComm position free =>
      have stops : Comm.Stopped { before.comm with ended := true, wakeup := true } :=
        Comm.stopped_of_stop free
      have asked : Sequenced
          { before with comm := { before.comm with ended := true, wakeup := true } } :=
        kept.comm id fun _ => stops
      exact asked.advance (by simp [position, MainPosition.stage]) nofun stops
  | joinChannel position finished =>
      exact kept.advance (by simp [position, MainPosition.stage]) nofun finished
  | joinSubscribe position finished =>
      exact kept.advance (by simp [position, MainPosition.stage]) nofun finished
  | joinComm position finished =>
      exact kept.advance (by simp [position, MainPosition.stage]) nofun finished

end Sequenced

/-! ## How a thread comes to need the dispatcher -/

/-- The channel thread comes to stand before `proxy_subscribe_lock`, itself or through
a call of the comm thread. -/
theorem awakes_step {env : Environment} {before after : Board} {action : Board.Move}
    (tasks : TasksSound env before) (step : BoardStep env before action after)
    (awakes : after.awakes after.job = true) :
    before.awakes before.job = true ∨
      (action = .channel ∧ before.awakes before.job.tail = true) ∨
      ∃ index call rest, action = .reply index ∧ before.job = .commAwake :: rest ∧
        before.awaited = some index ∧ before.calls[index]? = some call ∧ call.Appends := by
  have popped : ∀ {op : ChannelOp} {rest : List ChannelOp}, before.job = op :: rest →
      action = .channel → before.awakes rest = true →
      action = .channel ∧ before.awakes before.job.tail = true := by
    intro op rest next channel standing
    rw [next]
    exact ⟨channel, standing⟩
  have elsewhere : after.job = before.job →
      before.awakes before.job = true ∨
        ∃ index call rest, action = .reply index ∧ before.job = .commAwake :: rest ∧
          before.awaited = some index ∧ before.calls[index]? = some call ∧
          call.Appends := by
    intro same
    rw [same] at awakes
    unfold Board.awakes at awakes ⊢
    split at awakes
    · exact Or.inl rfl
    · rename_i rest next
      rcases awaitsAwake_step tasks step awakes with stood | ⟨index, call, moves⟩
      · exact Or.inl stood
      · obtain ⟨moved, awaits, there, appends⟩ := moves
        exact Or.inr ⟨index, call, rest, moved, next, awaits, there, appends⟩
    · cases awakes
  cases action with
  | channel =>
      refine Or.inr (Or.inl ?_)
      cases step with
      | reject next => exact popped next rfl awakes
      | channelAwake next both => exact popped next rfl awakes
      | subscribedBefore next old => exact popped next rfl awakes
      | registeredUnsubscribe next => exact popped next rfl awakes
      | enqueue next => exact popped next rfl awakes
      | refuse next refused => cases awakes
      | accept next resolved => cases awakes
      | subscribed next new => cases awakes
      | registered next => cases awakes
      | crash may => cases may
  | confirm exchange rid =>
      cases step with
      | confirm idle =>
          change Board.awakes _ (Board.exchangeJob env exchange rid) = true at awakes
          unfold Board.exchangeJob at awakes
          split at awakes
          · cases awakes
          · split at awakes <;> cases awakes
      | crash may => cases may
  | _ => exact (elsewhere (job_step step (by simp) (by simp))).imp_right Or.inr

theorem Channel.holdsLock_of_unanswered {channel : Channel}
    (unanswered : channel.unanswered = true) : channel.holdsLock = false := by
  unfold Channel.unanswered at unanswered
  split at unanswered
  · rename_i position
    simp [holdsLock, position]
  · rename_i position
    simp [holdsLock, position]
  · cases unanswered

/-- A signal does not begin a wait. -/
theorem Channel.unanswered_signal {channel : Channel} {signal : Bool}
    (unanswered : (signalChannel signal channel).unanswered = true) :
    channel.unanswered = true := by
  cases position : channel.position <;>
    simp_all [Channel.unanswered, signalChannel]

theorem Delivery.unanswered_signalled {delivery : Delivery}
    (unanswered : delivery.unanswered = true) : delivery.proxyWakeup = false := by
  unfold Delivery.unanswered at unanswered
  split at unanswered
  · simpa using unanswered
  · cases unanswered

/-- The subscribe thread waits for an answer from the moment it hands over a reply. -/
theorem Delivery.unanswered_step {before after : Delivery} {action : Delivery.Move}
    (step : DeliveryStep before action after) (unanswered : after.unanswered = true) :
    before.unanswered = true ∨ (action = .thread true ∧
      ∃ task, before.position = .shmLock task ∧ before.ownerDead = false) := by
  cases step with
  | exchange position owned => exact Or.inr ⟨rfl, _, position, owned⟩
  | append ticket => exact Or.inl unanswered
  | awake free => exact Or.inl unanswered
  | stopThread free => exact Or.inl unanswered
  | ownerDies => exact Or.inl unanswered
  | spuriousWait => exact Or.inl unanswered
  | stopSegment => cases unanswered_signalled unanswered
  | spuriousAnswer => cases unanswered_signalled unanswered
  | dispatcher =>
      left
      unfold Delivery.unanswered at unanswered ⊢
      dsimp only at unanswered
      split at unanswered <;> simp_all
  | _ => cases unanswered

namespace ProxyState

variable {env : Environment} {before after : ProxyState} {action : Action}

/-- Once the channel thread has been asked to stop, it waits for the dispatcher only
after it has found another request. -/
theorem channelNeeds_step (step : ProxyStep env before action after)
    (needs : after.ChannelNeedsGonggo) :
    before.ChannelNeedsGonggo ∨ ∃ input, action = .channel input ∧ before.LateRequest := by
  obtain ⟨ended, unanswered⟩ := needs
  cases step with
  | perform chosen unconfirmed busy performed =>
      obtain ⟨_, _, same⟩ := perform_cases performed
      rw [same] at ended unanswered
      exact Or.inl ⟨ended, unanswered⟩
  | channelEnd position past => cases unanswered
  | channelIdle position running => cases unanswered
  | channelFinish ownerDead woken ends => cases unanswered
  | channelReturn proxyExit woken returns => cases unanswered
  | confirm position woken done moved => cases unanswered
  | jobDone position empty => cases unanswered
  | channelAccept written exchange position woken asked fits =>
      exact Or.inr ⟨_, rfl, ended, by simp [idles, position], Or.inl asked⟩
  | channelRest position woken asked =>
      exact Or.inr ⟨_, rfl, ended, by simp [idles, position], Or.inr asked⟩
  | stopChannel position free =>
      refine absurd unanswered ?_
      unfold Channel.unanswered
      split <;> simp
  | request written rid signal asks free alive =>
      exact Or.inl ⟨ended, Channel.unanswered_signal unanswered⟩
  | write plain free alive => exact Or.inl ⟨ended, Channel.unanswered_signal unanswered⟩
  | sees acknowledged free alive =>
      exact Or.inl ⟨ended, Channel.unanswered_signal unanswered⟩
  | diesHoldingChannel free alive =>
      exact Or.inl ⟨ended, Channel.unanswered_signal unanswered⟩
  | spuriousChannel => exact Or.inl ⟨ended, Channel.unanswered_signal unanswered⟩
  | _ => exact Or.inl ⟨ended, unanswered⟩

/-- The main thread cannot end an exchange because it has been there, or because the
channel thread stands before `proxy_subscribe_lock`. -/
theorem holdsUp_iff {state : ProxyState} : state.holdsUp = true ↔
    3 ≤ state.main.stage ∨
      (state.channel.ended = false ∧ state.board.awakes state.board.job = true) := by
  simp [holdsUp]

private theorem subscribeNeeds_board (tasks : TasksSound env before.board)
    {move : Board.Move} {next : Board} (chosen : before.boardMove action = some move)
    (moved : before.board.move env move = some next)
    (unanswered : before.delivery.unanswered = true)
    (held : 3 ≤ before.main.stage ∨
      (before.channel.ended = false ∧ next.awakes next.job = true)) :
    before.SubscribeNeedsGonggo ∨ before.ComesToNeed action := by
  rcases held with stage | ⟨running, awakes⟩
  · exact Or.inl ⟨unanswered, holdsUp_iff.mpr (Or.inl stage)⟩
  · rcases awakes_step tasks (Board.boardStep_of_move moved) awakes with
      stood | ⟨rfl, stands⟩ | ⟨index, call, rest, rfl, job, awaits, there, appends⟩
    · exact Or.inl ⟨unanswered, holdsUp_iff.mpr (Or.inr ⟨running, stood⟩)⟩
    · right
      cases action <;> simp only [boardMove] at chosen <;> try cases chosen
      exact Or.inr ⟨running, unanswered, stands⟩
    · right
      cases action <;> simp only [boardMove] at chosen
      case reply =>
        cases chosen
        exact ⟨running, unanswered, by simp [wantsComm, job], awaits, call, there, appends⟩
      case channel => split at chosen <;> cases chosen
      all_goals cases chosen

/-- The subscribe thread comes to wait for an answer that the main thread cannot
replace in one of the ways of `ComesToNeed`. -/
theorem subscribeNeeds_step (tasks : TasksSound env before.board)
    (step : ProxyStep env before action after) (needs : after.SubscribeNeedsGonggo) :
    before.SubscribeNeedsGonggo ∨ before.ComesToNeed action := by
  obtain ⟨unanswered, holds⟩ := needs
  have held := holdsUp_iff.mp holds
  have stood : ∀ {delivery : Delivery} {move : Delivery.Move},
      DeliveryStep before.delivery move delivery → delivery.unanswered = true →
      move ≠ .thread true → before.delivery.unanswered = true := by
    intro delivery move step waits other
    rcases Delivery.unanswered_step step waits with waited | ⟨thread, _⟩
    · exact waited
    · exact absurd thread other
  have late : before.delivery.unanswered = true → 3 ≤ before.main.stage →
      before.SubscribeNeedsGonggo :=
    fun waits stage => ⟨waits, holdsUp_iff.mpr (Or.inl stage)⟩
  cases step with
  | perform chosen unconfirmed busy performed =>
      obtain ⟨next, moved, changed⟩ := performed_of_perform performed
      cases changed with
      | quiet effect => exact subscribeNeeds_board tasks chosen moved unanswered held
      | appends effect => exact subscribeNeeds_board tasks chosen moved unanswered held
      | awakesSubscribe effect free =>
          exact subscribeNeeds_board tasks chosen moved unanswered held
      | awakesComm effect free => exact subscribeNeeds_board tasks chosen moved unanswered held
  | confirm position woken done moved =>
      exact subscribeNeeds_board tasks (by simp [boardMove, position]) moved unanswered held
  | deliver chosen moved =>
      rcases Delivery.unanswered_step (Delivery.deliveryStep_of_move moved) unanswered with
        waited | ⟨rfl, task, position, owned⟩
      · exact Or.inl ⟨waited, holds⟩
      · right
        cases action <;> cases chosen
        exact ⟨rfl, by simp [handsOver, position, owned], holds⟩
  | diesHoldingSubscribe alive moved =>
      exact Or.inl ⟨stood (Delivery.deliveryStep_of_move moved) unanswered (by simp), holds⟩
  | stopping position =>
      have stands : before.channel.ended = false ∧
          before.board.awakes before.board.job = true := by
        simpa [MainPosition.stage] using held
      exact Or.inl ⟨unanswered, holdsUp_iff.mpr (Or.inr stands)⟩
  | stopChannel position free => simp [MainPosition.stage] at held
  | stopSubscribe position moved =>
      cases Delivery.deliveryStep_of_move moved with
      | stopSegment => cases Delivery.unanswered_signalled unanswered
  | endSubscribe position moved =>
      have waits := stood (Delivery.deliveryStep_of_move moved) unanswered (by simp)
      exact Or.inl (late waits (by simp [position, MainPosition.stage]))
  | stopComm position free =>
      exact Or.inl (late unanswered (by simp [position, MainPosition.stage]))
  | joinChannel position finished =>
      exact Or.inl (late unanswered (by simp [position, MainPosition.stage]))
  | joinSubscribe position finished =>
      exact Or.inl (late unanswered (by simp [position, MainPosition.stage]))
  | joinComm position finished =>
      exact Or.inl (late unanswered (by simp [position, MainPosition.stage]))
  | _ => exact Or.inl ⟨unanswered, holds⟩

/-! ## The invariant -/

/-- What holds in every state of a run in which no thread comes to need a dead
dispatcher. -/
structure Steady (env : Environment) (state : ProxyState) : Prop where
  sequenced : Sequenced state
  tasks : TasksSound env state.board
  idle : state.channel.position ≠ .job → state.board.job = []
  called : ∀ index ∈ state.board.awaited, index < state.board.calls.length
  clear : state.gonggoDead = true → ¬state.NeedsGonggo

theorem steady_initial (env : Environment) : Steady env initial where
  sequenced := .initial
  tasks := tasksSound_initial env
  idle := fun _ => rfl
  called := by
    intro index awaits
    cases awaits
  clear := by
    intro dead
    cases dead

/-- Only the channel thread works on its job, and it leaves the job when it is done. -/
theorem idle_step (idle : before.channel.position ≠ .job → before.board.job = [])
    (step : ProxyStep env before action after) :
    after.channel.position ≠ .job → after.board.job = [] := by
  intro elsewhere
  cases step with
  | perform chosen unconfirmed busy performed =>
      obtain ⟨moved, _, same⟩ := perform_cases performed
      rw [same] at elsewhere
      rw [job_step (Board.boardStep_of_move moved) unconfirmed ?_]
      · exact idle elsewhere
      · rintro rfl
        exact elsewhere (position_of_boardMove chosen)
  | confirm position woken done moved => exact absurd rfl elsewhere
  | jobDone position empty => exact empty
  | channelEnd position ended => exact idle (by simp [position])
  | channelIdle position running => exact idle (by simp [position])
  | channelFinish ownerDead woken ends => exact idle ends.waits.not_job
  | channelReturn proxyExit woken returns => exact idle returns.waits.not_job
  | channelAccept written exchange position woken asked fits =>
      exact idle (by simp [position])
  | channelRest position woken asked => exact idle (by simp [position])
  | _ => exact idle elsewhere

/-- The calls are never forgotten. -/
theorem called_step {before after : Board} {move : Board.Move}
    (tasks : TasksSound env before)
    (called : ∀ index ∈ before.awaited, index < before.calls.length)
    (step : BoardStep env before move after) :
    ∀ index ∈ after.awaited, index < after.calls.length := by
  intro index awaits
  have kept : before.calls.length ≤ after.calls.length := by
    cases step <;> first | exact Nat.le_refl _ | simp [Board.record]
  rcases awaited_step tasks step awaits with awaited | ⟨call, calls, last, _⟩
  · have inside := called index awaited
    omega
  · rw [calls, List.length_append, last]
    simp

/-- What moves on the board moves by a step of the board. -/
theorem board_step {holds : Board → Prop} (kept : holds before.board)
    (step : ProxyStep env before action after)
    (preserved : ∀ move board, BoardStep env before.board move board → holds board) :
    holds after.board := by
  cases step with
  | perform chosen unconfirmed busy performed =>
      exact preserved _ _ (Board.boardStep_of_move (perform_cases performed).1)
  | confirm position woken done moved => exact preserved _ _ (Board.boardStep_of_move moved)
  | _ => exact kept

/-- The dispatcher dies by its own steps. -/
private theorem killed_of_step (step : ProxyStep env before action after)
    (dead : after.gonggoDead = true) : before.gonggoDead = true ∨ kills action = true := by
  cases step with
  | perform chosen unconfirmed busy performed =>
      obtain ⟨next, moved, changed⟩ := performed_of_perform performed
      cases changed <;> exact Or.inl dead
  | dies alive => exact Or.inr rfl
  | diesHoldingChannel free alive => exact Or.inr rfl
  | diesHoldingSubscribe alive moved => exact Or.inr rfl
  | _ => exact Or.inl dead

private theorem clear_step (tasks : TasksSound env before.board)
    (avoids : before.AvoidsGonggo action)
    (clear : before.gonggoDead = true → ¬before.NeedsGonggo)
    (step : ProxyStep env before action after) :
    after.gonggoDead = true → ¬after.NeedsGonggo := by
  intro dead needs
  obtain ⟨free, independent⟩ : ¬before.NeedsGonggo ∧ ¬before.ComesToNeed action := by
    rcases killed_of_step step dead with died | kills
    · exact ⟨clear died, avoids.1 died⟩
    · refine ⟨avoids.2 kills, ?_⟩
      cases action <;> first | exact id | cases kills
  rcases needs with needs | needs
  · rcases channelNeeds_step step needs with needed | ⟨input, rfl, late⟩
    · exact free (Or.inl needed)
    · exact independent (Or.inl late)
  · rcases subscribeNeeds_step tasks step needs with needed | comes
    · exact free (Or.inr needed)
    · exact independent comes

theorem Steady.step (kept : Steady env before) (avoids : before.AvoidsGonggo action)
    (step : ProxyStep env before action after) : Steady env after where
  sequenced := kept.sequenced.step step
  tasks := board_step kept.tasks step fun _ _ step => tasksSound_step step kept.tasks
  idle := idle_step kept.idle step
  called := board_step kept.called step fun _ _ => called_step kept.tasks kept.called
  clear := clear_step kept.tasks avoids kept.clear step

/-- Where no thread needs the dead dispatcher, one that has not ended can go on. -/
theorem Steady.not_deadlocked {state : ProxyState} (kept : Steady env state) :
    ¬state.Deadlocked env := by
  rintro ⟨gonggoDead, stopping, running, unfinished, stuck⟩
  have free := kept.clear gonggoDead
  have late : 3 ≤ state.main.stage → ¬state.delivery.unanswered = true := by
    intro stage waits
    exact free (Or.inr ⟨waits, holdsUp_iff.mpr (Or.inl stage)⟩)
  rcases stuck.main running with position | position | ⟨position, held⟩ | ⟨position, held⟩ |
    ⟨position, held⟩ | ⟨position, active⟩ | ⟨position, active⟩ | ⟨position, active⟩
  · exact stopping position
  · have passed : 8 ≤ state.main.stage := by simp [position, MainPosition.stage]
    exact unfinished ⟨position, kept.sequenced.channelJoined (by omega),
      kept.sequenced.subscribeJoined (by omega), kept.sequenced.commJoined passed⟩
  · rcases stuck.channel running kept.idle kept.called with
      finished | ⟨idle, _⟩ | waits | ⟨_, waits, awakes⟩
    · simp [Channel.holdsLock, finished] at held
    · simp [Channel.holdsLock, idle] at held
    · rw [Channel.holdsLock_of_unanswered waits] at held
      cases held
    · have open_ : state.channel.ended = false := by
        have early := kept.sequenced.ended
        simpa [position, MainPosition.stage] using early
      exact free (Or.inr ⟨waits, holdsUp_iff.mpr (Or.inr ⟨open_, awakes⟩)⟩)
  · have waits := stuck.unanswered running held
    exact late (by simp [position, MainPosition.stage]) waits
  · obtain ⟨waits, _⟩ := stuck.comm_holdsLock running kept.called held
    exact late (by simp [position, MainPosition.stage]) waits
  · have passed : 5 ≤ state.main.stage := by simp [position, MainPosition.stage]
    have ended : state.channel.ended = true := kept.sequenced.ended.mpr (by omega)
    rcases stuck.channel running kept.idle kept.called with
      finished | ⟨idle, unsignalled⟩ | waits | ⟨_, waits, _⟩
    · exact active finished
    · rw [kept.sequenced.woken ended idle] at unsignalled
      cases unsignalled
    · exact free (Or.inl ⟨ended, waits⟩)
    · exact late (by omega) waits
  · have passed : 6 ≤ state.main.stage := by simp [position, MainPosition.stage]
    rcases Delivery.blocked_thread (stuck.subscribe running) with
      finished | waits | ⟨parked, unsignalled⟩
    · exact active finished
    · exact late (by omega) waits
    · have stopped := (kept.sequenced.subscribeStops (by omega)).2
      simp [parked, unsignalled] at stopped
  · have passed : 7 ≤ state.main.stage := by simp [position, MainPosition.stage]
    rcases stuck.comm running kept.called with
      finished | ⟨parked, unsignalled⟩ | ⟨_, waits, _⟩
    · exact active finished
    · have stopped := (kept.sequenced.commStops (by omega)).2
      simp [parked, unsignalled] at stopped
    · exact late (by omega) waits

theorem steady_of_reaches {state : ProxyState}
    (reached : Runs.Reaches (step env) AvoidsGonggo initial state) : Steady env state :=
  reached.invariant (steady_initial env) fun _ _ _ kept avoids next =>
    kept.step avoids (proxyStep_of_step next)

/-- As long as no thread comes to need a dead dispatcher, shutting down never
deadlocks. -/
theorem shutdown_never_deadlocks {state : ProxyState}
    (reached : Runs.Reaches (step env) AvoidsGonggo initial state) :
    ¬state.Deadlocked env :=
  (steady_of_reaches reached).not_deadlocked

/-- The main thread has stopped the channel thread and the segment of the subscribe
thread and waits for none of them yet. -/
theorem shutdown_never_deadlocks_joining :
    ∃ state : ProxyState, state.gonggoDead = true ∧ state.main = .joinChannel ∧
      ¬state.Deadlocked .reference := by
  obtain ⟨state, reached, tested⟩ :=
    Runs.reaches_of_execute_test (step .reference) AvoidsGonggo
      (requestActions "s" (.object []) .invalid false "r1" 4 ++
        [channelStep, .dies, .sigterm] ++ List.replicate 5 .main)
      .initial
      (fun state => decide (state.gonggoDead = true ∧ state.main = .joinChannel))
      (by decide +kernel)
  obtain ⟨dead, joining⟩ := of_decide_eq_true tested
  exact ⟨state, dead, joining, shutdown_never_deadlocks reached⟩

/-- The subscribe thread keeps `proxy_subscribe_lock` for an exchange that nobody
answers, the main thread stands before the lock, and the other threads have ended or
are parked. -/
theorem stuck_of_unanswered {state : ProxyState} (main : state.main = .endSubscribe)
    (unanswered : state.delivery.unanswered = true)
    (channel : state.channel.position = .finished)
    (comm : state.comm.position = .wait) (unsignalled : state.comm.wakeup = false)
    (calls : state.board.calls = []) : state.Stuck env := by
  have silent := Delivery.unanswered_signalled unanswered
  obtain ⟨task, position⟩ : ∃ task, state.delivery.position = .answerWait task := by
    unfold Delivery.unanswered at unanswered
    split at unanswered
    · rename_i task position
      exact ⟨task, position⟩
    · cases unanswered
  intro action own
  cases action with
  | channel input => simp [step, stepChannel, channel]
  | comm input => simp [step, stepComm, comm, unsignalled]
  | reply index => simp [step, perform, Board.move, calls]
  | subscribe answerCreated =>
      simp [step, moveDelivery, Delivery.move, Delivery.thread, position, silent]
  | main =>
      simp [step, stepMain, main, moveDelivery, Delivery.move, Delivery.holdsLock, position]
  | _ => cases own

/-- The subscribe thread hands over a reply after the main thread has stored the
termination in its segment. -/
theorem shutdown_deadlocks :
    ¬∀ state, Runs.Reaches (step .reference) DiesFree .initial state →
      ¬state.Deadlocked .reference := by
  intro never
  obtain ⟨state, reached, tested⟩ :=
    Runs.reaches_of_execute_test (step .reference) DiesFree
      (requestActions "s" (.object []) .invalid false "r1" 4 ++
        [.subscribe true, .subscribe true, channelStep, .dies, .sigterm, .main, .main, .main,
          channelStep, .subscribe true, .subscribe true, .subscribe true] ++
        commActions 3)
      .initial
      (fun state => decide (state.gonggoDead = true ∧ state.main = .endSubscribe ∧
          state.board.crashed = false ∧ state.delivery.unanswered = true ∧
          state.comm.position = .wait ∧ state.comm.wakeup = false ∧
          state.board.calls.length = 0) &&
        state.returned)
      (by decide +kernel)
  simp only [Bool.and_eq_true, decide_eq_true_eq] at tested
  obtain ⟨⟨dead, main, running, unanswered, parked, unsignalled, calls⟩, ended⟩ := tested
  have finished : state.channel.position = .finished := by
    unfold returned at ended
    split at ended
    · assumption
    · cases ended
  refine never state reached ⟨dead, ?_, running, ?_, ?_⟩
  · simp [main]
  · rintro ⟨past, _⟩
    rw [main] at past
    cases past
  · exact stuck_of_unanswered main unanswered finished parked unsignalled
      (List.length_eq_zero_iff.mp calls)

end ProxyState

end Sawang

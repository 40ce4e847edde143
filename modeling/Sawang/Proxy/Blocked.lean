import Sawang.Proxy.Layers

/-!
# What a blocked thread waits for

A thread whose next step is disabled waits for a lock that another one holds, for
a signal, or for the end of a thread.  The module says which, thread by thread.
-/

namespace Sawang

namespace Delivery

/-- The subscribe thread waits for the answer to a reply and is not signalled. -/
def unanswered (delivery : Delivery) : Bool :=
  match delivery.position with
  | .answerWait _ => !delivery.proxyWakeup
  | _ => false

/-- What the subscribe thread waits for. -/
theorem blocked_thread {delivery : Delivery} (blocked : delivery.thread true = none) :
    delivery.position = .finished ∨ delivery.unanswered = true ∨
      (delivery.position = .wait ∧ delivery.subscribeWakeup = false) := by
  have chosen : ∀ {condition : Prop} [Decidable condition] {first second : Delivery},
      (if condition then some first else some second) ≠ none := by
    intro condition _ first second
    split <;> simp
  unfold thread at blocked
  cases position : delivery.position with
  | answerWait task =>
      simp only [position] at blocked
      split at blocked
      · split at blocked
        · cases blocked
        · exact absurd blocked chosen
      · rename_i unsignalled
        right
        left
        simpa [unanswered, position] using unsignalled
  | wait =>
      simp only [position] at blocked
      split at blocked
      · cases blocked
      · rename_i unsignalled
        exact Or.inr (Or.inr ⟨rfl, Bool.eq_false_iff.mpr unsignalled⟩)
  | finished => exact Or.inl rfl
  | loop =>
      simp only [position] at blocked
      exact absurd blocked chosen
  | park =>
      simp only [position] at blocked
      exact absurd blocked chosen
  | pop =>
      simp only [position] at blocked
      split at blocked <;> cases blocked
  | shmLock task =>
      simp only [position] at blocked
      split at blocked <;> cases blocked
  | _ =>
      simp only [position] at blocked
      cases blocked

/-- A blocked subscribe thread that holds its lock waits for an answer. -/
theorem unanswered_of_holdsLock {delivery : Delivery}
    (blocked : delivery.thread true = none) (holds : delivery.holdsLock = true) :
    delivery.unanswered = true := by
  rcases blocked_thread blocked with position | unanswered | ⟨position, _⟩
  · simp [holdsLock, position] at holds
  · exact unanswered
  · simp [holdsLock, position] at holds

end Delivery

/-- The steps of the threads of the proxy and of the calls of `ProxyReply`. -/
def Action.ownThread : Action → Prop
  | .channel _ | .comm _ | .reply _ | .subscribe _ | .main => True
  | _ => False

/-- The channel thread waits for the dispatcher's reaction and is not signalled. -/
def Channel.unanswered (channel : Channel) : Bool :=
  match channel.position with
  | .acknowledgeWait _ | .restWait => !channel.wakeup
  | _ => false

namespace Board

/-- The call that statements of the comm thread begin by waiting for. -/
def awaitedBy : List CommOp → Option Nat
  | .awaitReply index :: _ => some index
  | _ => none

/-- The call the comm thread waits for. -/
def awaited (board : Board) : Option Nat := awaitedBy board.work

/-- The call the comm thread waits for stands before `proxy_subscribe_lock`. -/
def awaitsAwake (board : Board) : Bool :=
  (board.awaited.bind fun index => board.calls[index]?).any
    fun call => call.position == .awake

theorem awaitsAwake_iff {board : Board} : board.awaitsAwake = true ↔
    ∃ index call, board.awaited = some index ∧ board.calls[index]? = some call ∧
      call.position = .awake := by
  unfold awaitsAwake
  simp only [Option.any_eq_true, Option.bind_eq_some_iff, beq_iff_eq]
  constructor
  · rintro ⟨call, ⟨index, awaits, there⟩, awake⟩
    exact ⟨index, call, awaits, there, awake⟩
  · rintro ⟨index, call, awaits, there, awake⟩
    exact ⟨call, ⟨index, awaits, there⟩, awake⟩

/-- The first of the operations needs `proxy_subscribe_lock`: itself, or because the
comm thread keeps its lock for a call that stands before it. -/
def awakes (board : Board) : List ChannelOp → Bool
  | .subscribeAwake :: _ => true
  | .commAwake :: _ => board.awaitsAwake
  | _ => false

/-- A blocked comm thread waits for a call. -/
theorem blocked_comm {env : Environment} {board : Board} (running : board.crashed = false)
    (blocked : board.move env (.comm .advance) = none)
    (busy : board.work ≠ [] ∨ board.parseQueue ≠ []) :
    ∃ index, board.awaited = some index ∧
      ∀ call, board.calls[index]? = some call → call.position ≠ .returned := by
  unfold move at blocked
  simp only [running, Bool.false_eq_true, if_false] at blocked
  split at blocked
  · rename_i free
    split at blocked
    · rename_i empty
      rcases busy with working | queued
      · exact absurd free working
      · exact absurd empty queued
    · cases blocked
  · rename_i op rest next
    cases op with
    | awaitReply index =>
        refine ⟨index, by simp [awaited, awaitedBy, next], ?_⟩
        intro call there returned
        obtain ⟨key, headers, payload, confirms, which, uuids, position⟩ := call
        subst returned
        simp [commOp, there] at blocked
    | callback => simp [commOp] at blocked
    | respondTableDrop taskKey uuid => simp [commOp] at blocked
    | run task =>
        simp only [commOp] at blocked
        split at blocked
        · cases blocked
        · split at blocked <;> cases blocked
    | _ =>
        simp only [commOp] at blocked
        split at blocked <;> cases blocked

/-- A call of which no move is left has returned. -/
theorem blocked_reply {env : Environment} {board : Board} {index : Nat}
    {call : ReplyCall} (running : board.crashed = false)
    (there : board.calls[index]? = some call)
    (blocked : board.move env (.reply index) = none) : call.position = .returned := by
  unfold move at blocked
  simp only [running, Bool.false_eq_true, if_false, there] at blocked
  unfold replyOp at blocked
  split at blocked <;> first | assumption | cases blocked

end Board

namespace ProxyState

variable {env : Environment} {state : ProxyState}

/-- A move is performed unless it has to take a lock that is held. -/
theorem blocked_perform {move : Board.Move} {board : Board}
    (moved : state.board.move env move = some board)
    (blocked : state.perform env move = none) :
    (state.board.effect env move = .subscribeAwake ∧ state.delivery.holdsLock = true) ∨
      (state.board.effect env move = .commAwake ∧ state.comm.holdsLock = true) := by
  unfold perform at blocked
  simp only [moved] at blocked
  split at blocked
  · cases blocked
  · cases blocked
  · rename_i effect
    left
    refine ⟨effect, ?_⟩
    by_contra free
    simp [Delivery.move, Bool.eq_false_iff.mpr free] at blocked
  · rename_i effect
    right
    refine ⟨effect, ?_⟩
    by_contra free
    simp [Bool.eq_false_iff.mpr free] at blocked

/-- No thread of the proxy and no call of `ProxyReply` can take a step. -/
abbrev Stuck (env : Environment) (state : ProxyState) : Prop :=
  Runs.Stuck (step env) Action.ownThread state

private theorem stuck_step (stuck : state.Stuck env) (running : state.board.crashed = false)
    (action : Action) (own : action.ownThread) {next : Option ProxyState}
    (runs : state.step env action = if state.board.crashed then none else next) :
    next = none := by
  have blocked := stuck action own
  rw [runs, running] at blocked
  exact blocked

theorem Stuck.subscribe (stuck : state.Stuck env) (running : state.board.crashed = false) :
    state.delivery.thread true = none := by
  have blocked := stuck_step stuck running (.subscribe true) trivial rfl
  exact Option.map_eq_none_iff.mp blocked

/-- A held `proxy_subscribe_lock` is held by a thread that waits for an answer. -/
theorem Stuck.unanswered (stuck : state.Stuck env) (running : state.board.crashed = false)
    (holds : state.delivery.holdsLock = true) : state.delivery.unanswered = true :=
  Delivery.unanswered_of_holdsLock (stuck.subscribe running) holds

/-- A call of `ProxyReply` has returned, or stands before the held
`proxy_subscribe_lock`. -/
theorem Stuck.reply (stuck : state.Stuck env) (running : state.board.crashed = false)
    {index : Nat} {call : ReplyCall} (there : state.board.calls[index]? = some call)
    (pending : call.position ≠ .returned) :
    call.position = .awake ∧ state.delivery.unanswered = true := by
  have blocked := stuck_step stuck running (.reply index) trivial rfl
  cases moved : state.board.move env (.reply index) with
  | none => exact absurd (Board.blocked_reply running there moved) pending
  | some board =>
      rcases blocked_perform moved blocked with ⟨effect, held⟩ | ⟨effect, _⟩
      · refine ⟨?_, stuck.unanswered running held⟩
        unfold Board.effect at effect
        simp only [there] at effect
        split at effect <;> first | assumption | cases effect
      · unfold Board.effect at effect
        simp only [there] at effect
        split at effect <;> cases effect

/-- The comm thread has ended, is parked, or waits for a call that stands before the
held `proxy_subscribe_lock`. -/
theorem Stuck.comm (stuck : state.Stuck env) (running : state.board.crashed = false)
    (called : ∀ index ∈ state.board.awaited, index < state.board.calls.length) :
    state.comm.position = .finished ∨
      (state.comm.position = .wait ∧ state.comm.wakeup = false) ∨
      (state.comm.position = .drain ∧ state.delivery.unanswered = true ∧
        state.board.awaitsAwake = true) := by
  have blocked := stuck_step stuck running (.comm .advance) trivial rfl
  unfold stepComm at blocked
  dsimp only at blocked
  split at blocked
  · cases blocked
  · split at blocked <;> cases blocked
  · rename_i position
    have busy : state.board.work ≠ [] ∨ state.board.parseQueue ≠ [] := by
      by_contra none
      obtain ⟨free, empty⟩ := not_or.mp none
      simp [not_not.mp free, not_not.mp empty] at blocked
    split at blocked
    · cases blocked
    · right
      right
      cases moved : state.board.move env (.comm .advance) with
      | some board =>
          rcases blocked_perform moved blocked with ⟨effect, _⟩ | ⟨effect, _⟩ <;> cases effect
      | none =>
          obtain ⟨index, awaits, pending⟩ := Board.blocked_comm running moved busy
          have inside := called index awaits
          have there := List.getElem?_eq_getElem inside
          obtain ⟨awake, unanswered⟩ := stuck.reply running there (pending _ there)
          exact ⟨position, unanswered,
            Board.awaitsAwake_iff.mpr ⟨index, _, awaits, there, awake⟩⟩
  · rename_i position
    split at blocked
    · cases blocked
    · rename_i unsignalled
      exact Or.inr (Or.inl ⟨position, Bool.eq_false_iff.mpr unsignalled⟩)
  · rename_i position
    exact Or.inl position

/-- A held `proxy_comm_lock` is held for a call that stands before the held
`proxy_subscribe_lock`. -/
theorem Stuck.comm_holdsLock (stuck : state.Stuck env)
    (running : state.board.crashed = false)
    (called : ∀ index ∈ state.board.awaited, index < state.board.calls.length)
    (holds : state.comm.holdsLock = true) :
    state.delivery.unanswered = true ∧ state.board.awaitsAwake = true := by
  rcases stuck.comm running called with position | ⟨position, _⟩ | ⟨_, waits⟩
  · simp [Comm.holdsLock, position] at holds
  · simp [Comm.holdsLock, position] at holds
  · exact waits

private theorem chosen {α : Type} {condition : Prop} [Decidable condition]
    {first second : α} : (if condition then some first else some second) ≠ none := by
  split <;> simp

/-- A signalled idle wait ends. -/
private theorem wakeIdle_ne_none {input : ChannelInput} (unread : input.document = none) :
    state.wakeIdle input env ≠ none := by
  unfold wakeIdle
  dsimp only
  split
  · simp
  · split
    · simp
    · simp
    · rw [unread]
      simp
    · exact chosen
    · simp

/-- A signalled wait for a confirmation ends. -/
private theorem wakeAcknowledge_ne_none (exchange : Option Exchange)
    (running : state.board.crashed = false) (free : state.board.job = []) :
    state.wakeAcknowledge exchange env ≠ none := by
  unfold wakeAcknowledge
  dsimp only
  split
  · simp
  · split
    · simp
    · simp [perform, Board.move, running, free, Board.effect]
    · simp

/-- The channel thread has ended, waits unsignalled, or stands before the held
`proxy_subscribe_lock`, itself or through a call of the comm thread. -/
theorem Stuck.channel (stuck : state.Stuck env) (running : state.board.crashed = false)
    (idle : state.channel.position ≠ .job → state.board.job = [])
    (called : ∀ index ∈ state.board.awaited, index < state.board.calls.length) :
    state.channel.position = .finished ∨
      (state.channel.position = .idleWait ∧ state.channel.wakeup = false) ∨
      state.channel.unanswered = true ∨
      (state.channel.position = .job ∧ state.delivery.unanswered = true ∧
        state.board.awakes state.board.job = true) := by
  have blocked := stuck_step stuck running channelStep trivial rfl
  change state.stepChannel env _ = none at blocked
  unfold stepChannel at blocked
  dsimp only at blocked
  split at blocked
  · exact absurd blocked chosen
  · rename_i position
    split at blocked
    · exact absurd blocked (wakeIdle_ne_none rfl)
    · rename_i unsignalled
      exact Or.inr (Or.inl ⟨position, Bool.eq_false_iff.mpr unsignalled⟩)
  · rename_i exchange position
    split at blocked
    · exact absurd blocked
        (wakeAcknowledge_ne_none exchange running (idle (by simp [position])))
    · rename_i unsignalled
      refine Or.inr (Or.inr (Or.inl ?_))
      simpa [Channel.unanswered, position] using unsignalled
  · rename_i position
    split at blocked
    · exact absurd blocked chosen
    · rename_i unsignalled
      refine Or.inr (Or.inr (Or.inl ?_))
      simpa [Channel.unanswered, position] using unsignalled
  · rename_i position
    split at blocked
    · cases blocked
    · rename_i op rest next
      refine Or.inr (Or.inr (Or.inr ⟨position, ?_⟩))
      have moved : state.board.move env .channel = some (state.board.channelOp env op rest) := by
        simp [Board.move, running, next]
      rcases blocked_perform moved blocked with ⟨effect, held⟩ | ⟨effect, held⟩
      · refine ⟨stuck.unanswered running held, ?_⟩
        rw [next]
        cases op <;> simp [Board.effect, next] at effect
        rfl
      · obtain ⟨unanswered, awake⟩ := stuck.comm_holdsLock running called held
        refine ⟨unanswered, ?_⟩
        rw [next]
        cases op <;> simp [Board.effect, next] at effect
        exact awake
  · rename_i position
    exact Or.inl position

/-- The main thread has ended, stands before a held lock, or waits for the end of
another thread. -/
theorem Stuck.main (stuck : state.Stuck env) (running : state.board.crashed = false) :
    state.main = .running ∨ state.main = .finished ∨
      (state.main = .stopChannel ∧ state.channel.holdsLock = true) ∨
      (state.main = .endSubscribe ∧ state.delivery.holdsLock = true) ∨
      (state.main = .stopComm ∧ state.comm.holdsLock = true) ∨
      (state.main = .joinChannel ∧ state.channel.position ≠ .finished) ∨
      (state.main = .joinSubscribe ∧ state.delivery.position ≠ .finished) ∨
      (state.main = .joinComm ∧ state.comm.position ≠ .finished) := by
  have blocked := stuck_step stuck running .main trivial rfl
  change state.stepMain = none at blocked
  unfold stepMain at blocked
  split at blocked
  · rename_i position
    exact Or.inl position
  · rename_i position
    split at blocked
    · rename_i held
      simp [position, held]
    · cases blocked
  · cases blocked
  · rename_i position
    by_cases held : state.delivery.holdsLock = true
    · simp [position, held]
    · simp [moveDelivery, Delivery.move, Bool.eq_false_iff.mpr held] at blocked
  · rename_i position
    split at blocked
    · rename_i held
      simp [position, held]
    · cases blocked
  · rename_i position
    split at blocked
    · cases blocked
    · rename_i unfinished
      simpa [position] using unfinished
  · rename_i position
    split at blocked
    · cases blocked
    · rename_i unfinished
      simpa [position] using unfinished
  · rename_i position
    split at blocked
    · cases blocked
    · rename_i unfinished
      simpa [position] using unfinished
  · rename_i position
    exact Or.inr (Or.inl position)

end ProxyState

end Sawang

import Sawang.Board.Step
import Sawang.Proxy

/-!
# What one step of the proxy can do

`ProxyStep` lists the outcomes of a step by the thread that makes it.  What a
step moves on the board or in the delivery is left to those parts.
-/

namespace Sawang

namespace ProxyState

/-- The move of the board that a step makes if it touches the board. -/
def boardMove (state : ProxyState) : Action → Option Board.Move
  | .channel _ =>
      match state.channel.position with
      | .idleWait => some .channelCrash
      | .acknowledgeWait (some exchange) => some (.confirm exchange state.channel.rid)
      | .job => some .channel
      | _ => none
  | .comm input => some (.comm input)
  | .reply call => some (.reply call)
  | .proxyReply arg headers payload => some (.proxyReply arg headers payload)
  | _ => none

/-- The move of the delivery that a step makes if it touches nothing else. -/
def deliveryMove : Action → Option Delivery.Move
  | .subscribe answerCreated => some (.thread answerCreated)
  | .subscribeState state signal => some (.dispatcher state signal)
  | .spuriousAnswer => some .spuriousAnswer
  | .spuriousSubscribe => some .spuriousWait
  | _ => none

end ProxyState

/-- What performing a move changes: the board, and by the effect of the move the
reply queue or a signal. -/
inductive Performed (env : Environment) (move : Board.Move) (state : ProxyState)
    (board : Board) : ProxyState → Prop
  | quiet (effect : state.board.effect env move = .none) :
      Performed env move state board { state with board := board }
  | appends {reply : ReplyQueueTask}
      (effect : state.board.effect env move = .replyQueueAppend reply) :
      Performed env move state board
        { state with board := board, delivery := state.delivery.append reply }
  | awakesSubscribe (effect : state.board.effect env move = .subscribeAwake)
      (free : state.delivery.holdsLock = false) :
      Performed env move state board
        { state with
          board := board, delivery := { state.delivery with subscribeWakeup := true } }
  | awakesComm (effect : state.board.effect env move = .commAwake)
      (free : state.comm.holdsLock = false) :
      Performed env move state board
        { state with board := board, comm := { state.comm with wakeup := true } }

theorem ProxyState.performed_of_perform {env : Environment} {move : Board.Move}
    {before after : ProxyState} (performed : before.perform env move = some after) :
    ∃ board, before.board.move env move = some board ∧
      Performed env move before board after := by
  unfold ProxyState.perform at performed
  split at performed
  · cases performed
  · rename_i board moved
    refine ⟨board, moved, ?_⟩
    split at performed
    · rename_i effect
      cases performed
      exact .quiet effect
    · rename_i reply effect
      cases performed
      exact .appends effect
    · rename_i effect
      split at performed
      · cases performed
      · rename_i delivery awoken
        simp only [Delivery.move] at awoken
        split at awoken
        · cases awoken
        · rename_i free
          cases awoken
          cases performed
          exact .awakesSubscribe effect (Bool.eq_false_iff.mpr free)
    · rename_i effect
      split at performed
      · cases performed
      · rename_i free
        cases performed
        exact .awakesComm effect (Bool.eq_false_iff.mpr free)

/-- Why the channel thread returns to its loop after a wait. -/
inductive Channel.Returns (channel : Channel) : Prop
  | idle (position : channel.position = .idleWait) (alive : channel.ownerDead = false)
      (unasked : channel.state ≠ .termination ∧ channel.state ≠ .request)
  | unconfirmed {exchange : Option Exchange}
      (position : channel.position = .acknowledgeWait exchange)
      (alive : channel.ownerDead = false)
      (undone : channel.state ≠ .termination ∧ (exchange = none ∨ channel.state ≠ .done))
  | answered (position : channel.position = .restWait)

/-- Why the channel thread ends after a wait. -/
inductive Channel.Ends (channel : Channel) : Prop
  | ownerDied (dead : channel.ownerDead = true)
      (waits : channel.position = .idleWait ∨ channel.position = .restWait ∨
        ∃ exchange, channel.position = .acknowledgeWait exchange)
  | terminated (state : channel.state = .termination)
      (waits : channel.position = .idleWait ∨
        ∃ exchange, channel.position = .acknowledgeWait exchange)

/-- The channel thread stands in one of its waits. -/
def Channel.Waits (channel : Channel) : Prop :=
  channel.position = .idleWait ∨ channel.position = .restWait ∨
    ∃ exchange, channel.position = .acknowledgeWait exchange

theorem Channel.Returns.waits {channel : Channel} (returns : channel.Returns) :
    channel.Waits := by
  cases returns with
  | idle position alive unasked => exact Or.inl position
  | unconfirmed position alive undone => exact Or.inr (Or.inr ⟨_, position⟩)
  | answered position => exact Or.inr (Or.inl position)

theorem Channel.Ends.waits {channel : Channel} (ends : channel.Ends) : channel.Waits := by
  cases ends with
  | ownerDied dead waits => exact waits
  | terminated state waits => exact waits.imp_right Or.inr

theorem Channel.Waits.not_job {channel : Channel} (waits : channel.Waits) :
    channel.position ≠ .job := by
  rcases waits with position | position | ⟨exchange, position⟩ <;> simp [position]

theorem Channel.Waits.not_finished {channel : Channel} (waits : channel.Waits) :
    channel.position ≠ .finished := by
  rcases waits with position | position | ⟨exchange, position⟩ <;> simp [position]

open ProxyState

inductive ProxyStep (env : Environment) : ProxyState → Action → ProxyState → Prop
  /-- A thread performs a move of the board. -/
  | perform {state after : ProxyState} {action : Action} {move : Board.Move}
      (chosen : state.boardMove action = some move)
      (unconfirmed : ∀ exchange rid, move ≠ .confirm exchange rid)
      (busy : ∀ input, action = .comm input → state.comm.position = .drain)
      (performed : state.perform env move = some after) :
      ProxyStep env state action after
  /-- A thread or the dispatcher moves the delivery. -/
  | deliver {state : ProxyState} {action : Action} {move : Delivery.Move}
      {delivery : Delivery} (chosen : deliveryMove action = some move)
      (moved : state.delivery.move move = some delivery) :
      ProxyStep env state action { state with delivery := delivery }
  -- the channel thread
  | channelEnd {state : ProxyState} {input : ChannelInput}
      (position : state.channel.position = .loop) (ended : state.channel.ended = true) :
      ProxyStep env state (.channel input)
        { state with channel := { state.channel with position := .finished } }
  | channelIdle {state : ProxyState} {input : ChannelInput}
      (position : state.channel.position = .loop) (running : state.channel.ended = false) :
      ProxyStep env state (.channel input)
        { state with channel := state.channel.shmIdle }
  | channelFinish {state : ProxyState} {input : ChannelInput} (ownerDead : Bool)
      (woken : state.channel.wakeup = true) (ends : state.channel.Ends) :
      ProxyStep env state (.channel input)
        { state with channel := { state.channel with
          ownerDead := ownerDead, position := .finished } }
  | channelReturn {state : ProxyState} {input : ChannelInput} (proxyExit : Bool)
      (woken : state.channel.wakeup = true) (returns : state.channel.Returns) :
      ProxyStep env state (.channel input)
        { state with
          proxyExit := proxyExit, channel := { state.channel with position := .loop } }
  | channelAccept {state : ProxyState} {input : ChannelInput}
      (written : ProxyChannelState) (exchange : Option Exchange)
      (position : state.channel.position = .idleWait)
      (woken : state.channel.wakeup = true) (asked : state.channel.state = .request)
      (fits : written = .acknowledged ∧ exchange ≠ none ∨
        written = .fails ∧ exchange = none) :
      ProxyStep env state (.channel input)
        { state with channel := state.channel.accept written exchange }
  | channelRest {state : ProxyState} {input : ChannelInput}
      (position : state.channel.position = .idleWait)
      (woken : state.channel.wakeup = true) (asked : state.channel.state = .rest) :
      ProxyStep env state (.channel input)
        { state with channel := state.channel.answer .restRespond .restWait }
  | confirm {state : ProxyState} {input : ChannelInput} {exchange : Exchange}
      {board : Board} (position : state.channel.position = .acknowledgeWait (some exchange))
      (woken : state.channel.wakeup = true) (done : state.channel.state = .done)
      (moved : state.board.move env (.confirm exchange state.channel.rid) = some board) :
      ProxyStep env state (.channel input)
        { state with board := board, channel := { state.channel with position := .job } }
  | jobDone {state : ProxyState} {input : ChannelInput}
      (position : state.channel.position = .job) (empty : state.board.job = []) :
      ProxyStep env state (.channel input)
        { state with channel := { state.channel with position := .loop } }
  -- the comm thread
  | commLock {state : ProxyState} {input : Board.CommInput}
      (position : state.comm.position = .lock) :
      ProxyStep env state (.comm input)
        { state with comm := { state.comm with position := .loop } }
  | commEnd {state : ProxyState} {input : Board.CommInput}
      (position : state.comm.position = .loop) (ended : state.comm.ended = true) :
      ProxyStep env state (.comm input)
        { state with comm := { state.comm with position := .finished } }
  | commDrain {state : ProxyState} {input : Board.CommInput}
      (position : state.comm.position = .loop) (running : state.comm.ended = false) :
      ProxyStep env state (.comm input)
        { state with comm := { state.comm with position := .drain } }
  | commWait {state : ProxyState} {input : Board.CommInput}
      (position : state.comm.position = .drain) (free : state.board.work = [])
      (empty : state.board.parseQueue = []) :
      ProxyStep env state (.comm input)
        { state with comm := { state.comm with position := .wait, wakeup := false } }
  | commWake {state : ProxyState} {input : Board.CommInput}
      (position : state.comm.position = .wait) (woken : state.comm.wakeup = true) :
      ProxyStep env state (.comm input)
        { state with comm := { state.comm with position := .loop } }
  -- the main thread
  | stopping {state : ProxyState} (position : state.main = .running) :
      ProxyStep env state .main { state with main := .stopChannel }
  | stopChannel {state : ProxyState} (position : state.main = .stopChannel)
      (free : state.channel.holdsLock = false) :
      ProxyStep env state .main
        { state with
          channel := { state.channel with
            ownerDead := false, state := .termination, ended := true, wakeup := true }
          main := .stopSubscribe }
  | stopSubscribe {state : ProxyState} {delivery : Delivery}
      (position : state.main = .stopSubscribe)
      (moved : state.delivery.move .stopSegment = some delivery) :
      ProxyStep env state .main { state with delivery := delivery, main := .endSubscribe }
  | endSubscribe {state : ProxyState} {delivery : Delivery}
      (position : state.main = .endSubscribe)
      (moved : state.delivery.move .stopThread = some delivery) :
      ProxyStep env state .main { state with delivery := delivery, main := .stopComm }
  | stopComm {state : ProxyState} (position : state.main = .stopComm)
      (free : state.comm.holdsLock = false) :
      ProxyStep env state .main
        { state with
          comm := { state.comm with ended := true, wakeup := true }, main := .joinChannel }
  | joinChannel {state : ProxyState} (position : state.main = .joinChannel)
      (finished : state.channel.position = .finished) :
      ProxyStep env state .main { state with main := .joinSubscribe }
  | joinSubscribe {state : ProxyState} (position : state.main = .joinSubscribe)
      (finished : state.delivery.position = .finished) :
      ProxyStep env state .main { state with main := .joinComm }
  | joinComm {state : ProxyState} (position : state.main = .joinComm)
      (finished : state.comm.position = .finished) :
      ProxyStep env state .main { state with main := .finished }
  -- the dispatcher and the outside
  | request {state : ProxyState} {action : Action} (written : ProxyChannelState)
      (rid : String) (signal : Bool)
      (asks : action = .request rid signal ∧ written = .request ∨
        action = .rest rid signal ∧ written = .rest)
      (free : state.channel.holdsLock = false) (alive : state.gonggoDead = false) :
      ProxyStep env state action
        { state with
          channel := signalChannel signal (writeRequest written rid state.channel) }
  | write {state : ProxyState} {written : ProxyChannelState} {signal : Bool}
      (plain : written ≠ .request ∧ written ≠ .rest)
      (free : state.channel.holdsLock = false) (alive : state.gonggoDead = false) :
      ProxyStep env state (.channelState written signal)
        { state with channel := signalChannel signal (writeState written state.channel) }
  | sees {state : ProxyState} (acknowledged : state.channel.state = .acknowledged)
      (free : state.channel.holdsLock = false) (alive : state.gonggoDead = false) :
      ProxyStep env state .sees { state with channel := signalChannel false (see state.channel) }
  | dies {state : ProxyState} (alive : state.gonggoDead = false) :
      ProxyStep env state .dies { state with gonggoDead := true }
  | diesHoldingChannel {state : ProxyState} (free : state.channel.holdsLock = false)
      (alive : state.gonggoDead = false) :
      ProxyStep env state .diesHoldingChannel
        { state with
          channel := signalChannel false { state.channel with ownerDead := true }
          gonggoDead := true }
  | diesHoldingSubscribe {state : ProxyState} {delivery : Delivery}
      (alive : state.gonggoDead = false)
      (moved : state.delivery.move .ownerDies = some delivery) :
      ProxyStep env state .diesHoldingSubscribe
        { state with delivery := delivery, gonggoDead := true }
  | sigterm {state : ProxyState} :
      ProxyStep env state .sigterm { state with proxyExit := true }
  | spuriousChannel {state : ProxyState} :
      ProxyStep env state .spuriousChannel
        { state with channel := signalChannel true state.channel }
  | spuriousComm {state : ProxyState} :
      ProxyStep env state .spuriousComm
        { state with comm := { state.comm with wakeup := true } }

namespace ProxyState

variable {env : Environment} {before after : ProxyState}

private theorem proxyStep_wakeIdle {input : ChannelInput}
    (position : before.channel.position = .idleWait) (woken : before.channel.wakeup = true)
    (next : before.wakeIdle input env = some after) :
    ProxyStep env before (.channel input) after := by
  unfold wakeIdle at next
  dsimp only at next
  split at next
  · rename_i dead
    cases next
    exact .channelFinish false woken (.ownerDied dead (Or.inl position))
  · rename_i alive
    have owned := Bool.eq_false_iff.mpr alive
    -- a state that asks for nothing
    have returned : ∀ proxyExit : Bool, before.channel.state ≠ .termination →
        before.channel.state ≠ .request →
        ProxyStep env before (.channel input)
          { before with
            proxyExit := proxyExit, channel := { before.channel with position := .loop } } :=
      fun proxyExit live unasked =>
        .channelReturn proxyExit woken (.idle position owned ⟨live, unasked⟩)
    split at next
    · rename_i state
      cases next
      exact .channelFinish before.channel.ownerDead woken
        (.terminated state (Or.inl position))
    · rename_i state
      cases next
      exact returned true (by simp [state]) (by simp [state])
    · rename_i state
      split at next
      · cases next
        exact .channelAccept .fails none position woken state (Or.inr ⟨rfl, rfl⟩)
      · split at next
        · exact .perform (by simp [boardMove, position]) (by simp) (by simp) next
        · rename_i exchange _
          cases next
          exact .channelAccept .acknowledged (some exchange) position woken state
            (Or.inl ⟨rfl, by simp⟩)
    · rename_i state
      split at next
      · cases next
        exact .channelRest position woken state
      · cases next
        exact returned before.proxyExit (by simp [state]) (by simp [state])
    · rename_i notTermination _ notRequest _
      cases next
      exact returned before.proxyExit notTermination notRequest

private theorem proxyStep_wakeAcknowledge {input : ChannelInput}
    {exchange : Option Exchange}
    (position : before.channel.position = .acknowledgeWait exchange)
    (woken : before.channel.wakeup = true)
    (next : before.wakeAcknowledge exchange env = some after) :
    ProxyStep env before (.channel input) after := by
  unfold wakeAcknowledge at next
  dsimp only at next
  split at next
  · rename_i dead
    cases next
    exact .channelFinish false woken
      (.ownerDied dead (Or.inr (Or.inr ⟨exchange, position⟩)))
  · rename_i alive
    have owned := Bool.eq_false_iff.mpr alive
    split at next
    · rename_i state
      cases next
      exact .channelFinish before.channel.ownerDead woken
        (.terminated state (Or.inr ⟨_, position⟩))
    · rename_i request state
      obtain ⟨confirmed, performed, rfl⟩ := Option.map_eq_some_iff.mp next
      unfold perform at performed
      split at performed
      · cases performed
      · rename_i board moved
        simp only [Board.effect, Option.some.injEq] at performed
        subst performed
        exact .confirm position woken state moved
    · rename_i pending _ _ notTermination notDone
      cases next
      refine .channelReturn before.proxyExit woken (.unconfirmed position owned ?_)
      refine ⟨notTermination, ?_⟩
      by_cases unreadable : pending = none
      · exact Or.inl unreadable
      · obtain ⟨request, readable⟩ := Option.ne_none_iff_exists'.mp unreadable
        exact Or.inr (fun state => notDone request state readable)

private theorem proxyStep_stepChannel {input : ChannelInput}
    (next : before.stepChannel env input = some after) :
    ProxyStep env before (.channel input) after := by
  unfold stepChannel at next
  dsimp only at next
  split at next
  · rename_i position
    split at next
    · rename_i ended
      cases next
      exact .channelEnd position ended
    · rename_i running
      cases next
      exact .channelIdle position (Bool.eq_false_iff.mpr running)
  · rename_i position
    split at next
    · rename_i woken
      exact proxyStep_wakeIdle position woken next
    · cases next
  · rename_i exchange position
    split at next
    · rename_i woken
      exact proxyStep_wakeAcknowledge position woken next
    · cases next
  · rename_i position
    split at next
    · rename_i woken
      split at next
      · rename_i dead
        cases next
        exact .channelFinish false woken (.ownerDied dead (Or.inr (Or.inl position)))
      · cases next
        exact .channelReturn before.proxyExit woken (.answered position)
    · cases next
  · rename_i position
    split at next
    · rename_i empty
      cases next
      exact .jobDone position empty
    · exact .perform (by simp [boardMove, position]) (by simp) (by simp) next
  · cases next

private theorem proxyStep_stepComm {input : Board.CommInput}
    (next : before.stepComm env input = some after) :
    ProxyStep env before (.comm input) after := by
  unfold stepComm at next
  dsimp only at next
  split at next
  · rename_i position
    cases next
    exact .commLock position
  · rename_i position
    split at next
    · rename_i ended
      cases next
      exact .commEnd position ended
    · rename_i running
      cases next
      exact .commDrain position (Bool.eq_false_iff.mpr running)
  · rename_i position
    split at next
    · rename_i free empty
      cases next
      exact .commWait position free empty
    · exact .perform rfl (by simp) (fun _ _ => position) next
  · rename_i position
    split at next
    · rename_i woken
      cases next
      exact .commWake position woken
    · cases next
  · cases next

private theorem proxyStep_stepMain (next : before.stepMain = some after) :
    ProxyStep env before .main after := by
  unfold stepMain at next
  split at next
  · rename_i position
    split at next
    · cases next
      exact .stopping position
    · cases next
  · rename_i position
    split at next
    · cases next
    · rename_i free
      cases next
      exact .stopChannel position (Bool.eq_false_iff.mpr free)
  · rename_i position
    obtain ⟨stopped, moved, rfl⟩ := Option.map_eq_some_iff.mp next
    obtain ⟨delivery, stops, rfl⟩ := Option.map_eq_some_iff.mp moved
    exact .stopSubscribe position stops
  · rename_i position
    obtain ⟨stopped, moved, rfl⟩ := Option.map_eq_some_iff.mp next
    obtain ⟨delivery, stops, rfl⟩ := Option.map_eq_some_iff.mp moved
    exact .endSubscribe position stops
  · rename_i position
    split at next
    · cases next
    · rename_i free
      cases next
      exact .stopComm position (Bool.eq_false_iff.mpr free)
  · rename_i position
    split at next
    · rename_i finished
      cases next
      exact .joinChannel position finished
    · cases next
  · rename_i position
    split at next
    · rename_i finished
      cases next
      exact .joinSubscribe position finished
    · cases next
  · rename_i position
    split at next
    · rename_i finished
      cases next
      exact .joinComm position finished
    · cases next
  · cases next

/-- A write needs the lock of the segment and a living dispatcher. -/
private theorem writeChannel_cases {write : Channel → Channel} {signal : Bool}
    (written : before.writeChannel write signal = some after) :
    before.channel.holdsLock = false ∧ before.gonggoDead = false ∧
      after = { before with channel := signalChannel signal (write before.channel) } := by
  unfold writeChannel at written
  split at written
  · cases written
  · rename_i free
    simp only [not_or, Bool.not_eq_true] at free
    cases written
    exact ⟨free.2, free.1, rfl⟩

private theorem proxyStep_stepDispatcher {action : Action}
    (next : before.stepDispatcher action = some after) :
    ProxyStep env before action after := by
  cases action <;> simp only [stepDispatcher] at next
  case request rid signal =>
    obtain ⟨free, alive, rfl⟩ := writeChannel_cases next
    exact .request .request rid signal (Or.inl ⟨rfl, rfl⟩) free alive
  case rest rid signal =>
    obtain ⟨free, alive, rfl⟩ := writeChannel_cases next
    exact .request .rest rid signal (Or.inr ⟨rfl, rfl⟩) free alive
  case channelState written signal =>
    split at next
    · cases next
    · rename_i plain
      obtain ⟨free, alive, rfl⟩ := writeChannel_cases next
      exact .write (not_or.mp plain) free alive
  case sees =>
    split at next
    · rename_i acknowledged
      obtain ⟨free, alive, rfl⟩ := writeChannel_cases next
      exact .sees acknowledged free alive
    · cases next
  case subscribeState written signal =>
    split at next
    · cases next
    · obtain ⟨delivery, moved, rfl⟩ := Option.map_eq_some_iff.mp next
      exact .deliver rfl moved
  case dies =>
    split at next
    · cases next
    · rename_i alive
      cases next
      exact .dies (Bool.eq_false_iff.mpr alive)
  case diesHoldingChannel =>
    obtain ⟨dead, wrote, rfl⟩ := Option.map_eq_some_iff.mp next
    obtain ⟨free, alive, rfl⟩ := writeChannel_cases wrote
    exact .diesHoldingChannel free alive
  case diesHoldingSubscribe =>
    split at next
    · cases next
    · rename_i alive
      obtain ⟨dead, died, rfl⟩ := Option.map_eq_some_iff.mp next
      obtain ⟨delivery, moved, rfl⟩ := Option.map_eq_some_iff.mp died
      exact .diesHoldingSubscribe (Bool.eq_false_iff.mpr alive) moved
  all_goals cases next

/-- Every step is one of the listed outcomes. -/
theorem proxyStep_of_step {action : Action}
    (next : before.step env action = some after) : ProxyStep env before action after := by
  have moves : ∀ {move : Delivery.Move}, deliveryMove action = some move →
      before.moveDelivery move = some after → ProxyStep env before action after := by
    intro move chosen moved
    obtain ⟨delivery, delivered, rfl⟩ := Option.map_eq_some_iff.mp moved
    exact .deliver chosen delivered
  unfold step at next
  split at next
  · cases next
  · split at next
    · exact proxyStep_stepChannel next
    · exact proxyStep_stepComm next
    · exact .perform rfl (by simp) (by simp) next
    · exact .perform rfl (by simp) (by simp) next
    · exact moves rfl next
    · exact proxyStep_stepMain next
    · cases next
      exact .sigterm
    · cases next
      exact .spuriousChannel
    · exact moves rfl next
    · exact moves rfl next
    · cases next
      exact .spuriousComm
    all_goals exact proxyStep_stepDispatcher next

end ProxyState

end Sawang

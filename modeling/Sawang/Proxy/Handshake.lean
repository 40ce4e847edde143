import Sawang.Foundation.History
import Sawang.Proxy.Layers

/-!
# Acknowledged and confirmed requests

The channel thread acknowledges a request and waits for the dispatcher to confirm
it.  The wait is not repeated when it returns early: a thread that wakes while
the segment still says `CHANNEL_ACKNOWLEDGED` goes back to its loop, and the
confirmation of a dispatcher that has seen the acknowledgement comes too late.
-/

namespace Sawang

open Board History ProxyState

namespace Channel

/-- The thread waits for the confirmation of a request it could read. -/
def awaits (channel : Channel) : Bool :=
  match channel.position with
  | .acknowledgeWait (some _) => true
  | _ => false

/-- The thread is past its last request. -/
def Closing (channel : Channel) : Prop :=
  channel.position = .finished ∨
    (channel.ended = true ∧ channel.position ≠ .idleWait)

/-- No exchange is going on, as far as the dispatcher can tell. -/
def Open (channel : Channel) : Prop :=
  channel.state ≠ .acknowledged ∧ channel.state ≠ .done ∧ owed channel.handshake = none

instance (channel : Channel) : Decidable channel.Open :=
  inferInstanceAs (Decidable (_ ∧ _ ∧ _))

end Channel

namespace ProxyState

/-- The dispatcher uses new request ids, confirms each request it saw acknowledged
with one `CHANNEL_DONE` and a signal, and writes nothing else in an exchange. -/
def KeepsHandshake (state : ProxyState) : Action → Prop
  | .request rid _ | .rest rid _ =>
      .requested rid ∉ state.channel.handshake ∧ state.channel.Open
  | .channelState written signal =>
      if written = .done then owed state.channel.handshake ≠ none ∧ signal = true
      else written ≠ .acknowledged ∧ state.channel.Open
  | _ => True

instance (state : ProxyState) : (action : Action) → Decidable (state.KeepsHandshake action)
  | .request rid _ | .rest rid _ => inferInstanceAs (Decidable
      (.requested rid ∉ state.channel.handshake ∧ state.channel.Open))
  | .channelState written signal => inferInstanceAs (Decidable
      (if written = .done then owed state.channel.handshake ≠ none ∧ signal = true
      else written ≠ .acknowledged ∧ state.channel.Open))
  | .channel _ | .comm _ | .reply _ | .proxyReply .. | .subscribe _ | .main | .sigterm
  | .sees | .subscribeState .. | .dies | .diesHoldingChannel | .diesHoldingSubscribe
  | .spuriousChannel | .spuriousAnswer | .spuriousSubscribe | .spuriousComm =>
      inferInstanceAs (Decidable True)

/-- The wait for a confirmation does not return between the dispatcher's look at
the acknowledgement and its `CHANNEL_DONE`. -/
def WaitsForDone (state : ProxyState) : Action → Prop
  | .channel _ => state.channel.awaits = true → state.channel.state = .acknowledged →
      state.channel.ownerDead = false → owed state.channel.handshake = none
  | _ => True

instance (state : ProxyState) : (action : Action) → Decidable (state.WaitsForDone action)
  | .channel _ => inferInstanceAs (Decidable
      (state.channel.awaits = true → state.channel.state = .acknowledged →
        state.channel.ownerDead = false → owed state.channel.handshake = none))
  | .comm _ | .reply _ | .proxyReply .. | .subscribe _ | .main | .sigterm | .request ..
  | .rest .. | .channelState .. | .sees | .subscribeState .. | .dies | .diesHoldingChannel
  | .diesHoldingSubscribe | .spuriousChannel | .spuriousAnswer | .spuriousSubscribe
  | .spuriousComm => inferInstanceAs (Decidable True)

/-- Exactly one thing has happened for the request: it was refused and is in
neither table, or it was registered under one key and queued under that key. -/
def TakenOnce (env : Environment) (state : ProxyState) (rid : String) : Prop :=
  (∃ status, effects rid state.board.history = [.rejected rid status] ∧
    invalidStatusReply env rid status ∈
      state.delivery.posted.map QueuedReply.toReplyQueueTask ∧
    ∀ taskKey, rid ∉ state.board.singleshot.uuids taskKey ∧
      rid ∉ state.board.multirespond.uuids taskKey) ∨
  ∃ task unsubscribe, task.rid = rid ∧
    (effects rid state.board.history).Perm
      [.registered task.type task.taskKey rid unsubscribe, .enqueued task]

/-- Before the channel thread accepts a further request, a confirmed one has taken
effect exactly once. -/
def EffectsOnce (env : Environment) (state : ProxyState) : Prop :=
  ∀ rid next, Follows state.channel.handshake (.accepted next) (.done rid) →
    state.TakenOnce env rid

end ProxyState

/-- The two sides of the handshake, the table of ids and the effects fit. -/
structure Handshaken (env : Environment) (state : ProxyState) : Prop where
  wellformed : Wellformed env state.board
  idle : state.channel.position ≠ .job → state.board.job = []
  fresh : state.channel.awaits = true ∨ state.channel.state = .request →
    state.channel.rid ∉ state.board.confirmed ∧
      .requested state.channel.rid ∈ state.channel.handshake
  requested : ∀ rid ∈ state.board.confirmed, .requested rid ∈ state.channel.handshake
  acknowledged : state.channel.state = .acknowledged →
    state.channel.awaits = true ∨ state.channel.position = .loop ∨
      state.channel.position = .finished
  owes : ∀ rid, owed state.channel.handshake = some rid →
    state.channel.Closing ∨ (state.channel.awaits = true ∧
      state.channel.state = .acknowledged ∧ state.channel.rid = rid)
  done : ∀ rid, .done rid ∈ state.channel.handshake →
    rid ∈ state.board.confirmed ∨ state.channel.Closing ∨
      (state.channel.awaits = true ∧ state.channel.state = .done ∧
        state.channel.rid = rid)
  settled : ∀ rid next, Follows state.channel.handshake (.accepted next) (.done rid) →
    rid ∈ state.board.confirmed ∧ Outcome rid (effects rid state.board.history)

/-! ## What the board does meanwhile -/

/-- Only the channel thread confirms. -/
theorem confirmed_step {env : Environment} {before after : Board} {action : Move}
    (step : BoardStep env before action after)
    (unconfirmed : ∀ exchange rid, action ≠ .confirm exchange rid) :
    after.confirmed = before.confirmed := by
  cases step with
  | confirm idle => exact absurd rfl (unconfirmed _ _)
  | _ => rfl

theorem confirmed_confirm {env : Environment} {before after : Board}
    {exchange : Exchange} {rid : String}
    (step : BoardStep env before (.confirm exchange rid) after) :
    after.confirmed = rid :: before.confirmed := by
  cases step with
  | confirm idle => rfl
  | crash may => cases may

/-! ## The invariant -/

namespace Handshaken

variable {env : Environment} {before after : ProxyState}

theorem initial (env : Environment) : Handshaken env ProxyState.initial where
  wellformed := wellformed_initial env
  idle := fun _ => rfl
  fresh := by
    rintro (awaits | asked)
    · cases awaits
    · cases asked
  requested := by
    intro rid member
    cases member
  acknowledged := by
    intro state
    cases state
  owes := by
    intro rid owes
    cases owes
  done := by
    intro rid member
    cases member
  settled := by
    intro rid next follows
    exact absurd follows not_follows_nil

/-- A thread that is not waiting for a confirmation has settled every confirmed
request, or is past its last one. -/
theorem done_of_not_awaits (kept : Handshaken env before)
    (elsewhere : before.channel.awaits = false) {rid : String}
    (member : .done rid ∈ before.channel.handshake) :
    rid ∈ before.board.confirmed ∨ before.channel.Closing := by
  rcases kept.done rid member with confirmed | closing | ⟨awaits, _⟩
  · exact Or.inl confirmed
  · exact Or.inr closing
  · rw [elsewhere] at awaits
    cases awaits

theorem owes_of_not_awaits (kept : Handshaken env before)
    (elsewhere : before.channel.awaits = false) {rid : String}
    (owes : owed before.channel.handshake = some rid) : before.channel.Closing := by
  rcases kept.owes rid owes with closing | ⟨awaits, _⟩
  · exact closing
  · rw [elsewhere] at awaits
    cases awaits

/-- Steps that leave the handshake alone. -/
private theorem frame (kept : Handshaken env before)
    (board : after.board = before.board ∨ ∃ move,
      (∀ exchange rid, move ≠ .confirm exchange rid) ∧
        (move = .channel → before.channel.position = .job) ∧
        before.board.move env move = some after.board)
    {wakeup ownerDead : Bool}
    (channel : after.channel = { before.channel with
      wakeup := wakeup, ownerDead := ownerDead }) : Handshaken env after := by
  have facts : Wellformed env after.board ∧
      after.board.confirmed = before.board.confirmed ∧
      (before.channel.position ≠ .job → after.board.job = []) ∧
      ∀ rid, Outcome rid (effects rid before.board.history) →
        Outcome rid (effects rid after.board.history) := by
    rcases board with same | ⟨move, unconfirmed, working, moved⟩
    · rw [same]
      exact ⟨kept.wellformed, rfl, kept.idle, fun _ outcome => outcome⟩
    · have step := boardStep_of_move moved
      have fresh : before.board.Fresh move := by
        cases move with
        | confirm exchange rid => exact absurd rfl (unconfirmed exchange rid)
        | _ => trivial
      refine ⟨wellformed_step kept.wellformed fresh step,
        confirmed_step step unconfirmed, ?_, ?_⟩
      · intro position
        rw [job_step step unconfirmed (fun own => position (working own))]
        exact kept.idle position
      · intro rid outcome
        exact outcome.step kept.wellformed.ledger step
  obtain ⟨wellformed, confirmed, idle, settled⟩ := facts
  refine ⟨wellformed, ?_, ?_, ?_, ?_, ?_, ?_, ?_⟩ <;> rw [channel]
  · exact idle
  · rw [confirmed]
    exact kept.fresh
  · rw [confirmed]
    exact kept.requested
  · exact kept.acknowledged
  · exact kept.owes
  · rw [confirmed]
    exact kept.done
  · intro rid next follows
    obtain ⟨member, outcome⟩ := kept.settled rid next follows
    rw [confirmed]
    exact ⟨member, settled rid outcome⟩

/-- The channel thread leaves a wait or its job: back to its loop, unless it owes
the dispatcher a reaction, or for good. -/
private theorem leave (kept : Handshaken env before) {position : ChannelPosition}
    {ownerDead proxyExit : Bool} (active : before.channel.position ≠ .finished)
    (free : before.board.job = [])
    (exit : position = .finished ∨ position = .loop ∧
      (∀ rid, owed before.channel.handshake = some rid → before.channel.Closing) ∧
      (before.channel.awaits = true → before.channel.state ≠ .done)) :
    Handshaken env { before with
      proxyExit := proxyExit
      channel := { before.channel with position := position, ownerDead := ownerDead } } := by
  have elsewhere : position ≠ .idleWait := by
    rcases exit with rfl | ⟨rfl, _⟩ <;> simp
  have stopped : position = .finished ∨ position = .loop :=
    exit.imp_right And.left
  have closes : ∀ {channel : Channel}, channel.position = position →
      channel.ended = before.channel.ended → before.channel.Closing →
      channel.Closing := by
    intro channel here ended closing
    rcases closing with finished | ⟨past, _⟩
    · exact absurd finished active
    · exact Or.inr ⟨ended.trans past, here ▸ elsewhere⟩
  have silent : ∀ {channel : Channel}, channel.position = position →
      channel.awaits = false := by
    intro channel here
    unfold Channel.awaits
    rw [here]
    rcases stopped with rfl | rfl <;> rfl
  refine ⟨kept.wellformed, fun _ => free, ?_, kept.requested, ?_, ?_, ?_, kept.settled⟩
  · rintro (awaits | asked)
    · rw [silent rfl] at awaits
      cases awaits
    · exact kept.fresh (Or.inr asked)
  · intro _
    rcases stopped with rfl | rfl
    · exact Or.inr (Or.inr rfl)
    · exact Or.inr (Or.inl rfl)
  · intro rid owes
    rcases exit with rfl | ⟨_, owing, _⟩
    · exact Or.inl (Or.inl rfl)
    · exact Or.inl (closes rfl rfl (owing rid owes))
  · intro rid member
    rcases kept.done rid member with confirmed | closing | ⟨awaits, state, _⟩
    · exact Or.inl confirmed
    · exact Or.inr (Or.inl (closes rfl rfl closing))
    · rcases exit with rfl | ⟨_, _, undone⟩
      · exact Or.inr (Or.inl (Or.inl rfl))
      · exact absurd state (undone awaits)

/-- The thread was not waiting for a confirmation. -/
private theorem leave_elsewhere (kept : Handshaken env before) {proxyExit : Bool}
    (active : before.channel.position ≠ .finished) (free : before.board.job = [])
    (elsewhere : before.channel.awaits = false) :
    Handshaken env { before with
      proxyExit := proxyExit, channel := { before.channel with position := .loop } } := by
  refine kept.leave active free (Or.inr ⟨rfl, ?_, ?_⟩)
  · intro rid owes
    exact kept.owes_of_not_awaits elsewhere owes
  · intro awaits
    rw [elsewhere] at awaits
    cases awaits

/-- At the start of a wait for a request every confirmed one is settled. -/
private theorem confirmed_of_idle (kept : Handshaken env before)
    (position : before.channel.position = .idleWait) {rid : String}
    (member : .done rid ∈ before.channel.handshake) : rid ∈ before.board.confirmed := by
  have elsewhere : before.channel.awaits = false := by
    simp [Channel.awaits, position]
  rcases kept.done_of_not_awaits elsewhere member with confirmed | finished | ⟨_, awake⟩
  · exact confirmed
  · rw [position] at finished
    cases finished
  · exact absurd position awake

private theorem owed_of_idle (kept : Handshaken env before)
    (position : before.channel.position = .idleWait) :
    owed before.channel.handshake = none := by
  have elsewhere : before.channel.awaits = false := by
    simp [Channel.awaits, position]
  by_contra owes
  obtain ⟨rid, owing⟩ := Option.ne_none_iff_exists'.mp owes
  rcases kept.owes_of_not_awaits elsewhere owing with finished | ⟨_, awake⟩
  · rw [position] at finished
    cases finished
  · exact awake position

/-- The thread waits for a request again. -/
private theorem shmIdle (kept : Handshaken env before)
    (position : before.channel.position = .loop)
    (running : before.channel.ended = false) :
    Handshaken env { before with channel := before.channel.shmIdle } := by
  have elsewhere : before.channel.awaits = false := by
    simp [Channel.awaits, position]
  have open_ : ¬before.channel.Closing := by
    rintro (finished | ⟨ended, _⟩)
    · rw [position] at finished
      cases finished
    · rw [running] at ended
      cases ended
  refine ⟨kept.wellformed, fun _ => kept.idle (by simp [position]), ?_, kept.requested, ?_,
    ?_, ?_, kept.settled⟩
  · rintro (awaits | asked)
    · cases awaits
    · cases asked
  · intro state
    cases state
  · intro rid owes
    exact absurd (kept.owes_of_not_awaits elsewhere owes) open_
  · intro rid member
    rcases kept.done_of_not_awaits elsewhere member with confirmed | closing
    · exact Or.inl confirmed
    · exact absurd closing open_

/-- The thread accepts a request: whatever was confirmed has been settled. -/
private theorem accept (kept : Handshaken env before) {written : ProxyChannelState}
    {exchange : Option Exchange} (position : before.channel.position = .idleWait)
    (asked : before.channel.state = .request)
    (fits : written = .acknowledged ∧ exchange ≠ none ∨ written = .fails ∧ exchange = none) :
    Handshaken env { before with channel := before.channel.accept written exchange } := by
  have free : before.board.job = [] := kept.idle (by simp [position])
  refine ⟨kept.wellformed, fun _ => free, ?_, ?_, ?_, ?_, ?_, ?_⟩
  · intro _
    exact (kept.fresh (Or.inr asked)).imp_right (List.mem_cons_of_mem _)
  · intro rid member
    exact List.mem_cons_of_mem _ (kept.requested rid member)
  · intro acknowledged
    rcases fits with ⟨_, readable⟩ | ⟨failed, _⟩
    · obtain ⟨request, readable⟩ := Option.ne_none_iff_exists'.mp readable
      subst readable
      exact Or.inl rfl
    · have same : written = .acknowledged := acknowledged
      rw [failed] at same
      cases same
  · intro rid owes
    have none := kept.owed_of_idle position
    change owed before.channel.handshake = some rid at owes
    rw [none] at owes
    cases owes
  · intro rid member
    rcases List.mem_cons.mp member with new | old
    · cases new
    · exact Or.inl (kept.confirmed_of_idle position old)
  · intro rid next follows
    rcases follows_cons_iff.mp follows with ⟨_, member⟩ | old
    · have confirmed := kept.confirmed_of_idle position member
      refine ⟨confirmed, ?_⟩
      cases kept.wellformed.ledger.progress with
      | idle _ settled => exact settled rid confirmed
      | busy current _ stage _ =>
          rw [free] at stage
          cases stage
    · exact kept.settled rid next old

private theorem rest (kept : Handshaken env before)
    (position : before.channel.position = .idleWait) :
    Handshaken env
      { before with channel := before.channel.answer .restRespond .restWait } := by
  refine ⟨kept.wellformed, fun _ => kept.idle (by simp [position]), ?_, kept.requested, ?_,
    ?_, ?_, kept.settled⟩
  · rintro (awaits | asked)
    · cases awaits
    · cases asked
  · intro state
    cases state
  · intro rid owes
    have none := kept.owed_of_idle position
    change owed before.channel.handshake = some rid at owes
    rw [none] at owes
    cases owes
  · intro rid member
    exact Or.inl (kept.confirmed_of_idle position member)

/-- The thread finds its request confirmed. -/
private theorem confirm (kept : Handshaken env before) {exchange : Exchange} {board : Board}
    (position : before.channel.position = .acknowledgeWait (some exchange))
    (state : before.channel.state = .done)
    (moved : before.board.move env (.confirm exchange before.channel.rid) = some board) :
    Handshaken env { before with
      board := board, channel := { before.channel with position := .job } } := by
  have step := boardStep_of_move moved
  have awaits : before.channel.awaits = true := by
    simp [Channel.awaits, position]
  obtain ⟨new, requested⟩ := kept.fresh (Or.inl awaits)
  have fresh : before.board.Fresh (.confirm exchange before.channel.rid) := new
  have confirmed := confirmed_confirm step
  have closes : before.channel.Closing →
      Channel.Closing { before.channel with position := .job } := by
    rintro (finished | ⟨ended, _⟩)
    · rw [position] at finished
      cases finished
    · exact Or.inr ⟨ended, by simp⟩
  refine ⟨wellformed_step kept.wellformed fresh step, fun busy => absurd rfl busy, ?_, ?_, ?_,
    ?_, ?_, ?_⟩
  · rintro (awaits | asked)
    · cases awaits
    · rw [state] at asked
      cases asked
  · intro rid member
    rw [confirmed] at member
    rcases List.mem_cons.mp member with rfl | old
    · exact requested
    · exact kept.requested rid old
  · intro acknowledged
    rw [state] at acknowledged
    cases acknowledged
  · intro rid owes
    rcases kept.owes rid owes with closing | ⟨_, acknowledged, _⟩
    · exact Or.inl (closes closing)
    · rw [state] at acknowledged
      cases acknowledged
  · intro rid member
    rw [confirmed]
    rcases kept.done rid member with old | closing | ⟨_, _, same⟩
    · exact Or.inl (List.mem_cons_of_mem _ old)
    · exact Or.inr (Or.inl (closes closing))
    · rw [same]
      exact Or.inl List.mem_cons_self
  · intro rid next follows
    obtain ⟨member, outcome⟩ := kept.settled rid next follows
    rw [confirmed]
    exact ⟨List.mem_cons_of_mem _ member, outcome.step kept.wellformed.ledger step⟩

/-- `proxy_channel_stop`. -/
private theorem stop (kept : Handshaken env before) {main : MainPosition} :
    Handshaken env { before with
      channel := { before.channel with
        ownerDead := false, state := .termination, ended := true, wakeup := true }
      main := main } := by
  have closes : before.channel.awaits = true ∨ before.channel.Closing →
      Channel.Closing { before.channel with
        ownerDead := false, state := .termination, ended := true, wakeup := true } := by
    rintro (awaits | finished | ⟨_, awake⟩)
    · refine Or.inr ⟨rfl, ?_⟩
      intro idle
      have here : before.channel.position = .idleWait := idle
      simp [Channel.awaits, here] at awaits
    · exact Or.inl finished
    · exact Or.inr ⟨rfl, awake⟩
  refine ⟨kept.wellformed, kept.idle, ?_, kept.requested, ?_, ?_, ?_, kept.settled⟩
  · rintro (awaits | asked)
    · exact kept.fresh (Or.inl awaits)
    · cases asked
  · intro state
    cases state
  · intro rid owes
    rcases kept.owes rid owes with closing | ⟨awaits, _⟩
    · exact Or.inl (closes (Or.inr closing))
    · exact Or.inl (closes (Or.inl awaits))
  · intro rid member
    rcases kept.done rid member with confirmed | closing | ⟨awaits, _⟩
    · exact Or.inl confirmed
    · exact Or.inr (Or.inl (closes (Or.inr closing)))
    · exact Or.inr (Or.inl (closes (Or.inl awaits)))

/-- The dispatcher asks with a new id. -/
private theorem request (kept : Handshaken env before) {written : ProxyChannelState}
    {rid : String} {signal : Bool}
    (asks : written = .request ∨ written = .rest)
    (new : .requested rid ∉ before.channel.handshake) (open_ : before.channel.Open) :
    Handshaken env { before with
      channel := signalChannel signal (writeRequest written rid before.channel) } := by
  obtain ⟨_, undone, unowed⟩ := open_
  refine ⟨kept.wellformed, kept.idle, ?_, ?_, ?_, ?_, ?_, ?_⟩
  · intro _
    refine ⟨?_, List.mem_cons_self⟩
    intro member
    exact new (kept.requested rid member)
  · intro other member
    exact List.mem_cons_of_mem _ (kept.requested other member)
  · intro acknowledged
    have same : written = .acknowledged := acknowledged
    rw [same] at asks
    rcases asks with impossible | impossible <;> cases impossible
  · intro other owes
    change owed before.channel.handshake = some other at owes
    rw [unowed] at owes
    cases owes
  · intro other member
    rcases List.mem_cons.mp member with new | old
    · cases new
    · rcases kept.done other old with confirmed | closing | ⟨_, done, _⟩
      · exact Or.inl confirmed
      · exact Or.inr (Or.inl closing)
      · exact absurd done undone
  · intro other next follows
    rcases follows_cons_iff.mp follows with ⟨new, _⟩ | old
    · cases new
    · exact kept.settled other next old

/-- The dispatcher confirms the request it saw acknowledged. -/
private theorem writeDone (kept : Handshaken env before) {rid : String} {signal : Bool}
    (owes : owed before.channel.handshake = some rid) :
    Handshaken env { before with
      channel := signalChannel signal { before.channel with
        state := .done, handshake := .done rid :: before.channel.handshake } } := by
  refine ⟨kept.wellformed, kept.idle, ?_, ?_, ?_, ?_, ?_, ?_⟩
  · rintro (awaits | asked)
    · exact (kept.fresh (Or.inl awaits)).imp_right (List.mem_cons_of_mem _)
    · cases asked
  · intro other member
    exact List.mem_cons_of_mem _ (kept.requested other member)
  · intro acknowledged
    cases acknowledged
  · intro other still
    cases still
  · intro other member
    rcases List.mem_cons.mp member with new | old
    · cases new
      rcases kept.owes rid owes with closing | ⟨awaits, _, same⟩
      · exact Or.inr (Or.inl closing)
      · exact Or.inr (Or.inr ⟨awaits, rfl, same⟩)
    · rcases kept.done other old with confirmed | closing | ⟨awaits, _, same⟩
      · exact Or.inl confirmed
      · exact Or.inr (Or.inl closing)
      · exact Or.inr (Or.inr ⟨awaits, rfl, same⟩)
  · intro other next follows
    rcases follows_cons_iff.mp follows with ⟨new, _⟩ | old
    · cases new
    · exact kept.settled other next old

/-- The dispatcher writes another state outside an exchange. -/
private theorem writeOther (kept : Handshaken env before) {written : ProxyChannelState}
    {signal : Bool} (plain : written ≠ .request) (unacknowledged : written ≠ .acknowledged)
    (open_ : before.channel.Open) :
    Handshaken env { before with
      channel := signalChannel signal { before.channel with state := written } } := by
  obtain ⟨_, undone, unowed⟩ := open_
  refine ⟨kept.wellformed, kept.idle, ?_, kept.requested, ?_, ?_, ?_, kept.settled⟩
  · rintro (awaits | asked)
    · exact kept.fresh (Or.inl awaits)
    · exact absurd asked plain
  · intro acknowledged
    exact absurd acknowledged unacknowledged
  · intro rid owes
    change owed before.channel.handshake = some rid at owes
    rw [unowed] at owes
    cases owes
  · intro rid member
    rcases kept.done rid member with confirmed | closing | ⟨_, done, _⟩
    · exact Or.inl confirmed
    · exact Or.inr (Or.inl closing)
    · exact absurd done undone

/-- The dispatcher finds the acknowledgement. -/
private theorem sees (kept : Handshaken env before) {signal : Bool}
    (acknowledged : before.channel.state = .acknowledged)
    (free : before.channel.holdsLock = false) :
    Handshaken env
      { before with channel := signalChannel signal (see before.channel) } := by
  refine ⟨kept.wellformed, kept.idle, ?_, ?_, kept.acknowledged, ?_, ?_, ?_⟩
  · intro fresh
    exact (kept.fresh fresh).imp_right (List.mem_cons_of_mem _)
  · intro rid member
    exact List.mem_cons_of_mem _ (kept.requested rid member)
  · intro rid owes
    have same : before.channel.rid = rid := Option.some.inj owes
    rcases kept.acknowledged acknowledged with awaits | loop | finished
    · exact Or.inr ⟨awaits, acknowledged, same⟩
    · simp [Channel.holdsLock, loop] at free
    · exact Or.inl (Or.inl finished)
  · intro rid member
    rcases List.mem_cons.mp member with new | old
    · cases new
    · exact kept.done rid old
  · intro rid next follows
    rcases follows_cons_iff.mp follows with ⟨new, _⟩ | old
    · cases new
    · exact kept.settled rid next old

/-- A thread that returns to its loop has taken a confirmed request. -/
private theorem channelReturn {input : ChannelInput} {proxyExit : Bool}
    (kept : Handshaken env before) (waits : before.WaitsForDone (.channel input))
    (returns : before.channel.Returns) :
    Handshaken env { before with
      proxyExit := proxyExit, channel := { before.channel with position := .loop } } := by
  have active := returns.waits.not_finished
  have free := kept.idle returns.waits.not_job
  cases returns with
  | idle position alive unasked =>
      exact kept.leave_elsewhere active free (by simp [Channel.awaits, position])
  | unconfirmed position alive undone =>
      refine kept.leave active free (Or.inr ⟨rfl, ?_, ?_⟩)
      · -- an early return owes nothing
        intro rid owing
        rcases kept.owes rid owing with closing | ⟨awaits, acknowledged, _⟩
        · exact closing
        · rw [waits awaits acknowledged alive] at owing
          cases owing
      · intro awaits
        rcases undone.2 with unreadable | notDone
        · simp [Channel.awaits, position, unreadable] at awaits
        · exact notDone
  | answered position =>
      exact kept.leave_elsewhere active free (by simp [Channel.awaits, position])

private theorem channelFinish {ownerDead : Bool} (kept : Handshaken env before)
    (ends : before.channel.Ends) :
    Handshaken env { before with channel := { before.channel with
      ownerDead := ownerDead, position := .finished } } :=
  kept.leave ends.waits.not_finished (kept.idle ends.waits.not_job) (Or.inl rfl)

private theorem write {written : ProxyChannelState} {signal : Bool}
    (kept : Handshaken env before) (keeps : before.KeepsHandshake (.channelState written signal))
    (plain : written ≠ .request ∧ written ≠ .rest) :
    Handshaken env { before with
      channel := signalChannel signal (writeState written before.channel) } := by
  dsimp only [KeepsHandshake] at keeps
  by_cases done : written = .done
  · subst done
    rw [if_pos rfl] at keeps
    obtain ⟨rid, owes⟩ := Option.ne_none_iff_exists'.mp keeps.1
    have written : writeState .done before.channel = { before.channel with
        state := .done, handshake := .done rid :: before.channel.handshake } := by
      simp [writeState, owes]
    rw [written]
    exact kept.writeDone owes
  · rw [if_neg done] at keeps
    have unchanged : writeState written before.channel =
        { before.channel with state := written } := by
      cases written <;> first | rfl | exact absurd rfl done
    rw [unchanged]
    exact kept.writeOther plain.1 keeps.1 keeps.2

theorem step {action : Action} (kept : Handshaken env before)
    (keeps : before.KeepsHandshake action) (waits : before.WaitsForDone action)
    (step : ProxyStep env before action after) : Handshaken env after := by
  cases step with
  | perform chosen unconfirmed busy performed =>
      obtain ⟨moved, _, channel⟩ := perform_cases performed
      refine kept.frame (Or.inr ⟨_, unconfirmed, ?_, moved⟩) channel
      rintro rfl
      exact position_of_boardMove chosen
  | channelEnd position ended =>
      exact kept.leave (by simp [position]) (kept.idle (by simp [position])) (Or.inl rfl)
  | channelIdle position running => exact kept.shmIdle position running
  | channelFinish ownerDead woken ends => exact kept.channelFinish ends
  | channelReturn proxyExit woken returns => exact kept.channelReturn waits returns
  | channelAccept written exchange position woken asked fits =>
      exact kept.accept position asked fits
  | channelRest position woken asked => exact kept.rest position
  | confirm position woken done moved => exact kept.confirm position done moved
  | jobDone position empty =>
      exact kept.leave_elsewhere (by simp [position]) empty
        (by simp [Channel.awaits, position])
  | stopChannel position free => exact kept.stop
  | request written rid signal asks free alive =>
      rcases asks with ⟨rfl, rfl⟩ | ⟨rfl, rfl⟩
      · exact kept.request (Or.inl rfl) keeps.1 keeps.2
      · exact kept.request (Or.inr rfl) keeps.1 keeps.2
  | write plain free alive => exact kept.write keeps plain
  | sees acknowledged free alive => exact kept.sees acknowledged free
  | _ => exact kept.frame (Or.inl rfl) rfl

end Handshaken

theorem handshaken_of_reaches {env : Environment} {state : ProxyState}
    (reached : Runs.Reaches (ProxyState.step env)
      (fun state action => state.KeepsHandshake action ∧ state.WaitsForDone action)
      .initial state) : Handshaken env state := by
  apply reached.invariant (.initial env)
  intro before action after kept allowed next
  exact kept.step allowed.1 allowed.2 (proxyStep_of_step next)

/-- An outcome is one effect, and a refused id is in no table. -/
theorem Handshaken.takenOnce {env : Environment} {state : ProxyState} {rid : String}
    (kept : Handshaken env state) (posted : state.Posted env)
    (outcome : Outcome rid (effects rid state.board.history)) :
    state.TakenOnce env rid := by
  have ledger := kept.wellformed.ledger
  have recorded : ∀ {event : Event}, event ∈ effects rid state.board.history →
      event ∈ state.board.history := fun member => (mem_effects_iff.mp member).1
  have registered : ∀ {type : RespondTableType} {taskKey : String} {unsubscribe : Bool},
      .registered type taskKey rid unsubscribe ∈ state.board.history →
      .registered type taskKey rid unsubscribe ∈ effects rid state.board.history :=
    fun member => mem_effects_iff.mpr ⟨member, beq_self_eq_true rid⟩
  unfold TakenOnce
  generalize effects rid state.board.history = known at outcome recorded registered ⊢
  cases outcome with
  | rejected status =>
      refine Or.inl ⟨status, rfl, ?_, ?_⟩
      · unfold Posted at posted
        rw [posted, List.mem_reverse]
        exact List.mem_filterMap.mpr ⟨_, recorded List.mem_cons_self, rfl⟩
      · intro taskKey
        constructor
        · intro listed
          obtain ⟨unsubscribe, member⟩ := ledger.singleshot taskKey rid listed
          simpa using registered member
        · intro listed
          simpa using registered (ledger.multirespond taskKey rid listed)
  | @queued type taskKey task own key kind normal =>
      subst key kind
      exact Or.inr ⟨task, false, own, List.Perm.swap _ _ _⟩
  | @unsubscribed taskKey task own key kind drops =>
      subst key
      refine Or.inr ⟨task, true, own, ?_⟩
      rw [kind]

/-- In every run in which the dispatcher keeps the handshake and the wait for its
confirmation does not return early. -/
theorem confirmed_takes_effect_once {env : Environment} {state : ProxyState}
    (reached : Runs.Reaches (ProxyState.step env)
      (fun state action => state.KeepsHandshake action ∧ state.WaitsForDone action)
      .initial state) : state.EffectsOnce env := by
  have kept := handshaken_of_reaches reached
  intro rid next follows
  exact kept.takenOnce (posted_of_reaches reached) (kept.settled rid next follows).2

/-- A run in which a request is refused after its confirmation and another one is
accepted then. -/
theorem confirmed_takes_effect_once_refused :
    ∃ state : ProxyState,
      Follows state.channel.handshake (.accepted "r2") (.done "r1") ∧
        state.TakenOnce .reference "r1" := by
  obtain ⟨state, reached, tested⟩ :=
    Runs.reaches_of_execute_test (ProxyState.step .reference)
      (fun state action => state.KeepsHandshake action ∧ state.WaitsForDone action)
      (ProxyState.requestActions "s" (.object []) .invalid false "r1" 4 ++
        ProxyState.requestActions "s" (.object []) .singleshot false "r2" 0)
      .initial
      (fun state => decide (state.channel.handshake =
        [.done "r2", .seen "r2", .accepted "r2", .requested "r2",
          .done "r1", .seen "r1", .accepted "r1", .requested "r1"]))
      (by decide +kernel)
  have handshake := of_decide_eq_true tested
  have follows : Follows state.channel.handshake (.accepted "r2") (.done "r1") := by
    rw [handshake]
    refine Follows.cons _ (Follows.cons _ (follows_head ?_))
    simp
  exact ⟨state, follows, confirmed_takes_effect_once reached "r1" "r2" follows⟩

/-- The wait of the channel thread returns without a signal after the dispatcher
has seen the acknowledgement. -/
theorem confirmed_without_effect :
    ¬∀ state, Runs.Reaches (ProxyState.step .reference) ProxyState.KeepsHandshake
        .initial state → state.EffectsOnce .reference := by
  intro always
  obtain ⟨state, reached, tested⟩ :=
    Runs.reaches_of_execute_test (ProxyState.step .reference) ProxyState.KeepsHandshake
      ((ProxyState.requestActions "s" (.object []) .singleshot false "r1" 0).take 4 ++
        [.spuriousChannel, ProxyState.channelStep, ProxyState.channelStep,
          .channelState .done true, ProxyState.channelStep] ++
        (ProxyState.requestActions "s" (.object []) .singleshot false "r2" 0).take 3)
      .initial
      (fun state => decide (
        state.channel.handshake =
          [.accepted "r2", .requested "r2", .done "r1", .seen "r1", .accepted "r1",
            .requested "r1"] ∧
        (effects "r1" state.board.history).length = 0))
      (by decide +kernel)
  obtain ⟨handshake, silent⟩ := of_decide_eq_true tested
  have follows : Follows state.channel.handshake (.accepted "r2") (.done "r1") := by
    rw [handshake]
    exact follows_head (by simp)
  rcases always state reached "r1" "r2" follows with ⟨_, refused, _⟩ | ⟨_, _, _, taken⟩
  · rw [refused] at silent
    cases silent
  · rw [taken.length_eq] at silent
    cases silent

end Sawang

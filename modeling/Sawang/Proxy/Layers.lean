import Sawang.Board.Calls
import Sawang.Delivery.Step
import Sawang.Foundation.Runs
import Sawang.Proxy.Step

/-!
# The proxy refines its parts

Seen from the board, every step of the proxy is a move of the board or changes
nothing; the same holds of the delivery of replies.  Invariants of the parts are
therefore invariants of the proxy.
-/

namespace Sawang

namespace ProxyState

/-- A discipline of the board, asked of the steps of the proxy. -/
def Lifted (allowed : Board → Board.Move → Prop) (state : ProxyState) (action : Action) :
    Prop :=
  ∀ move ∈ state.boardMove action, allowed state.board move

instance {allowed : Board → Board.Move → Prop}
    [∀ board move, Decidable (allowed board move)]
    (state : ProxyState) (action : Action) : Decidable (Lifted allowed state action) :=
  match chosen : state.boardMove action with
  | none => isTrue (by
      intro move member
      rw [chosen] at member
      cases member)
  | some move =>
      decidable_of_iff (allowed state.board move) (by
        unfold Lifted
        rw [chosen]
        simp)

/-- What performing a move does to the parts. -/
theorem perform_cases {env : Environment} {action : Board.Move}
    {before after : ProxyState} (performed : before.perform env action = some after) :
    before.board.move env action = some after.board ∧
      (after.delivery = before.delivery ∨
        ∃ move, before.delivery.move move = some after.delivery) ∧
      after.channel = before.channel := by
  obtain ⟨board, moved, changed⟩ := performed_of_perform performed
  cases changed with
  | quiet effect => exact ⟨moved, Or.inl rfl, rfl⟩
  | @appends reply effect => exact ⟨moved, Or.inr ⟨.append reply, rfl⟩, rfl⟩
  | awakesSubscribe effect free =>
      exact ⟨moved, Or.inr ⟨.awake, by simp [Delivery.move, free]⟩, rfl⟩
  | awakesComm effect free => exact ⟨moved, Or.inl rfl, rfl⟩

/-- What a step does to the board and to the delivery. -/
structure Refines (env : Environment) (action : Action) (before after : ProxyState) :
    Prop where
  board : after.board = before.board ∨
    ∃ move ∈ before.boardMove action, before.board.move env move = some after.board
  delivery : after.delivery = before.delivery ∨
    ∃ move, before.delivery.move move = some after.delivery

/-- Every step of the proxy is a move of its parts. -/
theorem refines_of_step {env : Environment} {action : Action}
    {before after : ProxyState} (next : before.step env action = some after) :
    Refines env action before after := by
  cases proxyStep_of_step next with
  | perform chosen unconfirmed busy performed =>
      obtain ⟨board, delivery, _⟩ := perform_cases performed
      exact ⟨Or.inr ⟨_, chosen, board⟩, delivery⟩
  | confirm position woken done moved =>
      exact ⟨Or.inr ⟨_, by simp [boardMove, position], moved⟩, Or.inl rfl⟩
  | deliver chosen moved => exact ⟨Or.inl rfl, Or.inr ⟨_, moved⟩⟩
  | stopSubscribe position moved => exact ⟨Or.inl rfl, Or.inr ⟨_, moved⟩⟩
  | endSubscribe position moved => exact ⟨Or.inl rfl, Or.inr ⟨_, moved⟩⟩
  | diesHoldingSubscribe alive moved => exact ⟨Or.inl rfl, Or.inr ⟨_, moved⟩⟩
  | _ => exact ⟨Or.inl rfl, Or.inl rfl⟩

/-! ## Which thread moves what -/

/-- Only the channel thread works on its job. -/
theorem job_step {env : Environment} {before after : Board} {action : Board.Move}
    (step : BoardStep env before action after)
    (unconfirmed : ∀ exchange rid, action ≠ .confirm exchange rid)
    (elsewhere : action ≠ .channel) : after.job = before.job := by
  cases action with
  | confirm exchange rid => exact absurd rfl (unconfirmed exchange rid)
  | channel => exact absurd rfl elsewhere
  | comm input => cases step <;> rfl
  | reply index => cases step <;> rfl
  | proxyReply arg headers payload => cases step <;> rfl
  | channelCrash =>
      cases step
      rfl

/-- Only the comm thread works on its task. -/
theorem work_step {env : Environment} {before after : Board} {action : Board.Move}
    (step : BoardStep env before action after) (elsewhere : ∀ input, action ≠ .comm input) :
    after.work = before.work := by
  cases action with
  | comm input => exact absurd rfl (elsewhere input)
  | confirm exchange rid => cases step <;> rfl
  | channel => cases step <;> rfl
  | reply index => cases step <;> rfl
  | proxyReply arg headers payload => cases step <;> rfl
  | channelCrash =>
      cases step
      rfl

/-- The channel thread works on its job where it stands in one. -/
theorem position_of_boardMove {state : ProxyState} {action : Action}
    (chosen : state.boardMove action = some .channel) :
    state.channel.position = .job := by
  cases action <;> simp only [boardMove] at chosen <;> try cases chosen
  split at chosen
  · cases chosen
  · cases chosen
  · assumption
  · cases chosen

theorem drain_of_boardMove {state : ProxyState} {action : Action} {input : Board.CommInput}
    (busy : ∀ input, action = .comm input → state.comm.position = .drain)
    (chosen : state.boardMove action = some (.comm input)) :
    state.comm.position = .drain := by
  cases action <;> simp only [boardMove] at chosen
  case channel => split at chosen <;> cases chosen
  case comm => exact busy _ rfl
  all_goals cases chosen

/-- A run of the proxy is a run of the board. -/
theorem board_reaches {env : Environment} {allowed : Board → Board.Move → Prop}
    {state : ProxyState}
    (reached : Runs.Reaches (step env) (Lifted allowed) initial state) :
    Runs.Reaches (Board.move env) allowed .initial state.board := by
  refine reached.project ProxyState.board ?_
  intro before action after permitted next
  rcases (refines_of_step next).board with same | ⟨move, chosen, moved⟩
  · exact Or.inl same
  · exact Or.inr ⟨move, permitted move chosen, moved⟩

/-- A run of the proxy is a run of the delivery. -/
theorem delivery_reaches {env : Environment}
    {admissible : ProxyState → Action → Prop} {state : ProxyState}
    (reached : Runs.Reaches (step env) admissible initial state) :
    Runs.Reaches Delivery.move Runs.unrestricted .initial state.delivery := by
  apply reached.project_unrestricted ProxyState.delivery
  intro before action after _ next
  exact (refines_of_step next).delivery

/-! ## Replies on the board and in the queue -/

/-- The reply an effect appends to the reply queue. -/
def replied : Board.Effect → List ReplyQueueTask
  | .replyQueueAppend reply => [reply]
  | .none | .subscribeAwake | .commAwake => []

/-- What a move records as a reply is what it appends to the queue. -/
theorem replies_move {env : Environment} {before after : Board} {action : Board.Move}
    (step : BoardStep env before action after) :
    after.replies env = replied (before.effect env action) ++ before.replies env := by
  have recorded : ∀ {event : Event} {board : Board}, board.history = before.history →
      (event.reply env).toList = replied (before.effect env action) →
      (board.record event).replies env =
        replied (before.effect env action) ++ before.replies env := by
    intro event board same effect
    rw [Board.replies_record, effect]
    unfold Board.replies
    rw [same]
  have silent : after.history = before.history →
      replied (before.effect env action) = [] →
      after.replies env = replied (before.effect env action) ++ before.replies env := by
    intro same effect
    rw [effect]
    unfold Board.replies
    rw [same, List.nil_append]
  cases step with
  | reject next => exact recorded rfl (by simp [Board.effect, next, replied, Event.reply])
  | append there position =>
      exact recorded rfl (by simp [Board.effect, there, position, replied, Event.reply])
  | channelAwake next awakes =>
      refine silent rfl ?_
      rcases awakes with rfl | rfl <;> simp [Board.effect, next, replied]
  | advance there passes =>
      refine silent rfl ?_
      rcases passes with ⟨from_, _⟩ | ⟨from_, _⟩ | ⟨_, from_, _⟩ | ⟨from_, _⟩ <;>
        simp [Board.effect, there, from_, replied]
  | foundSingleshot there position present =>
      exact silent rfl (by simp [Board.effect, there, position, replied])
  | foundMultirespond there position present =>
      exact silent rfl (by simp [Board.effect, there, position, replied])
  | dropRecipient there position =>
      exact silent rfl (by simp [Board.effect, there, position, replied])
  | crash may =>
      refine silent rfl ?_
      cases action with
      | comm input => rfl
      | channelCrash => rfl
      | _ => cases may
  | refuse next => exact silent rfl (by simp [Board.effect, next, replied])
  | accept next => exact silent rfl (by simp [Board.effect, next, replied])
  | subscribedBefore next => exact silent rfl (by simp [Board.effect, next, replied])
  | subscribed next => exact recorded rfl (by simp [Board.effect, next, replied, Event.reply])
  | registered next => exact recorded rfl (by simp [Board.effect, next, replied, Event.reply])
  | registeredUnsubscribe next =>
      exact recorded rfl (by simp [Board.effect, next, replied, Event.reply])
  | enqueue next => exact recorded rfl (by simp [Board.effect, next, replied, Event.reply])
  | _ =>
      first
      | exact silent rfl rfl
      | exact recorded rfl rfl

/-- Only `reply_queue_append` adds to the replies. -/
private theorem posted_of_step {before after : Delivery} {action : Delivery.Move}
    (step : DeliveryStep before action after) (silent : ∀ reply, action ≠ .append reply) :
    after.posted = before.posted := by
  cases step with
  | append ticket => exact absurd rfl (silent _)
  | _ => rfl

/-- The replies recorded on the board were appended to the reply queue, in their
order. -/
def Posted (env : Environment) (state : ProxyState) : Prop :=
  state.delivery.posted.map QueuedReply.toReplyQueueTask =
    (state.board.replies env).reverse

private theorem posted_of_perform {env : Environment} {move : Board.Move}
    {before after : ProxyState} (performed : before.perform env move = some after)
    (posted : before.Posted env) : after.Posted env := by
  obtain ⟨board, moved, changed⟩ := performed_of_perform performed
  have new := replies_move (Board.boardStep_of_move moved)
  have same : replied (before.board.effect env move) = [] →
      before.delivery.posted.map QueuedReply.toReplyQueueTask =
        (board.replies env).reverse := by
    intro silent
    rw [new, silent]
    exact posted
  cases changed with
  | quiet effect => exact same (by rw [effect]; rfl)
  | awakesSubscribe effect free => exact same (by rw [effect]; rfl)
  | awakesComm effect free => exact same (by rw [effect]; rfl)
  | appends effect =>
      unfold Posted at posted ⊢
      change (before.delivery.posted ++ [_]).map QueuedReply.toReplyQueueTask = _
      rw [List.map_append, posted, new, effect]
      exact (List.reverse_cons).symm

theorem posted_of_reaches {env : Environment} {admissible : ProxyState → Action → Prop}
    {state : ProxyState} (reached : Runs.Reaches (step env) admissible initial state) :
    state.Posted env := by
  refine reached.invariant (show Posted env initial from rfl) ?_
  intro before action after posted _ next
  have delivered : ∀ {move : Delivery.Move} {delivery : Delivery},
      (∀ reply, move ≠ .append reply) → before.delivery.move move = some delivery →
      delivery.posted.map QueuedReply.toReplyQueueTask =
        (before.board.replies env).reverse := by
    intro move delivery silent moved
    rw [posted_of_step (Delivery.deliveryStep_of_move moved) silent]
    exact posted
  cases proxyStep_of_step next with
  | perform chosen unconfirmed busy performed => exact posted_of_perform performed posted
  | deliver chosen moved =>
      refine delivered ?_ moved
      rintro reply rfl
      cases action <;> cases chosen
  | confirm position woken done moved =>
      have new := replies_move (Board.boardStep_of_move moved)
      exact posted.trans (congrArg List.reverse new.symm)
  | stopSubscribe position moved => exact delivered (by simp) moved
  | endSubscribe position moved => exact delivered (by simp) moved
  | diesHoldingSubscribe alive moved => exact delivered (by simp) moved
  | _ => exact posted

/-! ## Schedules -/

/-- A step of the channel thread that reads nothing. -/
def channelStep : Action :=
  .channel {
    document := none
    answer := {
      result := .invalid
      normalizedPayload := .null
      unsubscribe := false
      invalidStatus := 0 }
    answerCreated := false }

/-- The dispatcher sends a request and confirms it once it is acknowledged; the
channel thread then makes a number of steps. -/
def exchangeActions (document : Json) (answer : PayloadParse) (rid : String)
    (steps : Nat) : List Action :=
  [channelStep, .request rid true,
    .channel { document := some document, answer := answer, answerCreated := false },
    .sees, .channelState .done true] ++ List.replicate steps channelStep

/-- A request for a service with its payload taken as it is. -/
def requestActions (service : String) (payload : Json) (result : ProxyPayloadParseResult)
    (unsubscribe : Bool) (rid : String) (steps : Nat) : List Action :=
  exchangeActions (serviceAndPayloadObject service (some payload))
    {
      result := result
      normalizedPayload := .payload
      unsubscribe := unsubscribe
      invalidStatus := 0 }
    rid steps

/-- The comm thread makes a number of steps while callbacks just return. -/
def commActions (steps : Nat) : List Action :=
  List.replicate steps (.comm .advance)

/-- A reply call makes a number of steps. -/
def replyActions (call steps : Nat) : List Action :=
  List.replicate steps (.reply call)

end ProxyState

end Sawang

import Sawang.Delivery.Conservation
import Sawang.Proxy.Handover

/-!
# Answers that can be read

The dispatcher finds a reply or the answer to a REST request announced.  As long as it
announces nothing itself and nothing but its reaction ends the wait for it, the answer is
there to be read.
-/

namespace Sawang

open ProxyState

namespace AnswerState

variable {env : Environment} {before after : AnswerState}

/-- A REST answer leaves the proxy where its own step leads, unless the process dies. -/
theorem channelRest_proxy (uuid : String) (found : ChannelOutcome) (copied : Nat)
    (before after : AnswerState) :
    (before.channelRest env uuid found copied after).proxy = before.proxy ∨
      (before.channelRest env uuid found copied after).proxy = after.proxy := by
  unfold channelRest
  split
  · exact Or.inl rfl
  · dsimp only
    split
    · exact Or.inl rfl
    · exact Or.inr rfl

theorem channelExchange_proxy (found : ChannelOutcome) (before after : AnswerState) :
    (before.channelExchange env found after).proxy = before.proxy ∨
      (before.channelExchange env found after).proxy = after.proxy := by
  unfold channelExchange
  split
  · exact Or.inl rfl
  · exact Or.inr rfl

/-- A step of the answers is a step of the proxy or leaves it alone. -/
theorem proxy_step {action : AnswerAction} (next : before.step env action = some after) :
    after.proxy = before.proxy ∨
      ∃ own, (action = .other own ∨ (∃ created, own = .subscribe created) ∨
          ∃ input, own = .channel input) ∧
        before.proxy.step env own = some after.proxy := by
  cases action with
  | subscribe uuid segment copied =>
      have moves : ∀ created (middle : AnswerState),
          before.stepProxy env (.subscribe created) = some middle →
          ∃ own, (AnswerAction.subscribe uuid segment copied = .other own ∨
              (∃ created, own = .subscribe created) ∨ ∃ input, own = .channel input) ∧
            before.proxy.step env own = some middle.proxy := by
        intro created middle moved
        obtain ⟨_, proxy, stepped, rfl⟩ := stepProxy_cases moved
        exact ⟨_, Or.inr (Or.inl ⟨created, rfl⟩), stepped⟩
      change before.stepSubscribe env uuid segment copied = some after at next
      unfold stepSubscribe at next
      split at next
      · obtain ⟨middle, moved, rfl⟩ := Option.map_eq_some_iff.mp next
        exact Or.inr (moves false middle moved)
      · obtain ⟨middle, moved, rfl⟩ := Option.map_eq_some_iff.mp next
        exact Or.inr (moves false middle moved)
      · split at next
        · exact Or.inr (moves false after next)
        · unfold subscribeExchange at next
          dsimp only at next
          split at next <;> obtain ⟨middle, moved, rfl⟩ := Option.map_eq_some_iff.mp next
          · exact Or.inl rfl
          · exact Or.inr (moves _ middle moved)
      · obtain ⟨middle, moved, rfl⟩ := Option.map_eq_some_iff.mp next
        exact Or.inr (moves false middle moved)
      · exact Or.inr (moves false after next)
  | channel uuid outcome copied =>
      obtain ⟨middle, moved, rfl⟩ := Option.map_eq_some_iff.mp next
      obtain ⟨_, proxy, stepped, rfl⟩ := stepProxy_cases moved
      have moves : ∀ state : AnswerState,
          (state.proxy = before.proxy ∨ state.proxy = proxy) →
          state.proxy = before.proxy ∨
            ∃ own, (AnswerAction.channel uuid outcome copied = .other own ∨
                (∃ created, own = .subscribe created) ∨ ∃ input, own = .channel input) ∧
              before.proxy.step env own = some state.proxy := by
        intro state which
        refine which.imp_right fun moved => ?_
        rw [moved]
        exact ⟨_, Or.inr (Or.inr ⟨_, rfl⟩), stepped⟩
      apply moves
      split
      · split
        · exact Or.inr rfl
        · split
          · exact channelExchange_proxy _ _ _
          · exact channelRest_proxy _ _ _ _ _
          · exact Or.inr rfl
      · exact Or.inr rfl
      · exact Or.inr rfl
  | create path text =>
      cases next
      exact Or.inl rfl
  | unlink path =>
      cases next
      exact Or.inl rfl
  | other own =>
      refine Or.inr ⟨own, Or.inl rfl, ?_⟩
      have moved : before.stepProxy env own = some after := by
        cases own <;>
          first
          | exact next
          | cases next
      obtain ⟨_, proxy, stepped, rfl⟩ := stepProxy_cases moved
      exact stepped

end AnswerState

namespace Delivery

/-- The announced reply is the one that the thread waits for. -/
def Awaits (delivery : Delivery) : Prop :=
  delivery.state = .answer →
    delivery.proxyWakeup = false ∧ ∃ task, delivery.position = .answerWait task

/-- The dispatcher does not announce replies, and nothing else ends the wait for it. -/
def Attends (delivery : Delivery) : Move → Prop
  | .dispatcher written _ => written ≠ .answer
  | .spuriousAnswer => delivery.state ≠ .answer
  | _ => True

theorem awaits_step {before after : Delivery} {action : Move} (awaits : before.Awaits)
    (attends : before.Attends action) (step : DeliveryStep before action after) :
    after.Awaits := by
  intro answer
  cases step with
  | exchange position owned => exact ⟨rfl, _, rfl⟩
  | startPass position => cases answer
  | reset position => cases answer
  | stopSegment => cases answer
  | dispatcher => exact absurd answer attends
  | spuriousAnswer => exact absurd answer attends
  | append | awake free | stopThread free | ownerDies | spuriousWait => exact awaits answer
  | deliver position woken done =>
      rw [(awaits answer).1] at woken
      cases woken
  | fail position woken =>
      rw [(awaits answer).1] at woken
      cases woken
  | abandon position =>
      obtain ⟨quiet, task, waits⟩ := awaits answer
      rcases position with ⟨locked, _⟩ | ⟨_, woken, _⟩
      · rw [waits] at locked
        cases locked
      · rw [quiet] at woken
        cases woken
  | locked position | enter position | finish position | empty position | take position
  | unsent position | pushBack position | park position | leave position
  | unpark position =>
      obtain ⟨_, task, waits⟩ := awaits answer
      rw [waits] at position
      cases position

end Delivery

/-- The announced REST answer is the one that the thread waits for. -/
def Channel.Awaits (channel : Channel) : Prop :=
  channel.state = .restRespond → channel.wakeup = false ∧ channel.position = .restWait

namespace ProxyState

variable {env : Environment} {before after : ProxyState}

/-- The dispatcher announces no answers itself and reacts to an answer by writing
another state; nothing else ends the wait for it. -/
def Attends (state : ProxyState) : Action → Prop
  | .subscribeState written _ => written ≠ .answer
  | .channelState written _ => written ≠ .restRespond
  | .spuriousAnswer => state.delivery.state ≠ .answer
  | .spuriousChannel => state.channel.state ≠ .restRespond
  | _ => True

instance (state : ProxyState) : (action : Action) → Decidable (state.Attends action)
  | .subscribeState _ _ => inferInstanceAs (Decidable (_ ≠ _))
  | .channelState _ _ => inferInstanceAs (Decidable (_ ≠ _))
  | .spuriousAnswer => inferInstanceAs (Decidable (_ ≠ _))
  | .spuriousChannel => inferInstanceAs (Decidable (_ ≠ _))
  | .channel _ | .comm _ | .reply _ | .proxyReply .. | .subscribe _ | .main | .sigterm
  | .request .. | .rest .. | .sees | .dies | .diesHoldingChannel | .diesHoldingSubscribe
  | .spuriousSubscribe | .spuriousComm => inferInstanceAs (Decidable True)

/-- While the dispatcher lives, announced answers are waited for. -/
structure Awaits (state : ProxyState) : Prop where
  reply : state.gonggoDead = false → state.delivery.Awaits
  rest : state.gonggoDead = false → state.channel.Awaits

theorem awaits_initial : initial.Awaits := ⟨fun _ => nofun, fun _ => nofun⟩

theorem deliveryAwaits_step {action : Action} (awaits : before.Awaits)
    (attends : before.Attends action) (next : before.step env action = some after)
    (alive : after.gonggoDead = false) : after.delivery.Awaits := by
  have moves : ∀ {move : Delivery.Move} {delivery : Delivery},
      before.gonggoDead = false → before.delivery.move move = some delivery →
      before.delivery.Attends move → delivery.Awaits :=
    fun lives moved kept =>
      Delivery.awaits_step (awaits.reply lives) kept (Delivery.deliveryStep_of_move moved)
  cases proxyStep_of_step next with
  | perform chosen unconfirmed busy performed =>
      obtain ⟨board, _, changed⟩ := performed_of_perform performed
      cases changed <;> exact awaits.reply alive
  | deliver chosen moved =>
      refine moves alive moved ?_
      cases action <;> cases chosen <;> exact attends
  | stopSubscribe position moved => exact moves alive moved trivial
  | endSubscribe position moved => exact moves alive moved trivial
  | dies | diesHoldingChannel | diesHoldingSubscribe => cases alive
  | _ => exact awaits.reply alive

theorem channelAwaits_step {action : Action} (awaits : before.Awaits)
    (attends : before.Attends action) (next : before.step env action = some after)
    (alive : after.gonggoDead = false) : after.channel.Awaits := by
  intro announced
  -- the wait is over, so no answer is announced
  have woken : before.gonggoDead = false → before.channel.wakeup = true →
      before.channel.state ≠ .restRespond := by
    intro lives signalled unchanged
    rw [(awaits.rest lives unchanged).1] at signalled
    cases signalled
  have waiting : before.gonggoDead = false → before.channel.position ≠ .restWait →
      before.channel.state ≠ .restRespond :=
    fun lives elsewhere unchanged => elsewhere (awaits.rest lives unchanged).2
  cases proxyStep_of_step next with
  | perform chosen unconfirmed busy performed =>
      obtain ⟨board, _, changed⟩ := performed_of_perform performed
      cases changed <;> exact awaits.rest alive announced
  | channelEnd position ended =>
      exact absurd announced (waiting alive (by simp [position]))
  | jobDone position empty =>
      exact absurd announced (waiting alive (by simp [position]))
  | channelFinish ownerDead signalled ends => exact absurd announced (woken alive signalled)
  | channelReturn proxyExit signalled returns => exact absurd announced (woken alive signalled)
  | confirm position signalled done moved => exact absurd announced (woken alive signalled)
  | channelIdle position running => cases announced
  | channelAccept written exchange position signalled asked fits =>
      rcases fits with ⟨rfl, _⟩ | ⟨rfl, _⟩ <;> cases announced
  | channelRest position signalled asked => exact ⟨rfl, rfl⟩
  | stopChannel position free => cases announced
  | request written rid signal asks free lives =>
      rcases asks with ⟨_, rfl⟩ | ⟨_, rfl⟩ <;> cases announced
  | write plain free lives => exact absurd announced attends
  | sees acknowledged free lives =>
      have same : before.channel.state = .restRespond := announced
      rw [acknowledged] at same
      cases same
  | spuriousChannel => exact absurd announced attends
  | dies | diesHoldingChannel | diesHoldingSubscribe => cases alive
  | _ => exact awaits.rest alive announced

/-- An announced answer stays the answer to the request that was read. -/
theorem rid_of_announced {action : Action} (attends : before.Attends action)
    (next : before.step env action = some after)
    (announced : after.channel.state = .restRespond) :
    after.channel.rid = before.channel.rid ∧
      (before.channel.position = .restWait → before.channel.state = .restRespond) := by
  cases proxyStep_of_step next with
  | perform chosen unconfirmed busy performed =>
      obtain ⟨board, _, changed⟩ := performed_of_perform performed
      cases changed <;> exact ⟨rfl, fun _ => announced⟩
  | channelIdle position running => cases announced
  | channelAccept written exchange position signalled asked fits =>
      rcases fits with ⟨rfl, _⟩ | ⟨rfl, _⟩ <;> cases announced
  | channelRest position signalled asked =>
      refine ⟨rfl, fun waiting => ?_⟩
      rw [position] at waiting
      cases waiting
  | stopChannel position free => cases announced
  | request written rid signal asks free lives =>
      rcases asks with ⟨_, rfl⟩ | ⟨_, rfl⟩ <;> cases announced
  | write plain free lives => exact absurd announced attends
  | sees acknowledged free lives =>
      have same : before.channel.state = .restRespond := announced
      rw [acknowledged] at same
      cases same
  | _ => exact ⟨rfl, fun _ => announced⟩

theorem awaits_of_reaches {state : ProxyState}
    (reached : Runs.Reaches (step env) Attends initial state) : state.Awaits := by
  apply reached.invariant awaits_initial
  intro before action after awaits attends next
  exact ⟨deliveryAwaits_step awaits attends next, channelAwaits_step awaits attends next⟩

end ProxyState

namespace AnswerState

variable {env : Environment}

/-- The uuids are new, and the dispatcher reads an answer before it reacts. -/
def Attended (state : AnswerState) (action : AnswerAction) : Prop :=
  state.Fresh action ∧ ∀ own, action = .other own → state.proxy.Attends own

/-- A step that the dispatcher attends to is one of the proxy or leaves it alone. -/
theorem attended_step {action : AnswerAction} {before after : AnswerState}
    (attended : before.Attended action) (next : before.step env action = some after) :
    after.proxy = before.proxy ∨
      ∃ own, before.proxy.Attends own ∧ before.proxy.step env own = some after.proxy := by
  refine (proxy_step next).imp_right ?_
  rintro ⟨own, which, moved⟩
  refine ⟨own, ?_, moved⟩
  rcases which with which | ⟨created, rfl⟩ | ⟨input, rfl⟩
  · exact attended.2 own which
  · trivial
  · trivial

/-- A run of the answers is a run of the proxy. -/
theorem proxy_reaches {state : AnswerState}
    (reached : Runs.Reaches (step env) Attended initial state) :
    Runs.Reaches (ProxyState.step env) ProxyState.Attends .initial state.proxy :=
  reached.project AnswerState.proxy fun _ _ _ attended next => attended_step attended next

/-- An announced answer is the one to the request in the shared segment. -/
def Requested (state : AnswerState) : Prop :=
  state.proxy.channel.position = .restWait → state.proxy.channel.state = .restRespond →
    ∃ request ∈ state.request, request.rid = state.proxy.channel.rid

theorem requested_step {action : AnswerAction} {before after : AnswerState}
    (requested : before.Requested) (attended : before.Attended action)
    (next : before.step env action = some after) : after.Requested := by
  intro waiting announced
  have kept : after.proxy.channel.rid = before.proxy.channel.rid ∧
      (before.proxy.channel.position = .restWait →
        before.proxy.channel.state = .restRespond) := by
    rcases attended_step attended next with same | ⟨own, attends, moved⟩
    · rw [same] at announced ⊢
      exact ⟨rfl, fun _ => announced⟩
    · exact ProxyState.rid_of_announced attends moved announced
  obtain ⟨rid, earlier⟩ := kept
  -- the thread waited before, with the same request
  have still : before.SameRest after →
      ∃ request ∈ after.request, request.rid = after.proxy.channel.rid := by
    rintro (⟨_, late⟩ | ⟨position, _, _, request, _⟩)
    · exact absurd waiting late
    · have before := position.symm.trans waiting
      rw [request, rid]
      exact requested before (earlier before)
  cases answerStep_of_step attended.1 next with
  | rest lives uuid respond found free position waits made memory path keeps request shm reply =>
      exact ⟨_, request, rid.symm⟩
  | rested lives position leaves memory reply => exact absurd waiting leaves
  | reply lives uuid task free position waits memory path shm rest => exact still rest
  | replied lives task position leaves memory rest => exact still rest
  | faults lives maker uuid part free idle memory fault reply rest => exact still rest
  | elsewhere left reply rest memory => exact still rest

theorem requested_of_reaches {state : AnswerState}
    (reached : Runs.Reaches (step env) Attended initial state) : state.Requested := by
  apply reached.invariant
  · intro waiting
    cases waiting
  · intro before action after requested attended next
    exact requested_step requested attended next

/-- Wherever the dispatcher finds an answer announced it can read it: a reply that was
appended and not yet taken, with its request to be removed where that is over, and the
answer to the REST request, with a code. -/
structure AnswersReadable (env : Environment) (state : AnswerState) : Prop where
  reply : state.proxy.delivery.state = .answer →
    ∃ task ∈ state.proxy.delivery.posted, task ∉ state.proxy.delivery.delivered ∧
      state.ReplyInPlace task
  rest : state.proxy.channel.state = .restRespond →
    ∃ request ∈ state.request, request.rid = state.proxy.channel.rid ∧
      state.RestInPlace env request ∧
      ∃ code : Int32, code ≠ 0 ∧
        ((env.parse state.respond).bind fun tree => tree.getObjectItem "code") =
          some (.ofInt code.toInt)

theorem answers_readable {state : AnswerState}
    (reached : Runs.Reaches (step env) Attended initial state)
    (alive : state.proxy.gonggoDead = false) : state.AnswersReadable env := by
  have awaits := ProxyState.awaits_of_reaches (proxy_reaches reached)
  have orderly := Delivery.orderly_of_reaches (delivery_reaches (proxy_reaches reached))
  have distinct := orderly.conserved.nodup orderly.numbered.nodup
  have fresh := reached.mono fun _ _ attended => attended.1
  constructor
  · intro announced
    obtain ⟨_, task, position⟩ := awaits.reply alive announced
    have waits : task ∈ state.proxy.delivery.line.waiting := by
      simp [Delivery.line, Delivery.exchanging, position]
    refine ⟨task, orderly.conserved.once.subset ?_, ?_, reply_in_place fresh position⟩
    · exact List.mem_append_left _ (List.mem_append_left _ waits)
    · intro taken
      have apart := (List.nodup_append.mp (List.nodup_append.mp distinct).1).2.2
      exact apart task waits task taken rfl
  · intro announced
    have waiting := (awaits.rest alive announced).2
    obtain ⟨request, asked, rid⟩ := requested_of_reaches reached waiting announced
    obtain ⟨other, same, place⟩ := rest_in_place fresh waiting
    cases Option.some.inj (asked.symm.trans same)
    obtain ⟨filled, code, respond⟩ := code_of_respond place.1
    refine ⟨request, asked, rid, place, filled.code, code, ?_⟩
    rw [respond]
    exact parse_respondCreate env filled

instance (state : AnswerState) (action : AnswerAction) : Decidable (state.Attended action) :=
  match action with
  | .other own =>
      decidable_of_iff (state.Fresh (.other own) ∧ state.proxy.Attends own)
        (and_congr_right fun _ =>
          ⟨fun attends _ same => by cases same; exact attends, fun attends => attends own rfl⟩)
  | .subscribe uuid segment copied =>
      decidable_of_iff (state.Fresh (.subscribe uuid segment copied))
        ⟨fun fresh => ⟨fresh, nofun⟩, And.left⟩
  | .channel uuid outcome copied =>
      decidable_of_iff (state.Fresh (.channel uuid outcome copied))
        ⟨fun fresh => ⟨fresh, nofun⟩, And.left⟩
  | .create path text =>
      decidable_of_iff (state.Fresh (.create path text))
        ⟨fun fresh => ⟨fresh, nofun⟩, And.left⟩
  | .unlink path =>
      decidable_of_iff (state.Fresh (.unlink path))
        ⟨fun fresh => ⟨fresh, nofun⟩, And.left⟩

theorem answers_readable_both :
    ∃ state : AnswerState,
      (state.proxy.delivery.state = .answer ∧ state.proxy.channel.state = .restRespond) ∧
        state.AnswersReadable .reference := by
  obtain ⟨state, reached, tested⟩ :=
    Runs.reaches_of_execute_test (step .reference) Attended bothActions initial
      (fun state => decide (state.proxy.gonggoDead = false ∧
        state.proxy.delivery.state = .answer ∧ state.proxy.channel.state = .restRespond))
      (by decide +kernel)
  obtain ⟨alive, announced⟩ := of_decide_eq_true tested
  exact ⟨state, announced, answers_readable reached alive⟩

end AnswerState

end Sawang

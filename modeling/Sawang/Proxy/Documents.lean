import Sawang.Board.Rebuild
import Sawang.Proxy.Layers

/-!
# Request documents and NULL texts

A service that is no string is compared as a NULL text in the channel thread.  A
missing service passes there and reaches the comm thread in the task key, unless the
channel thread built a new object for the key.  The module says that nothing else in
a request, and no answer of `ProxyPayloadParse`, does any harm.
-/

namespace Sawang

/-- No NULL text reached a string function, and each key that is registered, or that
the channel thread is about to register, can be rebuilt. -/
structure Board.Unharmed (env : Environment) (board : Board) : Prop where
  running : board.crashed = false
  registered : ∀ type taskKey rid unsubscribe,
    .registered type taskKey rid unsubscribe ∈ board.history → Rebuildable env taskKey
  registering : ∀ op ∈ board.job, ∀ taskKey ∈ op.registers, Rebuildable env taskKey

/-- The channel thread wakes to a state of the segment, and its lock is sound. -/
def Channel.WakesTo (state : ProxyChannelState) (channel : Channel) : Prop :=
  channel.wakeup = true ∧ channel.ownerDead = false ∧ channel.state = state

instance (state : ProxyChannelState) (channel : Channel) : Decidable (channel.WakesTo state) :=
  inferInstanceAs (Decidable (_ ∧ _ ∧ _))

namespace ProxyState

variable {env : Environment} {before after : ProxyState}

/-- A request that is read has no service but a string, and one that is registered is
keyed. -/
def RequestNamed (env : Environment) (state : ProxyState) : Action → Prop
  | .channel input =>
      match state.channel.position with
      | .idleWait => state.channel.WakesTo .request →
          ∀ document ∈ input.document, serviceName document ≠ none
      | .acknowledgeWait (some exchange) => state.channel.WakesTo .done →
          state.board.Keyed env (.confirm exchange state.channel.rid)
      | .job => state.board.Keyed env .channel
      | _ => True
  | _ => True

instance (state : ProxyState) (action : Action) : Decidable (state.RequestNamed env action) :=
  match action with
  | .channel input =>
      match chosen : state.channel.position with
      | .idleWait =>
          decidable_of_iff
            (state.channel.WakesTo .request →
              ∀ document ∈ input.document, serviceName document ≠ none)
            (by simp only [RequestNamed, chosen])
      | .acknowledgeWait (some exchange) =>
          decidable_of_iff
            (state.channel.WakesTo .done →
              state.board.Keyed env (.confirm exchange state.channel.rid))
            (by simp only [RequestNamed, chosen])
      | .job => decidable_of_iff (state.board.Keyed env .channel)
          (by simp only [RequestNamed, chosen])
      | .loop | .acknowledgeWait none | .restWait | .finished =>
          isTrue (by simp only [RequestNamed, chosen])
  | .comm _ | .reply _ | .proxyReply .. | .subscribe _ | .main | .sigterm | .request .. | .rest ..
  | .channelState .. | .sees | .subscribeState .. | .dies | .diesHoldingChannel
  | .diesHoldingSubscribe | .spuriousChannel | .spuriousAnswer | .spuriousSubscribe
  | .spuriousComm => isTrue trivial

/-! ## The steps of the channel thread -/

private theorem board_wakeIdle {input : ChannelInput} (woken : before.channel.wakeup = true)
    (next : before.wakeIdle input env = some after) :
    after.board = before.board ∨ (before.channel.WakesTo .request ∧
      ∃ document, input.document = some document ∧ serviceName document = none) := by
  unfold wakeIdle at next
  dsimp only at next
  split at next
  · cases next
    exact Or.inl rfl
  · rename_i owned
    have alive := Bool.eq_false_iff.mpr owned
    split at next
    · cases next
      exact Or.inl rfl
    · cases next
      exact Or.inl rfl
    · rename_i asked
      split at next
      · cases next
        exact Or.inl rfl
      · rename_i document there
        split at next
        · rename_i unread
          refine Or.inr ⟨⟨woken, alive, asked⟩, document, there, ?_⟩
          exact Exchange.read_eq_none_iff.mp unread
        · cases next
          exact Or.inl rfl
    · split at next <;> cases next <;> exact Or.inl rfl
    · cases next
      exact Or.inl rfl

private theorem board_wakeAcknowledge {exchange : Option Exchange}
    (woken : before.channel.wakeup = true)
    (next : before.wakeAcknowledge exchange env = some after) :
    after.board = before.board ∨ before.channel.WakesTo .done ∧
      ∃ request, exchange = some request ∧
        before.board.move env (.confirm request before.channel.rid) = some after.board := by
  unfold wakeAcknowledge at next
  dsimp only at next
  split at next
  · cases next
    exact Or.inl rfl
  · rename_i owned
    have alive := Bool.eq_false_iff.mpr owned
    split at next
    · cases next
      exact Or.inl rfl
    · rename_i request done
      obtain ⟨confirmed, performed, rfl⟩ := Option.map_eq_some_iff.mp next
      exact Or.inr ⟨⟨woken, alive, done⟩, request, rfl, (perform_cases performed).1⟩
    · cases next
      exact Or.inl rfl

/-- What a step of the channel thread does to the board. -/
inductive ChannelMoves (env : Environment) (input : ChannelInput) (before after : ProxyState) :
    Prop
  | none (same : after.board = before.board)
  | crash (document : Json) (position : before.channel.position = .idleWait)
      (asked : before.channel.WakesTo .request)
      (there : input.document = some document) (unnamed : serviceName document = none)
  | confirm (exchange : Exchange)
      (position : before.channel.position = .acknowledgeWait (some exchange))
      (done : before.channel.WakesTo .done)
      (moved : before.board.move env (.confirm exchange before.channel.rid) = some after.board)
  | job (position : before.channel.position = .job)
      (moved : before.board.move env .channel = some after.board)

private theorem channelMoves_of_step {input : ChannelInput}
    (next : before.step env (.channel input) = some after) :
    ChannelMoves env input before after := by
  unfold step at next
  split at next
  · cases next
  · simp only [stepChannel] at next
    split at next
    · split at next <;> cases next <;> exact .none rfl
    · rename_i position
      split at next
      · rename_i woken
        rcases board_wakeIdle woken next with same | ⟨asked, document, there, unnamed⟩
        · exact .none same
        · exact .crash document position asked there unnamed
      · cases next
    · rename_i exchange position
      split at next
      · rename_i woken
        rcases board_wakeAcknowledge woken next with same | ⟨done, request, rfl, moved⟩
        · exact .none same
        · exact .confirm request position done moved
      · cases next
    · split at next
      · split at next <;> cases next <;> exact .none rfl
      · cases next
    · rename_i position
      split at next
      · cases next
        exact .none rfl
      · exact .job position (perform_cases next).1
    · cases next

/-! ## Named requests do no harm -/

/-- A move that a thread other than the channel thread makes. -/
private theorem boardMove_elsewhere {action : Action} {move : Board.Move}
    (elsewhere : ∀ input, action ≠ .channel input) (chosen : before.boardMove action = some move) :
    (∀ board : Board, board.Keyed env move) ∧ move ≠ .channelCrash := by
  cases action with
  | channel input => exact absurd rfl (elsewhere input)
  | comm input =>
      cases chosen
      exact ⟨fun _ => trivial, by simp⟩
  | reply call =>
      cases chosen
      exact ⟨fun _ => trivial, by simp⟩
  | proxyReply arg headers payload =>
      cases chosen
      exact ⟨fun _ => trivial, by simp⟩
  | _ => cases chosen

/-- The keys in circulation can be rebuilt and nothing has crashed. -/
structure KeysSafe (env : Environment) (state : ProxyState) : Prop where
  keys : state.board.KeysRebuilt env
  running : state.board.crashed = false

private theorem keysSafe_move {move : Board.Move} (safe : before.KeysSafe env)
    (keyed : before.board.Keyed env move) (named : move ≠ .channelCrash)
    (moved : before.board.move env move = some after.board) : after.KeysSafe env where
  keys := Board.keysRebuilt_step safe.keys keyed (Board.boardStep_of_move moved)
  running := Board.crashed_move safe.keys named moved

private theorem keysSafe_same (safe : before.KeysSafe env) (same : after.board = before.board) :
    after.KeysSafe env where
  keys := by
    rw [same]
    exact safe.keys
  running := by
    rw [same]
    exact safe.running

theorem keysSafe_step {action : Action} (safe : before.KeysSafe env)
    (named : before.RequestNamed env action) (next : before.step env action = some after) :
    after.KeysSafe env := by
  by_cases channel : ∃ input, action = .channel input
  · obtain ⟨input, rfl⟩ := channel
    cases channelMoves_of_step next with
    | none same => exact keysSafe_same safe same
    | crash document position asked there unnamed =>
        simp only [RequestNamed, position] at named
        exact absurd unnamed (named asked document there)
    | confirm exchange position done moved =>
        simp only [RequestNamed, position] at named
        exact keysSafe_move safe (named done) (by simp) moved
    | job position moved =>
        simp only [RequestNamed, position] at named
        exact keysSafe_move safe named (by simp) moved
  · rcases (refines_of_step next).board with same | ⟨move, chosen, moved⟩
    · exact keysSafe_same safe same
    · obtain ⟨keyed, uncrashed⟩ :=
        boardMove_elsewhere (fun input same => channel ⟨input, same⟩) chosen
      exact keysSafe_move safe (keyed _) uncrashed moved

theorem keysSafe_of_reaches {state : ProxyState}
    (reached : Runs.Reaches (step env) (RequestNamed env) initial state) :
    state.KeysSafe env := by
  apply reached.invariant
  · exact ⟨Board.keysRebuilt_initial env, rfl⟩
  · intro before action after safe named next
    exact keysSafe_step safe named next

theorem KeysSafe.unharmed {state : ProxyState} (safe : state.KeysSafe env) :
    state.board.Unharmed env where
  running := safe.running
  registered := safe.keys.registered
  registering := fun op member _ registers =>
    Board.registers_rebuilt (safe.keys.job op member) registers

/-! ## Requests without a name do harm -/

private theorem harmed_of_unnamed {input : ChannelInput} {document : Json}
    (position : before.channel.position = .idleWait) (asked : before.channel.WakesTo .request)
    (there : input.document = some document) (unnamed : serviceName document = none)
    (next : before.step env (.channel input) = some after) : ¬after.board.Unharmed env := by
  intro unharmed
  obtain ⟨woken, alive, state⟩ := asked
  have unread : Exchange.read document input.answer = none :=
    Exchange.read_eq_none_iff.mpr unnamed
  unfold step at next
  split at next
  · cases next
  · simp only [stepChannel, position, woken, wakeIdle, alive, state, there, unread, if_true,
      Bool.false_eq_true, if_false] at next
    have crashed := (perform_cases next).1
    unfold Board.move at crashed
    split at crashed
    · cases crashed
    · have running := unharmed.running
      rw [← Option.some.inj crashed] at running
      cases running

private theorem harmed_of_confirm {input : ChannelInput} {exchange : Exchange}
    (position : before.channel.position = .acknowledgeWait (some exchange))
    (done : before.channel.WakesTo .done)
    (unkeyed : ¬before.board.Keyed env (.confirm exchange before.channel.rid))
    (next : before.step env (.channel input) = some after) : ¬after.board.Unharmed env := by
  intro unharmed
  obtain ⟨woken, alive, state⟩ := done
  simp only [Board.Keyed, not_or] at unkeyed
  obtain ⟨valid, normal, missing⟩ := unkeyed
  have unbuilt : ¬Rebuildable env (exchange.taskKey env) := by
    rw [exchange.rebuildable_taskKey_iff, not_or]
    exact missing
  unfold step at next
  split at next
  · cases next
  · simp only [stepChannel, position, woken, wakeAcknowledge, alive, state, if_true,
      Bool.false_eq_true, if_false] at next
    obtain ⟨confirmed, performed, rfl⟩ := Option.map_eq_some_iff.mp next
    have moved := (perform_cases performed).1
    unfold Board.move at moved
    split at moved
    · cases moved
    · dsimp only at moved
      split at moved
      · have registering := unharmed.registering
        rw [← Option.some.inj moved] at registering
        refine unbuilt (registering (.respondTableSet
          (if exchange.parseResult = .multirespond then .multirespond else .singleshot)
          (exchange.taskKey env) before.channel.rid) ?_ _ rfl)
        unfold Board.exchangeJob
        rw [if_neg valid, if_neg normal]
        exact List.mem_cons_self
      · cases moved

private theorem harmed_of_job {input : ChannelInput} (safe : before.KeysSafe env)
    (position : before.channel.position = .job) (unkeyed : ¬before.board.Keyed env .channel)
    (next : before.step env (.channel input) = some after) : ¬after.board.Unharmed env := by
  intro unharmed
  have running := safe.running
  unfold Board.Keyed at unkeyed
  dsimp only at unkeyed
  split at unkeyed
  · rename_i payload taskKey rid rest head
    obtain ⟨resolves, missing⟩ := not_or.mp unkeyed
    obtain ⟨exchange, rfl⟩ := safe.keys.job _ (head ▸ List.mem_cons_self)
    rw [exchange.keyHasService_request_iff, ← exchange.rebuildable_request_iff env] at missing
    simp only [step, running, Bool.false_eq_true, if_false, stepChannel, position, head] at next
    have moved := (perform_cases next).1
    simp only [Board.move, running, Bool.false_eq_true, if_false, head, Board.channelOp] at moved
    split at moved
    · rename_i refused
      exact resolves (by rw [refused]; rfl)
    · have registering := unharmed.registering
      rw [← Option.some.inj moved] at registering
      refine missing (registering (.respondTableSetUnsubscribe _ rid) ?_ _ rfl)
      exact List.mem_cons_of_mem _ List.mem_cons_self
  · exact unkeyed trivial

/-- A step with a request that is not named does harm. -/
theorem requestNamed_of_unharmed {action : Action} (safe : before.KeysSafe env)
    (next : before.step env action = some after) (unharmed : after.board.Unharmed env) :
    before.RequestNamed env action := by
  by_contra unnamed
  unfold RequestNamed at unnamed
  split at unnamed
  · split at unnamed
    · rename_i position
      simp only [Classical.not_imp, not_forall] at unnamed
      obtain ⟨asked, document, there, bad⟩ := unnamed
      exact harmed_of_unnamed position asked there (not_not.mp bad) next unharmed
    · rename_i exchange position
      obtain ⟨done, unkeyed⟩ := Classical.not_imp.mp unnamed
      exact harmed_of_confirm position done unkeyed next unharmed
    · rename_i position
      exact harmed_of_job safe position unnamed next unharmed
    · exact unnamed trivial
  · exact unnamed trivial

/-- In every run whose requests are named no NULL text reaches a string function and
every registered key can be rebuilt; the first request that is not named breaks that. -/
theorem requests_harmless_iff {env : Environment} {state : ProxyState}
    (reached : Runs.Reaches (step env) (RequestNamed env) initial state) :
    state.board.Unharmed env ∧
      ∀ action after, state.step env action = some after →
        (after.board.Unharmed env ↔ state.RequestNamed env action) := by
  have safe := keysSafe_of_reaches reached
  refine ⟨safe.unharmed, fun action after next => ⟨?_, ?_⟩⟩
  · exact requestNamed_of_unharmed safe next
  · intro named
    exact (keysSafe_step safe named next).unharmed

/-- A request with a service is registered. -/
theorem requests_harmless_iff_registered :
    ∃ state : ProxyState, state.board.history.length = 2 ∧ (state.board.Unharmed .reference ∧
      ∀ action after, state.step .reference action = some after →
        (after.board.Unharmed .reference ↔ state.RequestNamed .reference action)) := by
  obtain ⟨state, reached, tested⟩ := Runs.reaches_of_execute_test (step .reference)
    (RequestNamed .reference) (requestActions "s" .null .singleshot false "r" 2) initial
    (fun state => decide (state.board.history.length = 2)) (by decide)
  exact ⟨state, of_decide_eq_true tested, requests_harmless_iff reached⟩

/-- A request whose service is missing is accepted and read as the empty name. -/
private def unnamedActions : List Action :=
  exchangeActions (.object []) ⟨.singleshot, .null, false, 0⟩ "r" 4 ++ commActions 4

/-- The comm thread crashes on the key of a request without a service. -/
theorem requests_not_harmless :
    ¬∀ (env : Environment) (state : ProxyState),
      Runs.Reaches (step env) Runs.unrestricted initial state → state.board.Unharmed env := by
  intro harmless
  obtain ⟨state, reached, crashed⟩ := Runs.reaches_of_execute_test (step .reference)
    Runs.unrestricted unnamedActions initial (fun state => state.board.crashed) (by decide)
  have running := (harmless .reference state reached).running
  rw [crashed] at running
  cases running

end ProxyState

end Sawang

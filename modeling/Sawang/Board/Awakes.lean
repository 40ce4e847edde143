import Sawang.Board.Step

/-!
# Who has still to wake a consumer

After an append the same thread goes on to call `proxy_comm_awake` or
`proxy_subscribe_awake`.  Between the two it owes the wake-up.
-/

namespace Sawang

open Board

/-- The jobs of the channel thread. -/
inductive JobShape : List ChannelOp → Prop
  | idle : JobShape []
  | resolving (payload : Option Json) (taskKey rid : String) :
      JobShape [.createUnsubscribeTaskKey payload taskKey rid]
  | setting (type : RespondTableType) (taskKey rid : String) :
      JobShape [.respondTableSet type taskKey rid]
  | refusing (rid : String) (status : Int32) :
      JobShape [.replyQueueAppendInvalidStatus rid status, .subscribeAwake]
  | refused : JobShape [.subscribeAwake]
  | accepted (task : ParseQueueTask) (taskKey rid : String) :
      JobShape [.parseQueueAppend task, .respondTableSetUnsubscribe taskKey rid, .commAwake]
  | registering (taskKey rid : String) :
      JobShape [.respondTableSetUnsubscribe taskKey rid, .commAwake]
  | queueing (task : ParseQueueTask) : JobShape [.parseQueueAppend task, .commAwake]
  | waking : JobShape [.commAwake]

namespace Board

/-- The job is past `parse_queue_append` and before `proxy_comm_awake`. -/
def owesCommAwake : List ChannelOp → Bool
  | .respondTableSetUnsubscribe .. :: _ | .commAwake :: _ => true
  | _ => false

/-- The job is between `reply_queue_append` and `proxy_subscribe_awake`. -/
def owesSubscribeAwake : List ChannelOp → Bool
  | .subscribeAwake :: _ => true
  | _ => false

/-- The channel thread has still to wake the comm thread. -/
def owesComm (board : Board) : Bool := owesCommAwake board.job

/-- The channel thread (`none`) or a call of `proxy_comm_reply` has still to wake the
subscribe thread. -/
def owesSubscribe (board : Board) : Option Nat → Bool
  | none => owesSubscribeAwake board.job
  | some index => board.calls[index]?.any fun call => call.position == .awake

/-- A request that was just confirmed owes nothing. -/
theorem exchangeJob_owes (env : Environment) (exchange : Exchange) (rid : String) :
    owesCommAwake (exchangeJob env exchange rid) = false ∧
      owesSubscribeAwake (exchangeJob env exchange rid) = false := by
  unfold exchangeJob
  split
  · exact ⟨rfl, rfl⟩
  · split
    · exact ⟨rfl, rfl⟩
    · exact ⟨rfl, rfl⟩

theorem jobShape_exchangeJob (env : Environment) (exchange : Exchange) (rid : String) :
    JobShape (exchangeJob env exchange rid) := by
  unfold exchangeJob
  split
  · exact .refusing _ _
  · split
    · exact .resolving _ _ _
    · exact .setting _ _ _

theorem jobShape_step {env : Environment} {before after : Board} {action : Move}
    (shape : JobShape before.job) (step : BoardStep env before action after) :
    JobShape after.job := by
  cases step with
  | confirm idle => exact jobShape_exchangeJob env _ _
  | channelAwake next awakes =>
      rw [next] at shape
      rcases awakes with rfl | rfl
      · cases shape
        exact .idle
      · cases shape
        exact .idle
  | reject next | refuse next | accept next | subscribed next | subscribedBefore next
  | registered next | registeredUnsubscribe next =>
      rw [next] at shape
      cases shape
      constructor
  | enqueue next =>
      rw [next] at shape
      cases shape with
      | accepted => exact .registering _ _
      | queueing => exact .waking
  | _ => exact shape

/-! ## The parse queue -/

/-- What a move means to the parse queue and to `proxy_comm_awake`. -/
inductive ParseMoved (before : Board) : Move → Board.Effect → Board → Prop
  | enqueue {after : Board} {task : ParseQueueTask} {effect : Board.Effect}
      (quiet : effect ≠ .commAwake)
      (queue : after.parseQueue = before.parseQueue ++ [task])
      (work : after.work = before.work)
      (free : before.owesComm = false) (owes : after.owesComm = true) :
      ParseMoved before .channel effect after
  | awake {after : Board} (queue : after.parseQueue = before.parseQueue)
      (work : after.work = before.work)
      (owed : before.owesComm = true) (free : after.owesComm = false) :
      ParseMoved before .channel .commAwake after
  | dequeue {after : Board} {input : CommInput} {task : ParseQueueTask}
      {effect : Board.Effect} (quiet : effect ≠ .commAwake)
      (idle : before.work = []) (queue : before.parseQueue = task :: after.parseQueue)
      (work : after.work ≠ []) (same : after.owesComm = before.owesComm) :
      ParseMoved before (.comm input) effect after
  | serve {after : Board} {input : CommInput} {effect : Board.Effect}
      (quiet : effect ≠ .commAwake) (busy : before.work ≠ [])
      (queue : after.parseQueue = before.parseQueue)
      (same : after.owesComm = before.owesComm) :
      ParseMoved before (.comm input) effect after
  | other {after : Board} {action : Move} {effect : Board.Effect}
      (quiet : effect ≠ .commAwake) (queue : after.parseQueue = before.parseQueue)
      (work : after.work = before.work) (same : after.owesComm = before.owesComm) :
      ParseMoved before action effect after

/-- Only the channel thread wakes the comm thread. -/
private theorem quiet_of_elsewhere {env : Environment} {board : Board} {action : Move}
    (elsewhere : action ≠ .channel) : board.effect env action ≠ .commAwake := by
  unfold effect
  split
  · exact absurd rfl elsewhere
  · split
    · split <;> simp
    · simp
  · simp

theorem parseMoved_of_step {env : Environment} {before after : Board} {action : Move}
    (shape : JobShape before.job) (step : BoardStep env before action after) :
    ParseMoved before action (before.effect env action) after := by
  have silent : ∀ {rest : List ChannelOp} {op : ChannelOp}, before.job = op :: rest →
      op ≠ .commAwake → before.effect env .channel ≠ .commAwake := by
    intro rest op next other
    cases op <;> simp [effect, next] at other ⊢
  have busy : ∀ {op : CommOp} {rest : List CommOp}, before.work = op :: rest →
      before.work ≠ [] := by
    intro op rest next
    simp [next]
  cases step with
  | confirm idle =>
      refine .other (quiet_of_elsewhere nofun) rfl rfl ?_
      simp only [owesComm, idle, record, (exchangeJob_owes env _ _).1]
      rfl
  | reject next =>
      rw [next] at shape
      refine .other (silent next nofun) rfl rfl ?_
      cases shape
      simp only [owesComm, owesCommAwake, next, record]
  | channelAwake next awakes =>
      rw [next] at shape
      rcases awakes with rfl | rfl
      · refine .other (silent next nofun) rfl rfl ?_
        cases shape
        simp only [owesComm, owesCommAwake, next]
      · have effect : before.effect env .channel = .commAwake := by simp [effect, next]
        rw [effect]
        refine .awake rfl rfl (by simp only [owesComm, owesCommAwake, next]) ?_
        cases shape
        rfl
  | refuse next refused =>
      exact .other (silent next nofun) rfl rfl (by simp only [owesComm, owesCommAwake, next])
  | accept next resolved =>
      exact .other (silent next nofun) rfl rfl (by simp only [owesComm, owesCommAwake, next])
  | subscribed next new =>
      exact .other (silent next nofun) rfl rfl
        (by simp only [owesComm, owesCommAwake, next, record])
  | subscribedBefore next old =>
      rw [next] at shape
      refine .other (silent next nofun) rfl rfl ?_
      cases shape
      simp only [owesComm, owesCommAwake, next]
  | registered next =>
      exact .other (silent next nofun) rfl rfl
        (by simp only [owesComm, owesCommAwake, next, record])
  | registeredUnsubscribe next =>
      rw [next] at shape
      refine .other (silent next nofun) rfl rfl ?_
      cases shape
      simp only [owesComm, owesCommAwake, next, record]
  | enqueue next =>
      rw [next] at shape
      refine .enqueue (silent next nofun) rfl rfl (by simp only [owesComm, owesCommAwake, next]) ?_
      cases shape <;> rfl
  | dequeue free head =>
      refine .dequeue (quiet_of_elsewhere nofun) free head ?_ rfl
      simp only [record, taskWork]
      split <;> simp
  | dropAbsent next | dropLast next | dropQuiet next | clear next | confirmCall next
  | awaited next | run next | runDrop next | callbackReturn next | callbackReply next
  | requestUnknown next | requestFound next =>
      exact .serve (quiet_of_elsewhere nofun) (busy next) rfl rfl
  | crash may =>
      refine .other (quiet_of_elsewhere ?_) rfl rfl rfl
      rintro rfl
      cases may
  | foundSingleshot | foundMultirespond | advance | dropRecipient | append | proxyReply =>
      exact .other (quiet_of_elsewhere nofun) rfl rfl rfl

/-! ## The reply queue -/

/-- What a move means to the reply queue and to `proxy_subscribe_awake`, by its effect. -/
inductive ReplyMoved (before : Board) : Board.Effect → Board → Prop
  | append {after : Board} {reply : ReplyQueueTask} (producer : Option Nat)
      (free : before.owesSubscribe producer = false)
      (owes : after.owesSubscribe = Function.update before.owesSubscribe producer true) :
      ReplyMoved before (.replyQueueAppend reply) after
  | awake {after : Board} (producer : Option Nat)
      (owed : before.owesSubscribe producer = true)
      (owes : after.owesSubscribe = Function.update before.owesSubscribe producer false) :
      ReplyMoved before .subscribeAwake after
  | other {after : Board} {effect : Board.Effect}
      (quiet : effect = .none ∨ effect = .commAwake)
      (same : after.owesSubscribe = before.owesSubscribe) :
      ReplyMoved before effect after

/-- A step of the channel thread changes what the job owes. -/
private theorem owes_job {before after : Board} {owes : Bool}
    (calls : after.calls = before.calls) (job : owesSubscribeAwake after.job = owes) :
    after.owesSubscribe = Function.update before.owesSubscribe none owes := by
  funext producer
  cases producer with
  | none =>
      rw [Function.update_self]
      exact job
  | some index =>
      rw [Function.update_of_ne (by simp)]
      simp only [owesSubscribe, calls]

/-- A step of a call changes what that call owes. -/
private theorem owes_set {before after : Board} {index : Nat} {old call : ReplyCall}
    {owes : Bool} (there : before.calls[index]? = some old) (job : after.job = before.job)
    (calls : after.calls = before.calls.set index call)
    (position : (call.position == .awake) = owes) :
    after.owesSubscribe = Function.update before.owesSubscribe (some index) owes := by
  have inside : index < before.calls.length := (List.getElem?_eq_some_iff.mp there).1
  funext producer
  cases producer with
  | none =>
      rw [Function.update_of_ne (by simp)]
      simp only [owesSubscribe, job]
  | some other =>
      by_cases same : other = index
      · subst same
        rw [Function.update_self]
        simp [owesSubscribe, calls, inside, position]
      · rw [Function.update_of_ne (by simpa using same)]
        simp only [owesSubscribe, calls, List.getElem?_set_ne (Ne.symm same)]

/-- A new call owes nothing. -/
private theorem owes_push {before after : Board} {call : ReplyCall}
    (job : after.job = before.job) (calls : after.calls = before.calls ++ [call])
    (fresh : call.position ≠ .awake) : after.owesSubscribe = before.owesSubscribe := by
  funext producer
  cases producer with
  | none => simp only [owesSubscribe, job]
  | some index =>
      simp only [owesSubscribe, calls]
      by_cases inside : index < before.calls.length
      · rw [List.getElem?_append_left inside]
      · rw [List.getElem?_append_right (by omega),
          List.getElem?_eq_none (show before.calls.length ≤ index by omega)]
        cases found : [call][index - before.calls.length]? with
        | none => rfl
        | some last =>
            have member := List.mem_of_getElem? found
            rw [List.mem_singleton.mp member]
            simpa using fresh

/-- A producer that owes what it owed before. -/
private theorem owes_same {before after : Board} {producer : Option Nat} {owes : Bool}
    (moved : after.owesSubscribe = Function.update before.owesSubscribe producer owes)
    (was : before.owesSubscribe producer = owes) :
    after.owesSubscribe = before.owesSubscribe := by
  rw [moved, ← was, Function.update_eq_self]

private theorem owes_call {board : Board} {index : Nat} {call : ReplyCall}
    (there : board.calls[index]? = some call) :
    board.owesSubscribe (some index) = (call.position == .awake) := by
  simp [owesSubscribe, there]

theorem replyMoved_of_step {env : Environment} {before after : Board} {action : Move}
    (shape : JobShape before.job) (step : BoardStep env before action after) :
    ReplyMoved before (before.effect env action) after := by
  have quiet : ∀ {op : ChannelOp} {rest : List ChannelOp}, before.job = op :: rest →
      owesSubscribeAwake before.job = false → after.calls = before.calls →
      owesSubscribeAwake after.job = false →
      before.effect env .channel = .none ∨ before.effect env .channel = .commAwake →
      ReplyMoved before (before.effect env .channel) after := by
    intro op rest next was calls job effect
    exact .other effect (owes_same (owes_job calls job) was)
  have waits : ∀ {index : Nat} {old call : ReplyCall}, before.calls[index]? = some old →
      old.position ≠ .awake → (∀ rid, old.position ≠ .append rid) →
      after.job = before.job → after.calls = before.calls.set index call →
      call.position ≠ .awake →
      ReplyMoved before (before.effect env (.reply index)) after := by
    intro index old call there elsewhere unread job calls still
    have effect : before.effect env (.reply index) = .none := by
      simp only [Board.effect, there]
    have owes := owes_set there job calls (beq_eq_false_iff_ne.mpr still)
    refine .other (Or.inl effect) (owes_same owes ?_)
    rw [owes_call there, beq_eq_false_iff_ne.mpr elsewhere]
  cases step with
  | @confirm exchange rid idle =>
      have owes := (exchangeJob_owes env exchange rid).2
      refine .other (Or.inl rfl) (owes_same (owes_job rfl owes) ?_)
      simp only [owesSubscribe, idle]
      rfl
  | reject next =>
      rw [next] at shape
      have effect : ∃ reply, before.effect env .channel = .replyQueueAppend reply := by
        simp [Board.effect, next]
      obtain ⟨reply, effect⟩ := effect
      rw [effect]
      refine .append none (by simp only [owesSubscribe, next]; rfl) (owes_job rfl ?_)
      cases shape
      rfl
  | channelAwake next awakes =>
      rw [next] at shape
      rcases awakes with rfl | rfl
      · have effect : before.effect env .channel = .subscribeAwake := by
          simp [Board.effect, next]
        rw [effect]
        refine .awake none (by simp only [owesSubscribe, next]; rfl) (owes_job rfl ?_)
        cases shape
        rfl
      · refine quiet next (by rw [next]; rfl) rfl ?_ (by simp [Board.effect, next])
        cases shape
        rfl
  | refuse next refused =>
      exact quiet next (by rw [next]; rfl) rfl rfl (by simp [Board.effect, next])
  | accept next resolved =>
      exact quiet next (by rw [next]; rfl) rfl rfl (by simp [Board.effect, next])
  | subscribed next new =>
      exact quiet next (by rw [next]; rfl) rfl rfl (by simp [Board.effect, next])
  | subscribedBefore next old =>
      rw [next] at shape
      refine quiet next (by rw [next]; rfl) rfl ?_ (by simp [Board.effect, next])
      cases shape
      rfl
  | registered next =>
      exact quiet next (by rw [next]; rfl) rfl rfl (by simp [Board.effect, next])
  | registeredUnsubscribe next =>
      rw [next] at shape
      refine quiet next (by rw [next]; rfl) rfl ?_ (by simp [Board.effect, next])
      cases shape
      rfl
  | enqueue next =>
      rw [next] at shape
      refine quiet next (by rw [next]; rfl) rfl ?_ (by simp [Board.effect, next])
      cases shape <;> rfl
  | foundSingleshot there position present =>
      exact waits there (by simp [position]) (by simp [position]) rfl rfl
        (ReplyCall.found_position _ _ _)
  | foundMultirespond there position present =>
      exact waits there (by simp [position]) (by simp [position]) rfl rfl
        (ReplyCall.found_position _ _ _)
  | @advance index call position there passes =>
      rcases passes with ⟨from_, rfl, _⟩ | ⟨from_, rfl, _⟩ | ⟨rid, from_, rfl⟩ | ⟨from_, rfl⟩
      · exact waits there (by simp [from_]) (by simp [from_]) rfl rfl nofun
      · exact waits there (by simp [from_]) (by simp [from_]) rfl rfl nofun
      · exact waits there (by simp [from_]) (by simp [from_]) rfl rfl nofun
      · have effect : before.effect env (.reply index) = .subscribeAwake := by
          simp [Board.effect, there, from_]
        rw [effect]
        refine .awake (some index) ?_ (owes_set there rfl rfl rfl)
        rw [owes_call there, from_]
        rfl
  | dropRecipient there position =>
      exact waits there (by simp [position]) (by simp [position]) rfl rfl nofun
  | @append index call rid there position =>
      have effect : before.effect env (.reply index) =
          .replyQueueAppend (call.reply env rid) := by
        simp [Board.effect, there, position]
      rw [effect]
      refine .append (some index) ?_ (owes_set there rfl rfl rfl)
      rw [owes_call there, position]
      rfl
  | confirmCall next built => exact .other (Or.inl rfl) (owes_push rfl rfl nofun)
  | callbackReply next => exact .other (Or.inl rfl) (owes_push rfl rfl nofun)
  | proxyReply => exact .other (Or.inl rfl) (owes_push rfl rfl nofun)
  | crash may =>
      cases action with
      | comm input => exact .other (Or.inl rfl) rfl
      | channelCrash => exact .other (Or.inl rfl) rfl
      | _ => cases may
  | dequeue | dropAbsent | dropLast | dropQuiet | clear | awaited | run | runDrop
  | callbackReturn | requestUnknown | requestFound => exact .other (Or.inl rfl) rfl

end Board

end Sawang

import Sawang.Board.Calls

/-!
# Confirming an unsubscription

The comm thread answers an unsubscription itself: it calls `proxy_comm_reply`
for the task and waits for the call, so at most one confirmation is in progress.
-/

namespace Sawang

open Board

/-- The `MULTIRESPOND_CLEAR_SUCCESS` reply for a task. -/
def clearSuccessReply (env : Environment) (task : ParseQueueTask)
    (recipients : List String) (multipleRespond : Bool) : ReplyQueueTask :=
  replyQueueTask env (ridTree recipients)
    (some (statusHeaders ProxyServiceStatus.multirespondClearSuccess.code))
    (task.unsubscribeUuid.map confirmPayload) multipleRespond

/-- The call is made for the task, with the key rebuilt from the argument. -/
def ReplyCall.ConfirmationOf (env : Environment) (call : ReplyCall)
    (task : ParseQueueTask) : Prop :=
  (∃ arg, proxyCommCreateReplyArg env task.taskKey = some arg ∧
    call.taskKey = taskKeyFromReplyArg env arg) ∧
  call.headers =
    some (statusHeaders ProxyServiceStatus.multirespondClearSuccess.code) ∧
  call.payload = task.unsubscribeUuid.map confirmPayload

theorem ReplyCall.ConfirmationOf.reply {env : Environment} {call : ReplyCall}
    {task : ParseQueueTask} (confirmation : call.ConfirmationOf env task)
    (recipients : List String) :
    call.reply env recipients =
      clearSuccessReply env task recipients (call.which == .multirespond) := by
  unfold ReplyCall.reply clearSuccessReply
  rw [confirmation.2.1, confirmation.2.2]

theorem ReplyCall.ConfirmationOf.taskKey {env : Environment} {call : ReplyCall}
    {task : ParseQueueTask} (confirmation : call.ConfirmationOf env task)
    (roundTrips : RoundTrips env task.taskKey) : call.taskKey = task.taskKey := by
  obtain ⟨arg, built, key⟩ := confirmation.1
  unfold RoundTrips at roundTrips
  rw [built] at roundTrips
  exact key.trans (Option.some.inj roundTrips)

/-- The calls are made for the same reply. -/
def ReplyCall.SameRequest (next call : ReplyCall) : Prop :=
  next.taskKey = call.taskKey ∧ next.headers = call.headers ∧
    next.payload = call.payload ∧ next.confirms = call.confirms

theorem ReplyCall.sameRequest_found (call : ReplyCall) (which : RespondTableType)
    (uuids : List String) : (call.found which uuids).SameRequest call :=
  ⟨rfl, rfl, rfl, rfl⟩

theorem ReplyCall.sameRequest_moveTo (call : ReplyCall) (position : ReplyPosition) :
    (call.moveTo position).SameRequest call :=
  ⟨rfl, rfl, rfl, rfl⟩

structure Confirming (env : Environment) (board : Board) : Prop where
  queued : ∀ task ∈ board.parseQueue, .enqueued task ∈ board.history
  working : ∀ task uuid, .confirm task uuid ∈ board.work →
    .enqueued task ∈ board.history ∧ task.unsubscribeTaskKey ≠ none
  calling : ∀ call ∈ board.calls, ∀ task, call.confirms = some task →
    call.ConfirmationOf env task ∧ .enqueued task ∈ board.history ∧
      task.unsubscribeTaskKey ≠ none
  /-- The comm thread waits for a confirmation in progress. -/
  sequential : ∀ index call, board.calls[index]? = some call → call.confirms ≠ none →
    call.position ≠ .returned → board.work = [.awaitReply index]
  /-- A queued unsubscription is never forgotten. -/
  located : ∀ task, .enqueued task ∈ board.history → task.unsubscribeTaskKey ≠ none →
    task ∈ board.parseQueue ∨ (∃ uuid, .confirm task uuid ∈ board.work) ∨
      ∃ call ∈ board.calls, call.confirms = some task
  genuine : ∀ index task reply, .replied index (some task) reply ∈ board.history →
    ∃ recipients multipleRespond,
      reply = clearSuccessReply env task recipients multipleRespond

/-- The operation neither makes nor awaits a confirmation. -/
def CommOp.plain : CommOp → Bool
  | .confirm .. | .awaitReply _ => false
  | _ => true

theorem CommOp.plain_of_drops {op : CommOp} {entry : String × String}
    (drops : op.drops = some entry) : op.plain = true := by
  cases op <;> first | rfl | cases drops

namespace Confirming

variable {env : Environment} {before after : Board}

theorem initial (env : Environment) : Confirming env Board.initial where
  queued := by
    intro task member
    cases member
  working := by
    intro task uuid member
    cases member
  calling := by
    intro call member
    cases member
  sequential := by
    intro index call there
    simp [Board.initial] at there
  located := by
    intro task member
    cases member
  genuine := by
    intro index task reply member
    cases member

/-- No confirmation is in progress. -/
private def Quiet (board : Board) : Prop :=
  ∀ call ∈ board.calls, call.confirms ≠ none → call.position = .returned

/-- The comm thread moves on in its work and keeps its confirmations. -/
private theorem advance (confirming : Confirming env before)
    (waits : after.work = before.work ∨ Quiet before)
    (queue : after.parseQueue = before.parseQueue) (calls : after.calls = before.calls)
    (work : ∀ task uuid, .confirm task uuid ∈ after.work ↔
      .confirm task uuid ∈ before.work)
    (grows : before.history ⊆ after.history)
    (enqueued : ∀ task, .enqueued task ∈ after.history → .enqueued task ∈ before.history)
    (replied : ∀ index task reply, .replied index (some task) reply ∈ after.history →
      .replied index (some task) reply ∈ before.history) : Confirming env after where
  queued := by
    intro task member
    exact grows (confirming.queued task (queue ▸ member))
  working := by
    intro task uuid member
    exact (confirming.working task uuid ((work task uuid).mp member)).imp_left (@grows _)
  calling := by
    intro call member task confirms
    obtain ⟨confirmation, recorded, drops⟩ :=
      confirming.calling call (calls ▸ member) task confirms
    exact ⟨confirmation, grows recorded, drops⟩
  sequential := by
    intro index call there confirms pending
    rw [calls] at there
    rcases waits with same | quiet
    · rw [same]
      exact confirming.sequential index call there confirms pending
    · exact absurd (quiet call (List.mem_of_getElem? there) confirms) pending
  located := by
    intro task recorded drops
    rw [queue, calls]
    rcases confirming.located task (enqueued task recorded) drops with
      queued | ⟨uuid, working⟩ | called
    · exact Or.inl queued
    · exact Or.inr (Or.inl ⟨uuid, (work task uuid).mpr working⟩)
    · exact Or.inr (Or.inr called)
  genuine := by
    intro index task reply recorded
    exact confirming.genuine index task reply (replied index task reply recorded)

/-- Moves that leave the tasks and the calls alone. -/
private theorem frame (confirming : Confirming env before)
    (queue : after.parseQueue = before.parseQueue) (work : after.work = before.work)
    (calls : after.calls = before.calls) (grows : before.history ⊆ after.history)
    (enqueued : ∀ task, .enqueued task ∈ after.history → .enqueued task ∈ before.history)
    (replied : ∀ index task reply, .replied index (some task) reply ∈ after.history →
      .replied index (some task) reply ∈ before.history) : Confirming env after := by
  have confirmations : ∀ task uuid, .confirm task uuid ∈ after.work ↔
      .confirm task uuid ∈ before.work := by
    intro task uuid
    rw [work]
  exact confirming.advance (Or.inl work) queue calls confirmations grows enqueued replied

private theorem channel (confirming : Confirming env before)
    (step : BoardStep env before .channel after) : Confirming env after := by
  cases step with
  | enqueue next =>
      obtain ⟨queued, working, calling, sequential, located, genuine⟩ := confirming
      refine ⟨?_, ?_, ?_, sequential, ?_, ?_⟩
      · intro other member
        rcases List.mem_append.mp member with old | new
        · exact List.mem_cons_of_mem _ (queued other old)
        · rw [List.mem_singleton.mp new]
          exact List.mem_cons_self
      · intro other uuid member
        exact (working other uuid member).imp_left (List.mem_cons_of_mem _)
      · intro call member other confirms
        obtain ⟨confirmation, recorded, drops⟩ := calling call member other confirms
        exact ⟨confirmation, List.mem_cons_of_mem _ recorded, drops⟩
      · intro other recorded drops
        rcases List.mem_cons.mp recorded with new | old
        · cases new
          exact Or.inl (List.mem_append_right _ (List.mem_singleton.mpr rfl))
        · exact (located other old drops).imp_left (List.mem_append_left _)
      · intro index other reply recorded
        rcases List.mem_cons.mp recorded with new | old
        · cases new
        · exact genuine index other reply old
  | _ =>
      refine confirming.frame rfl rfl rfl ?_ ?_ ?_ <;> simp [record, crash]

private theorem quiet_of_next (confirming : Confirming env before) {op : CommOp}
    {rest : List CommOp} (next : before.work = op :: rest)
    (other : ∀ index, op ≠ .awaitReply index) : Quiet before := by
  intro call member confirms
  by_contra pending
  obtain ⟨index, there⟩ := List.mem_iff_getElem?.mp member
  have waits := confirming.sequential index call there confirms pending
  rw [next] at waits
  exact other index (List.cons.inj waits).1

private theorem quiet_of_free (confirming : Confirming env before)
    (free : before.work = []) : Quiet before := by
  intro call member confirms
  by_contra pending
  obtain ⟨index, there⟩ := List.mem_iff_getElem?.mp member
  have waits := confirming.sequential index call there confirms pending
  rw [free] at waits
  cases waits

private theorem dequeue (confirming : Confirming env before)
    (tasks : TasksSound env before) {task : ParseQueueTask} {rest : List ParseQueueTask}
    (free : before.work = []) (head : before.parseQueue = task :: rest) :
    Confirming env ({ before with
      parseQueue := rest, work := taskWork task }.record (.dequeued task)) := by
  have quiet := confirming.quiet_of_free free
  have sound := tasks.queue task (head ▸ List.mem_cons_self)
  have recorded := confirming.queued task (head ▸ List.mem_cons_self)
  obtain ⟨queued, working, calling, sequential, located, genuine⟩ := confirming
  refine ⟨?_, ?_, ?_, ?_, ?_, ?_⟩
  · intro other member
    exact List.mem_cons_of_mem _ (queued other (head ▸ List.mem_cons_of_mem _ member))
  · intro other uuid member
    obtain ⟨rfl, taskKey, named, _⟩ := confirm_mem_taskWork member
    exact ⟨List.mem_cons_of_mem _ recorded, by simp [named]⟩
  · intro call member other confirms
    obtain ⟨confirmation, known, drops⟩ := calling call member other confirms
    exact ⟨confirmation, List.mem_cons_of_mem _ known, drops⟩
  · intro index call there confirms pending
    exact absurd (quiet call (List.mem_of_getElem? there) confirms) pending
  · intro other known drops
    have earlier : .enqueued other ∈ before.history := by
      simpa [record] using known
    rcases located other earlier drops with waiting | ⟨uuid, member⟩ | called
    · rw [head] at waiting
      rcases List.mem_cons.mp waiting with rfl | behind
      · -- the popped unsubscription is to be confirmed next
        rcases sound with ⟨normal, _⟩ | ⟨single, taskKey, uuid, named, dropped⟩
        · exact absurd normal drops
        · refine Or.inr (Or.inl ⟨uuid, ?_⟩)
          simp [record, taskWork_unsubscribe single named dropped]
      · exact Or.inl behind
    · rw [free] at member
      cases member
    · exact Or.inr (Or.inr called)
  · intro index other reply known
    exact genuine index other reply (by simpa [record] using known)

/-- The comm thread calls `proxy_comm_reply` for a task. -/
private theorem confirm (confirming : Confirming env before)
    (tasks : TasksSound env before) {task : ParseQueueTask} {uuid : String}
    {rest : List CommOp} {arg : ProxyReplyArg}
    (next : before.work = .confirm task uuid :: rest)
    (built : proxyCommCreateReplyArg env task.taskKey = some arg) :
    Confirming env { before with
      work := .awaitReply before.calls.length :: rest
      calls := before.calls ++ [replyCall env arg
        (some (statusHeaders ProxyServiceStatus.multirespondClearSuccess.code))
        (some (confirmPayload uuid)) (some task)] } := by
  have quiet := confirming.quiet_of_next next (by simp)
  have stage := tasks.work
  rw [next] at stage
  obtain ⟨queued, working, calling, sequential, located, genuine⟩ := confirming
  obtain ⟨recorded, drops⟩ := working task uuid (next ▸ List.mem_cons_self)
  cases stage with
  | confirming dropped =>
      refine ⟨queued, ?_, ?_, ?_, ?_, genuine⟩
      · simp
      · intro call member other confirms
        rcases List.mem_append.mp member with old | new
        · exact calling call old other confirms
        · rw [List.mem_singleton.mp new] at confirms ⊢
          cases confirms
          exact ⟨⟨⟨arg, built, rfl⟩, rfl, by simp [replyCall, dropped]⟩, recorded, drops⟩
      · intro index call there confirms pending
        by_cases inside : index < before.calls.length
        · rw [List.getElem?_append_left inside] at there
          exact absurd (quiet call (List.mem_of_getElem? there) confirms) pending
        · obtain ⟨bound, _⟩ := List.getElem?_eq_some_iff.mp there
          simp only [List.length_append, List.length_singleton] at bound
          have last : index = before.calls.length := by omega
          rw [last]
      · intro other known otherDrops
        rcases located other known otherDrops with waiting | ⟨named, member⟩ | called
        · exact Or.inl waiting
        · rw [next, List.mem_singleton] at member
          cases member
          refine Or.inr (Or.inr ⟨_, List.mem_append_right _ List.mem_cons_self, rfl⟩)
        · obtain ⟨call, member, confirms⟩ := called
          exact Or.inr (Or.inr ⟨call, List.mem_append_left _ member, confirms⟩)

/-- A call of the application joins the calls. -/
private theorem started (confirming : Confirming env before) {call : ReplyCall}
    (application : call.confirms = none) {work : List CommOp}
    (confirmations : ∀ task uuid, .confirm task uuid ∈ work ↔
      .confirm task uuid ∈ before.work)
    (waits : work = before.work ∨ Quiet before) :
    Confirming env { before with work := work, calls := before.calls ++ [call] } := by
  obtain ⟨queued, working, calling, sequential, located, genuine⟩ := confirming
  refine ⟨queued, ?_, ?_, ?_, ?_, genuine⟩
  · intro task uuid member
    exact working task uuid ((confirmations task uuid).mp member)
  · intro other member task confirms
    rcases List.mem_append.mp member with old | new
    · exact calling other old task confirms
    · rw [List.mem_singleton.mp new, application] at confirms
      cases confirms
  · intro index other there confirms pending
    have old : before.calls[index]? = some other := by
      by_cases inside : index < before.calls.length
      · rwa [List.getElem?_append_left inside] at there
      · rw [List.getElem?_append_right (by omega)] at there
        have same := List.mem_of_getElem? there
        rw [List.mem_singleton.mp same] at confirms
        exact absurd application confirms
    rcases waits with same | quiet
    · rw [same]
      exact sequential index other old confirms pending
    · exact absurd (quiet other (List.mem_of_getElem? old) confirms) pending
  · intro task known drops
    rcases located task known drops with waiting | ⟨uuid, member⟩ | ⟨other, member, confirms⟩
    · exact Or.inl waiting
    · exact Or.inr (Or.inl ⟨uuid, (confirmations task uuid).mpr member⟩)
    · exact Or.inr (Or.inr ⟨other, List.mem_append_left _ member, confirms⟩)

/-- The comm thread serves a plain operation. -/
private theorem serve (confirming : Confirming env before) {op : CommOp}
    {rest : List CommOp} (ahead : List CommOp)
    (next : before.work = op :: rest) (plain : op.plain = true)
    (work : after.work = ahead ++ rest)
    (unconfirming : ∀ task uuid, .confirm task uuid ∉ ahead)
    (queue : after.parseQueue = before.parseQueue) (calls : after.calls = before.calls)
    (grows : before.history ⊆ after.history)
    (enqueued : ∀ task, .enqueued task ∈ after.history → .enqueued task ∈ before.history)
    (replied : ∀ index task reply, .replied index (some task) reply ∈ after.history →
      .replied index (some task) reply ∈ before.history) : Confirming env after := by
  have quiet : Quiet before := by
    apply confirming.quiet_of_next next
    rintro index rfl
    cases plain
  refine confirming.advance (Or.inr quiet) queue calls ?_ grows enqueued replied
  intro task uuid
  rw [work, next, List.mem_append, List.mem_cons]
  constructor
  · rintro (inAhead | inRest)
    · exact absurd inAhead (unconfirming task uuid)
    · exact Or.inr inRest
  · rintro (rfl | inRest)
    · cases plain
    · exact Or.inr inRest

private theorem comm {input : CommInput} (tasks : TasksSound env before)
    (confirming : Confirming env before)
    (step : BoardStep env before (.comm input) after) : Confirming env after := by
  have stage := tasks.work
  cases step with
  | crash =>
      exact confirming.frame rfl rfl rfl (List.Subset.refl _) (by simp [crash])
        (by simp [crash])
  | dequeue free head => exact confirming.dequeue tasks free head
  | confirmCall next built => exact confirming.confirm tasks next built
  | callbackReply next =>
      refine confirming.started rfl ?_ (Or.inr (confirming.quiet_of_next next (by simp)))
      simp [next]
  | awaited next there finished =>
      refine confirming.advance (Or.inr ?_) rfl rfl (by simp [next]) (List.Subset.refl _)
        (by simp) (by simp)
      intro other member confirms
      by_contra pending
      obtain ⟨index, at_⟩ := List.mem_iff_getElem?.mp member
      have waits := confirming.sequential index other at_ confirms pending
      rw [next] at waits
      cases (List.cons.inj waits).1
      rw [there] at at_
      cases at_
      exact pending finished
  | dropAbsent next drops absent =>
      exact confirming.serve [] next (CommOp.plain_of_drops drops) rfl (by simp) rfl rfl
        (List.Subset.refl _) (by simp) (by simp)
  | dropLast next drops present last clears =>
      exact confirming.serve [.multirespondClear _] next (CommOp.plain_of_drops drops) rfl
        (by simp) rfl rfl (List.subset_cons_self _ _) (by simp [record])
        (by simp [record])
  | dropQuiet next drops present quiet =>
      exact confirming.serve [] next (CommOp.plain_of_drops drops) rfl (by simp) rfl rfl
        (List.subset_cons_self _ _) (by simp [record]) (by simp [record])
  | clear next built =>
      exact confirming.serve [.callback] next rfl rfl (by simp) rfl rfl
        (List.subset_cons_self _ _) (by simp [record]) (by simp [record])
  | run next built normal =>
      exact confirming.serve [.callback] next rfl rfl (by simp) rfl rfl
        (List.subset_cons_self _ _) (by simp [record]) (by simp [record])
  | runDrop next built drop =>
      exact confirming.serve _ next rfl rfl (by simp) rfl rfl
        (List.Subset.refl _) (by simp) (by simp)
  | callbackReturn next =>
      exact confirming.serve [] next rfl rfl (by simp) rfl rfl
        (List.Subset.refl _) (by simp) (by simp)
  | requestUnknown next =>
      exact confirming.serve [] next rfl rfl (by simp) rfl rfl
        (List.Subset.refl _) (by simp) (by simp)
  | requestFound next resolved =>
      exact confirming.serve [.respondTableDrop _ _] next rfl rfl (by simp) rfl rfl
        (List.Subset.refl _) (by simp) (by simp)

/-- A call keeps its request on its way. -/
private theorem moved (confirming : Confirming env before) {index : Nat}
    {call next : ReplyCall} (there : before.calls[index]? = some call)
    (ongoing : call.position ≠ .returned) (same : next.SameRequest call)
    (table : RespondTable) :
    Confirming env { before with
      singleshot := table, calls := before.calls.set index next } := by
  obtain ⟨key, headers, payload, confirms⟩ := same
  obtain ⟨queued, working, calling, sequential, located, genuine⟩ := confirming
  refine ⟨queued, working, ?_, ?_, ?_, genuine⟩
  · intro other member task named
    rcases List.mem_or_eq_of_mem_set member with old | rfl
    · exact calling other old task named
    · rw [confirms] at named
      have known := calling call (List.mem_of_getElem? there) task named
      unfold ReplyCall.ConfirmationOf at known ⊢
      rw [key, headers, payload]
      exact known
  · intro position other at_ named pending
    by_cases same : index = position
    · subst same
      have own := mem_set_self next there
      rw [List.getElem?_set_self' , there] at at_
      cases at_
      exact sequential index call there (confirms ▸ named) ongoing
    · rw [List.getElem?_set_ne same] at at_
      exact sequential position other at_ named pending
  · intro task known drops
    rcases located task known drops with waiting | working | ⟨other, member, named⟩
    · exact Or.inl waiting
    · exact Or.inr (Or.inl working)
    · rcases mem_set_of_mem next there member with rfl | still
      · exact Or.inr (Or.inr ⟨next, mem_set_self next there, confirms.trans named⟩)
      · exact Or.inr (Or.inr ⟨other, still, named⟩)

/-- A reply is recorded; what a confirmation appends is a clear reply. -/
private theorem recorded (confirming : Confirming env before) {index : Nat}
    {call : Option ParseQueueTask} {reply : ReplyQueueTask}
    (own : ∀ task, call = some task → ∃ recipients multipleRespond,
      reply = clearSuccessReply env task recipients multipleRespond) :
    Confirming env (before.record (.replied index call reply)) := by
  obtain ⟨queued, working, calling, sequential, located, genuine⟩ := confirming
  refine ⟨?_, ?_, ?_, sequential, ?_, ?_⟩
  · intro task member
    exact List.mem_cons_of_mem _ (queued task member)
  · intro task uuid member
    exact (working task uuid member).imp_left (List.mem_cons_of_mem _)
  · intro other member task confirms
    obtain ⟨confirmation, known, drops⟩ := calling other member task confirms
    exact ⟨confirmation, List.mem_cons_of_mem _ known, drops⟩
  · intro task known drops
    exact located task (by simpa [record] using known) drops
  · intro position task other known
    rcases List.mem_cons.mp known with new | old
    · cases new
      exact own task rfl
    · exact genuine position task other old

private theorem reply {index : Nat} (confirming : Confirming env before)
    (step : BoardStep env before (.reply index) after) : Confirming env after := by
  cases step with
  | crash =>
      exact confirming.frame rfl rfl rfl (List.Subset.refl _) (by simp [crash])
        (by simp [crash])
  | foundSingleshot there position present =>
      exact confirming.moved there (by simp [position]) (ReplyCall.sameRequest_found _ _ _) _
  | foundMultirespond there position present =>
      exact confirming.moved there (by simp [position]) (ReplyCall.sameRequest_found _ _ _) _
  | advance there passes =>
      refine confirming.moved there ?_ (ReplyCall.sameRequest_moveTo _ _) _
      rcases passes with ⟨from_, _⟩ | ⟨from_, _⟩ | ⟨_, from_, _⟩ | ⟨from_, _⟩ <;>
        simp [from_]
  | dropRecipient there position =>
      exact confirming.moved there (by simp [position]) (ReplyCall.sameRequest_moveTo _ _) _
  | append there position =>
      refine (confirming.moved there (by simp [position])
        (ReplyCall.sameRequest_moveTo _ _) _).recorded ?_
      intro task named
      have known := confirming.calling _ (List.mem_of_getElem? there) task named
      exact ⟨_, _, known.1.reply _⟩

theorem step {action : Move} (tasks : TasksSound env before)
    (confirming : Confirming env before)
    (step : BoardStep env before action after) : Confirming env after := by
  cases action with
  | channel => exact confirming.channel step
  | comm input => exact confirming.comm tasks step
  | reply index => exact confirming.reply step
  | confirm exchange rid =>
      cases step <;>
        refine confirming.frame rfl rfl rfl ?_ ?_ ?_ <;> simp [record, crash]
  | channelCrash =>
      cases step
      refine confirming.frame rfl rfl rfl ?_ ?_ ?_ <;> simp [crash]
  | proxyReply arg headers payload =>
      cases step with
      | proxyReply => exact confirming.started rfl (fun _ _ => Iff.rfl) (Or.inl rfl)
      | crash => refine confirming.frame rfl rfl rfl ?_ ?_ ?_ <;> simp [crash]

/-- Two confirmations in progress are one. -/
theorem unique (confirming : Confirming env before) {index other : Nat}
    {call otherCall : ReplyCall}
    (there : before.calls[index]? = some call) (confirms : call.confirms ≠ none)
    (pending : call.position ≠ .returned)
    (otherThere : before.calls[other]? = some otherCall)
    (otherConfirms : otherCall.confirms ≠ none)
    (otherPending : otherCall.position ≠ .returned) : otherCall = call := by
  have waits := confirming.sequential index call there confirms pending
  have otherWaits := confirming.sequential other otherCall otherThere otherConfirms
    otherPending
  rw [waits] at otherWaits
  cases otherWaits
  rw [there] at otherThere
  exact (Option.some.inj otherThere).symm

end Confirming

end Sawang

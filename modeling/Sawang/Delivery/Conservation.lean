import Sawang.Delivery.Step
import Sawang.Foundation.History
import Sawang.Foundation.Line
import Mathlib.Data.List.Nodup

/-!
# Replies are conserved and ordered

The subscribe thread serves the line of its pending replies: those set aside as
failed, the one being exchanged, and the reply queue.  Pushing the failed ones
back at the head of the queue moves nobody in the line, which is why order
survives any mix of failures and appends.
-/

namespace Sawang

open History

namespace SubscribeEvent

def deliveredTask : SubscribeEvent → Option QueuedReply
  | .delivered task => some task
  | _ => none

def discardedTask : SubscribeEvent → Option QueuedReply
  | .discarded task => some task
  | _ => none

end SubscribeEvent

namespace Delivery

/-- The reply that is out of the queue and not yet settled. -/
def exchanging (delivery : Delivery) : List QueuedReply :=
  match delivery.position with
  | .shmLock task | .answerWait task => [task]
  | _ => []

/-- The replies whose exchange returned `SUBSCRIBE_DONE`, newest first. -/
def delivered (delivery : Delivery) : List QueuedReply :=
  delivery.traffic.filterMap SubscribeEvent.deliveredTask

def discarded (delivery : Delivery) : List QueuedReply :=
  delivery.traffic.filterMap SubscribeEvent.discardedTask

def line (delivery : Delivery) : Line QueuedReply where
  waiting := delivery.failedTask ++ delivery.exchanging ++ delivery.replyQueue
  served := delivery.delivered
  dropped := delivery.discarded
  joined := delivery.posted

/-- The replies attempted since the thread last passed its outer loop head. -/
def passAttempts : List SubscribeEvent → List QueuedReply
  | [] => []
  | .passStarted :: _ => []
  | .attempted task :: earlier => task :: passAttempts earlier
  | _ :: earlier => passAttempts earlier

/-! ## The line of pending replies -/

/-- Positions at which `failed_task` may hold replies. -/
def inPass (delivery : Delivery) : Prop :=
  match delivery.position with
  | .pop | .shmLock _ | .answerWait _ | .idleAgain | .pushBack => True
  | _ => False

/-- Positions a thread that is ending can still be at. -/
def leaving (delivery : Delivery) : Prop :=
  match delivery.position with
  | .pushBack | .park | .loop | .finished => True
  | _ => False

structure Tidy (delivery : Delivery) : Prop where
  aside : ¬delivery.inPass → delivery.failedTask = []
  ends : delivery.alive = false → delivery.leaving
  discards : delivery.discarded ≠ [] → delivery.alive = false

theorem tidy_initial : initial.Tidy where
  aside := fun _ => rfl
  ends := by
    intro dead
    cases dead
  discards := by
    intro some
    exact absurd rfl some

private theorem tidy_of_alive {delivery : Delivery}
    (alive : delivery.alive = true) (none : delivery.discarded = [])
    (aside : ¬delivery.inPass → delivery.failedTask = []) : delivery.Tidy where
  aside := aside
  ends := by
    intro dead
    rw [alive] at dead
    cases dead
  discards := by
    intro some
    exact absurd none some

theorem tidy_step {before after : Delivery} {action : Move}
    (step : DeliveryStep before action after) (tidy : before.Tidy) : after.Tidy := by
  obtain ⟨aside, ends, discards⟩ := tidy
  -- a live thread is at a position that only a live thread can be at
  have living : ¬before.leaving → before.alive = true := by
    intro staying
    by_contra dead
    exact staying (ends (Bool.eq_false_iff.mpr dead))
  have kept : before.alive = true → before.discarded = [] := by
    intro alive
    by_contra some
    rw [discards some] at alive
    cases alive
  cases step with
  | locked position =>
      exact ⟨fun _ => aside (by simp [inPass, position]),
        fun _ => trivial, discards⟩
  | enter position alive running live =>
      exact tidy_of_alive alive (kept alive)
        (fun _ => aside (by simp [inPass, position]))
  | finish position past =>
      have none : before.failedTask = [] := aside (by simp [inPass, position])
      refine ⟨fun _ => rfl, fun _ => trivial, ?_⟩
      simpa [discarded, none] using discards
  | startPass position | take position | exchange position | unsent position
  | deliver position | fail position | reset position =>
      have alive := living (by simp [leaving, position])
      exact tidy_of_alive alive (kept alive) (fun outside => absurd trivial outside)
  | empty position queue =>
      exact ⟨fun outside => absurd trivial outside, fun _ => trivial, discards⟩
  | abandon position =>
      exact ⟨fun outside => absurd trivial outside, fun _ => trivial, fun _ => rfl⟩
  | pushBack position => exact ⟨fun _ => rfl, fun _ => trivial, discards⟩
  | park position alive =>
      exact tidy_of_alive alive (kept alive)
        (fun _ => aside (by simp [inPass, position]))
  | leave position dead =>
      exact ⟨fun _ => aside (by simp [inPass, position]), fun _ => trivial, discards⟩
  | unpark position woken =>
      exact ⟨fun _ => aside (by simp [inPass, position]), fun _ => trivial, discards⟩
  | _ => exact ⟨aside, ends, discards⟩

/-- Every move leaves the line of pending replies as it is, lets one reply join
it, or takes one reply out. -/
theorem line_step {before after : Delivery} {action : Move}
    (step : DeliveryStep before action after) (tidy : before.Tidy) :
    Line.Step before.line after.line := by
  have stay : ∀ {other : Line QueuedReply},
      other = before.line → Line.Step before.line other := by
    rintro other rfl
    exact .stay
  cases step with
  | append ticket =>
      rename_i reply task
      have shape :
          ({ before with
            replyQueue := before.replyQueue ++ [task]
            posted := before.posted ++ [task] } : Delivery).line =
            { before.line with
              waiting := before.line.waiting ++ [task]
              joined := before.line.joined ++ [task] } := by
        simp [line, exchanging, delivered, discarded]
      rw [shape]
      exact .join task
  | locked position | enter position | empty position | pushBack position | park position
  | leave position | unpark position =>
      exact stay (by simp [line, exchanging, delivered, discarded, position])
  | finish position past =>
      have none := tidy.aside (by simp [inPass, position])
      exact stay (by simp [line, exchanging, delivered, discarded, position, none])
  | startPass position | exchange position | unsent position | fail position
  | reset position =>
      exact stay (by simp [line, exchanging, delivered, discarded, position,
        List.filterMap_cons, SubscribeEvent.deliveredTask,
        SubscribeEvent.discardedTask])
  | take position queue =>
      exact stay (by simp [line, exchanging, delivered, discarded, position, queue])
  | abandon position =>
      rename_i task ownerDead
      have place : before.line.waiting = before.failedTask ++ task :: before.replyQueue := by
        rcases position with ⟨position, _⟩ | ⟨position, _⟩ <;>
          simp [line, exchanging, position]
      have step := Line.Step.drop place
      simpa [line, exchanging, delivered, discarded,
        List.filterMap_cons, SubscribeEvent.deliveredTask,
        SubscribeEvent.discardedTask] using step
  | deliver position woken done =>
      rename_i answerCreated task
      have place : before.line.waiting = before.failedTask ++ task :: before.replyQueue := by
        simp [line, exchanging, position]
      have step := Line.Step.serve place
      simpa [line, exchanging, delivered, discarded,
        List.filterMap_cons, SubscribeEvent.deliveredTask,
        SubscribeEvent.discardedTask] using step
  | awake free => exact .stay
  | stopSegment =>
      exact stay (by simp [line, exchanging, delivered, discarded,
        List.filterMap_cons, SubscribeEvent.deliveredTask,
        SubscribeEvent.discardedTask])
  | stopThread free => exact .stay
  | dispatcher => exact .stay
  | ownerDies => exact .stay
  | spuriousAnswer => exact .stay
  | spuriousWait => exact .stay

/-! ## Order of deliveries and attempts -/

/-- Tickets number the appends. -/
def Numbered (delivery : Delivery) : Prop :=
  delivery.posted.map QueuedReply.ticket = List.range delivery.posted.length

theorem Numbered.nodup {delivery : Delivery} (numbered : delivery.Numbered) :
    delivery.posted.Nodup := by
  have distinct : (delivery.posted.map QueuedReply.ticket).Nodup := by
    rw [numbered]
    exact List.nodup_range
  exact List.Nodup.of_map _ distinct

theorem Numbered.increasing {delivery : Delivery} (numbered : delivery.Numbered) :
    delivery.posted.Pairwise fun earlier later => earlier.ticket < later.ticket := by
  rw [← List.pairwise_map, numbered]
  exact List.pairwise_lt_range

theorem Numbered.ticket_lt {delivery : Delivery} (numbered : delivery.Numbered)
    {task : QueuedReply} (member : task ∈ delivery.posted) :
    task.ticket < delivery.posted.length := by
  have listed := List.mem_map_of_mem (f := QueuedReply.ticket) member
  rw [numbered] at listed
  exact List.mem_range.mp listed

theorem numbered_step {before after : Delivery} {action : Move}
    (step : DeliveryStep before action after) (numbered : before.Numbered) :
    after.Numbered := by
  cases step with
  | append ticket =>
      rename_i reply task
      unfold Numbered at numbered ⊢
      simp only [List.map_append, List.map_cons, List.map_nil, List.length_append,
        List.length_singleton, List.range_succ, numbered, ticket]
  | _ => exact numbered

/-- The reply's exchange has ended. -/
def Settled (delivery : Delivery) (task : QueuedReply) : Prop :=
  task ∈ delivery.failedTask ∨ task ∈ delivery.delivered ∨ task ∈ delivery.discarded

theorem Settled.mono {before after : Delivery} {task : QueuedReply}
    (settled : before.Settled task)
    (aside : before.failedTask ⊆ after.failedTask)
    (grows : before.traffic <:+ after.traffic) : after.Settled task := by
  rcases settled with failed | done | discarded
  · exact Or.inl (aside failed)
  · exact Or.inr (Or.inl ((grows.sublist.filterMap _).subset done))
  · exact Or.inr (Or.inr ((grows.sublist.filterMap _).subset discarded))

/-- What the runs of the delivery keep: every part is a step invariant once the
parts above it are. -/
structure Orderly (delivery : Delivery) : Prop where
  tidy : delivery.Tidy
  conserved : delivery.line.Conserved
  numbered : delivery.Numbered
  setAside : ∀ task ∈ delivery.failedTask, .failed task ∈ delivery.traffic
  overtaking : ∀ earlier ∈ delivery.posted, ∀ later,
    .delivered later ∈ delivery.traffic → earlier.ticket < later.ticket →
    Follows delivery.traffic (.delivered later) (.delivered earlier) ∨
      Follows delivery.traffic (.delivered later) (.failed earlier)
  attempts : (passAttempts delivery.traffic).Nodup
  attempted : delivery.inPass → ∀ task ∈ passAttempts delivery.traffic,
    delivery.Settled task ∨ delivery.position = .answerWait task

theorem traffic_grows {before after : Delivery} {action : Move}
    (step : DeliveryStep before action after) : before.traffic <:+ after.traffic := by
  cases step with
  | finish position past => exact List.suffix_append _ _
  | startPass position =>
      exact (List.suffix_cons _ _).trans (List.suffix_cons _ _)
  | exchange position owned =>
      exact (List.suffix_cons _ _).trans (List.suffix_cons _ _)
  | unsent position owned =>
      exact (List.suffix_cons _ _).trans (List.suffix_cons _ _)
  | abandon position => exact List.suffix_cons _ _
  | deliver position woken done => exact List.suffix_cons _ _
  | fail position woken live undone => exact List.suffix_cons _ _
  | reset position => exact List.suffix_cons _ _
  | stopSegment => exact List.suffix_cons _ _
  | _ => exact List.suffix_rfl

theorem setAside_step {before after : Delivery} {action : Move}
    (step : DeliveryStep before action after)
    (setAside : ∀ task ∈ before.failedTask, .failed task ∈ before.traffic) :
    ∀ task ∈ after.failedTask, .failed task ∈ after.traffic := by
  have grows := traffic_grows step
  intro task member
  have old : task ∈ before.failedTask → .failed task ∈ after.traffic :=
    fun before => grows.subset (setAside task before)
  cases step with
  | unsent position owned =>
      rcases List.mem_append.mp member with aside | new
      · exact old aside
      · rw [List.mem_singleton.mp new]
        exact List.mem_cons_self
  | fail position woken live undone =>
      rcases List.mem_append.mp member with aside | new
      · exact old aside
      · rw [List.mem_singleton.mp new]
        exact List.mem_cons_self
  | finish position past => cases member
  | pushBack position => cases member
  | _ => exact old member

/-- At a delivery every earlier reply has been delivered or set aside. -/
private theorem earlier_settled {delivery : Delivery} (orderly : delivery.Orderly)
    {task earlier : QueuedReply}
    (position : delivery.position = .answerWait task)
    (posted : earlier ∈ delivery.posted) (before : earlier.ticket < task.ticket) :
    .delivered earlier ∈ delivery.traffic ∨ .failed earlier ∈ delivery.traffic := by
  have alive : delivery.alive = true := by
    by_contra dead
    have leaves := orderly.tidy.ends (Bool.eq_false_iff.mpr dead)
    simp [leaving, position] at leaves
  have nothing : delivery.discarded = [] := by
    by_contra some
    rw [orderly.tidy.discards some] at alive
    cases alive
  have waiting : delivery.line.waiting =
      delivery.failedTask ++ task :: delivery.replyQueue := by
    simp [line, exchanging, position]
  have sorted : (delivery.failedTask ++ task :: delivery.replyQueue).Pairwise
      fun earlier later => earlier.ticket < later.ticket := by
    rw [← waiting]
    exact orderly.numbered.increasing.sublist orderly.conserved.ordered
  have placed := orderly.conserved.once.mem_iff.mpr posted
  rw [waiting] at placed
  simp only [line, nothing, List.append_nil, List.mem_append, List.mem_cons] at placed
  rcases placed with (aside | same | queued) | done
  · exact Or.inr (orderly.setAside earlier aside)
  · rw [same] at before
    exact absurd before (Nat.lt_irrefl _)
  · have later := (List.pairwise_cons.mp
      (List.pairwise_append.mp sorted).2.1).1 earlier queued
    omega
  · obtain ⟨event, member, delivered⟩ := List.mem_filterMap.mp done
    cases event with
    | delivered other =>
        cases delivered
        exact Or.inl member
    | _ => cases delivered

private theorem delivered_posted {delivery : Delivery} (orderly : delivery.Orderly)
    {task : QueuedReply} (done : .delivered task ∈ delivery.traffic) :
    task ∈ delivery.posted := by
  have member : task ∈ delivery.delivered :=
    List.mem_filterMap.mpr ⟨_, done, rfl⟩
  apply orderly.conserved.once.mem_iff.mp
  simp [line, member]

theorem overtaking_step {before after : Delivery} {action : Move}
    (step : DeliveryStep before action after) (orderly : before.Orderly) :
    ∀ earlier ∈ after.posted, ∀ later,
      .delivered later ∈ after.traffic → earlier.ticket < later.ticket →
      Follows after.traffic (.delivered later) (.delivered earlier) ∨
        Follows after.traffic (.delivered later) (.failed earlier) := by
  have grows := traffic_grows step
  have kept : ∀ earlier ∈ before.posted, ∀ later,
      .delivered later ∈ before.traffic → earlier.ticket < later.ticket →
      Follows after.traffic (.delivered later) (.delivered earlier) ∨
        Follows after.traffic (.delivered later) (.failed earlier) := by
    intro earlier posted later done order
    rcases orderly.overtaking earlier posted later done order with first | aside
    · exact Or.inl (first.mono grows)
    · exact Or.inr (aside.mono grows)
  intro earlier posted later done order
  cases step with
  | append ticket =>
      rcases List.mem_append.mp posted with old | new
      · exact kept earlier old later done order
      · have bound := orderly.numbered.ticket_lt (delivered_posted orderly done)
        rw [List.mem_singleton.mp new, ticket] at order
        exact absurd order (Nat.not_lt.mpr (Nat.le_of_lt bound))
  | deliver position woken isDone =>
      rcases List.mem_cons.mp done with new | old
      · cases new
        rcases earlier_settled orderly position posted order with first | aside
        · exact Or.inl (follows_head first)
        · exact Or.inr (follows_head aside)
      · exact kept earlier posted later old order
  | finish position past =>
      rcases List.mem_append.mp done with freed | old
      · obtain ⟨_, _, impossible⟩ := List.mem_map.mp freed
        cases impossible
      · exact kept earlier posted later old order
  | startPass | abandon | exchange | unsent | fail | reset | stopSegment =>
      exact kept earlier posted later (by simpa using done) order
  | _ => exact kept earlier posted later done order

/-- A reply about to be exchanged has not been attempted in this pass. -/
private theorem not_attempted {delivery : Delivery} (orderly : delivery.Orderly)
    {task : QueuedReply} (position : delivery.position = .shmLock task) :
    task ∉ passAttempts delivery.traffic := by
  intro before
  have distinct := orderly.conserved.nodup orderly.numbered.nodup
  have waiting : delivery.line.waiting =
      delivery.failedTask ++ task :: delivery.replyQueue := by
    simp [line, exchanging, position]
  rw [waiting] at distinct
  simp only [line, List.append_assoc, List.cons_append, List.nodup_append,
    List.nodup_cons, List.mem_append, List.mem_cons, not_or] at distinct
  obtain ⟨_, ⟨⟨_, notDelivered, notDiscarded⟩, _⟩, apart⟩ := distinct
  rcases orderly.attempted (by simp [inPass, position]) task before with
    (aside | done | discarded) | waits
  · exact apart task aside task (Or.inl rfl) rfl
  · exact notDelivered done
  · exact notDiscarded discarded
  · rw [position] at waits
    cases waits

theorem attempts_step {before after : Delivery} {action : Move}
    (step : DeliveryStep before action after) (orderly : before.Orderly) :
    (passAttempts after.traffic).Nodup := by
  cases step with
  | startPass position => exact List.nodup_nil
  | exchange position owned =>
      exact List.nodup_cons.mpr ⟨not_attempted orderly position, orderly.attempts⟩
  | unsent position owned =>
      exact List.nodup_cons.mpr ⟨not_attempted orderly position, orderly.attempts⟩
  | finish position past =>
      have none := orderly.tidy.aside (by simp [inPass, position])
      simpa [none] using orderly.attempts
  | _ => exact orderly.attempts

theorem attempted_step {before after : Delivery} {action : Move}
    (step : DeliveryStep before action after) (orderly : before.Orderly) :
    after.inPass → ∀ task ∈ passAttempts after.traffic,
      after.Settled task ∨ after.position = .answerWait task := by
  have grows := traffic_grows step
  -- outside a wait every reply attempted in this pass has settled
  have settled : before.inPass → (∀ other, before.position ≠ .answerWait other) →
      ∀ task ∈ passAttempts before.traffic, before.Settled task := by
    intro pass still task member
    rcases orderly.attempted pass task member with settled | waits
    · exact settled
    · exact absurd waits (still task)
  have aside : ∀ new : List QueuedReply,
      before.failedTask ⊆ before.failedTask ++ new :=
    fun new => List.subset_append_left _ new
  intro inside task member
  cases step with
  | startPass position => cases member
  | empty position | take position | reset position =>
      have done := settled (by simp [inPass, position]) (by simp [position]) task member
      exact Or.inl (done.mono (List.Subset.refl _) grows)
  | exchange position owned =>
      rcases List.mem_cons.mp member with rfl | old
      · exact Or.inr rfl
      · have done := settled (by simp [inPass, position]) (by simp [position]) task old
        exact Or.inl (done.mono (List.Subset.refl _) grows)
  | unsent position owned =>
      rcases List.mem_cons.mp member with rfl | old
      · exact Or.inl (Or.inl (List.mem_append_right _ (List.mem_singleton.mpr rfl)))
      · have done := settled (by simp [inPass, position]) (by simp [position]) task old
        exact Or.inl (done.mono (aside _) grows)
  | abandon position =>
      have pass : before.inPass := by
        rcases position with ⟨position, _⟩ | ⟨position, _⟩ <;> simp [inPass, position]
      rcases orderly.attempted pass task member with done | waits
      · exact Or.inl (done.mono (List.Subset.refl _) grows)
      · -- the reply given up is the one that was waited for
        rcases position with ⟨position, _⟩ | ⟨position, _⟩ <;>
          rw [position] at waits <;> cases waits
        exact Or.inl (Or.inr (Or.inr List.mem_cons_self))
  | deliver position woken isDone =>
      rcases orderly.attempted (by simp [inPass, position]) task member with done | waits
      · exact Or.inl (done.mono (List.Subset.refl _) grows)
      · rw [position] at waits
        cases waits
        exact Or.inl (Or.inr (Or.inl List.mem_cons_self))
  | fail position woken live undone =>
      rcases orderly.attempted (by simp [inPass, position]) task member with done | waits
      · exact Or.inl (done.mono (aside _) grows)
      · rw [position] at waits
        cases waits
        exact Or.inl (Or.inl (List.mem_append_right _ (List.mem_singleton.mpr rfl)))
  | locked | enter | finish | pushBack | park | leave | unpark => cases inside
  | _ => exact orderly.attempted inside task member

theorem orderly_initial : initial.Orderly where
  tidy := tidy_initial
  conserved := Line.conserved_empty
  numbered := rfl
  setAside := by
    intro task member
    cases member
  overtaking := by
    intro earlier member
    cases member
  attempts := List.nodup_nil
  attempted := by
    intro inside
    cases inside

theorem orderly_step {before after : Delivery} {action : Move}
    (orderly : before.Orderly) (moved : before.move action = some after) :
    after.Orderly := by
  have step := deliveryStep_of_move moved
  exact {
    tidy := tidy_step step orderly.tidy
    conserved := (line_step step orderly.tidy).conserved orderly.conserved
    numbered := numbered_step step orderly.numbered
    setAside := setAside_step step orderly.setAside
    overtaking := overtaking_step step orderly
    attempts := attempts_step step orderly
    attempted := attempted_step step orderly }

theorem orderly_of_reaches {delivery : Delivery}
    (reached : Runs.Reaches move Runs.unrestricted initial delivery) :
    delivery.Orderly :=
  reached.invariant orderly_initial
    fun _ _ _ orderly _ moved => orderly_step orderly moved

/-! ## The guarantee -/

/-- Every appended reply is in one place, pending replies stand in the order of
their appends, a reply overtakes an earlier one only after a failed exchange of
the earlier, and no pass attempts a reply twice. -/
structure RepliesConserved (delivery : Delivery) : Prop where
  place : (delivery.failedTask ++ delivery.exchanging ++ delivery.replyQueue ++
    delivery.delivered ++ delivery.discarded).Perm delivery.posted
  distinct : delivery.posted.Nodup
  deliveredOnce : delivery.delivered.Nodup
  ending : delivery.discarded ≠ [] → delivery.alive = false
  order : (delivery.failedTask ++ delivery.exchanging ++ delivery.replyQueue).Sublist
    delivery.posted
  overtaking : ∀ earlier later, [earlier, later].Sublist delivery.posted →
    .delivered later ∈ delivery.traffic →
    Follows delivery.traffic (.delivered later) (.delivered earlier) ∨
      Follows delivery.traffic (.delivered later) (.failed earlier)
  attempts : (passAttempts delivery.traffic).Nodup

theorem replies_conserved {delivery : Delivery}
    (reached : Runs.Reaches move Runs.unrestricted initial delivery) :
    delivery.RepliesConserved := by
  have orderly := orderly_of_reaches reached
  have distinct := orderly.conserved.nodup orderly.numbered.nodup
  exact {
    place := orderly.conserved.once
    distinct := orderly.numbered.nodup
    deliveredOnce := (List.nodup_append.mp (List.nodup_append.mp distinct).1).2.1
    ending := orderly.tidy.discards
    order := orderly.conserved.ordered
    overtaking := by
      intro earlier later ordered done
      have before : earlier.ticket < later.ticket := by
        have sorted := orderly.numbered.increasing.sublist ordered
        exact (List.pairwise_cons.mp sorted).1 later (List.mem_singleton.mpr rfl)
      exact orderly.overtaking earlier (ordered.subset List.mem_cons_self) later done
        before
    attempts := orderly.attempts }

/-- Of two replies the first is refused by the dispatcher, so the second is
delivered before it. -/
theorem replies_conserved_overtaken :
    ∃ delivery : Delivery,
      (delivery.delivered.length = 1 ∧ delivery.replyQueue.length = 1) ∧
        delivery.RepliesConserved := by
  obtain ⟨delivery, reached, tested⟩ :=
    Runs.reaches_of_execute_test move Runs.unrestricted
      ([.append ⟨"first", false⟩, .append ⟨"second", false⟩] ++
        List.replicate 5 (.thread true) ++
        [.dispatcher .failed true] ++ List.replicate 4 (.thread true) ++
        [.dispatcher .done true] ++ List.replicate 4 (.thread true))
      initial
      (fun delivery => decide (
        delivery.delivered.length = 1 ∧ delivery.replyQueue.length = 1))
      (by decide)
  exact ⟨delivery, of_decide_eq_true tested, replies_conserved reached⟩

end Delivery

end Sawang

import Sawang.Foundation.History
import Sawang.Queue

/-!
# The life cycle of a task key

What the queue of parse tasks is for, told without threads.  A request is
registered and queues a task of its own; the tasks are served in the order they
were queued.  Serving a task runs it or drops a uuid from an entry, and an entry
that loses its last uuid is reported before anything else is served.

The order of the queue carries the whole argument: a uuid can be dropped only
after the task it queued itself has been run.
-/

namespace Sawang

open History

inductive LifecycleEvent where
  | registered (type : RespondTableType) (taskKey rid : String)
  | emptied (taskKey uuid : String)
  | cleared (taskKey : String) (arg : ProxyReplyArg)
  | ran (task : ParseQueueTask) (arg : ProxyReplyArg)

structure Lifecycle where
  /-- The tasks not yet served, oldest first. -/
  pending : List ParseQueueTask
  /-- The uuids in the multi-respond entry of a key. -/
  listed : String → String → Prop
  /-- The key whose emptied entry is still to be reported. -/
  due : Option String
  /-- Newest first. -/
  events : List LifecycleEvent

/-- The task a normal request queues. -/
abbrev ownTask (type : RespondTableType) (taskKey rid : String) : ParseQueueTask :=
  parseQueueTask taskKey none none type rid

/-- The task drops a uuid from the entry of a key. -/
def ParseQueueTask.Drops (task : ParseQueueTask) (taskKey uuid : String) : Prop :=
  task.unsubscribeTaskKey = some taskKey ∧ task.unsubscribeUuid = some uuid

theorem not_drops_ownTask {type : RespondTableType} {taskKey rid other uuid : String} :
    ¬(ownTask type taskKey rid).Drops other uuid := by
  rintro ⟨named, _⟩
  cases named

inductive LifecycleStep (argument : String → Option ProxyReplyArg)
    (before after : Lifecycle) : Prop
  | same (unchanged : after = before)
  | register (type : RespondTableType) (taskKey rid : String)
      (fresh : .registered type taskKey rid ∉ before.events)
      (queued : after.pending = before.pending ++ [ownTask type taskKey rid])
      (listed : ∀ key uuid, after.listed key uuid ↔
        before.listed key uuid ∨ (type = .multirespond ∧ uuid = rid ∧ key = taskKey))
      (due : after.due = before.due)
      (events : after.events = .registered type taskKey rid :: before.events)
  | unsubscribe (task : ParseQueueTask) (taskKey uuid : String)
      (drops : task.Drops taskKey uuid) (present : before.listed taskKey uuid)
      (queued : after.pending = before.pending ++ [task])
      (listed : after.listed = before.listed)
      (due : after.due = before.due) (events : after.events = before.events)
  | drop (task : ParseQueueTask) (taskKey uuid : String)
      (drops : task.Drops taskKey uuid) (idle : before.due = none)
      (served : before.pending = task :: after.pending)
      (listed : ∀ key other, after.listed key other ↔
        before.listed key other ∧ ¬(other = uuid ∧ key = taskKey))
      (due : after.due = none) (events : after.events = before.events)
  | dropLast (task : ParseQueueTask) (taskKey uuid : String)
      (drops : task.Drops taskKey uuid) (idle : before.due = none)
      (served : before.pending = task :: after.pending)
      (present : before.listed taskKey uuid)
      (listed : ∀ key other, after.listed key other ↔
        before.listed key other ∧ ¬(other = uuid ∧ key = taskKey))
      (last : ∀ other, ¬after.listed taskKey other)
      (due : after.due = some taskKey)
      (events : after.events = .emptied taskKey uuid :: before.events)
  | clear (taskKey : String) (arg : ProxyReplyArg)
      (built : argument taskKey = some arg) (reported : before.due = some taskKey)
      (pending : after.pending = before.pending) (listed : after.listed = before.listed)
      (due : after.due = none)
      (events : after.events = .cleared taskKey arg :: before.events)
  | run (task : ParseQueueTask) (arg : ProxyReplyArg)
      (built : argument task.taskKey = some arg) (idle : before.due = none)
      (served : before.pending = task :: after.pending)
      (listed : after.listed = before.listed) (due : after.due = none)
      (events : after.events = .ran task arg :: before.events)

/-! ## What the events say -/

/-- A multi-respond task of the key has been run since the key was last cleared. -/
def RanSince (taskKey : String) : List LifecycleEvent → Prop
  | [] => False
  | .ran task _ :: earlier =>
      (task.taskKey = taskKey ∧ task.type = .multirespond) ∨ RanSince taskKey earlier
  | .cleared other _ :: earlier => other ≠ taskKey ∧ RanSince taskKey earlier
  | .registered .. :: earlier | .emptied .. :: earlier => RanSince taskKey earlier

/-- Every clear has a run of its key before it and after the previous clear of
the key. -/
def ClearsEarned : List LifecycleEvent → Prop
  | [] => True
  | .cleared taskKey _ :: earlier => RanSince taskKey earlier ∧ ClearsEarned earlier
  | .ran .. :: earlier | .registered .. :: earlier | .emptied .. :: earlier =>
      ClearsEarned earlier

/-- Emptying drops and clears alternate: the drop that empties an entry makes
the clear of its key due, with the argument built from the key, and nothing but
registrations comes between the two. -/
inductive Paired (argument : String → Option ProxyReplyArg) :
    Option String → List LifecycleEvent → Prop
  | start : Paired argument none []
  | registered {due : Option String} {earlier : List LifecycleEvent}
      {type : RespondTableType} {taskKey rid : String}
      (paired : Paired argument due earlier) :
      Paired argument due (.registered type taskKey rid :: earlier)
  | ran {earlier : List LifecycleEvent} {task : ParseQueueTask} {arg : ProxyReplyArg}
      (paired : Paired argument none earlier) :
      Paired argument none (.ran task arg :: earlier)
  | emptied {earlier : List LifecycleEvent} {taskKey uuid : String}
      (paired : Paired argument none earlier) :
      Paired argument (some taskKey) (.emptied taskKey uuid :: earlier)
  | cleared {earlier : List LifecycleEvent} {taskKey : String} {arg : ProxyReplyArg}
      (built : argument taskKey = some arg)
      (paired : Paired argument (some taskKey) earlier) :
      Paired argument none (.cleared taskKey arg :: earlier)

namespace Paired

variable {argument : String → Option ProxyReplyArg}

/-- An emptied entry has been reported unless its report is due. -/
theorem cleared_of_emptied {due : Option String} {events : List LifecycleEvent}
    {taskKey uuid : String} (paired : Paired argument due events)
    (emptied : .emptied taskKey uuid ∈ events) :
    due = some taskKey ∨ ∃ arg, argument taskKey = some arg ∧
      Follows events (.cleared taskKey arg) (.emptied taskKey uuid) := by
  induction paired with
  | start => cases emptied
  | registered paired inductionHypothesis =>
      rcases List.mem_cons.mp emptied with head | tail
      · cases head
      · rcases inductionHypothesis tail with due | ⟨arg, built, follows⟩
        · exact Or.inl due
        · exact Or.inr ⟨arg, built, follows.cons _⟩
  | ran paired inductionHypothesis =>
      rcases List.mem_cons.mp emptied with head | tail
      · cases head
      · rcases inductionHypothesis tail with due | ⟨arg, built, follows⟩
        · cases due
        · exact Or.inr ⟨arg, built, follows.cons _⟩
  | emptied paired inductionHypothesis =>
      rcases List.mem_cons.mp emptied with head | tail
      · cases head
        exact Or.inl rfl
      · rcases inductionHypothesis tail with due | ⟨arg, built, follows⟩
        · cases due
        · exact Or.inr ⟨arg, built, follows.cons _⟩
  | @cleared earlier reported arg built paired inductionHypothesis =>
      rcases List.mem_cons.mp emptied with head | tail
      · cases head
      · rcases inductionHypothesis tail with due | ⟨other, otherBuilt, follows⟩
        · have same : reported = taskKey := Option.some.inj due
          subst same
          exact Or.inr ⟨arg, built, follows_head tail⟩
        · exact Or.inr ⟨other, otherBuilt, follows.cons _⟩

/-- Between an emptying drop and any later run lies the clear of its key. -/
theorem cleared_of_ran {due : Option String} {events : List LifecycleEvent}
    {taskKey uuid : String} {task : ParseQueueTask} {runArg : ProxyReplyArg}
    (paired : Paired argument due events)
    (follows : Follows events (.ran task runArg) (.emptied taskKey uuid)) :
    ∃ arg, argument taskKey = some arg ∧
      [.ran task runArg, .cleared taskKey arg, .emptied taskKey uuid].Sublist events := by
  induction paired with
  | start => exact absurd follows not_follows_nil
  | ran paired inductionHypothesis =>
      rcases follows_cons_iff.mp follows with ⟨head, emptied⟩ | tail
      · cases head
        rcases paired.cleared_of_emptied emptied with due | ⟨arg, built, cleared⟩
        · cases due
        · exact ⟨arg, built, List.Sublist.cons_cons _ cleared⟩
      · obtain ⟨arg, built, sublist⟩ := inductionHypothesis tail
        exact ⟨arg, built, sublist.cons _⟩
  | registered _ inductionHypothesis | emptied _ inductionHypothesis
  | cleared _ _ inductionHypothesis =>
      rcases follows_cons_iff.mp follows with ⟨head, _⟩ | tail
      · cases head
      · obtain ⟨arg, built, sublist⟩ := inductionHypothesis tail
        exact ⟨arg, built, sublist.cons _⟩

end Paired

namespace Lifecycle

/-! ## The invariant -/

structure Sound (argument : String → Option ProxyReplyArg) (cycle : Lifecycle) :
    Prop where
  tasks : ∀ task ∈ cycle.pending,
    (∃ type taskKey rid, task = ownTask type taskKey rid) ∨
      ∃ taskKey uuid, task.Drops taskKey uuid ∧
        .registered .multirespond taskKey uuid ∈ cycle.events
  registered : ∀ taskKey uuid, cycle.listed taskKey uuid →
    .registered .multirespond taskKey uuid ∈ cycle.events
  /-- A subscriber whose task waits is listed. -/
  supplied : ∀ taskKey rid, ownTask .multirespond taskKey rid ∈ cycle.pending →
    cycle.listed taskKey rid
  /-- No uuid is dropped before its own task. -/
  ordered : cycle.pending.Pairwise fun earlier later => ∀ taskKey uuid,
    earlier.Drops taskKey uuid → later ≠ ownTask .multirespond taskKey uuid
  earned : ∀ taskKey uuid, cycle.listed taskKey uuid →
    ownTask .multirespond taskKey uuid ∈ cycle.pending ∨ RanSince taskKey cycle.events
  reported : ∀ taskKey, cycle.due = some taskKey →
    RanSince taskKey cycle.events ∧ ∀ uuid, cycle.listed taskKey uuid →
      ownTask .multirespond taskKey uuid ∈ cycle.pending
  paired : Paired argument cycle.due cycle.events
  clearsEarned : ClearsEarned cycle.events
  /-- A request whose task no longer waits has been run after it registered. -/
  followed : ∀ type taskKey rid earlier,
    .registered type taskKey rid :: earlier <:+ cycle.events →
    ownTask type taskKey rid ∈ cycle.pending ∨
      ∃ arg, argument taskKey = some arg ∧
        ∀ event ∈ .registered type taskKey rid :: earlier,
          Follows cycle.events (.ran (ownTask type taskKey rid) arg) event

variable {argument : String → Option ProxyReplyArg} {before after : Lifecycle}

/-- A task stays a request's own, or one that drops a registered uuid. -/
private theorem tasks_mono {task : ParseQueueTask} {events longer : List LifecycleEvent}
    (grows : ∀ event ∈ events, event ∈ longer)
    (known : (∃ type taskKey rid, task = ownTask type taskKey rid) ∨
      ∃ taskKey uuid, task.Drops taskKey uuid ∧
        .registered .multirespond taskKey uuid ∈ events) :
    (∃ type taskKey rid, task = ownTask type taskKey rid) ∨
      ∃ taskKey uuid, task.Drops taskKey uuid ∧
        .registered .multirespond taskKey uuid ∈ longer := by
  rcases known with normal | ⟨taskKey, uuid, drops, registered⟩
  · exact Or.inl normal
  · exact Or.inr ⟨taskKey, uuid, drops, grows _ registered⟩

/-- A run stays behind the registration it follows. -/
private theorem followed_cons {events earlier : List LifecycleEvent}
    {type : RespondTableType} {taskKey rid : String} (event : LifecycleEvent)
    (followed : ∃ arg, argument taskKey = some arg ∧
      ∀ other ∈ .registered type taskKey rid :: earlier,
        Follows events (.ran (ownTask type taskKey rid) arg) other) :
    ∃ arg, argument taskKey = some arg ∧
      ∀ other ∈ .registered type taskKey rid :: earlier,
        Follows (event :: events) (.ran (ownTask type taskKey rid) arg) other := by
  obtain ⟨arg, built, ran⟩ := followed
  exact ⟨arg, built, fun other member => (ran other member).cons event⟩

/-- A task at the end of the queue keeps the order if nothing ahead drops its
own uuid. -/
private theorem ordered_snoc {pending : List ParseQueueTask} {task : ParseQueueTask}
    (ordered : pending.Pairwise fun earlier later => ∀ taskKey uuid,
      earlier.Drops taskKey uuid → later ≠ ownTask .multirespond taskKey uuid)
    (last : ∀ earlier ∈ pending, ∀ taskKey uuid, earlier.Drops taskKey uuid →
      task ≠ ownTask .multirespond taskKey uuid) :
    (pending ++ [task]).Pairwise fun earlier later => ∀ taskKey uuid,
      earlier.Drops taskKey uuid → later ≠ ownTask .multirespond taskKey uuid := by
  apply List.pairwise_append.mpr
  refine ⟨ordered, List.pairwise_singleton _ _, ?_⟩
  intro earlier member later single
  rw [List.mem_singleton.mp single]
  exact last earlier member

/-- What was recorded stays recorded. -/
private theorem recorded_of_cons {event : LifecycleEvent}
    (events : after.events = event :: before.events) :
    ∀ other ∈ before.events, other ∈ after.events := by
  intro other member
  rw [events]
  exact List.mem_cons_of_mem _ member

private theorem sound_register (sound : before.Sound argument)
    {type : RespondTableType} {taskKey rid : String}
    (fresh : .registered type taskKey rid ∉ before.events)
    (queued : after.pending = before.pending ++ [ownTask type taskKey rid])
    (listed : ∀ key uuid, after.listed key uuid ↔
      before.listed key uuid ∨ (type = .multirespond ∧ uuid = rid ∧ key = taskKey))
    (due : after.due = before.due)
    (events : after.events = .registered type taskKey rid :: before.events) :
    after.Sound argument := by
  have waits : ∀ task ∈ before.pending, task ∈ after.pending := by
    intro task member
    rw [queued]
    exact List.mem_append_left _ member
  have own : ownTask type taskKey rid ∈ after.pending := by
    rw [queued]
    exact List.mem_append_right _ (List.mem_singleton.mpr rfl)
  have recorded := recorded_of_cons events
  have ranSince : ∀ key, RanSince key after.events ↔ RanSince key before.events := by
    intro key
    rw [events]
    exact Iff.rfl
  refine ⟨?_, ?_, ?_, ?_, ?_, ?_, ?_, ?_, ?_⟩
  · intro task member
    rw [queued] at member
    rcases List.mem_append.mp member with old | new
    · exact tasks_mono recorded (sound.tasks task old)
    · exact Or.inl ⟨type, taskKey, rid, List.mem_singleton.mp new⟩
  · intro key uuid member
    rcases (listed key uuid).mp member with old | ⟨rfl, rfl, rfl⟩
    · exact recorded _ (sound.registered key uuid old)
    · rw [events]
      exact List.mem_cons_self
  · intro key uuid member
    apply (listed key uuid).mpr
    rw [queued] at member
    rcases List.mem_append.mp member with old | new
    · exact Or.inl (sound.supplied key uuid old)
    · have same := List.mem_singleton.mp new
      simp only [ownTask, parseQueueTask, ParseQueueTask.mk.injEq] at same
      exact Or.inr ⟨same.2.2.2.1.symm, same.2.2.2.2, same.1⟩
  · rw [queued]
    apply ordered_snoc sound.ordered
    intro earlier member key uuid drops same
    simp only [ownTask, parseQueueTask, ParseQueueTask.mk.injEq] at same
    obtain ⟨rfl, _, _, kind, rfl⟩ := same
    -- what is dropped has been registered before
    rcases sound.tasks earlier member with ⟨_, _, _, rfl⟩ | ⟨key, uuid, named, known⟩
    · exact not_drops_ownTask drops
    · have keys := Option.some.inj (named.1.symm.trans drops.1)
      have uuids := Option.some.inj (named.2.symm.trans drops.2)
      subst keys uuids
      apply fresh
      have multi : type = .multirespond := by simpa using kind
      rw [multi]
      exact known
  · intro key uuid member
    rw [ranSince]
    rcases (listed key uuid).mp member with old | ⟨rfl, rfl, rfl⟩
    · rcases sound.earned key uuid old with pending | ran
      · exact Or.inl (waits _ pending)
      · exact Or.inr ran
    · exact Or.inl own
  · intro key reported
    rw [due] at reported
    obtain ⟨ran, pending⟩ := sound.reported key reported
    refine ⟨(ranSince key).mpr ran, ?_⟩
    intro uuid member
    rcases (listed key uuid).mp member with old | ⟨rfl, rfl, rfl⟩
    · exact waits _ (pending uuid old)
    · exact own
  · rw [due, events]
    exact .registered sound.paired
  · rw [events]
    exact sound.clearsEarned
  · intro kind key uuid earlier suffix
    rw [events] at suffix ⊢
    rcases List.suffix_cons_iff.mp suffix with whole | inner
    · cases whole
      exact Or.inl own
    · exact (sound.followed kind key uuid earlier inner).imp (waits _) (followed_cons _)

private theorem sound_unsubscribe (sound : before.Sound argument)
    {task : ParseQueueTask} {taskKey uuid : String}
    (drops : task.Drops taskKey uuid) (present : before.listed taskKey uuid)
    (queued : after.pending = before.pending ++ [task])
    (listed : after.listed = before.listed)
    (due : after.due = before.due) (events : after.events = before.events) :
    after.Sound argument := by
  have waits : ∀ other ∈ before.pending, other ∈ after.pending := by
    intro other member
    rw [queued]
    exact List.mem_append_left _ member
  have notOwn : ∀ type key rid, task ≠ ownTask type key rid := by
    rintro type key rid rfl
    exact not_drops_ownTask drops
  have waited : ∀ type key rid, ownTask type key rid ∈ after.pending →
      ownTask type key rid ∈ before.pending := by
    intro type key rid member
    rw [queued] at member
    rcases List.mem_append.mp member with old | new
    · exact old
    · exact absurd (List.mem_singleton.mp new).symm (notOwn type key rid)
  refine ⟨?_, ?_, ?_, ?_, ?_, ?_, ?_, ?_, ?_⟩
  · intro other member
    rw [events]
    rw [queued] at member
    rcases List.mem_append.mp member with old | new
    · exact sound.tasks other old
    · rw [List.mem_singleton.mp new]
      exact Or.inr ⟨taskKey, uuid, drops, sound.registered taskKey uuid present⟩
  · rw [listed, events]
    exact sound.registered
  · intro key rid member
    rw [listed]
    exact sound.supplied key rid (waited _ key rid member)
  · rw [queued]
    apply ordered_snoc sound.ordered
    intro earlier _ key other _
    exact notOwn _ key other
  · intro key other member
    rw [listed] at member
    rw [events]
    exact (sound.earned key other member).imp_left (waits _)
  · intro key reported
    rw [due] at reported
    rw [events, listed]
    obtain ⟨ran, pending⟩ := sound.reported key reported
    exact ⟨ran, fun other member => waits _ (pending other member)⟩
  · rw [due, events]
    exact sound.paired
  · rw [events]
    exact sound.clearsEarned
  · intro kind key rid earlier suffix
    rw [events] at suffix ⊢
    exact (sound.followed kind key rid earlier suffix).imp_left (waits _)

/-- Serving an unsubscription leaves the other tasks waiting, and the uuids of
waiting subscribers listed. -/
private theorem served_drop (sound : before.Sound argument)
    {task : ParseQueueTask} {taskKey uuid : String}
    (drops : task.Drops taskKey uuid) (served : before.pending = task :: after.pending)
    (listed : ∀ key other, after.listed key other ↔
      before.listed key other ∧ ¬(other = uuid ∧ key = taskKey)) :
    (∀ type key rid, ownTask type key rid ∈ before.pending →
      ownTask type key rid ∈ after.pending) ∧
    (∀ key rid, ownTask .multirespond key rid ∈ after.pending →
      after.listed key rid) ∧
    ownTask .multirespond taskKey uuid ∉ before.pending := by
  have ordered := sound.ordered
  rw [served] at ordered
  have behind := (List.pairwise_cons.mp ordered).1
  have waits : ∀ type key rid, ownTask type key rid ∈ before.pending →
      ownTask type key rid ∈ after.pending := by
    intro type key rid member
    rw [served] at member
    rcases List.mem_cons.mp member with rfl | rest
    · exact absurd drops not_drops_ownTask
    · exact rest
  refine ⟨waits, ?_, ?_⟩
  · intro key rid member
    apply (listed key rid).mpr
    constructor
    · apply sound.supplied
      rw [served]
      exact List.mem_cons_of_mem _ member
    · rintro ⟨rfl, rfl⟩
      exact behind _ member _ _ drops rfl
  · intro member
    exact behind _ (waits _ _ _ member) _ _ drops rfl

private theorem sound_drop (sound : before.Sound argument)
    {task : ParseQueueTask} {taskKey uuid : String}
    (drops : task.Drops taskKey uuid) (idle : before.due = none)
    (served : before.pending = task :: after.pending)
    (listed : ∀ key other, after.listed key other ↔
      before.listed key other ∧ ¬(other = uuid ∧ key = taskKey))
    (due : after.due = none) (events : after.events = before.events) :
    after.Sound argument := by
  obtain ⟨waits, supplied, _⟩ := served_drop sound drops served listed
  have ordered := sound.ordered
  have tasks := sound.tasks
  rw [served] at ordered tasks
  refine ⟨?_, ?_, supplied, (List.pairwise_cons.mp ordered).2, ?_, ?_, ?_, ?_, ?_⟩
  · rw [events]
    exact (List.forall_mem_cons.mp tasks).2
  · intro key other member
    rw [events]
    exact sound.registered key other ((listed key other).mp member).1
  · intro key other member
    rw [events]
    exact (sound.earned key other ((listed key other).mp member).1).imp_left
      (waits _ _ _)
  · intro key reported
    rw [due] at reported
    cases reported
  · have paired := sound.paired
    rw [idle] at paired
    rw [due, events]
    exact paired
  · rw [events]
    exact sound.clearsEarned
  · intro kind key rid earlier suffix
    rw [events] at suffix ⊢
    exact (sound.followed kind key rid earlier suffix).imp_left (waits _ _ _)

private theorem sound_dropLast (sound : before.Sound argument)
    {task : ParseQueueTask} {taskKey uuid : String}
    (drops : task.Drops taskKey uuid) (idle : before.due = none)
    (served : before.pending = task :: after.pending)
    (present : before.listed taskKey uuid)
    (listed : ∀ key other, after.listed key other ↔
      before.listed key other ∧ ¬(other = uuid ∧ key = taskKey))
    (last : ∀ other, ¬after.listed taskKey other)
    (due : after.due = some taskKey)
    (events : after.events = .emptied taskKey uuid :: before.events) :
    after.Sound argument := by
  obtain ⟨waits, supplied, ahead⟩ := served_drop sound drops served listed
  have ordered := sound.ordered
  have tasks := sound.tasks
  rw [served] at ordered tasks
  have recorded := recorded_of_cons events
  have ranSince : ∀ key, RanSince key after.events ↔ RanSince key before.events := by
    intro key
    rw [events]
    exact Iff.rfl
  refine ⟨?_, ?_, supplied, (List.pairwise_cons.mp ordered).2, ?_, ?_, ?_, ?_, ?_⟩
  · intro other member
    exact tasks_mono recorded ((List.forall_mem_cons.mp tasks).2 other member)
  · intro key other member
    exact recorded _ (sound.registered key other ((listed key other).mp member).1)
  · intro key other member
    rw [ranSince]
    exact (sound.earned key other ((listed key other).mp member).1).imp_left
      (waits _ _ _)
  · intro key reported
    have same : taskKey = key := Option.some.inj (due.symm.trans reported)
    subst same
    refine ⟨(ranSince taskKey).mpr ?_, fun other member => absurd member (last other)⟩
    -- the dropped uuid was run, since its task cannot wait behind the drop
    rcases sound.earned taskKey uuid present with pending | ran
    · exact absurd pending ahead
    · exact ran
  · have paired := sound.paired
    rw [idle] at paired
    rw [due, events]
    exact .emptied paired
  · rw [events]
    exact sound.clearsEarned
  · intro kind key rid earlier suffix
    rw [events] at suffix ⊢
    rcases List.suffix_cons_iff.mp suffix with whole | inner
    · cases whole
    · exact (sound.followed kind key rid earlier inner).imp (waits _ _ _) (followed_cons _)

private theorem sound_clear (sound : before.Sound argument)
    {taskKey : String} {arg : ProxyReplyArg}
    (built : argument taskKey = some arg) (reported : before.due = some taskKey)
    (pending : after.pending = before.pending) (listed : after.listed = before.listed)
    (due : after.due = none)
    (events : after.events = .cleared taskKey arg :: before.events) :
    after.Sound argument := by
  obtain ⟨ran, waiting⟩ := sound.reported taskKey reported
  have recorded := recorded_of_cons events
  refine ⟨?_, ?_, ?_, ?_, ?_, ?_, ?_, ?_, ?_⟩
  · intro task member
    rw [pending] at member
    exact tasks_mono recorded (sound.tasks task member)
  · intro key uuid member
    rw [listed] at member
    exact recorded _ (sound.registered key uuid member)
  · rw [pending, listed]
    exact sound.supplied
  · rw [pending]
    exact sound.ordered
  · intro key uuid member
    rw [listed] at member
    rw [pending, events]
    by_cases same : taskKey = key
    · subst same
      exact Or.inl (waiting uuid member)
    · rcases sound.earned key uuid member with waits | since
      · exact Or.inl waits
      · exact Or.inr ⟨same, since⟩
  · intro key stillDue
    rw [due] at stillDue
    cases stillDue
  · have paired := sound.paired
    rw [reported] at paired
    rw [due, events]
    exact .cleared built paired
  · rw [events]
    exact ⟨ran, sound.clearsEarned⟩
  · intro kind key rid earlier suffix
    rw [events] at suffix
    rcases List.suffix_cons_iff.mp suffix with whole | inner
    · cases whole
    · rw [pending, events]
      exact (sound.followed kind key rid earlier inner).imp_right (followed_cons _)

private theorem sound_run (sound : before.Sound argument)
    {task : ParseQueueTask} {arg : ProxyReplyArg}
    (built : argument task.taskKey = some arg) (idle : before.due = none)
    (served : before.pending = task :: after.pending)
    (listed : after.listed = before.listed) (due : after.due = none)
    (events : after.events = .ran task arg :: before.events) :
    after.Sound argument := by
  have ordered := sound.ordered
  have tasks := sound.tasks
  rw [served] at ordered tasks
  have recorded := recorded_of_cons events
  have waitedOrRan : ∀ type key rid, ownTask type key rid ∈ before.pending →
      ownTask type key rid = task ∨ ownTask type key rid ∈ after.pending := by
    intro type key rid member
    rw [served] at member
    exact List.mem_cons.mp member
  refine ⟨?_, ?_, ?_, (List.pairwise_cons.mp ordered).2, ?_, ?_, ?_, ?_, ?_⟩
  · intro other member
    exact tasks_mono recorded ((List.forall_mem_cons.mp tasks).2 other member)
  · intro key uuid member
    rw [listed] at member
    exact recorded _ (sound.registered key uuid member)
  · intro key rid member
    rw [listed]
    apply sound.supplied
    rw [served]
    exact List.mem_cons_of_mem _ member
  · intro key uuid member
    rw [listed] at member
    rw [events]
    rcases sound.earned key uuid member with waits | since
    · rcases waitedOrRan _ _ _ waits with rfl | still
      · exact Or.inr (Or.inl ⟨rfl, rfl⟩)
      · exact Or.inl still
    · exact Or.inr (Or.inr since)
  · intro key reported
    rw [due] at reported
    cases reported
  · have paired := sound.paired
    rw [idle] at paired
    rw [due, events]
    exact .ran paired
  · rw [events]
    exact sound.clearsEarned
  · intro kind key rid earlier suffix
    rw [events] at suffix
    rcases List.suffix_cons_iff.mp suffix with whole | inner
    · cases whole
    · rw [events]
      rcases sound.followed kind key rid earlier inner with waits | followed
      · rcases waitedOrRan _ _ _ waits with rfl | still
        · refine Or.inr ⟨arg, built, ?_⟩
          intro event member
          exact follows_head (inner.subset member)
        · exact Or.inl still
      · exact Or.inr (followed_cons _ followed)

theorem sound_step (step : LifecycleStep argument before after)
    (sound : before.Sound argument) : after.Sound argument := by
  cases step with
  | same unchanged =>
      rw [unchanged]
      exact sound
  | register type taskKey rid fresh queued listed due events =>
      exact sound_register sound fresh queued listed due events
  | unsubscribe task taskKey uuid drops present queued listed due events =>
      exact sound_unsubscribe sound drops present queued listed due events
  | drop task taskKey uuid drops idle served listed due events =>
      exact sound_drop sound drops idle served listed due events
  | dropLast task taskKey uuid drops idle served present listed last due events =>
      exact sound_dropLast sound drops idle served present listed last due events
  | clear taskKey arg built reported pending listed due events =>
      exact sound_clear sound built reported pending listed due events
  | run task arg built idle served listed due events =>
      exact sound_run sound built idle served listed due events

theorem sound_initial (argument : String → Option ProxyReplyArg)
    {cycle : Lifecycle} (pending : cycle.pending = [])
    (listed : ∀ taskKey uuid, ¬cycle.listed taskKey uuid)
    (due : cycle.due = none) (events : cycle.events = []) : cycle.Sound argument := by
  refine ⟨?_, fun key uuid member => absurd member (listed key uuid), ?_, ?_,
    fun key uuid member => absurd member (listed key uuid), ?_, ?_, ?_, ?_⟩
  · simp [pending]
  · simp [pending]
  · simp [pending]
  · simp [due]
  · rw [due, events]
    exact .start
  · rw [events]
    trivial
  · simp [events]

/-! ## What a key can count on -/

/-- A subscriber whose task waits keeps its key's entry from being empty. -/
theorem Sound.exists_listed {cycle : Lifecycle} (sound : cycle.Sound argument)
    {task : ParseQueueTask} (member : task ∈ cycle.pending)
    (subscribes : task.type = .multirespond) (normal : task.unsubscribeTaskKey = none) :
    ∃ uuid, cycle.listed task.taskKey uuid := by
  rcases sound.tasks task member with ⟨type, taskKey, rid, rfl⟩ | ⟨_, _, drops, _⟩
  · have multi : type = .multirespond := by
      simpa [parseQueueTask] using subscribes
    subst multi
    exact ⟨rid, sound.supplied taskKey rid member⟩
  · rw [drops.1] at normal
    cases normal

/-- A request that registered after an emptying drop is served after the clear
of its key. -/
theorem Sound.rerun {cycle : Lifecycle} (sound : cycle.Sound argument)
    {type : RespondTableType} {taskKey rid uuid : String}
    (follows : Follows cycle.events (.registered type taskKey rid)
      (.emptied taskKey uuid)) :
    ownTask type taskKey rid ∈ cycle.pending ∨
      ∃ arg runArg, argument taskKey = some arg ∧
        [.ran (ownTask type taskKey rid) runArg, .cleared taskKey arg,
          .emptied taskKey uuid].Sublist cycle.events := by
  obtain ⟨past, suffix, member⟩ := follows.suffix
  rcases sound.followed type taskKey rid past suffix with waits | ⟨runArg, _, ran⟩
  · exact Or.inl waits
  · have later := ran _ (List.mem_cons_of_mem _ member)
    obtain ⟨arg, built, sublist⟩ := sound.paired.cleared_of_ran later
    exact Or.inr ⟨arg, runArg, built, sublist⟩

end Lifecycle

end Sawang

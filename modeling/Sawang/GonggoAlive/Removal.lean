import Sawang.GonggoAlive.Verdict

/-!
# What a proxy leaves behind

A proxy that ends removes its segments where its watch has asked for it.  The watch
asks for all three when it is told of the dispatcher's death and the flag still stands;
only a cancellation between the three requests can tear them apart.
-/

namespace Sawang

open GonggoAlive

/-- Between the first and the last request. -/
def WatchPosition.unlinking : WatchPosition → Bool
  | .unlinkSubscribe | .unlinkAlive => true
  | _ => false

/-- Between the lock and the last request. -/
def WatchPosition.decides : WatchPosition → Bool
  | .judge | .inspect | .unlinkChannel | .unlinkSubscribe | .unlinkAlive => true
  | _ => false

/-- The main thread is behind the join of the watch. -/
def KeeperPosition.joined : KeeperPosition → Bool
  | .channelDestroy | .subscribeDestroy | .aliveDestroy | .ended => true
  | _ => false

/-- The requests are made in their order, and all of them unless the thread is stopped
in between. -/
structure GonggoWatch.Requests (watch : GonggoWatch) : Prop where
  early : watch.keeper = .running ∨ watch.keeper = .stop → watch.cancellation = .none
  cut : watch.cancellation = .delivered → watch.position = .cleanup ∨ watch.position = .finished
  second : watch.subscribeUnlink = true → watch.channelUnlink = true
  third : watch.aliveUnlink = true → watch.subscribeUnlink = true
  begun : watch.position.unlinking = true → watch.channelUnlink = true
  going : watch.position = .unlinkAlive → watch.subscribeUnlink = true
  whole : watch.cancellation ≠ .delivered → watch.keeper ≠ .killed →
    watch.position.unlinking = false → watch.channelUnlink = watch.aliveUnlink

/-- The requests follow from what the watch was told. -/
structure GonggoWatch.Informed (told : Prop) (alive : Bool) (watch : GonggoWatch) : Prop where
  suspects : watch.position = .inspect → watch.status = .ownerDead ∨ alive = false
  knows : watch.position = .unlinkChannel → told
  cause : watch.channelUnlink = true → told
  remembers : told → watch.gonggoDead = true ∨
    watch.position = .judge ∧ watch.status = .ownerDead ∨
    watch.position = .cleanup ∨ watch.position = .finished
  leaves : watch.gonggoDead = true →
    watch.position ≠ .lock ∧ watch.position ≠ .judge ∧ watch.position ≠ .sleep
  complete : told → alive = true → watch.cancellation ≠ .delivered →
    watch.keeper ≠ .killed → watch.aliveUnlink = true ∨ watch.position.decides = true

/-- What holds of the segments of one proxy that was not killed. -/
structure GonggoWatch.Removing (watch : GonggoWatch) : Prop where
  joined : watch.keeper.joined = true → watch.position = .finished
  channel : watch.channelSegment = !(watch.channelUnlink &&
    decide (watch.keeper = .subscribeDestroy ∨ watch.keeper = .aliveDestroy ∨
      watch.keeper = .ended))
  subscribe : watch.subscribeSegment = !(watch.subscribeUnlink &&
    decide (watch.keeper = .aliveDestroy ∨ watch.keeper = .ended))
  alive : watch.aliveSegment = !(watch.aliveUnlink && decide (watch.keeper = .ended))

namespace GonggoWatch

variable {owns told : Prop} {alive : Bool} {watch after : GonggoWatch}

/-- Away from the requests only the position and the cancellation matter. -/
theorem Requests.elsewhere (requests : watch.Requests)
    (quiet : watch.position.unlinking = false) (position : after.position.unlinking = false)
    (flags : after.channelUnlink = watch.channelUnlink ∧
      after.subscribeUnlink = watch.subscribeUnlink ∧ after.aliveUnlink = watch.aliveUnlink)
    (stopped : after.cancellation ≠ .delivered → after.keeper ≠ .killed →
      watch.cancellation ≠ .delivered ∧ watch.keeper ≠ .killed)
    (early : after.keeper = .running ∨ after.keeper = .stop → after.cancellation = .none)
    (cut : after.cancellation = .delivered →
      after.position = .cleanup ∨ after.position = .finished) : after.Requests := by
  obtain ⟨channel, subscribe, aliveFlag⟩ := flags
  refine ⟨early, cut, ?_, ?_, ?_, ?_, ?_⟩
  · rw [channel, subscribe]
    exact requests.second
  · rw [subscribe, aliveFlag]
    exact requests.third
  · intro unlinking
    rw [position] at unlinking
    cases unlinking
  · intro there
    rw [there] at position
    cases position
  · intro going living _
    obtain ⟨before, kept⟩ := stopped going living
    rw [channel, aliveFlag]
    exact requests.whole before kept quiet

theorem Requests.thread (requests : watch.Requests)
    (elsewhere : watch.position ≠ .lock) (unfinished : watch.position ≠ .finished) :
    (watch.thread alive).Requests := by
  have uncut : watch.position ≠ .cleanup → watch.cancellation ≠ .delivered := by
    intro inside delivered
    rcases requests.cut delivered with cleanup | finished
    · exact inside cleanup
    · exact unfinished finished
  unfold GonggoWatch.thread
  cases position : watch.position with
  | lock => exact absurd position elsewhere
  | finished => exact absurd position unfinished
  | unlinkChannel =>
      exact ⟨requests.early,
        fun cut => absurd cut (uncut (by rw [position]; exact nofun)), fun _ => rfl,
        requests.third, fun _ => rfl, nofun, nofun⟩
  | unlinkSubscribe =>
      have channel := requests.begun (by rw [position]; rfl)
      exact ⟨requests.early,
        fun cut => absurd cut (uncut (by rw [position]; exact nofun)), fun _ => channel,
        fun _ => rfl, fun _ => channel, fun _ => rfl, nofun⟩
  | unlinkAlive =>
      have channel := requests.begun (by rw [position]; rfl)
      have subscribe := requests.going position
      exact ⟨requests.early,
        fun cut => absurd cut (uncut (by rw [position]; exact nofun)), fun _ => channel,
        fun _ => subscribe, nofun, nofun, fun _ _ _ => channel⟩
  | cleanup =>
      have quiet : watch.position.unlinking = false := by
        rw [position]
        rfl
      exact requests.elsewhere quiet rfl ⟨rfl, rfl, rfl⟩ (fun going living => ⟨going, living⟩)
        requests.early (fun _ => Or.inr rfl)
  | _ =>
      have quiet : watch.position.unlinking = false := by
        rw [position]
        rfl
      have going := uncut (by rw [position]; exact nofun)
      refine requests.elsewhere quiet ?_ ⟨rfl, rfl, rfl⟩
        (fun going living => ⟨going, living⟩) requests.early (fun cut => absurd cut going)
      dsimp only
      first
      | rfl
      | (split <;> rfl)

/-- A thread that is stopped has made some of its requests. -/
theorem Requests.stop (requests : watch.Requests)
    (position : after.position = .cleanup ∨ after.position = .finished)
    (flags : after.channelUnlink = watch.channelUnlink ∧
      after.subscribeUnlink = watch.subscribeUnlink ∧ after.aliveUnlink = watch.aliveUnlink)
    (late : after.keeper ≠ .running ∧ after.keeper ≠ .stop)
    (stopped : after.cancellation = .delivered ∨ after.keeper = .killed) : after.Requests := by
  obtain ⟨channel, subscribe, aliveFlag⟩ := flags
  refine ⟨?_, fun _ => position, ?_, ?_, ?_, ?_, ?_⟩
  · rintro (running | stop)
    · exact absurd running late.1
    · exact absurd stop late.2
  · rw [channel, subscribe]
    exact requests.second
  · rw [subscribe, aliveFlag]
    exact requests.third
  · rcases position with there | there <;> rw [there] <;> exact nofun
  · rcases position with there | there <;> rw [there] <;> exact nofun
  · intro going living
    rcases stopped with cancelled | killed
    · exact absurd cancelled going
    · exact absurd killed living

theorem Informed.thread (informed : watch.Informed told alive)
    (regular : watch.Regular owns told alive)
    (elsewhere : watch.position ≠ .lock) (unfinished : watch.position ≠ .finished) :
    (watch.thread alive).Informed told alive := by
  obtain ⟨suspects, knows, cause, remembers, leaves, complete⟩ := informed
  have convicted := regular.convicted
  have learned := regular.learned
  unfold GonggoWatch.thread
  cases position : watch.position with
  | lock => exact absurd position elsewhere
  | finished => exact absurd position unfinished
  | _ =>
      simp only [position] at *
      constructor <;>
        grind -ring -linarith -order [WatchPosition.decides, WatchPosition.convicts,
          WatchPosition.inside]

theorem Informed.lock (informed : watch.Informed told alive)
    (position : watch.position = .lock) (outcome : RobustMutex.Outcome) :
    { watch with status := outcome, position := .judge }.Informed
      (told ∨ outcome = RobustMutex.Outcome.ownerDead) alive := by
  have living : watch.gonggoDead = false := by
    apply Bool.eq_false_iff.mpr
    intro dead
    exact (informed.leaves dead).1 position
  have untold : ¬told := by
    intro told
    rcases informed.remembers told with dead | ⟨there, _⟩ | there | there
    · rw [living] at dead
      cases dead
    all_goals
      rw [position] at there
      cases there
  refine ⟨nofun, nofun, fun flag => Or.inl (informed.cause flag), ?_, ?_,
    fun _ _ _ _ => Or.inr rfl⟩
  · rintro (known | ownerDead)
    · exact absurd known untold
    · exact Or.inr (Or.inl ⟨rfl, ownerDead⟩)
  · intro dead
    rw [living] at dead
    cases dead

/-- A thread that is stopped knows what it knew. -/
theorem Informed.stop (informed : watch.Informed told alive)
    (position : after.position = .cleanup ∨ after.position = .finished)
    (channel : after.channelUnlink = watch.channelUnlink)
    (stopped : after.cancellation = .delivered ∨ after.keeper = .killed) :
    after.Informed told alive := by
  refine ⟨?_, ?_, ?_, fun _ => Or.inr (Or.inr position), ?_, ?_⟩
  · rcases position with there | there <;> rw [there] <;> exact nofun
  · rcases position with there | there <;> rw [there] <;> exact nofun
  · rw [channel]
    exact informed.cause
  · rcases position with there | there <;> rw [there] <;> exact fun _ => ⟨nofun, nofun, nofun⟩
  · intro _ _ going living
    rcases stopped with cancelled | killed
    · exact absurd cancelled going
    · exact absurd killed living

theorem Informed.retire (informed : watch.Informed told alive) : watch.Informed told false :=
  ⟨fun _ => Or.inr rfl, informed.knows, informed.cause, informed.remembers, informed.leaves,
    fun _ impossible => by cases impossible⟩

/-! The main thread touches the cancellation and the segments only. -/

theorem Requests.keep (requests : watch.Requests) (kept : watch.keep = some after) :
    after.Requests := by
  obtain ⟨early, cut, second, third, begun, going, whole⟩ := requests
  unfold GonggoWatch.keep at kept
  cases keeper : watch.keeper <;> rw [keeper] at kept <;> constructor <;>
    grind -ring -linarith -order

theorem Informed.keep (informed : watch.Informed told alive) (requests : watch.Requests)
    (kept : watch.keep = some after) : after.Informed told alive := by
  obtain ⟨suspects, knows, cause, remembers, leaves, complete⟩ := informed
  have early := requests.early
  unfold GonggoWatch.keep at kept
  cases keeper : watch.keeper <;> rw [keeper] at kept <;> constructor <;>
    grind -ring -linarith -order

theorem Removing.keep (removing : watch.Removing) (kept : watch.keep = some after) :
    after.Removing := by
  obtain ⟨joined, channel, subscribe, alive⟩ := removing
  unfold GonggoWatch.keep at kept
  cases keeper : watch.keeper <;> rw [keeper] at kept channel subscribe alive joined <;>
    constructor <;> grind -ring -linarith -order [KeeperPosition.joined]

/-- Nothing is removed before the join. -/
theorem Removing.unjoined (removing : watch.Removing) (unjoined : watch.keeper.joined = false)
    (keeper : after.keeper = watch.keeper)
    (segments : after.channelSegment = watch.channelSegment ∧
      after.subscribeSegment = watch.subscribeSegment ∧
      after.aliveSegment = watch.aliveSegment) : after.Removing := by
  obtain ⟨joined, channel, subscribe, alive⟩ := removing
  cases there : watch.keeper <;> rw [there] at unjoined channel subscribe alive keeper <;>
    constructor <;> grind -ring -linarith -order [KeeperPosition.joined]

theorem Removing.not_joined (removing : watch.Removing)
    (unfinished : watch.position ≠ .finished) : watch.keeper.joined = false := by
  apply Bool.eq_false_iff.mpr
  intro joined
  exact unfinished (removing.joined joined)

theorem thread_keeper (alive : Bool) (watch : GonggoWatch) :
    (watch.thread alive).keeper = watch.keeper ∧
      (watch.thread alive).channelSegment = watch.channelSegment ∧
      (watch.thread alive).subscribeSegment = watch.subscribeSegment ∧
      (watch.thread alive).aliveSegment = watch.aliveSegment := by
  unfold GonggoWatch.thread
  cases watch.position <;> exact ⟨rfl, rfl, rfl, rfl⟩

/-- What a proxy does with its segments in any state. -/
structure Tidy (told : Prop) (alive : Bool) (watch : GonggoWatch) : Prop where
  requests : watch.Requests
  informed : watch.Informed told alive
  removing : watch.keeper ≠ .killed → watch.Removing

theorem Tidy.initial : GonggoWatch.initial.Tidy False true where
  requests := ⟨fun _ => rfl, nofun, nofun, nofun, nofun, nofun, fun _ _ _ => rfl⟩
  informed := ⟨nofun, nofun, nofun, nofun, nofun, nofun⟩
  removing _ := ⟨nofun, rfl, rfl, rfl⟩

theorem Tidy.thread (tidy : watch.Tidy told alive) (regular : watch.Regular owns told alive)
    (elsewhere : watch.position ≠ .lock) (unfinished : watch.position ≠ .finished) :
    (watch.thread alive).Tidy told alive := by
  obtain ⟨keeper, segments⟩ := thread_keeper alive watch
  refine ⟨tidy.requests.thread elsewhere unfinished,
    tidy.informed.thread regular elsewhere unfinished, ?_⟩
  rw [keeper]
  intro living
  have removing := tidy.removing living
  exact removing.unjoined (removing.not_joined unfinished) keeper segments

theorem Tidy.lock (tidy : watch.Tidy told alive) (position : watch.position = .lock)
    (outcome : RobustMutex.Outcome) :
    { watch with status := outcome, position := .judge }.Tidy
      (told ∨ outcome = RobustMutex.Outcome.ownerDead) alive := by
  refine ⟨?_, tidy.informed.lock position outcome, ?_⟩
  · refine tidy.requests.elsewhere ?_ rfl ⟨rfl, rfl, rfl⟩
      (fun going living => ⟨going, living⟩) tidy.requests.early ?_
    · rw [position]
      rfl
    · intro delivered
      rcases tidy.requests.cut delivered with there | there <;> rw [position] at there <;>
        cases there
  · intro living
    have removing := tidy.removing living
    have unfinished : watch.position ≠ .finished := by
      rw [position]
      exact nofun
    exact removing.unjoined (removing.not_joined unfinished) rfl ⟨rfl, rfl, rfl⟩

theorem Tidy.keep (tidy : watch.Tidy told alive) (kept : watch.keep = some after) :
    after.Tidy told alive := by
  have living : watch.keeper ≠ .killed := by
    intro killed
    unfold GonggoWatch.keep at kept
    rw [killed] at kept
    cases kept
  exact ⟨tidy.requests.keep kept, tidy.informed.keep tidy.requests kept,
    fun _ => (tidy.removing living).keep kept⟩

/-- The thread is cancelled. -/
theorem Tidy.cancel (tidy : watch.Tidy told alive)
    (requested : watch.cancellation = .requested) (unfinished : watch.position ≠ .finished)
    {position : WatchPosition} (stops : position = .cleanup ∨ position = .finished) :
    { watch with cancellation := .delivered, position := position }.Tidy told alive := by
  have late : watch.keeper ≠ .running ∧ watch.keeper ≠ .stop := by
    constructor
    · intro running
      have early := tidy.requests.early (Or.inl running)
      rw [requested] at early
      cases early
    · intro stop
      have early := tidy.requests.early (Or.inr stop)
      rw [requested] at early
      cases early
  refine ⟨tidy.requests.stop stops ⟨rfl, rfl, rfl⟩ late (Or.inl rfl),
    tidy.informed.stop stops rfl (Or.inl rfl), ?_⟩
  intro living
  have removing := tidy.removing living
  exact removing.unjoined (removing.not_joined unfinished) rfl ⟨rfl, rfl, rfl⟩

theorem Tidy.kill (tidy : watch.Tidy told alive) :
    { watch with position := .finished, keeper := .killed }.Tidy told alive :=
  ⟨tidy.requests.stop (Or.inr rfl) ⟨rfl, rfl, rfl⟩ ⟨nofun, nofun⟩ (Or.inr rfl),
    tidy.informed.stop (Or.inr rfl) rfl (Or.inr rfl), fun living => absurd rfl living⟩

theorem Tidy.sigterm (tidy : watch.Tidy told alive) :
    { watch with proxyExit := true }.Tidy told alive := by
  obtain ⟨⟨early, cut, second, third, begun, going, whole⟩,
    ⟨suspects, knows, cause, remembers, leaves, complete⟩, removing⟩ := tidy
  refine ⟨⟨early, cut, second, third, begun, going, whole⟩,
    ⟨suspects, knows, cause, remembers, leaves, complete⟩, ?_⟩
  intro living
  obtain ⟨joined, channel, subscribe, alive⟩ := removing living
  exact ⟨joined, channel, subscribe, alive⟩

theorem Tidy.retire (tidy : watch.Tidy told alive) : watch.Tidy told false :=
  ⟨tidy.requests, tidy.informed.retire, tidy.removing⟩

end GonggoWatch

namespace GonggoAlive

variable {ι : Type} [DecidableEq ι]

def Tidy (system : GonggoAlive ι) : Prop :=
  ∀ proxy, (system.watches proxy).Tidy (.proxy proxy ∈ system.noticed) system.alive

theorem Tidy.step {action : Action ι} {before after : GonggoAlive ι}
    (tidy : before.Tidy) (regular : before.Regular) (step : GonggoStep before action after) :
    after.Tidy := by
  intro proxy
  have kept := tidy proxy
  by_cases own : action.proxy = some proxy
  · cases step with
    | @locks _ outcome lock position locked =>
        cases own
        rw [setWatch_same, setWatch_noticed, propext mem_told]
        exact kept.lock position outcome
    | unlocks unlocks =>
        cases own
        rw [setWatch_same]
        obtain ⟨elsewhere, unfinished⟩ := GonggoWatch.elsewhere_of_unlocks unlocks
        exact kept.thread (regular proxy) elsewhere unfinished
    | moves elsewhere unfinished keeps =>
        cases own
        rw [setWatch_same]
        exact kept.thread (regular proxy) elsewhere unfinished
    | keeps keeps =>
        cases own
        rw [setWatch_same]
        exact kept.keep keeps
    | sigterm =>
        cases own
        rw [setWatch_same]
        exact kept.sigterm
    | cancels requested unfinished elsewhere =>
        cases own
        rw [setWatch_same]
        exact kept.cancel requested unfinished (Or.inl rfl)
    | cutsShort requested cleanup =>
        cases own
        rw [setWatch_same]
        apply kept.cancel requested _ (Or.inr rfl)
        rw [cleanup]
        exact nofun
    | killed =>
        cases own
        rw [setWatch_same]
        exact kept.kill
    | _ => cases own
  · obtain ⟨watch, owner, noticed⟩ := others step own
    rw [← watch, ← propext noticed] at kept
    cases alive : after.alive with
    | true =>
        rw [alive_of_step step alive] at kept
        exact kept
    | false => exact kept.retire

theorem tidy_of_reaches {system : GonggoAlive ι}
    (reached : Runs.Reaches step Runs.unrestricted initial system) : system.Tidy := by
  apply reached.invariant_of (fun other reached => regular_of_reaches reached)
  · intro proxy
    simp only [initial, List.not_mem_nil]
    exact .initial
  · intro before action after regular tidy _ next
    exact tidy.step regular (gonggoStep_of_step next)

/-- A proxy that has ended has removed its segments in their order, and only because it
was told of a death; all of them or none unless its watch was cancelled; and all of them
if it was told, was not cancelled, and the dispatcher's flag still stands. -/
theorem segments_removed_together {system : GonggoAlive ι} {proxy : ι}
    (reached : Runs.Reaches step Runs.unrestricted initial system)
    (ended : (system.watches proxy).keeper = .ended) :
    ((system.watches proxy).aliveSegment = false →
      (system.watches proxy).subscribeSegment = false) ∧
    ((system.watches proxy).subscribeSegment = false →
      (system.watches proxy).channelSegment = false) ∧
    ((system.watches proxy).channelSegment = false → .proxy proxy ∈ system.noticed) ∧
    ((system.watches proxy).cancellation ≠ .delivered →
      (system.watches proxy).channelSegment = (system.watches proxy).aliveSegment ∧
      (system.alive = true → .proxy proxy ∈ system.noticed →
        (system.watches proxy).aliveSegment = false)) := by
  obtain ⟨requests, informed, removing⟩ := tidy_of_reaches reached proxy
  have living : (system.watches proxy).keeper ≠ .killed := by
    rw [ended]
    exact nofun
  have removed := removing living
  have finished : (system.watches proxy).position = .finished := by
    apply removed.joined
    rw [ended]
    rfl
  have channel : (system.watches proxy).channelSegment =
      !(system.watches proxy).channelUnlink := by simp [removed.channel, ended]
  have subscribe : (system.watches proxy).subscribeSegment =
      !(system.watches proxy).subscribeUnlink := by simp [removed.subscribe, ended]
  have alive : (system.watches proxy).aliveSegment =
      !(system.watches proxy).aliveUnlink := by simp [removed.alive, ended]
  rw [channel, subscribe, alive]
  simp only [Bool.not_eq_eq_eq_not, Bool.not_not]
  refine ⟨requests.third, requests.second, informed.cause, fun going => ⟨?_, ?_⟩⟩
  · apply requests.whole going living
    rw [finished]
    rfl
  · intro stands told
    rcases informed.complete told stands going living with flag | decides
    · exact flag
    · rw [finished] at decides
      cases decides

/-- The proxy that is told of the dispatcher's death ends. -/
theorem segments_removed_together_told :
    ∃ system : GonggoAlive Bool, Runs.Reaches step Runs.unrestricted initial system ∧
      (system.watches true).keeper = .ended ∧
      (system.watches true).channelSegment = (system.watches true).aliveSegment ∧
      (system.watches true).aliveSegment = false := by
  obtain ⟨system, reached, told⟩ := Runs.reaches_of_execute_test step Runs.unrestricted
    (.gonggoDies :: List.replicate 12 (.thread true) ++ List.replicate 6 (.main true))
    (initial : GonggoAlive Bool)
    (fun system => decide (system.alive = true ∧ .proxy true ∈ system.noticed ∧
      (system.watches true).keeper = .ended ∧
      (system.watches true).cancellation ≠ .delivered)) (by decide)
  obtain ⟨stands, told, ended, going⟩ := of_decide_eq_true told
  obtain ⟨_, _, _, together⟩ := segments_removed_together reached ended
  exact ⟨system, reached, ended, (together going).1, (together going).2 stands told⟩

end GonggoAlive

end Sawang

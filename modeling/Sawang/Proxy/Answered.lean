import Sawang.Proxy.Segment

/-!
# Every request is answered

The dispatcher waits for the state that answers what it asked and for the signal
that goes with it.  The channel thread gives both in the critical section in
which it wakes, except where the answer segment of a REST request cannot be
created, where a segment has no memory behind its mapping, where the service is no
string, and where a request comes while the thread waits for a reaction to the one
before.
-/

namespace Sawang

open ProxyState

/-- One of the states is written, and signalled with that state in place, before
`CHANNEL_IDLE` is written. -/
def AnsweredBy (states : List ProxyChannelState) (later : List ChannelEvent) : Prop :=
  ∃ state ∈ states, [.wrote state, .signalledDispatcher state].Sublist
    (later.takeWhile fun event => event ≠ .wrote .idle)

/-- The states that answer what the dispatcher asks. -/
def answerStates : ProxyChannelState → Option (List ProxyChannelState)
  | .request => some [.acknowledged, .fails]
  | .rest => some [.restRespond]
  | _ => none

/-- Whatever the thread finds asked when it wakes, it answers. -/
def DispatcherAnswered (trace : List ChannelEvent) : Prop :=
  ∀ earlier state later, trace = earlier ++ .woke state false :: later →
    ∀ states ∈ answerStates state, AnsweredBy states later

namespace ChannelRun

/-- The thread is not asked while it waits for a reaction, the service of a
request is a string or missing, the answer segment can be created, and memory stands
behind every mapping that is used. -/
def Answerable (env : Environment) (run : ChannelRun) : ChannelAction → Prop
  | .thread outcome =>
      run.state.channel.ownerDead = false →
      match run.state.channel.position with
      | .idleWait =>
          (run.state.channel.state = .request →
            outcome.payload.Backed ∧
              ∀ document ∈ (outcome.input env).document, serviceName document ≠ none) ∧
          (run.state.channel.state = .rest → outcome.AnswerMade)
      | .acknowledgeWait _ | .restWait =>
          run.state.channel.state ≠ .request ∧ run.state.channel.state ≠ .rest
      | _ => True
  | .other _ => True

end ChannelRun

/-! ## Traces in pieces -/

theorem AnsweredBy.append {states : List ProxyChannelState} {later : List ChannelEvent}
    (answered : AnsweredBy states later) (more : List ChannelEvent) :
    AnsweredBy states (later ++ more) := by
  obtain ⟨state, member, sublist⟩ := answered
  refine ⟨state, member, sublist.trans ?_⟩
  rw [List.takeWhile_append]
  split
  · exact (List.takeWhile_prefix _).sublist.trans (List.sublist_append_left _ _)
  · exact List.Sublist.refl _

/-- The answer comes in the step that wakes. -/
theorem dispatcherAnswered_append_iff {trace events : List ChannelEvent}
    (answered : DispatcherAnswered trace) :
    DispatcherAnswered (trace ++ events) ↔ DispatcherAnswered events := by
  constructor
  · rintro whole earlier state later rfl
    exact whole (trace ++ earlier) state later (List.append_assoc _ _ _).symm
  · intro own earlier state later split states asked
    rcases List.append_eq_append_iff.mp split with ⟨rest, _, same⟩ | ⟨rest, same, split⟩
    · exact own rest state later same states asked
    · rcases List.cons_eq_append_iff.mp split with ⟨_, same⟩ | ⟨behind, rfl, rfl⟩
      · exact own [] state later same states asked
      · exact (answered earlier state behind same states asked).append events

/-- A step that wakes and then reads the state no more. -/
private theorem dispatcherAnswered_cons_iff {state : ProxyChannelState} {ownerDead : Bool}
    {later : List ChannelEvent} (asleep : ∀ other, .woke other false ∉ later) :
    DispatcherAnswered (.woke state ownerDead :: later) ↔
      (ownerDead = false → ∀ states ∈ answerStates state, AnsweredBy states later) := by
  constructor
  · rintro answered rfl
    exact answered [] state later rfl
  · intro own earlier other behind split states asked
    cases earlier with
    | nil =>
        simp only [List.nil_append, List.cons.injEq, ChannelEvent.woke.injEq] at split
        obtain ⟨⟨rfl, alive⟩, rfl⟩ := split
        exact own alive states asked
    | cons first rest =>
        have tail := (List.cons.inj split).2
        exact absurd (tail ▸ List.mem_append_right _ List.mem_cons_self) (asleep other)

private theorem dispatcherAnswered_asleep {events : List ChannelEvent}
    (asleep : ∀ state, .woke state false ∉ events) : DispatcherAnswered events := by
  rintro earlier state later rfl
  exact absurd (List.mem_append_right _ List.mem_cons_self) (asleep state)

/-- Waking without doing anything answers what asks for nothing. -/
private theorem dispatcherAnswered_woke_iff {state : ProxyChannelState} :
    DispatcherAnswered [.woke state false] ↔ state ≠ .request ∧ state ≠ .rest := by
  have silent : ∀ states, ¬AnsweredBy states [] := by
    rintro states ⟨answer, _, sublist⟩
    cases sublist
  rw [dispatcherAnswered_cons_iff (by simp)]
  cases state <;> simp [answerStates, silent]

private theorem answeredBy_answerEvents {states : List ProxyChannelState}
    {state : ProxyChannelState} (member : state ∈ states) (busy : state ≠ .idle) :
    AnsweredBy states (answerEvents state) := by
  refine ⟨state, member, ?_⟩
  simp [answerEvents, busy]

private theorem dispatcherAnswered_answer {state written : ProxyChannelState}
    (answers : ∀ states ∈ answerStates state, written ∈ states) (busy : written ≠ .idle) :
    DispatcherAnswered (.woke state false :: answerEvents written) := by
  rw [dispatcherAnswered_cons_iff (by simp [answerEvents])]
  intro _ states asked
  exact answeredBy_answerEvents (answers states asked) busy

/-- What the thread wakes to is answered exactly where it can be. -/
theorem ThreadStep.answered_iff {env : Environment} {outcome : ChannelOutcome}
    {run : ChannelRun} {events : List ChannelEvent} {after : ProxyState}
    (lives : run.state.channel.dies env outcome = false)
    (step : ThreadStep (outcome.input env) run.state events after) :
    DispatcherAnswered events ↔ run.Answerable env (.thread outcome) := by
  unfold ChannelRun.Answerable
  cases step with
  | ends position ended =>
      rw [position]
      exact iff_of_true (dispatcherAnswered_asleep (by simp)) fun _ => trivial
  | idle position running =>
      rw [position]
      exact iff_of_true (dispatcherAnswered_asleep (by simp)) fun _ => trivial
  | ownerDied waits dead =>
      rw [dead]
      exact iff_of_true (dispatcherAnswered_asleep (by simp)) (by simp)
  | terminated waits alive asked =>
      have answered : DispatcherAnswered [.woke .termination false, .left] := by
        rw [dispatcherAnswered_cons_iff (by simp)]
        simp [answerStates]
      refine iff_of_true answered fun _ => ?_
      rw [asked]
      rcases waits with position | ⟨exchange, position⟩ <;> rw [position] <;> simp
  | unasked proxyExit position alive unasked =>
      rw [dispatcherAnswered_woke_iff, position]
      obtain ⟨_, notRequest, uncreated⟩ := unasked
      constructor
      · rintro ⟨_, notRest⟩ _
        exact ⟨fun request => absurd request notRequest, fun rest => absurd rest notRest⟩
      · intro answerable
        refine ⟨notRequest, ?_⟩
        intro rest
        have created : (outcome.input env).answerCreated = true :=
          ChannelOutcome.answerCreated_iff.mpr ((answerable alive).2 rest)
        rw [uncreated rest] at created
        cases created
  | returns waits alive =>
      rw [dispatcherAnswered_woke_iff]
      rcases waits with position | ⟨_, exchange, position⟩ <;> rw [position] <;> simp [alive]
  | fails position alive asked unreadable =>
      have answered : DispatcherAnswered (.woke .request false :: answerEvents .fails) :=
        dispatcherAnswered_answer (by simp [answerStates]) (by simp)
      have survives := ChannelRun.survives_of_lives lives position alive
      refine iff_of_true answered fun _ => ?_
      rw [position, asked]
      rw [asked, ChannelOutcome.survives_request_iff] at survives
      simp [unreadable, survives]
  | @acknowledges document exchange position alive asked read named =>
      have answered : DispatcherAnswered (.woke .request false :: answerEvents .acknowledged) :=
        dispatcherAnswered_answer (by simp [answerStates]) (by simp)
      have survives := ChannelRun.survives_of_lives lives position alive
      refine iff_of_true answered fun _ => ?_
      rw [position, asked]
      rw [asked, ChannelOutcome.survives_request_iff] at survives
      refine ⟨fun _ => ⟨survives, ?_⟩, by simp⟩
      intro other found unnamed
      have same : document = other := Option.some.inj (read.symm.trans found)
      rw [Exchange.read_eq_none_iff.mpr (same ▸ unnamed)] at named
      cases named
  | crashes position alive asked read unnamed channel crashed =>
      rw [dispatcherAnswered_woke_iff, position, asked]
      refine iff_of_false (fun answered => answered.1 rfl) ?_
      intro answerable
      exact ((answerable alive).1 rfl).2 _ read (Exchange.read_eq_none_iff.mp unnamed)
  | rest position alive asked created =>
      have answered : DispatcherAnswered (.woke .rest false :: answerEvents .restRespond) :=
        dispatcherAnswered_answer (by simp [answerStates]) (by simp)
      refine iff_of_true answered fun _ => ?_
      rw [position, asked]
      exact ⟨by simp, fun _ => ChannelOutcome.answerCreated_iff.mp created⟩
  | confirmed position alive asked channel =>
      rw [dispatcherAnswered_woke_iff, position, asked]
      simp
  | works position channel =>
      rw [position]
      exact iff_of_true (dispatcherAnswered_asleep (by simp)) fun _ => trivial

/-- A death on waking is no answer, and nothing that can be answered ends so. -/
theorem not_answered_of_dies {env : Environment} {outcome : ChannelOutcome}
    {run : ChannelRun} (dies : run.state.channel.dies env outcome = true) :
    ¬DispatcherAnswered [.woke run.state.channel.state false] ∧
      ¬run.Answerable env (.thread outcome) := by
  obtain ⟨position, alive, dead⟩ := Channel.dies_iff.mp dies
  unfold ChannelRun.Answerable
  rw [dispatcherAnswered_woke_iff, position]
  cases asked : run.state.channel.state with
  | request =>
      rw [asked, ChannelOutcome.survives_request_iff] at dead
      exact ⟨fun answered => answered.1 rfl, fun able => dead ((able alive).1 rfl).1⟩
  | rest =>
      rw [asked] at dead
      exact ⟨fun answered => answered.2 rfl,
        fun able => dead (ChannelOutcome.survives_rest ((able alive).2 rfl))⟩
  | _ =>
      rw [asked] at dead
      exact absurd trivial dead

/-! ## Every run -/

namespace ChannelRun

theorem answered_step_iff {env : Environment} {action : ChannelAction}
    {before after : ChannelRun} (answered : DispatcherAnswered before.trace)
    (next : before.step env action = some after) :
    DispatcherAnswered after.trace ↔ before.Answerable env action := by
  cases step_cases next with
  | thread outcome events lives trace step =>
      rw [trace, dispatcherAnswered_append_iff answered]
      exact step.answered_iff lives
  | dies outcome dies trace state =>
      rw [trace, dispatcherAnswered_append_iff answered]
      obtain ⟨silent, unable⟩ := not_answered_of_dies dies
      exact iff_of_false silent unable
  | other own trace position ended =>
      rw [trace]
      exact iff_of_true answered trivial

/-- In every run that asks for what can be answered the dispatcher is answered,
and the first step that does not is not answered. -/
theorem dispatcher_answered {env : Environment} {run : ChannelRun}
    (reached : Runs.Reaches (step env) (fun run action => run.Answerable env action)
      initial run) :
    DispatcherAnswered run.trace ∧
      ∀ action after, run.step env action = some after →
        (DispatcherAnswered after.trace ↔ run.Answerable env action) := by
  have answered : DispatcherAnswered run.trace := by
    apply reached.invariant
    · exact dispatcherAnswered_asleep (by simp [initial])
    · intro before action after answered answerable next
      exact (answered_step_iff answered next).mpr answerable
  exact ⟨answered, fun _ _ next => answered_step_iff answered next⟩

/-! ## Two runs -/

/-- The dispatcher lives and nobody terminates the channel. -/
def Undisturbed (_ : ChannelRun) : ChannelAction → Prop
  | .other (.channelState written _) => written ≠ .termination
  | .other .dies | .other .diesHoldingChannel | .other .diesHoldingSubscribe
  | .other .main | .other .sigterm => False
  | _ => True

instance (run : ChannelRun) : (action : ChannelAction) → Decidable (run.Undisturbed action)
  | .other (.channelState written _) => inferInstanceAs (Decidable (written ≠ _))
  | .other .dies | .other .diesHoldingChannel | .other .diesHoldingSubscribe
  | .other .main | .other .sigterm => inferInstanceAs (Decidable False)
  | .thread _ | .other (.channel _) | .other (.comm _) | .other (.reply _)
  | .other (.proxyReply ..) | .other (.subscribe _) | .other (.request ..)
  | .other (.rest ..) | .other .sees | .other (.subscribeState ..)
  | .other .spuriousChannel | .other .spuriousAnswer | .other .spuriousSubscribe
  | .other .spuriousComm => inferInstanceAs (Decidable True)

instance (env : Environment) (run : ChannelRun) :
    (action : ChannelAction) → Decidable (run.Answerable env action)
  | .thread outcome =>
      match position : run.state.channel.position with
      | .idleWait =>
          decidable_of_iff
            (run.state.channel.ownerDead = false →
              (run.state.channel.state = .request →
                outcome.payload.Backed ∧
                  ∀ document ∈ (outcome.input env).document,
                    serviceName document ≠ none) ∧
              (run.state.channel.state = .rest → outcome.AnswerMade))
            (by simp only [Answerable, position])
      | .acknowledgeWait _ | .restWait =>
          decidable_of_iff
            (run.state.channel.ownerDead = false →
              run.state.channel.state ≠ .request ∧ run.state.channel.state ≠ .rest)
            (by simp only [Answerable, position])
      | .loop | .job | .finished => isTrue (by simp [Answerable, position])
  | .other _ => inferInstanceAs (Decidable True)

/-- The request names a service and nobody fails it but the answer segment. -/
private def outcome (created : Bool) : ChannelOutcome where
  payload := { opened := true, mapped := true, stored := true }
  text := JsonText.print (serviceAndPayloadObject "s" none)
  answer := {
    result := .singleshot
    normalizedPayload := .null
    unsubscribe := false
    invalidStatus := 0 }
  rest := none
  restAnswer := { opened := true, mapped := created, stored := true }

/-- A request and a REST request one after the other. -/
theorem dispatcher_answered_twice :
    ∃ run : ChannelRun,
      run.trace.countP (fun event => event = .signalledDispatcher .acknowledged ∨
        event = .signalledDispatcher .restRespond) = 2 ∧
      (DispatcherAnswered run.trace ∧
        ∀ action after, run.step .reference action = some after →
          (DispatcherAnswered after.trace ↔ run.Answerable .reference action)) := by
  obtain ⟨run, reached, tested⟩ :=
    Runs.reaches_of_execute_test (step .reference)
      (fun run action => run.Answerable .reference action)
      [.thread (outcome true), .other (.request "r1" true), .thread (outcome true),
        .other (.channelState .done true), .thread (outcome true), .thread (outcome true),
        .thread (outcome true), .thread (outcome true), .thread (outcome true),
        .thread (outcome true), .other (.rest "r2" true), .thread (outcome true)]
      initial
      (fun run => decide (
        run.trace.countP (fun event => event = .signalledDispatcher .acknowledged ∨
          event = .signalledDispatcher .restRespond) = 2))
      (by decide +kernel)
  exact ⟨run, of_decide_eq_true tested, dispatcher_answered reached⟩

/-- The answer segment cannot be mapped. -/
theorem dispatcher_not_answered :
    ¬∀ run, Runs.Reaches (step .reference) Undisturbed initial run →
      DispatcherAnswered run.trace := by
  intro always
  obtain ⟨run, reached, tested⟩ :=
    Runs.reaches_of_execute_test (step .reference) Undisturbed
      [.thread (outcome false), .other (.rest "r1" true), .thread (outcome false),
        .thread (outcome false)]
      initial
      (fun run => decide (run.trace =
        [.wrote .idle, .signalledIdle, .waits] ++ .woke .rest false ::
          [.wrote .idle, .signalledIdle, .waits]))
      (by decide +kernel)
  obtain ⟨state, _, sublist⟩ :=
    always run reached _ _ _ (of_decide_eq_true tested) [.restRespond] rfl
  simp at sublist

end ChannelRun

end Sawang

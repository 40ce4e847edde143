import Sawang.Proxy.Segment

/-!
# Termination of the channel thread

Each wait of the channel thread is to end the thread when it returns with
`CHANNEL_TERMINATION`.  The wait for the end of a REST request does not look at
the state, and then only the end flag keeps the thread from its next round.
-/

namespace Sawang

open ProxyState

namespace ChannelRun

/-- A thread that has woken to the termination writes and waits no more, and is
out of its loop or about to leave it. -/
def TerminationKept (run : ChannelRun) : Prop :=
  ∀ earlier ownerDead later, run.trace = earlier ++ .woke .termination ownerDead :: later →
    (∀ event ∈ later, event = .left) ∧
      (run.state.channel.position = .finished ∨
        (run.state.channel.position = .loop ∧ run.state.channel.ended = true))

/-- The wait for the end of a REST request does not return with the termination
unless the end flag is set, or the owner of the lock has died. -/
def Honours (run : ChannelRun) : ChannelAction → Prop
  | .thread _ =>
      run.state.channel.position = .restWait → run.state.channel.state = .termination →
        run.state.channel.ownerDead = true ∨ run.state.channel.ended = true
  | .other _ => True

instance (run : ChannelRun) : (action : ChannelAction) → Decidable (run.Honours action)
  | .thread _ =>
      match position : run.state.channel.position with
      | .restWait =>
          decidable_of_iff
            (run.state.channel.state = .termination →
              run.state.channel.ownerDead = true ∨ run.state.channel.ended = true)
            (by simp only [Honours, position, true_implies])
      | .loop | .idleWait | .acknowledgeWait _ | .job | .finished =>
          isTrue (by simp [Honours, position])
  | .other _ => inferInstanceAs (Decidable True)

/-! ## One step -/

/-- What the thread does after it has woken to the termination. -/
private theorem kept_of_thread {input : ChannelInput} {before after : ProxyState}
    {events : List ChannelEvent} (step : ThreadStep input before events after)
    (leaving : before.channel.position = .finished ∨
      (before.channel.position = .loop ∧ before.channel.ended = true)) :
    events = [.left] ∧ after.channel.position = .finished := by
  have elsewhere : before.channel.position ≠ .idleWait ∧
      before.channel.position ≠ .restWait ∧ before.channel.position ≠ .job ∧
      ∀ exchange, before.channel.position ≠ .acknowledgeWait exchange := by
    rcases leaving with position | ⟨position, _⟩ <;> rw [position] <;> simp
  obtain ⟨notIdle, notRest, notJob, notAcknowledge⟩ := elsewhere
  cases step with
  | ends position ended => exact ⟨rfl, rfl⟩
  | idle position running =>
      rcases leaving with finished | ⟨_, ended⟩
      · rw [position] at finished
        cases finished
      · rw [running] at ended
        cases ended
  | ownerDied waits dead =>
      rcases waits with position | position | ⟨exchange, position⟩
      · exact absurd position notIdle
      · exact absurd position notRest
      · exact absurd position (notAcknowledge exchange)
  | terminated waits alive asked =>
      rcases waits with position | ⟨exchange, position⟩
      · exact absurd position notIdle
      · exact absurd position (notAcknowledge exchange)
  | returns waits alive =>
      rcases waits with position | ⟨_, exchange, position⟩
      · exact absurd position notRest
      · exact absurd position (notAcknowledge exchange)
  | unasked proxyExit position | fails position | acknowledges position | crashes position
  | rest position => exact absurd position notIdle
  | confirmed position alive asked channel => exact absurd position (notAcknowledge _)
  | works position channel => exact absurd position notJob

/-- A step that wakes to the termination ends the thread, except in the wait for
the end of a REST request. -/
private theorem woke_of_thread {input : ChannelInput} {before after : ProxyState}
    {events : List ChannelEvent} (step : ThreadStep input before events after)
    {earlier later : List ChannelEvent} {ownerDead : Bool}
    (split : events = earlier ++ .woke .termination ownerDead :: later) :
    (∀ event ∈ later, event = .left) ∧
      (after.channel.position = .finished ∨
        (before.channel.position = .restWait ∧ before.channel.state = .termination ∧
          before.channel.ownerDead = false ∧ after.channel.position = .loop ∧
          after.channel.ended = before.channel.ended)) := by
  have single : ∀ {state : ProxyChannelState} {dead : Bool} {rest : List ChannelEvent},
      (∀ event ∈ rest, ∀ other, event ≠ .woke other ownerDead) →
      .woke state dead :: rest = earlier ++ .woke .termination ownerDead :: later →
      state = .termination ∧ later = rest := by
    intro state dead rest quiet same
    rcases List.cons_eq_append_iff.mp same with ⟨_, same⟩ | ⟨behind, _, rfl⟩
    · have head := (List.cons.inj same).1
      cases head
      exact ⟨rfl, (List.cons.inj same).2⟩
    · exact absurd rfl
        (quiet _ (List.mem_append_right _ List.mem_cons_self) .termination)
  have absent : ∀ {block : List ChannelEvent},
      (∀ event ∈ block, ∀ other, event ≠ .woke other ownerDead) →
      block ≠ earlier ++ .woke .termination ownerDead :: later := by
    rintro block quiet rfl
    exact quiet _ (List.mem_append_right _ List.mem_cons_self) .termination rfl
  cases step with
  | ends position ended => exact absurd split (absent (by simp))
  | idle position running => exact absurd split (absent (by simp))
  | ownerDied waits dead =>
      obtain ⟨_, rfl⟩ := single (by simp) split
      exact ⟨by simp, Or.inl rfl⟩
  | terminated waits alive asked =>
      obtain ⟨_, rfl⟩ := single (by simp) split
      exact ⟨by simp, Or.inl rfl⟩
  | unasked proxyExit position alive unasked =>
      exact absurd (single (by simp) split).1 unasked.1
  | returns waits alive =>
      obtain ⟨state, rfl⟩ := single (by simp) split
      rcases waits with position | ⟨notTermination, _⟩
      · exact ⟨by simp, Or.inr ⟨position, state, alive, rfl, rfl⟩⟩
      · exact absurd state notTermination
  | fails position alive asked unreadable =>
      cases (single (by simp [answerEvents]) split).1
  | acknowledges position alive asked read named =>
      cases (single (by simp [answerEvents]) split).1
  | crashes position alive asked read unnamed channel crashed =>
      cases (single (by simp) split).1
  | rest position alive asked created =>
      cases (single (by simp [answerEvents]) split).1
  | confirmed position alive asked channel => cases (single (by simp) split).1
  | works position channel => exact absurd split (absent (by simp))

private theorem returns_of_thread {input : ChannelInput} {before after : ProxyState}
    {events : List ChannelEvent} (step : ThreadStep input before events after)
    (wait : before.channel.position = .restWait) (alive : before.channel.ownerDead = false) :
    events = [.woke before.channel.state false] ∧
      after.channel = { before.channel with position := .loop } := by
  cases step with
  | returns waits alive => exact ⟨rfl, rfl⟩
  | ownerDied waits dead =>
      rw [alive] at dead
      cases dead
  | terminated waits living asked =>
      rcases waits with position | ⟨exchange, position⟩ <;>
        rw [wait] at position <;> cases position
  | ends position | idle position | unasked proxyExit position | fails position
  | acknowledges position | crashes position | rest position | confirmed position
  | works position =>
      rw [wait] at position
      cases position

theorem kept_step_iff {env : Environment} {action : ChannelAction}
    {before after : ChannelRun} (kept : before.TerminationKept)
    (next : before.step env action = some after) :
    after.TerminationKept ↔ before.Honours action := by
  rcases step_cases next with
    ⟨outcome, events, lives, trace, step⟩ | ⟨outcome, dies, trace, state⟩ |
      ⟨own, trace, position, ended⟩
  · constructor
    · intro afterKept wait state
      by_contra unhonoured
      rw [not_or, Bool.not_eq_true, Bool.not_eq_true] at unhonoured
      obtain ⟨rfl, channel⟩ := returns_of_thread step wait unhonoured.1
      rw [state] at trace
      rcases (afterKept before.trace false [] trace).2 with finished | ⟨_, ended⟩
      · rw [channel] at finished
        cases finished
      · rw [channel, unhonoured.2] at ended
        cases ended
    · intro honours earlier ownerDead later split
      have woken : ∀ start, events = start ++ .woke .termination ownerDead :: later →
          (∀ event ∈ later, event = .left) ∧
            (after.state.channel.position = .finished ∨
              (after.state.channel.position = .loop ∧ after.state.channel.ended = true)) := by
        intro start own
        obtain ⟨quiet, finished | ⟨wait, state, alive, loop, ended⟩⟩ := woke_of_thread step own
        · exact ⟨quiet, Or.inl finished⟩
        · refine ⟨quiet, Or.inr ⟨loop, ?_⟩⟩
          rw [ended]
          refine (honours wait state).resolve_left ?_
          rw [alive]
          exact Bool.false_ne_true
      rw [trace] at split
      rcases List.append_eq_append_iff.mp split with ⟨rest, _, own⟩ | ⟨rest, old, split⟩
      · exact woken rest own
      · rcases List.cons_eq_append_iff.mp split with ⟨_, own⟩ | ⟨behind, rfl, rfl⟩
        · exact woken [] own
        · -- the thread has woken before and is leaving
          obtain ⟨quiet, leaving⟩ := kept earlier ownerDead behind old
          obtain ⟨rfl, finished⟩ := kept_of_thread step leaving
          refine ⟨?_, Or.inl finished⟩
          intro event member
          rcases List.mem_append.mp member with before | left
          · exact quiet event before
          · exact List.mem_singleton.mp left
  · -- the thread woke to a request, not to the termination, and has not left its loop
    obtain ⟨position, _, dead⟩ := Channel.dies_iff.mp dies
    have unasked : before.state.channel.state ≠ .termination := by
      intro state
      rw [state] at dead
      exact dead trivial
    refine iff_of_true ?_ ?_
    · intro earlier ownerDead later split
      have woken : ∀ rest, [.woke before.state.channel.state false] ≠
          rest ++ .woke .termination ownerDead :: later := by
        intro rest own
        have member : .woke .termination ownerDead ∈
            [ChannelEvent.woke before.state.channel.state false] := by
          rw [own]
          exact List.mem_append_right rest List.mem_cons_self
        rw [List.mem_singleton, ChannelEvent.woke.injEq] at member
        exact unasked member.1.symm
      rw [trace] at split
      rcases List.append_eq_append_iff.mp split with ⟨rest, _, own⟩ | ⟨rest, old, split⟩
      · exact absurd own (woken rest)
      · rcases List.cons_eq_append_iff.mp split with ⟨_, own⟩ | ⟨behind, rfl, rfl⟩
        · exact absurd own (woken [])
        · have leaving := (kept earlier ownerDead behind old).2
          rw [position] at leaving
          rcases leaving with finished | ⟨loop, _⟩
          · cases finished
          · cases loop
    · intro wait
      rw [position] at wait
      cases wait
  · refine iff_of_true ?_ trivial
    intro earlier ownerDead later split
    rw [trace] at split
    obtain ⟨quiet, leaving⟩ := kept earlier ownerDead later split
    refine ⟨quiet, ?_⟩
    rw [position]
    exact leaving.imp_right fun stays => ⟨stays.1, ended stays.2⟩

/-! ## Every run -/

/-- In every run in which no wait for the end of a REST request returns with an
unheeded termination, and not after the first step that does. -/
theorem channel_termination_kept {env : Environment} {run : ChannelRun}
    (reached : Runs.Reaches (step env) Honours initial run) :
    run.TerminationKept ∧
      ∀ action after, run.step env action = some after →
        (after.TerminationKept ↔ run.Honours action) := by
  have kept : run.TerminationKept := by
    apply reached.invariant
    · intro earlier ownerDead later split
      exact absurd (split ▸ List.mem_append_right _ List.mem_cons_self) List.not_mem_nil
    · intro before action after kept honours next
      exact (kept_step_iff kept next).mpr honours
  exact ⟨kept, fun _ _ next => kept_step_iff kept next⟩

/-- The segment can be opened and the application has no REST handler. -/
private def unhandled : ChannelOutcome where
  payload := { opened := true, mapped := true, stored := true }
  text := ""
  answer := {
    result := .invalid
    normalizedPayload := .null
    unsubscribe := false
    invalidStatus := 0 }
  rest := none
  restAnswer := { opened := true, mapped := true, stored := true }

/-- `proxy_channel_stop` ends the wait for the end of a REST request. -/
theorem channel_termination_kept_stopped :
    ∃ run : ChannelRun,
      (.woke .termination false ∈ run.trace ∧ run.state.channel.ended = true) ∧
      (run.TerminationKept ∧
        ∀ action after, run.step .reference action = some after →
          (after.TerminationKept ↔ run.Honours action)) := by
  obtain ⟨run, reached, tested⟩ :=
    Runs.reaches_of_execute_test (step .reference) Honours
      [.thread unhandled, .other (.rest "r1" true), .thread unhandled, .other .sigterm,
        .other .main, .other .main, .thread unhandled, .thread unhandled]
      initial
      (fun run => decide (.woke .termination false ∈ run.trace ∧
        run.state.channel.ended = true))
      (by decide +kernel)
  exact ⟨run, of_decide_eq_true tested, channel_termination_kept reached⟩

/-- The dispatcher terminates the channel in the wait for the end of a REST
request. -/
theorem channel_termination_not_kept :
    ¬∀ run, Runs.Reaches (step .reference) Runs.unrestricted initial run →
      run.TerminationKept := by
  intro always
  obtain ⟨run, reached, tested⟩ :=
    Runs.reaches_of_execute_test (step .reference) Runs.unrestricted
      [.thread unhandled, .other (.rest "r1" true), .thread unhandled,
        .other (.channelState .termination true), .thread unhandled, .thread unhandled]
      initial
      (fun run => decide (run.trace =
        ([.wrote .idle, .signalledIdle, .waits, .woke .rest false] ++
          answerEvents .restRespond) ++ .woke .termination false ::
            [.wrote .idle, .signalledIdle, .waits]))
      (by decide +kernel)
  have quiet := (always run reached _ _ _ (of_decide_eq_true tested)).1
  exact absurd (quiet (.wrote .idle) List.mem_cons_self) (by simp)

end ChannelRun

end Sawang

import Sawang.Proxy.Layers

/-!
# What the channel thread does to its segment

The waits, writes and signals of `proxy_channel`, `proxy_channel_exchange` and
`proxy_channel_rest` in their order, for every outcome of the calls to the
operating system and to the application.
-/

namespace Sawang

open ProxyState

/-! ## Segments named by the request -/

/-- What the REST handler fills in. -/
structure ProxyRestRespond where
  code : Int32
  err : Option String
  json : Option Json

/-- Everything the channel thread meets outside. -/
structure ChannelOutcome where
  payload : SegmentOutcome
  /-- The text in the payload segment. -/
  text : String
  answer : PayloadParse
  /-- `proxy_rest`, if the application supplies it. -/
  rest : Option (Option String → Option Json → ProxyRestRespond)
  restAnswer : SegmentOutcome

/-- The request in the payload segment; `some none` is the NULL pointer.  Without
memory behind the mapping the first access ends the process with `SIGBUS`: `none`. -/
def proxyChannelPayloadShmRead (env : Environment) (segment : SegmentOutcome)
    (text : String) : Option (Option Json) :=
  if segment.opened then
    if segment.mapped then
      if segment.stored then some (env.parse text) else none
    else some none
  else some none

def proxyChannelRespondCreate (env : Environment) (respond : ProxyRestRespond) : String :=
  env.printUnformatted (.object (
    [("code", .ofInt respond.code.toInt)] ++
    (match respond.err with
      | none => []
      | some err => if err = "" then [] else [("err", .string err)]) ++
    (match respond.json with
      | none => []
      | some json => [("json", json)])))

/-- What the REST handler makes of a request that was read. -/
def proxyRestHandled (proxyRest : Option String → Option Json → ProxyRestRespond) :
    Option Json → ProxyRestRespond
  | none => ⟨500, some "REST payload read is failed", none⟩
  | some serviceAndPayload =>
      let respond := proxyRest (serviceName serviceAndPayload)
        (serviceAndPayload.getObjectItem servicePayloadKey)
      if respond.code = 0 then
        { respond with code := 503, err := some "REST endpoint is not implemented" }
      else respond

/-- The answer of `proxy_channel_rest`; `none` where reading the request ends the
process.  Without a handler nothing is read. -/
def proxyChannelRespond (env : Environment) (outcome : ChannelOutcome) : Option String :=
  match outcome.rest with
  | none =>
      some (proxyChannelRespondCreate env
        ⟨503, some "REST handler is not implemented", none⟩)
  | some proxyRest =>
      (proxyChannelPayloadShmRead env outcome.payload outcome.text).map fun read =>
        proxyChannelRespondCreate env (proxyRestHandled proxyRest read)

/-- The length of the answer segment, with the final zero byte; 0 on failure.  Without
memory behind the mapping the copy ends the process with `SIGBUS`: `none`. -/
def proxyRestCreateAnswer (segment : SegmentOutcome) (respond : String) : Option Nat :=
  if segment.opened then
    if segment.mapped then
      if segment.stored then some (respond.utf8ByteSize + 1) else none
    else some 0
  else some 0

theorem proxyChannelPayloadShmRead_isSome_iff {env : Environment} {segment : SegmentOutcome}
    {text : String} :
    (proxyChannelPayloadShmRead env segment text).isSome = true ↔ segment.Backed := by
  cases segment using SegmentOutcome.stages <;>
    simp [proxyChannelPayloadShmRead, SegmentOutcome.Backed]

theorem proxyRestCreateAnswer_isSome_iff {segment : SegmentOutcome} {respond : String} :
    (proxyRestCreateAnswer segment respond).isSome = true ↔ segment.Backed := by
  cases segment using SegmentOutcome.stages <;>
    simp [proxyRestCreateAnswer, SegmentOutcome.Backed]

theorem proxyRestCreateAnswer_usable_iff {segment : SegmentOutcome} {respond : String} :
    0 < (proxyRestCreateAnswer segment respond).getD 0 ↔ segment.Usable := by
  cases segment using SegmentOutcome.stages <;>
    simp [proxyRestCreateAnswer, SegmentOutcome.Usable]

/-- A segment that was made holds the answer and its final zero byte. -/
theorem proxyRestCreateAnswer_pos_iff {segment : SegmentOutcome} {respond : String}
    {length : Nat} (made : proxyRestCreateAnswer segment respond = some length) :
    0 < length ↔ length = respond.utf8ByteSize + 1 := by
  unfold proxyRestCreateAnswer at made
  repeat' split at made
  all_goals cases made
  all_goals omega

namespace ChannelOutcome

/-- The length of the segment made for a REST request. -/
def answerLength (env : Environment) (outcome : ChannelOutcome) : Option Nat :=
  (proxyChannelRespond env outcome).bind (proxyRestCreateAnswer outcome.restAnswer)

/-- As far as the rest of the proxy is concerned. -/
def input (env : Environment) (outcome : ChannelOutcome) : ChannelInput where
  document := (proxyChannelPayloadShmRead env outcome.payload outcome.text).join
  answer := outcome.answer
  answerCreated := decide (0 < (outcome.answerLength env).getD 0)

/-- The process lives through what the thread does when it wakes to this state. -/
def Survives (env : Environment) (outcome : ChannelOutcome) : ProxyChannelState → Prop
  | .request =>
      (proxyChannelPayloadShmRead env outcome.payload outcome.text).isSome = true
  | .rest => (outcome.answerLength env).isSome = true
  | _ => True

instance (env : Environment) (outcome : ChannelOutcome) :
    (state : ProxyChannelState) → Decidable (outcome.Survives env state)
  | .request | .rest => inferInstanceAs (Decidable (_ = true))
  | .init | .idle | .acknowledged | .fails | .done | .stopRequest | .restRespond
  | .termination => inferInstanceAs (Decidable True)

/-- The answer to a REST request can be made. -/
structure AnswerMade (outcome : ChannelOutcome) : Prop where
  read : outcome.rest.isSome = true → outcome.payload.Backed
  opened : outcome.restAnswer.opened = true
  mapped : outcome.restAnswer.mapped = true
  stored : outcome.restAnswer.stored = true

instance (outcome : ChannelOutcome) : Decidable outcome.AnswerMade :=
  decidable_of_iff
    ((outcome.rest.isSome = true → outcome.payload.Backed) ∧
      outcome.restAnswer.opened = true ∧ outcome.restAnswer.mapped = true ∧
      outcome.restAnswer.stored = true)
    ⟨fun ⟨read, opened, mapped, stored⟩ => ⟨read, opened, mapped, stored⟩,
      fun ⟨read, opened, mapped, stored⟩ => ⟨read, opened, mapped, stored⟩⟩

theorem survives_request_iff {env : Environment} {outcome : ChannelOutcome} :
    outcome.Survives env .request ↔ outcome.payload.Backed :=
  proxyChannelPayloadShmRead_isSome_iff

theorem respond_isSome_iff {env : Environment} {outcome : ChannelOutcome} :
    (proxyChannelRespond env outcome).isSome = true ↔
      (outcome.rest.isSome = true → outcome.payload.Backed) := by
  unfold proxyChannelRespond
  cases outcome.rest with
  | none => simp
  | some proxyRest => simp [proxyChannelPayloadShmRead_isSome_iff]

theorem answerCreated_iff {env : Environment} {outcome : ChannelOutcome} :
    (outcome.input env).answerCreated = true ↔ outcome.AnswerMade := by
  unfold input answerLength
  rw [decide_eq_true_eq]
  have readable := @respond_isSome_iff env outcome
  cases respond : proxyChannelRespond env outcome with
  | none =>
      rw [respond] at readable
      refine iff_of_false (by simp) ?_
      intro made
      cases readable.mpr made.read
  | some text =>
      rw [respond] at readable
      rw [Option.bind_some, proxyRestCreateAnswer_usable_iff]
      constructor
      · rintro ⟨opened, mapped, stored⟩
        exact ⟨readable.mp rfl, opened, mapped, stored⟩
      · rintro ⟨_, opened, mapped, stored⟩
        exact ⟨opened, mapped, stored⟩

/-- The process lives through a REST request whose answer can be made. -/
theorem survives_rest {env : Environment} {outcome : ChannelOutcome}
    (made : outcome.AnswerMade) : outcome.Survives env .rest := by
  have readable := (@respond_isSome_iff env outcome).mpr made.read
  unfold Survives answerLength
  obtain ⟨text, respond⟩ := Option.isSome_iff_exists.mp readable
  rw [respond]
  exact proxyRestCreateAnswer_isSome_iff.mpr fun _ _ => made.stored

end ChannelOutcome

/-! ## Events on the channel segment -/

inductive ChannelEvent where
  | wrote (state : ProxyChannelState)
  | signalledIdle
  /-- `dispatcher_wakeup` is signalled with the state in place. -/
  | signalledDispatcher (state : ProxyChannelState)
  | waits
  /-- A wait on `proxy_wakeup` returns and the state is read; `ownerDead` is
  `EOWNERDEAD`. -/
  | woke (state : ProxyChannelState) (ownerDead : Bool)
  /-- The thread leaves its loop. -/
  | left
deriving DecidableEq

/-- A state is left for the dispatcher and the thread waits for the reaction. -/
def answerEvents (state : ProxyChannelState) : List ChannelEvent :=
  [.wrote state, .signalledDispatcher state, .waits]

namespace Channel

/-- What the thread does between a wake in `proxy_channel` and the next wait or
the next round. -/
def idleEvents (input : ChannelInput) (channel : Channel) : List ChannelEvent :=
  if channel.ownerDead then [.left]
  else
    match channel.state with
    | .termination => [.left]
    | .request =>
        match input.document with
        | none => answerEvents .fails
        | some document =>
            match Exchange.read document input.answer with
            | none => []
            | some _ => answerEvents .acknowledged
    | .rest => if input.answerCreated then answerEvents .restRespond else []
    | _ => []

def acknowledgeEvents (channel : Channel) : List ChannelEvent :=
  if channel.ownerDead then [.left]
  else
    match channel.state with
    | .termination => [.left]
    | _ => []

def restEvents (channel : Channel) : List ChannelEvent :=
  if channel.ownerDead then [.left] else []

/-- The events of one step of the thread, oldest first. -/
def events (input : ChannelInput) (channel : Channel) : List ChannelEvent :=
  match channel.position with
  | .loop => if channel.ended then [.left] else [.wrote .idle, .signalledIdle, .waits]
  | .idleWait => .woke channel.state channel.ownerDead :: channel.idleEvents input
  | .acknowledgeWait _ =>
      .woke channel.state channel.ownerDead :: channel.acknowledgeEvents
  | .restWait => .woke channel.state channel.ownerDead :: channel.restEvents
  | .job | .finished => []

end Channel

/-- A step of the channel thread with its events. -/
inductive ThreadStep (input : ChannelInput) : ProxyState → List ChannelEvent →
    ProxyState → Prop
  | ends {state : ProxyState} (position : state.channel.position = .loop)
      (ended : state.channel.ended = true) :
      ThreadStep input state [.left]
        { state with channel := { state.channel with position := .finished } }
  | idle {state : ProxyState} (position : state.channel.position = .loop)
      (running : state.channel.ended = false) :
      ThreadStep input state [.wrote .idle, .signalledIdle, .waits]
        { state with channel := state.channel.shmIdle }
  | ownerDied {state : ProxyState} (waits : state.channel.Waits)
      (dead : state.channel.ownerDead = true) :
      ThreadStep input state [.woke state.channel.state true, .left]
        { state with channel := { state.channel with
          ownerDead := false, position := .finished } }
  | terminated {state : ProxyState}
      (waits : state.channel.position = .idleWait ∨
        ∃ exchange, state.channel.position = .acknowledgeWait exchange)
      (alive : state.channel.ownerDead = false)
      (asked : state.channel.state = .termination) :
      ThreadStep input state [.woke .termination false, .left]
        { state with channel := { state.channel with position := .finished } }
  /-- Nothing is asked in `proxy_channel`. -/
  | unasked {state : ProxyState} (proxyExit : Bool)
      (position : state.channel.position = .idleWait)
      (alive : state.channel.ownerDead = false)
      (unasked : state.channel.state ≠ .termination ∧ state.channel.state ≠ .request ∧
        (state.channel.state = .rest → input.answerCreated = false)) :
      ThreadStep input state [.woke state.channel.state false]
        { state with
          proxyExit := proxyExit, channel := { state.channel with position := .loop } }
  /-- The wait for a reaction returns to the loop. -/
  | returns {state : ProxyState}
      (waits : state.channel.position = .restWait ∨
        state.channel.state ≠ .termination ∧
          ∃ exchange, state.channel.position = .acknowledgeWait exchange)
      (alive : state.channel.ownerDead = false) :
      ThreadStep input state [.woke state.channel.state false]
        { state with channel := { state.channel with position := .loop } }
  | fails {state : ProxyState} (position : state.channel.position = .idleWait)
      (alive : state.channel.ownerDead = false) (asked : state.channel.state = .request)
      (unreadable : input.document = none) :
      ThreadStep input state (.woke .request false :: answerEvents .fails)
        { state with channel := state.channel.accept .fails none }
  | acknowledges {state : ProxyState} {document : Json} {exchange : Exchange}
      (position : state.channel.position = .idleWait)
      (alive : state.channel.ownerDead = false) (asked : state.channel.state = .request)
      (read : input.document = some document)
      (named : Exchange.read document input.answer = some exchange) :
      ThreadStep input state (.woke .request false :: answerEvents .acknowledged)
        { state with channel := state.channel.accept .acknowledged (some exchange) }
  | crashes {state after : ProxyState} {document : Json}
      (position : state.channel.position = .idleWait)
      (alive : state.channel.ownerDead = false) (asked : state.channel.state = .request)
      (read : input.document = some document)
      (unnamed : Exchange.read document input.answer = none)
      (channel : after.channel = state.channel) (crashed : after.board.crashed = true) :
      ThreadStep input state [.woke .request false] after
  | rest {state : ProxyState} (position : state.channel.position = .idleWait)
      (alive : state.channel.ownerDead = false) (asked : state.channel.state = .rest)
      (created : input.answerCreated = true) :
      ThreadStep input state (.woke .rest false :: answerEvents .restRespond)
        { state with channel := state.channel.answer .restRespond .restWait }
  | confirmed {state after : ProxyState} {exchange : Exchange}
      (position : state.channel.position = .acknowledgeWait (some exchange))
      (alive : state.channel.ownerDead = false) (asked : state.channel.state = .done)
      (channel : after.channel = { state.channel with position := .job }) :
      ThreadStep input state [.woke .done false] after
  | works {state after : ProxyState} (position : state.channel.position = .job)
      (channel : after.channel = state.channel ∨
        after.channel = { state.channel with position := .loop }) :
      ThreadStep input state [] after

namespace ProxyState

variable {env : Environment} {input : ChannelInput} {before after : ProxyState}

/-- A wake in `proxy_channel` that finds nothing to answer. -/
private theorem events_unasked {channel : Channel} (position : channel.position = .idleWait)
    (alive : channel.ownerDead = false)
    (unasked : channel.state ≠ .termination ∧ channel.state ≠ .request ∧
      (channel.state = .rest → input.answerCreated = false)) :
    channel.events input = [.woke channel.state false] := by
  unfold Channel.events Channel.idleEvents
  rw [position, alive]
  cases state : channel.state <;> simp_all

private theorem threadStep_wakeIdle (position : before.channel.position = .idleWait)
    (next : before.wakeIdle input env = some after) :
    ThreadStep input before (before.channel.events input) after := by
  unfold wakeIdle at next
  dsimp only at next
  split at next
  · rename_i dead
    cases next
    have happened : before.channel.events input = [.woke before.channel.state true, .left] := by
      simp [Channel.events, Channel.idleEvents, position, dead]
    rw [happened]
    exact .ownerDied (Or.inl position) dead
  · rename_i living
    have alive := Bool.eq_false_iff.mpr living
    -- nothing is answered
    have returned : ∀ proxyExit : Bool,
        (before.channel.state ≠ .termination ∧ before.channel.state ≠ .request ∧
          (before.channel.state = .rest → input.answerCreated = false)) →
        ThreadStep input before (before.channel.events input)
          { before with
            proxyExit := proxyExit
            channel := { before.channel with position := .loop } } := by
      intro proxyExit unasked
      rw [events_unasked position alive unasked]
      exact .unasked proxyExit position alive unasked
    split at next
    · rename_i state
      cases next
      have happened : before.channel.events input = [.woke .termination false, .left] := by
        simp [Channel.events, Channel.idleEvents, position, alive, state]
      rw [happened]
      exact .terminated (Or.inl position) alive state
    · rename_i state
      cases next
      exact returned true (by simp [state])
    · rename_i state
      split at next
      · rename_i document
        cases next
        have happened : before.channel.events input =
            .woke .request false :: answerEvents .fails := by
          simp [Channel.events, Channel.idleEvents, position, alive, state, document]
        rw [happened]
        exact .fails position alive state document
      · rename_i document read
        split at next
        · rename_i unnamed
          have happened : before.channel.events input = [.woke .request false] := by
            simp [Channel.events, Channel.idleEvents, position, alive, state, read, unnamed]
          rw [happened]
          refine .crashes position alive state read unnamed (perform_cases next).2.2 ?_
          have moved := (perform_cases next).1
          unfold Board.move at moved
          split at moved
          · cases moved
          · have crashed := congrArg Board.crashed (Option.some.inj moved)
            exact crashed.symm
        · rename_i exchange named
          cases next
          have happened : before.channel.events input =
              .woke .request false :: answerEvents .acknowledged := by
            simp [Channel.events, Channel.idleEvents, position, alive, state, read, named]
          rw [happened]
          exact .acknowledges position alive state read named
    · rename_i state
      split at next
      · rename_i created
        cases next
        have happened : before.channel.events input =
            .woke .rest false :: answerEvents .restRespond := by
          simp [Channel.events, Channel.idleEvents, position, alive, state, created]
        rw [happened]
        exact .rest position alive state created
      · rename_i uncreated
        cases next
        exact returned before.proxyExit (by simp [state, uncreated])
    · rename_i notTermination _ notRequest notRest
      cases next
      exact returned before.proxyExit
        ⟨notTermination, notRequest, fun rest => absurd rest notRest⟩

private theorem threadStep_wakeAcknowledge {exchange : Option Exchange}
    (position : before.channel.position = .acknowledgeWait exchange)
    (next : before.wakeAcknowledge exchange env = some after) :
    ThreadStep input before (before.channel.events input) after := by
  unfold wakeAcknowledge at next
  dsimp only at next
  split at next
  · rename_i dead
    cases next
    have happened : before.channel.events input = [.woke before.channel.state true, .left] := by
      simp [Channel.events, Channel.acknowledgeEvents, position, dead]
    rw [happened]
    exact .ownerDied (Or.inr (Or.inr ⟨exchange, position⟩)) dead
  · rename_i living
    have alive := Bool.eq_false_iff.mpr living
    split at next
    · rename_i state
      cases next
      have happened : before.channel.events input = [.woke .termination false, .left] := by
        simp [Channel.events, Channel.acknowledgeEvents, position, alive, state]
      rw [happened]
      exact .terminated (Or.inr ⟨_, position⟩) alive state
    · rename_i request state
      obtain ⟨board, performed, rfl⟩ := Option.map_eq_some_iff.mp next
      have happened : before.channel.events input = [.woke .done false] := by
        simp [Channel.events, Channel.acknowledgeEvents, position, alive, state]
      rw [happened]
      exact .confirmed position alive state rfl
    · rename_i pending _ _ notTermination notDone
      cases next
      have happened : before.channel.events input = [.woke before.channel.state false] := by
        unfold Channel.events Channel.acknowledgeEvents
        rw [position, alive]
        cases state : before.channel.state <;> simp_all
      rw [happened]
      exact .returns (Or.inr ⟨notTermination, pending, position⟩) alive

/-- What one step of the channel thread can be. -/
theorem threadStep_of_step (next : before.step env (.channel input) = some after) :
    ThreadStep input before (before.channel.events input) after := by
  unfold ProxyState.step at next
  split at next
  · cases next
  · dsimp only at next
    unfold stepChannel at next
    dsimp only at next
    split at next
    · rename_i position
      split at next
      · rename_i ended
        cases next
        have happened : before.channel.events input = [.left] := by
          simp [Channel.events, position, ended]
        rw [happened]
        exact .ends position ended
      · rename_i running
        cases next
        have happened : before.channel.events input = [.wrote .idle, .signalledIdle, .waits] := by
          simp [Channel.events, position, running]
        rw [happened]
        exact .idle position (Bool.eq_false_iff.mpr running)
    · rename_i position
      split at next
      · exact threadStep_wakeIdle position next
      · cases next
    · rename_i exchange position
      split at next
      · exact threadStep_wakeAcknowledge position next
      · cases next
    · rename_i position
      split at next
      · split at next
        · rename_i dead
          cases next
          have happened : before.channel.events input =
              [.woke before.channel.state true, .left] := by
            simp [Channel.events, Channel.restEvents, position, dead]
          rw [happened]
          exact .ownerDied (Or.inr (Or.inl position)) dead
        · rename_i living
          cases next
          have happened : before.channel.events input = [.woke before.channel.state false] := by
            simp [Channel.events, Channel.restEvents, position, living]
          rw [happened]
          exact .returns (Or.inl position) (Bool.eq_false_iff.mpr living)
      · cases next
    · rename_i position
      have happened : before.channel.events input = [] := by simp [Channel.events, position]
      rw [happened]
      split at next
      · cases next
        exact .works position (Or.inr rfl)
      · exact .works position (Or.inl (perform_cases next).2.2)
    · cases next

/-- Only the channel thread moves itself, and nobody takes back its end. -/
theorem channel_elsewhere {action : Action} (elsewhere : ∀ input, action ≠ .channel input)
    (next : before.step env action = some after) :
    after.channel.position = before.channel.position ∧
      (before.channel.ended = true → after.channel.ended = true) := by
  cases proxyStep_of_step next with
  | perform chosen unconfirmed busy performed =>
      rw [(perform_cases performed).2.2]
      exact ⟨rfl, id⟩
  | channelEnd | channelIdle | channelFinish | channelReturn | channelAccept | channelRest
  | confirm | jobDone => exact absurd rfl (elsewhere _)
  | stopChannel position free => exact ⟨rfl, fun _ => rfl⟩
  | _ => exact ⟨rfl, id⟩

end ProxyState

/-! ## Runs with their events -/

/-- The proxy with the events of the channel thread so far, oldest first. -/
structure ChannelRun where
  state : ProxyState
  trace : List ChannelEvent
  /-- The channel thread has met a mapping without memory: the process is gone. -/
  died : Bool

inductive ChannelAction where
  | thread (outcome : ChannelOutcome)
  /-- A step of anybody else. -/
  | other (action : Action)

/-- The thread wakes in `proxy_channel` and does not live through what is asked. -/
def Channel.dies (env : Environment) (outcome : ChannelOutcome) (channel : Channel) : Bool :=
  match channel.position with
  | .idleWait => !channel.ownerDead && !decide (outcome.Survives env channel.state)
  | _ => false

theorem Channel.dies_iff {env : Environment} {outcome : ChannelOutcome} {channel : Channel} :
    channel.dies env outcome = true ↔
      channel.position = .idleWait ∧ channel.ownerDead = false ∧
        ¬outcome.Survives env channel.state := by
  unfold Channel.dies
  cases channel.position <;> simp

namespace ChannelRun

def initial : ChannelRun where
  state := .initial
  trace := []
  died := false

def step (env : Environment) (action : ChannelAction) (run : ChannelRun) :
    Option ChannelRun :=
  if run.died then none
  else
    match action with
    | .thread outcome =>
        (run.state.step env (.channel (outcome.input env))).map fun after =>
          if run.state.channel.dies env outcome then
            { run with
              trace := run.trace ++ [.woke run.state.channel.state false]
              died := true }
          else
            { run with
              state := after
              trace := run.trace ++ run.state.channel.events (outcome.input env) }
    | .other (.channel _) => none
    | .other action =>
        (run.state.step env action).map fun after => { run with state := after }

/-- A step of the run is one of the channel thread, its death, or leaves the trace
alone. -/
inductive Steps (env : Environment) (before after : ChannelRun) : ChannelAction → Prop
  | thread (outcome : ChannelOutcome) (events : List ChannelEvent)
      (lives : before.state.channel.dies env outcome = false)
      (trace : after.trace = before.trace ++ events)
      (step : ThreadStep (outcome.input env) before.state events after.state) :
      Steps env before after (.thread outcome)
  | dies (outcome : ChannelOutcome) (dies : before.state.channel.dies env outcome = true)
      (trace : after.trace = before.trace ++ [.woke before.state.channel.state false])
      (state : after.state = before.state) : Steps env before after (.thread outcome)
  | other (own : Action) (trace : after.trace = before.trace)
      (position : after.state.channel.position = before.state.channel.position)
      (ended : before.state.channel.ended = true → after.state.channel.ended = true) :
      Steps env before after (.other own)

theorem step_cases {env : Environment} {action : ChannelAction} {before after : ChannelRun}
    (next : before.step env action = some after) : Steps env before after action := by
  unfold step at next
  split at next
  · cases next
  · split at next
    · rename_i outcome
      obtain ⟨state, moved, rfl⟩ := Option.map_eq_some_iff.mp next
      split
      · rename_i dies
        exact .dies outcome dies rfl rfl
      · rename_i lives
        exact .thread outcome _ (Bool.eq_false_iff.mpr lives) rfl
          (ProxyState.threadStep_of_step moved)
    · cases next
    · rename_i own elsewhere
      obtain ⟨state, moved, rfl⟩ := Option.map_eq_some_iff.mp next
      obtain ⟨position, ended⟩ :=
        ProxyState.channel_elsewhere (fun input equal => elsewhere input equal) moved
      exact .other own rfl position ended

/-- A thread that wakes and goes on has lived through what was asked. -/
theorem survives_of_lives {env : Environment} {outcome : ChannelOutcome} {channel : Channel}
    (lives : channel.dies env outcome = false) (position : channel.position = .idleWait)
    (alive : channel.ownerDead = false) : outcome.Survives env channel.state := by
  by_contra dead
  rw [Channel.dies_iff.mpr ⟨position, alive, dead⟩] at lives
  cases lives

end ChannelRun

end Sawang

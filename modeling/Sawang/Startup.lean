import Sawang.Activation.Step
import Sawang.Confvar
import Sawang.Log

/-!
# The startup

The calls that `work` makes until `proxy_activate` has returned, as far as they write
a buffer of fixed size: `proxy_log` its file path, and `proxy_activate` the name in
the activation segment.  A stage of the startup is what it calls and whether the
startup goes on behind it; what the system answers is told from outside.  The threads
log while the startup goes on; their calls stand behind their start.
-/

namespace Sawang

/-- A text with its terminator, and the buffer it is written to. -/
structure BufferWrite where
  bytes : Nat
  capacity : Nat

def BufferWrite.Fits (write : BufferWrite) : Prop := write.bytes ≤ write.capacity

inductive StartupCall where
  | log (fmt : String)
  /-- `strcpy` of the name. -/
  | copyName

def StartupCall.write (ctx : LogContext) (wday : Fin 7) : StartupCall → BufferWrite
  | .log _ => ⟨(filepath ctx wday).length + 1, filepathLen⟩
  | .copyName => ⟨ctx.name.length + 1, proxynamebuflen⟩

structure Stage where
  calls : List StartupCall
  ok : Bool

namespace Stage

def andThen (first next : Stage) : Stage :=
  if first.ok then ⟨first.calls ++ next.calls, next.ok⟩ else first

/-- A stage that logs only if the startup ends with it. -/
def check (ok : Bool) (fmt : String) : Stage :=
  if ok then ⟨[], true⟩ else ⟨[.log fmt], false⟩

/-- `pthread_create`, and what the thread logs. -/
def thread (created : Option (List String)) (fmt : String) : Stage :=
  match created with
  | none => ⟨[.log fmt], false⟩
  | some logs => ⟨logs.map .log, true⟩

end Stage

/-- A run of `proxy_activate` with what it logs. -/
structure ActivationRun (identity : ProxyIdentity) where
  shm : ActivationShm
  call : Activation
  reached : Runs.Reaches (Activation.move identity) Runs.unrestricted (Activation.initial shm) call
  logs : List String

/-- What the startup finds.  A thread that is created is given by what it logs behind
the message of its start. -/
structure StartupOutcome (identity : ProxyIdentity) where
  payloadParse : Bool
  run : Bool
  sigaction : Bool
  aliveOpened : Bool
  aliveMapped : Bool
  channelOpened : Bool
  subscribeOpened : Bool
  gonggoOpened : Bool
  gonggoMapped : Bool
  gonggoAlive : Bool
  channelThread : Option (List String)
  subscribeThread : Option (List String)
  gonggoThread : Option (List String)
  commThread : Option (List String)
  activation : ActivationRun identity

section

variable {identity : ProxyIdentity} (outcome : StartupOutcome identity)

def callbacks : Stage :=
  (Stage.check outcome.payloadParse "f_payload_parse is NULL").andThen
    (Stage.check outcome.run "f_run is NULL")

def aliveMutexCreate : Stage :=
  (Stage.check outcome.aliveOpened "shm %s creation failed, %s").andThen
    (Stage.check outcome.aliveMapped "shm %s map failed, %s")

def channelContextInit : Stage :=
  Stage.check outcome.channelOpened "shm %s creation failed, %s"

def subscribeContextInit : Stage :=
  Stage.check outcome.subscribeOpened "shm %s creation failed, %s"

/-- Where there is no mapping the check of the lock does not return. -/
def gonggoAliveContextInit : Stage :=
  ((Stage.check outcome.gonggoOpened "shared memory %s access failed, %s").andThen
    (Stage.check outcome.gonggoMapped "shared memory %s access failed, %s")).andThen
    (Stage.check outcome.gonggoAlive "%s is not alive")

/-- The communication thread logs nothing when it starts. -/
def threadsCreate : Stage :=
  (((Stage.thread (outcome.channelThread.map ("proxy %s channel thread is started" :: ·))
      "cannot start server, %s").andThen
    (Stage.thread (outcome.subscribeThread.map ("proxy %s subscribe thread is started" :: ·))
      "cannot start server, %s")).andThen
    (Stage.thread (outcome.gonggoThread.map ("proxy %s gonggo alive thread is started" :: ·))
      "cannot start server, %s")).andThen
    (Stage.thread outcome.commThread "cannot start server, %s")

def proxyActivate (activation : ActivationRun identity) : Stage :=
  ⟨activation.logs.map .log ++ if activation.call.posted then [.copyName] else [],
    activation.call.position = .returned true⟩

def startup : Stage :=
  ((((((callbacks outcome).andThen
    (Stage.check outcome.sigaction "sigaction failed %s")).andThen
    (aliveMutexCreate outcome)).andThen
    (channelContextInit outcome)).andThen
    (subscribeContextInit outcome)).andThen
    (gonggoAliveContextInit outcome)).andThen
    ((threadsCreate outcome).andThen (proxyActivate outcome.activation))

/-- The writes of the startup; `wdays` tells the day of each call. -/
def startupWrites (ctx : LogContext) (wdays : Nat → Fin 7) : List BufferWrite :=
  (startup outcome).calls.mapIdx fun index call => call.write ctx (wdays index)

end

/-- `proxy_name` and the log's context as `work` sets them. -/
def workContext (pid : Int) (cvHead : List ConfVar) : Option LogContext :=
  match confvarValue cvHead confLogpath, confvarValue cvHead confSawang with
  | some path, some name => some ⟨pid, path, name⟩
  | _, _ => none

/-! ## Accepted configurations -/

/-- An accepted configuration has the mandatory keys. -/
theorem mandatory_of_accepted {file : Option (List Char)} {head : List ConfVar}
    (accepted : confvarValidate file = .ok head) {key : List Char} (asked : key ∈ mandatory) :
    ∃ value, confvarValue head key = some value := by
  unfold confvarValidate at accepted
  dsimp only at accepted
  split at accepted
  · cases accepted
  · split at accepted
    · cases accepted
    · rename_i complete
      cases accepted
      unfold confvarAbsent at complete
      cases missing : mandatory.find? fun key => confvarValue (confvarCreate file) key = none with
      | none =>
          have there := List.find?_eq_none.mp missing key asked
          simpa [Option.eq_none_iff_forall_ne_some] using there
      | some other =>
          have listed := List.mem_of_find?_eq_some missing
          have named : ∀ name ∈ mandatory, 0 < (name.take (buflen - 1)).length := by decide
          rw [missing] at complete
          exact absurd (named other listed) complete

theorem workContext_of_accepted {file : Option (List Char)} {head : List ConfVar}
    (accepted : confvarValidate file = .ok head) (pid : Int) :
    ∃ ctx, workContext pid head = some ctx := by
  have pathAsked : confLogpath ∈ mandatory := by decide
  have nameAsked : confSawang ∈ mandatory := by decide
  obtain ⟨path, hasPath⟩ := mandatory_of_accepted accepted pathAsked
  obtain ⟨name, hasName⟩ := mandatory_of_accepted accepted nameAsked
  unfold workContext
  rw [hasPath, hasName]
  exact ⟨_, rfl⟩

/-! ## What the stages call -/

namespace Stage

/-- The stage logs whenever it ends the startup. -/
def LogsFailure (stage : Stage) : Prop :=
  stage.ok = false → ∃ fmt, .log fmt ∈ stage.calls

/-- The stage writes nothing but paths. -/
def LogsOnly (stage : Stage) : Prop := ∀ call ∈ stage.calls, call ≠ .copyName

variable {first next : Stage}

theorem logsFailure_check (ok : Bool) (fmt : String) : (check ok fmt).LogsFailure := by
  intro failed
  cases ok with
  | true => cases failed
  | false => exact ⟨fmt, List.mem_cons_self⟩

theorem LogsFailure.andThen (firstLogs : first.LogsFailure) (nextLogs : next.LogsFailure) :
    (first.andThen next).LogsFailure := by
  intro failed
  unfold Stage.andThen at failed ⊢
  split at failed
  · rename_i passed
    obtain ⟨fmt, member⟩ := nextLogs failed
    rw [if_pos passed]
    exact ⟨fmt, List.mem_append_right _ member⟩
  · rename_i stopped
    rw [if_neg stopped]
    exact firstLogs (Bool.eq_false_iff.mpr stopped)

/-- Where the first stage logs its failures and the next one logs in any case, there is
a message. -/
theorem exists_log_andThen (firstLogs : first.LogsFailure)
    (nextLogs : ∃ fmt, .log fmt ∈ next.calls) :
    ∃ fmt, .log fmt ∈ (first.andThen next).calls := by
  unfold Stage.andThen
  split
  · obtain ⟨fmt, member⟩ := nextLogs
    exact ⟨fmt, List.mem_append_right _ member⟩
  · rename_i stopped
    exact firstLogs (Bool.eq_false_iff.mpr stopped)

theorem exists_log_andThen_left (firstLogs : ∃ fmt, .log fmt ∈ first.calls) :
    ∃ fmt, .log fmt ∈ (first.andThen next).calls := by
  unfold Stage.andThen
  obtain ⟨fmt, member⟩ := firstLogs
  split
  · exact ⟨fmt, List.mem_append_left _ member⟩
  · exact ⟨fmt, member⟩

theorem mem_andThen {call : StartupCall} (member : call ∈ (first.andThen next).calls) :
    call ∈ first.calls ∨ call ∈ next.calls := by
  unfold Stage.andThen at member
  split at member
  · exact List.mem_append.mp member
  · exact Or.inl member

theorem LogsOnly.andThen (firstOnly : first.LogsOnly) (nextOnly : next.LogsOnly) :
    (first.andThen next).LogsOnly := by
  intro call member
  rcases mem_andThen member with earlier | later
  · exact firstOnly call earlier
  · exact nextOnly call later

theorem logsOnly_check (ok : Bool) (fmt : String) : (check ok fmt).LogsOnly := by
  intro call member
  cases ok with
  | true => cases member
  | false =>
      rw [List.mem_singleton.mp member]
      exact StartupCall.noConfusion

theorem logsOnly_thread (created : Option (List String)) (fmt : String) :
    (thread created fmt).LogsOnly := by
  intro call member
  cases created with
  | none =>
      rw [List.mem_singleton.mp member]
      exact StartupCall.noConfusion
  | some logs =>
      obtain ⟨text, _, rfl⟩ := List.mem_map.mp member
      exact StartupCall.noConfusion

end Stage

section

variable {identity : ProxyIdentity} (outcome : StartupOutcome identity)

/-- What comes before the threads. -/
def initialization : Stage :=
  (((((callbacks outcome).andThen
    (Stage.check outcome.sigaction "sigaction failed %s")).andThen
    (aliveMutexCreate outcome)).andThen
    (channelContextInit outcome)).andThen
    (subscribeContextInit outcome)).andThen
    (gonggoAliveContextInit outcome)

/-- What holds of the checks and is kept when stages follow one another. -/
theorem initialization_of_checks {holds : Stage → Prop}
    (checked : ∀ ok fmt, holds (Stage.check ok fmt))
    (follows : ∀ {first next : Stage}, holds first → holds next → holds (first.andThen next)) :
    holds (initialization outcome) := by
  have callbacksHold : holds (callbacks outcome) := follows (checked _ _) (checked _ _)
  have mutexHolds : holds (aliveMutexCreate outcome) := follows (checked _ _) (checked _ _)
  have gonggoHolds : holds (gonggoAliveContextInit outcome) :=
    follows (follows (checked _ _) (checked _ _)) (checked _ _)
  have withSignal := follows callbacksHold (checked outcome.sigaction "sigaction failed %s")
  have withMutex := follows withSignal mutexHolds
  exact follows (follows (follows withMutex (checked _ _)) (checked _ _)) gonggoHolds

theorem logsFailure_initialization : (initialization outcome).LogsFailure :=
  initialization_of_checks outcome Stage.logsFailure_check Stage.LogsFailure.andThen

theorem logsOnly_initialization : (initialization outcome).LogsOnly :=
  initialization_of_checks outcome Stage.logsOnly_check Stage.LogsOnly.andThen

theorem logsOnly_threadsCreate : (threadsCreate outcome).LogsOnly := by
  have logged := Stage.logsOnly_thread
  exact (((logged _ _).andThen (logged _ _)).andThen (logged _ _)).andThen (logged _ _)

/-- The channel thread logs its start, or `work` that there is none. -/
theorem exists_log_threadsCreate : ∃ fmt, .log fmt ∈ (threadsCreate outcome).calls := by
  have channel : ∃ fmt, .log fmt ∈ (Stage.thread
      (outcome.channelThread.map ("proxy %s channel thread is started" :: ·))
      "cannot start server, %s").calls := by
    cases outcome.channelThread with
    | none => exact ⟨_, List.mem_cons_self⟩
    | some logs => exact ⟨_, List.mem_cons_self⟩
  exact Stage.exists_log_andThen_left (Stage.exists_log_andThen_left
    (Stage.exists_log_andThen_left channel))

/-- No startup goes by without a message. -/
theorem exists_log_startup : ∃ fmt, .log fmt ∈ (startup outcome).calls :=
  Stage.exists_log_andThen (logsFailure_initialization outcome)
    (Stage.exists_log_andThen_left (exists_log_threadsCreate outcome))

/-- The name is copied by an activation that posts its request. -/
theorem posted_of_copyName (copied : .copyName ∈ (startup outcome).calls) :
    outcome.activation.call.posted = true := by
  have initial : (startup outcome) = (initialization outcome).andThen
    ((threadsCreate outcome).andThen (proxyActivate outcome.activation)) := rfl
  rw [initial] at copied
  rcases Stage.mem_andThen copied with early | late
  · exact absurd rfl (logsOnly_initialization outcome _ early)
  · rcases Stage.mem_andThen late with early | activated
    · exact absurd rfl (logsOnly_threadsCreate outcome _ early)
    · unfold proxyActivate at activated
      rcases List.mem_append.mp activated with logged | copied
      · obtain ⟨fmt, _, other⟩ := List.mem_map.mp logged
        cases other
      · by_contra unposted
        rw [if_neg unposted] at copied
        cases copied

end

/-! ## The activation's own check -/

/-- Behind its check an activation has a name that fits. -/
private theorem name_fits_of_step {identity : ProxyIdentity} {before after : Activation}
    {status : LockStatus}
    (checked : before.position.seeks = true ∨ before.posted = true →
      identity.name.utf8ByteSize ≤ proxynamebuflen - 1)
    (next : ActivationStep identity before status after)
    (later : after.position.seeks = true ∨ after.posted = true) :
    identity.name.utf8ByteSize ≤ proxynamebuflen - 1 := by
  cases next with
  | opened position fits => exact fits
  | post seeks idle => exact checked (Or.inl seeks)
  | idleWaits left more busy =>
      apply checked
      left
      rcases left with ⟨position, _⟩ | position <;> rw [position] <;> rfl
  | _ =>
      rcases later with impossible | posted
      · cases impossible
      · exact checked (Or.inr posted)

/-- A request is posted with a name that passed the check. -/
theorem name_fits_of_posted {identity : ProxyIdentity} {shm : ActivationShm} {call : Activation}
    (reached : Runs.Reaches (Activation.move identity) Runs.unrestricted
      (Activation.initial shm) call)
    (posted : call.posted = true) : identity.name.utf8ByteSize ≤ proxynamebuflen - 1 := by
  have checked : call.position.seeks = true ∨ call.posted = true →
      identity.name.utf8ByteSize ≤ proxynamebuflen - 1 := by
    clear posted
    induction reached with
    | refl => rintro (impossible | impossible) <;> cases impossible
    | @tail before after action earlier _ moved checked =>
        cases action with
        | thread opened status =>
            have sound := Activation.sound_of_reaches earlier
            exact name_fits_of_step checked (Activation.activationStep_of_step sound moved)
        | write shm =>
            simp only [Activation.move] at moved
            split at moved
            · cases moved
            · cases moved
              exact checked
  exact checked (Or.inr posted)

/-! ## The buffers -/

theorem log_fits_iff {ctx : LogContext} {wday : Fin 7} {fmt : String} :
    ((StartupCall.log fmt).write ctx wday).Fits ↔ ctx.path.length + ctx.name.length ≤ 90 := by
  unfold StartupCall.write BufferWrite.Fits filepathLen
  dsimp only
  rw [length_filepath]
  omega

theorem startup_fits_context_iff {identity : ProxyIdentity} (outcome : StartupOutcome identity)
    {ctx : LogContext} (wdays : Nat → Fin 7)
    (named : identity.name.utf8ByteSize = ctx.name.length) :
    (∀ write ∈ startupWrites outcome ctx wdays, write.Fits) ↔
      ctx.path.length + ctx.name.length ≤ 90 := by
  unfold startupWrites
  constructor
  · intro fits
    obtain ⟨fmt, member⟩ := exists_log_startup outcome
    obtain ⟨index, inside, there⟩ := List.mem_iff_getElem.mp member
    have written := fits _ (List.mem_mapIdx.mpr ⟨index, inside, rfl⟩)
    rw [there] at written
    exact log_fits_iff.mp written
  · intro short write member
    obtain ⟨index, inside, rfl⟩ := List.mem_mapIdx.mp member
    cases called : (startup outcome).calls[index] with
    | log fmt => exact log_fits_iff.mpr short
    | copyName =>
        have copied : .copyName ∈ (startup outcome).calls := called ▸ List.getElem_mem inside
        have checked := name_fits_of_posted outcome.activation.reached
          (posted_of_copyName outcome copied)
        unfold StartupCall.write BufferWrite.Fits
        unfold proxynamebuflen at checked ⊢
        dsimp only
        omega

/-- Under an accepted configuration the writes of any startup fit their buffers just
if the log's path and the proxy's name have 90 characters at most together. -/
theorem startup_fits_iff {file : Option (List Char)} {head : List ConfVar}
    (accepted : confvarValidate file = .ok head) (pid : Int) :
    ∃ ctx, workContext pid head = some ctx ∧
      ∀ (identity : ProxyIdentity) (outcome : StartupOutcome identity) (wdays : Nat → Fin 7),
        identity.name.utf8ByteSize = ctx.name.length →
        ((∀ write ∈ startupWrites outcome ctx wdays, write.Fits) ↔
          ctx.path.length + ctx.name.length ≤ 90) := by
  obtain ⟨ctx, context⟩ := workContext_of_accepted accepted pid
  exact ⟨ctx, context, fun identity outcome wdays named =>
    startup_fits_context_iff outcome wdays named⟩

private def settings (logpath : List Char) : List ConfVar :=
  [⟨confPidfile, ['p']⟩, ⟨confSawang, ['s']⟩, ⟨confGonggo, ['g']⟩, ⟨confLogpath, logpath⟩]

private def settingsFile (logpath : List Char) : List Char :=
  "pidfile=p\nsawang=s\ngonggo=g\nlogpath=".toList ++ logpath

theorem startup_fits_iff_short :
    ∃ ctx, workContext 1 (settings ['.']) = some ctx ∧
      ∀ (identity : ProxyIdentity) (outcome : StartupOutcome identity) (wdays : Nat → Fin 7),
        identity.name.utf8ByteSize = ctx.name.length →
        ((∀ write ∈ startupWrites outcome ctx wdays, write.Fits) ↔
          ctx.path.length + ctx.name.length ≤ 90) := by
  have accepted : confvarValidate (some (settingsFile ['.'])) = .ok (settings ['.']) := by rfl
  exact startup_fits_iff accepted 1

private def anyStartup : StartupOutcome ⟨"s", 1⟩ where
  payloadParse := true
  run := true
  sigaction := true
  aliveOpened := true
  aliveMapped := true
  channelOpened := true
  subscribeOpened := true
  gonggoOpened := true
  gonggoMapped := true
  gonggoAlive := true
  channelThread := some []
  subscribeThread := some []
  gonggoThread := some []
  commThread := some []
  activation := ⟨⟨"", 0, .idle⟩, _, .refl, []⟩

set_option maxRecDepth 4000 in
/-- The path of the log has 91 characters. -/
theorem not_startup_fits :
    ¬∀ (file : Option (List Char)) (head : List ConfVar) (pid : Int) (ctx : LogContext)
      (identity : ProxyIdentity) (outcome : StartupOutcome identity) (wdays : Nat → Fin 7),
        confvarValidate file = .ok head → workContext pid head = some ctx →
        identity.name.utf8ByteSize = ctx.name.length →
        ∀ write ∈ startupWrites outcome ctx wdays, write.Fits := by
  intro fits
  have written := fits (some (settingsFile (List.replicate 91 'x')))
    (settings (List.replicate 91 'x')) 1 ⟨1, List.replicate 91 'x', ['s']⟩ ⟨"s", 1⟩ anyStartup
    (fun _ => 0) (by rfl) (by rfl) (by rfl)
  have short := (startup_fits_context_iff anyStartup (fun _ => 0) (by rfl)).mp written
  exact absurd short (by decide)

end Sawang

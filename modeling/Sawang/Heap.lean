import Sawang.Board
import Sawang.Foundation.Custody

/-!
# Who frees what

The trees and texts that `proxy_channel_exchange` and `proxy_comm_reply` make, from the
allocation to the `free` or to the function that takes them over.  A tree may be a part of
another one or the same one under a second name; then it is not freed by itself, and must
not be used once the whole is gone.
-/

namespace Sawang

open Board
open Custody (Op)

/-- The variables that point to what the functions allocate. -/
inductive HeapObject where
  | serviceAndPayload
  /-- A text inside `serviceAndPayload`, or the empty one. -/
  | serviceName
  /-- A part of `serviceAndPayload`. -/
  | payload
  /-- A tree that the callback made. -/
  | normalizedPayload
  | normServiceAndPayload
  /-- The service of `normServiceAndPayload`. -/
  | serviceItem
  /-- The duplicate of the normalized payload. -/
  | duplicate
  | unsubscribeTaskKey
  /-- A text inside the payload. -/
  | requestUuid
  | taskKey
  | parseTask
  | rid
  /-- One of several uuids of `rid`. -/
  | ridItem
  | headers
  | replyPayload
  /-- The object that is printed into the reply. -/
  | reply
  | replyTask
  | requestUuids
deriving DecidableEq

/-- What is inside something else. -/
def HeapObject.needs : HeapObject → List HeapObject
  | .serviceName | .payload => [.serviceAndPayload]
  | .requestUuid => [.payload]
  | _ => []

namespace HeapObject

/-- `free` or `cJSON_Delete`; of a part, that nobody looks at it any more. -/
def free (object : HeapObject) : Op HeapObject := .tearDown object

/-- The object belongs to whom it was given from now on. -/
def give (object : HeapObject) : Op HeapObject := .tearDown object

/-- `reply_queue_append`; a NULL member is left out. -/
def replyQueueAppend (headers payload : Bool) : List (Op HeapObject) :=
  [.build .replyTask, .build .reply, give .rid] ++
    (if headers then [give .headers] else []) ++
    (if payload then [give .replyPayload] else []) ++
    [.use .reply, free .reply, give .replyTask]

def replyQueueAppendInvalidStatus : List (Op HeapObject) :=
  [.build .headers, .build .rid] ++ replyQueueAppend true false

/-- `parse_queue_append`: the task gets copies of the texts. -/
def parseQueueAppend (texts : List HeapObject) : List (Op HeapObject) :=
  [.build .parseTask] ++ texts.map .use ++ [give .parseTask]

/-! ## The exchange of a request -/

/-- How the wait for the confirmation ends. -/
inductive Confirmation where
  | ownerDead
  | termination
  | done
  | other
deriving DecidableEq

/-- The request is read and its payload parsed; the drop service bypasses the callback. -/
def readOps (exchange : Exchange) : List (Op HeapObject) :=
  [.build .serviceAndPayload, .use .serviceAndPayload, .build .serviceName] ++
    (if exchange.payload.isSome then [.build .payload] else []) ++ [.use .serviceName] ++
    (if exchange.payload.isSome ∧ exchange.serviceName ≠ gonggoserviceRequestDrop then
      [.use .payload]
    else []) ++
    (match exchange.normalizedPayload with
    | .tree _ => [.build .normalizedPayload]
    | .null | .payload => [])

/-- An unsubscription that is accepted. -/
def unsubscribeOps : List (Op HeapObject) :=
  [.build .requestUuid, .build .unsubscribeTaskKey, .use .serviceAndPayload, .build .taskKey] ++
    parseQueueAppend [.taskKey, .unsubscribeTaskKey, .requestUuid] ++
    [.use .taskKey, free .taskKey, free .requestUuid]

/-- What the variables at the end of the exchange point to. -/
structure Pointers where
  unsubscribeTaskKey : Bool
  /-- `norm_service_and_payload` is a tree of its own, and not the request. -/
  normServiceAndPayload : Bool

/-- `norm_service_and_payload` as an object of its own. -/
def normObjectOps : List (Op HeapObject) :=
  [.build .normServiceAndPayload, .use .serviceName, .build .serviceItem,
    .use .normServiceAndPayload, give .serviceItem]

/-- The object whose text is the task key: the request, or one of its own. -/
def normOps (exchange : Exchange) : List (Op HeapObject) × Pointers :=
  match exchange.payload, exchange.normalizedPayload with
  | none, _ | some _, .payload => ([.use .serviceAndPayload], ⟨false, false⟩)
  | some _, .null => (normObjectOps ++ [.use .normServiceAndPayload], ⟨false, true⟩)
  | some _, .tree _ =>
      (normObjectOps ++ [.use .normalizedPayload, .build .duplicate,
        .use .normServiceAndPayload, give .duplicate, .use .normServiceAndPayload],
        ⟨false, true⟩)

/-- Any other request; `newJob` is what `respond_table_set` answers. -/
def registerOps (newJob : Bool) : List (Op HeapObject) :=
  [.build .taskKey, .use .taskKey] ++
    (if newJob then parseQueueAppend [.taskKey] else []) ++ [free .taskKey]

/-- The statements after `CHANNEL_DONE`. -/
def confirmedOps (env : Environment) (multirespond : RespondTable) (exchange : Exchange)
    (newJob : Bool) : List (Op HeapObject) × Pointers :=
  if exchange.parseResult = .invalid then (replyQueueAppendInvalidStatus, ⟨false, false⟩)
  else if exchange.unsubscribe then
    match createUnsubscribeTaskKey env multirespond exchange.payload with
    | .error _ => (replyQueueAppendInvalidStatus, ⟨false, false⟩)
    | .ok _ => (unsubscribeOps, ⟨true, false⟩)
  else
    ((normOps exchange).1 ++ registerOps newJob, (normOps exchange).2)

/-- The statements at the end, which look at the pointers alone. -/
def cleanupOps (exchange : Exchange) (pointers : Pointers) : List (Op HeapObject) :=
  (if pointers.unsubscribeTaskKey then [free .unsubscribeTaskKey] else []) ++
    (match exchange.normalizedPayload with
    | .tree _ => [free .normalizedPayload]
    | .null | .payload => []) ++
    (if pointers.normServiceAndPayload then [free .normServiceAndPayload] else []) ++
    (if exchange.payload.isSome then [free .payload] else []) ++
    [free .serviceName, free .serviceAndPayload]

/-- `proxy_channel_exchange` for a request that could be read. -/
def exchangeOps (env : Environment) (multirespond : RespondTable) (exchange : Exchange)
    (newJob : Bool) (confirmation : Confirmation) : List (Op HeapObject) :=
  match confirmation with
  | .done =>
      let confirmed := confirmedOps env multirespond exchange newJob
      readOps exchange ++ confirmed.1 ++ cleanupOps exchange confirmed.2
  | .ownerDead | .termination | .other =>
      readOps exchange ++ cleanupOps exchange ⟨false, false⟩

/-! ## A reply -/

/-- What the caller hands to `proxy_comm_reply`; either may be NULL. -/
def given (headers payload : Option Json) : List HeapObject :=
  (if headers.isSome then [.headers] else []) ++
    if payload.isSome then [.replyPayload] else []

/-- The two lookups; the second table may have changed since the first one. -/
def requestDup (singleshot multirespond : RespondTable) (taskKey : String) :
    Option (RespondTableType × List String) :=
  match singleshot.requestDup taskKey with
  | some uuids => some (.singleshot, uuids)
  | none => (multirespond.requestDup taskKey).map (.multirespond, ·)

/-- The loop over the uuids: a table of single replies drops them one by one. -/
def dropOps (which : RespondTableType) (uuids : List String) : List (Op HeapObject) :=
  uuids.flatMap fun _ =>
    [.use .requestUuids, .build .ridItem, .use .rid, give .ridItem] ++
      match which with
      | .singleshot => [.use .taskKey]
      | .multirespond => []

/-- The statements of `proxy_comm_reply` behind the lookups. -/
def foundOps (headers payload : Option Json) :
    Option (RespondTableType × List String) → List (Op HeapObject)
  | none => [free .taskKey]
  | some (_, []) => [.build .requestUuids, free .requestUuids, free .taskKey]
  | some (_, [_]) =>
      [.build .requestUuids, .use .requestUuids, .build .rid, free .requestUuids,
        free .taskKey] ++ replyQueueAppend headers.isSome payload.isSome
  | some (which, uuids) =>
      [.build .requestUuids, .build .rid] ++ dropOps which uuids ++
        [free .requestUuids, free .taskKey] ++
        replyQueueAppend headers.isSome payload.isSome

/-- `proxy_comm_reply`. -/
def replyOps (env : Environment) (singleshot multirespond : RespondTable)
    (arg : ProxyReplyArg) (headers payload : Option Json) : List (Op HeapObject) :=
  [.build .taskKey, .use .taskKey] ++
    foundOps headers payload (requestDup singleshot multirespond (taskKeyFromReplyArg env arg))

/-! ## Nothing is lost on the way -/

/-- What is there once the request is read. -/
def read (exchange : Exchange) : List HeapObject :=
  (match exchange.normalizedPayload with
    | .tree _ => [.normalizedPayload]
    | .null | .payload => []) ++
    (if exchange.payload.isSome then [.payload] else []) ++
    [.serviceName, .serviceAndPayload]

/-- What is there besides when the statements after `CHANNEL_DONE` are through. -/
def Pointers.objects (pointers : Pointers) : List HeapObject :=
  (if pointers.normServiceAndPayload then [.normServiceAndPayload] else []) ++
    if pointers.unsubscribeTaskKey then [.unsubscribeTaskKey] else []

theorem run_readOps (exchange : Exchange) :
    Custody.run needs (readOps exchange) [] = some (read exchange) := by
  unfold readOps read
  by_cases drop : exchange.serviceName = gonggoserviceRequestDrop <;>
    cases exchange.payload <;> cases exchange.normalizedPayload <;> simp [drop] <;> rfl

theorem run_cleanupOps (exchange : Exchange) (pointers : Pointers) :
    Custody.run needs (cleanupOps exchange pointers) (pointers.objects ++ read exchange) =
      some [] := by
  obtain ⟨unsubscribeTaskKey, normServiceAndPayload⟩ := pointers
  unfold cleanupOps read
  cases unsubscribeTaskKey <;> cases normServiceAndPayload <;> cases exchange.payload <;>
    cases exchange.normalizedPayload <;> rfl

theorem run_confirmedOps (env : Environment) (multirespond : RespondTable)
    (exchange : Exchange) (newJob : Bool) :
    Custody.run needs (confirmedOps env multirespond exchange newJob).1 (read exchange) =
      some ((confirmedOps env multirespond exchange newJob).2.objects ++ read exchange) := by
  have refused : Custody.run needs replyQueueAppendInvalidStatus (read exchange) =
      some (read exchange) := by
    unfold read
    cases exchange.payload <;> cases exchange.normalizedPayload <;> rfl
  unfold confirmedOps
  split
  · exact refused
  · split
    · split
      · exact refused
      · rename_i resolved
        -- the uuid is a text inside the payload, so there is one
        unfold read
        cases payload : exchange.payload with
        | none => simp [createUnsubscribeTaskKey, payload] at resolved
        | some tree => cases exchange.normalizedPayload <;> rfl
    · unfold normOps read
      cases exchange.payload <;> cases exchange.normalizedPayload <;> cases newJob <;> rfl

/-- Whatever the request, the answer of the callback and the reaction of the dispatcher,
everything that the exchange made is freed or given away once, and nothing is looked at
that is not there any more. -/
theorem exchange_heap (env : Environment) (multirespond : RespondTable) (exchange : Exchange)
    (newJob : Bool) (confirmation : Confirmation) :
    Custody.run needs (exchangeOps env multirespond exchange newJob confirmation) [] =
      some [] := by
  have unconfirmed : Custody.run needs
      (readOps exchange ++ cleanupOps exchange ⟨false, false⟩) [] = some [] := by
    rw [Custody.run_append, run_readOps]
    exact run_cleanupOps exchange ⟨false, false⟩
  cases confirmation with
  | done =>
      simp only [exchangeOps]
      rw [Custody.run_append, Custody.run_append, run_readOps, Option.bind_some,
        run_confirmedOps, Option.bind_some]
      exact run_cleanupOps exchange _
  | ownerDead | termination | other => exact unconfirmed

theorem ridItem_not_mem_needs (object : HeapObject) : .ridItem ∉ object.needs := by
  cases object <;> simp [needs]

/-- The loop leaves everything where it is. -/
theorem run_dropOps (which : RespondTableType) (uuids : List String) {held : List HeapObject}
    (task : .taskKey ∈ held) (array : .requestUuids ∈ held) (rid : .rid ∈ held)
    (item : .ridItem ∉ held) : Custody.run needs (dropOps which uuids) held = some held := by
  induction uuids with
  | nil => rfl
  | cons uuid uuids inductionHypothesis =>
      -- an item belongs to the array as soon as it is made
      have unneeding : needs .ridItem = [] := rfl
      have added : Custody.run needs [.use .requestUuids, .build .ridItem, .use .rid,
          give .ridItem] held = some held := by
        simp [Custody.run, Custody.perform, give, unneeding, array, rid, item,
          ridItem_not_mem_needs]
      simp only [dropOps, List.flatMap_cons, List.append_assoc]
      rw [Custody.run_append, added, Option.bind_some, Custody.run_append]
      cases which with
      | singleshot =>
          rw [show Custody.run needs [.use .taskKey] held = some held by
            simp [Custody.run, Custody.perform, task]]
          exact inductionHypothesis
      | multirespond => exact inductionHypothesis

/-- Somebody waits for the reply. -/
def Awaited (found : Option (RespondTableType × List String)) : Prop :=
  ∃ which uuids, found = some (which, uuids) ∧ uuids ≠ []

theorem run_foundOps (headers payload : Option Json)
    (found : Option (RespondTableType × List String)) :
    ∃ held, Custody.run needs (foundOps headers payload found)
        (.taskKey :: given headers payload) = some held ∧
      (Awaited found → held = []) ∧ (¬Awaited found → held = given headers payload) := by
  match found with
  | none =>
      refine ⟨given headers payload, ?_, nofun, fun _ => rfl⟩
      cases headers <;> cases payload <;> rfl
  | some (which, []) =>
      refine ⟨given headers payload, ?_, ?_, fun _ => rfl⟩
      · cases headers <;> cases payload <;> rfl
      · rintro ⟨_, _, same, some⟩
        cases same
        exact absurd rfl some
  | some (which, [uuid]) =>
      refine ⟨[], ?_, fun _ => rfl, fun alone => absurd ⟨which, [uuid], rfl, nofun⟩ alone⟩
      cases headers <;> cases payload <;> rfl
  | some (which, first :: second :: rest) =>
      refine ⟨[], ?_, fun _ => rfl, fun alone => absurd ⟨which, _, rfl, nofun⟩ alone⟩
      have opened : Custody.run needs [.build .requestUuids, .build .rid]
          (.taskKey :: given headers payload) =
            some (.rid :: .requestUuids :: .taskKey :: given headers payload) := by
        cases headers <;> cases payload <;> rfl
      have item : .ridItem ∉ .rid :: .requestUuids :: .taskKey :: given headers payload := by
        cases headers <;> cases payload <;> simp [given]
      simp only [foundOps, List.append_assoc]
      rw [Custody.run_append, opened, Option.bind_some, Custody.run_append,
        run_dropOps which _ (by simp) (by simp) (by simp) item, Option.bind_some]
      cases headers <;> cases payload <;> rfl

/-- A call of `proxy_comm_reply` takes over the headers and the payload it is given if
somebody waits for the reply; otherwise it drops them, and nobody frees them.  All it makes
itself is freed or given away once. -/
theorem reply_heap (env : Environment) (singleshot multirespond : RespondTable)
    (arg : ProxyReplyArg) (headers payload : Option Json) :
    ∃ held, Custody.run needs (replyOps env singleshot multirespond arg headers payload)
        (given headers payload) = some held ∧
      (Awaited (requestDup singleshot multirespond (taskKeyFromReplyArg env arg)) →
        held = []) ∧
      (¬Awaited (requestDup singleshot multirespond (taskKeyFromReplyArg env arg)) →
        held = given headers payload) := by
  obtain ⟨held, ran, ends⟩ := run_foundOps headers payload
    (requestDup singleshot multirespond (taskKeyFromReplyArg env arg))
  refine ⟨held, ?_, ends⟩
  have opened : Custody.run needs [.build .taskKey, .use .taskKey] (given headers payload) =
      some (.taskKey :: given headers payload) := by
    cases headers <;> cases payload <;> rfl
  rw [replyOps, Custody.run_append, opened]
  exact ran

end HeapObject

end Sawang

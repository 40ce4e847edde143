import Sawang.TaskKey

/-!
# Parse and reply queue tasks

What the threads pass to each other.  A parse task carries its request id as a
ghost field, so that a run can say whose task it is; no function reads it.
-/

namespace Sawang

structure ParseQueueTask where
  taskKey : String
  unsubscribeTaskKey : Option String
  unsubscribeUuid : Option String
  type : RespondTableType
  /-- Ghost: the request that queued the task. -/
  rid : String
deriving DecidableEq

/-- The task `parse_queue_append` builds: empty texts count as NULL, and an
unsubscription is always single-shot. -/
def parseQueueTask
    (taskKey : String) (unsubscribeTaskKey unsubscribeUuid : Option String)
    (type : RespondTableType) (rid : String) : ParseQueueTask where
  taskKey := taskKey
  unsubscribeTaskKey := unsubscribeTaskKey.filter (· ≠ "")
  unsubscribeUuid := unsubscribeUuid.filter (· ≠ "")
  type := if (unsubscribeTaskKey.filter (· ≠ "")).isSome then .singleshot else type
  rid := rid

structure ReplyQueueTask where
  task : String
  multipleRespond : Bool
deriving DecidableEq

/-- The reply `reply_queue_append` builds; a NULL member is left out. -/
def replyQueueTask (env : Environment)
    (rid : Json) (headers payload : Option Json) (multipleRespond : Bool) : ReplyQueueTask where
  task := env.printUnformatted (.object (
    (serviceRidKey, rid) ::
      ((headers.map fun tree => (serviceHeadersKey, tree)).toList ++
        (payload.map fun tree => (servicePayloadKey, tree)).toList)))
  multipleRespond := multipleRespond

/-- The reply of `reply_queue_append_invalid_status`. -/
def invalidStatusReply (env : Environment) (rid : String) (status : Int32) : ReplyQueueTask :=
  replyQueueTask env (.string rid) (some (statusHeaders status)) none false

/-- The rid member of a reply: a string for one recipient, an array for more. -/
def ridTree : List String → Json
  | [uuid] => .string uuid
  | uuids => .array (uuids.map .string)

/-- The recipients the dispatcher reads from a reply. -/
def ReplyQueueTask.recipients (env : Environment) (reply : ReplyQueueTask) : List String :=
  match (env.parse reply.task).bind fun tree => tree.getObjectItem serviceRidKey with
  | some (.string uuid) => [uuid]
  | some (.array items) => items.filterMap Json.getStringValue
  | _ => []

theorem recipients_replyQueueTask
    (env : Environment) (uuids : List String) (headers payload : Option Json)
    (multipleRespond : Bool) :
    (replyQueueTask env (ridTree uuids) headers payload multipleRespond).recipients env =
      uuids := by
  have found : ∀ members : List (String × Json),
      (Json.object ((serviceRidKey, ridTree uuids) :: members)).getObjectItem
        serviceRidKey = some (ridTree uuids) :=
    fun members => Json.getObjectItem_cons_same _ _ rfl
  have strings : (uuids.map Json.string).filterMap Json.getStringValue = uuids := by
    rw [List.filterMap_map]
    exact List.filterMap_some
  unfold ReplyQueueTask.recipients replyQueueTask
  simp only [env.parse_printUnformatted, Option.bind_some, found]
  match uuids, strings with
  | [], _ => rfl
  | [uuid], _ => rfl
  | first :: second :: rest, strings => exact strings

theorem recipients_invalidStatusReply
    (env : Environment) (rid : String) (status : Int32) :
    (invalidStatusReply env rid status).recipients env = [rid] :=
  recipients_replyQueueTask env [rid] _ _ _

end Sawang

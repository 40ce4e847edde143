import Sawang.Environment
import Sawang.Protocol

/-!
# Requests and their task keys

The channel thread names a request by a task key, an unformatted JSON text.  The
comm thread rebuilds the argument of a callback from the key, and a reply
rebuilds the key from that argument.  The main result says for which requests
the two directions agree.
-/

namespace Sawang

/-! ## Keys and callback arguments -/

/-- The argument handed to the callbacks; a `none` payload is the NULL pointer. -/
structure ProxyReplyArg where
  service : String
  payload : Option Json

/-- The argument a task key stands for.  `none` is the crash of duplicating the
NULL text of a service that is missing or no string. -/
def proxyCommCreateReplyArg (env : Environment) (taskKey : String) :
    Option ProxyReplyArg :=
  let j := env.parse taskKey
  let item := j.bind fun tree => tree.getObjectItem serviceServiceKey
  match item.bind Json.getStringValue with
  | none => none
  | some service =>
      some {
        service := service
        payload := j.bind fun tree => tree.getObjectItem servicePayloadKey }

/-- An object with a service and, unless it is NULL, a payload. -/
def serviceAndPayloadObject (service : String) (payload : Option Json) : Json :=
  match payload with
  | none => .object [(serviceServiceKey, .string service)]
  | some tree =>
      .object [(serviceServiceKey, .string service), (servicePayloadKey, tree)]

def taskKeyFromReplyArg (env : Environment) (arg : ProxyReplyArg) : String :=
  env.printUnformatted (serviceAndPayloadObject arg.service arg.payload)

/-- The key is rebuilt from the argument made of it. -/
def RoundTrips (env : Environment) (taskKey : String) : Prop :=
  (proxyCommCreateReplyArg env taskKey).map (taskKeyFromReplyArg env) = some taskKey

instance (env : Environment) (taskKey : String) : Decidable (RoundTrips env taskKey) :=
  inferInstanceAs (Decidable (_ = _))

/-! ## Requests -/

/-- Where `ProxyPayloadParse` left the normalized payload: nowhere, at the
payload it was given, or in a tree of its own. -/
inductive NormalizedPayload where
  | null
  | payload
  | tree (value : Json)

/-- What `ProxyPayloadParse` answers. -/
structure PayloadParse where
  result : ProxyPayloadParseResult
  normalizedPayload : NormalizedPayload
  unsubscribe : Bool
  invalidStatus : UInt32

/-- The service name of a request, empty for a missing member; `none` is the
NULL text of a service that is no string. -/
def serviceName (serviceAndPayload : Json) : Option String :=
  match serviceAndPayload.getObjectItem serviceServiceKey with
  | none => some ""
  | some service => service.getStringValue

/-- A request whose name has been read and whose payload has been parsed: the
local variables of the channel thread while it waits for the confirmation.  The
drop service bypasses the callback. -/
structure Exchange where
  serviceAndPayload : Json
  serviceName : String
  parseResult : ProxyPayloadParseResult
  normalizedPayload : NormalizedPayload
  unsubscribe : Bool
  invalidStatus : UInt32
  named : Sawang.serviceName serviceAndPayload = some serviceName
  dropUnsubscribes : serviceName = gonggoserviceRequestDrop →
    unsubscribe = true ∧ parseResult = .singleshot

namespace Exchange

/-- Read a request; `none` is the crash of comparing a NULL service name. -/
def read (serviceAndPayload : Json) (answer : PayloadParse) : Option Exchange :=
  match named : Sawang.serviceName serviceAndPayload with
  | none => none
  | some name =>
      if drops : name = gonggoserviceRequestDrop then
        some {
          serviceAndPayload := serviceAndPayload
          serviceName := name
          parseResult := .singleshot
          normalizedPayload := .payload
          unsubscribe := true
          invalidStatus := 0
          named := named
          dropUnsubscribes := fun _ => ⟨rfl, rfl⟩ }
      else
        some {
          serviceAndPayload := serviceAndPayload
          serviceName := name
          parseResult := answer.result
          normalizedPayload := answer.normalizedPayload
          unsubscribe := answer.unsubscribe
          invalidStatus := answer.invalidStatus
          named := named
          dropUnsubscribes := fun equal => absurd equal drops }

/-- The read crashes exactly at a service that is no string. -/
theorem read_eq_none_iff {serviceAndPayload : Json} {answer : PayloadParse} :
    read serviceAndPayload answer = none ↔ Sawang.serviceName serviceAndPayload = none := by
  unfold read
  split
  · rename_i named
    exact iff_of_true rfl named
  · rename_i name named
    refine iff_of_false ?_ (by simp [named])
    split <;> simp

def payload (exchange : Exchange) : Option Json :=
  exchange.serviceAndPayload.getObjectItem servicePayloadKey

/-- The object whose text is the task key of a normal request: the request
itself, or a new object when the payload was replaced. -/
def normServiceAndPayload (exchange : Exchange) : Json :=
  match exchange.payload, exchange.normalizedPayload with
  | none, _ => exchange.serviceAndPayload
  | some _, .payload => exchange.serviceAndPayload
  | some _, .null => serviceAndPayloadObject exchange.serviceName none
  | some _, .tree value => serviceAndPayloadObject exchange.serviceName (some value)

/-- The key a request is registered and queued under. -/
def taskKey (env : Environment) (exchange : Exchange) : String :=
  if exchange.unsubscribe then env.printUnformatted exchange.serviceAndPayload
  else env.printUnformatted exchange.normServiceAndPayload

end Exchange

/-! ## When a key is rebuilt -/

theorem getObjectItem_service (service : String) (payload : Option Json) :
    (serviceAndPayloadObject service payload).getObjectItem serviceServiceKey =
      some (.string service) := by
  cases payload <;> exact Json.getObjectItem_cons_same _ _ rfl

theorem getObjectItem_payload (service : String) (payload : Option Json) :
    (serviceAndPayloadObject service payload).getObjectItem servicePayloadKey =
      payload := by
  have different : Json.foldCase serviceServiceKey ≠ Json.foldCase servicePayloadKey := by
    decide
  cases payload with
  | none => exact Json.getObjectItem_cons_different _ _ different
  | some tree =>
      exact (Json.getObjectItem_cons_different _ _ different).trans
        (Json.getObjectItem_cons_same _ _ rfl)

theorem proxyCommCreateReplyArg_print (env : Environment) (tree : Json) :
    proxyCommCreateReplyArg env (env.printUnformatted tree) =
      ((tree.getObjectItem serviceServiceKey).bind Json.getStringValue).map
        fun service => ⟨service, tree.getObjectItem servicePayloadKey⟩ := by
  unfold proxyCommCreateReplyArg
  simp only [env.parse_printUnformatted, Option.bind_some]
  cases (tree.getObjectItem serviceServiceKey).bind Json.getStringValue <;> rfl

/-- A key made of an argument gives the argument back. -/
theorem proxyCommCreateReplyArg_taskKeyFromReplyArg
    (env : Environment) (arg : ProxyReplyArg) :
    proxyCommCreateReplyArg env (taskKeyFromReplyArg env arg) = some arg := by
  rw [taskKeyFromReplyArg, proxyCommCreateReplyArg_print, getObjectItem_service,
    getObjectItem_payload]
  rfl

/-- The keys that are rebuilt are the texts of the objects that have exactly a
service and possibly a payload. -/
theorem roundTrips_print_iff (env : Environment) (tree : Json) :
    RoundTrips env (env.printUnformatted tree) ↔
      ∃ service payload, tree = serviceAndPayloadObject service payload := by
  constructor
  · intro roundTrips
    obtain ⟨arg, _, rebuilt⟩ := Option.map_eq_some_iff.mp roundTrips
    exact ⟨arg.service, arg.payload, (env.printUnformatted_injective rebuilt).symm⟩
  · rintro ⟨service, payload, rfl⟩
    have back := proxyCommCreateReplyArg_taskKeyFromReplyArg env ⟨service, payload⟩
    unfold RoundTrips
    rw [show env.printUnformatted (serviceAndPayloadObject service payload) =
      taskKeyFromReplyArg env ⟨service, payload⟩ from rfl, back]
    rfl

namespace Exchange

/-- The payload of a normal request was replaced, so that its key is the text of
a new object. -/
def Rebuilds (exchange : Exchange) : Prop :=
  exchange.unsubscribe = false ∧ exchange.payload ≠ none ∧
    exchange.normalizedPayload ≠ .payload

/-- The request object has exactly a string service and possibly a payload, in
this order and under these names. -/
def Plain (exchange : Exchange) : Prop :=
  ∃ service payload,
    exchange.serviceAndPayload = serviceAndPayloadObject service payload

/-- A key is the text of a rebuilt object or of the request itself. -/
theorem taskKey_cases (env : Environment) (exchange : Exchange) :
    (exchange.Rebuilds ∧ ∃ payload, exchange.taskKey env =
      env.printUnformatted (serviceAndPayloadObject exchange.serviceName payload)) ∨
    (¬exchange.Rebuilds ∧
      exchange.taskKey env = env.printUnformatted exchange.serviceAndPayload) := by
  unfold taskKey Rebuilds
  cases exchange.unsubscribe with
  | true => exact Or.inr ⟨by simp, by simp⟩
  | false =>
      simp only [Bool.false_eq_true, if_false, true_and]
      unfold normServiceAndPayload
      cases exchange.payload with
      | none => exact Or.inr ⟨by simp, rfl⟩
      | some tree =>
          cases exchange.normalizedPayload with
          | null => exact Or.inl ⟨by simp, none, rfl⟩
          | payload => exact Or.inr ⟨by simp, rfl⟩
          | tree value => exact Or.inl ⟨by simp, some value, rfl⟩

/-- The key of a request is rebuilt by a reply exactly when the channel thread
rebuilt the request object or found it plain. -/
theorem taskKey_roundTrips_iff (env : Environment) (exchange : Exchange) :
    RoundTrips env (exchange.taskKey env) ↔ exchange.Rebuilds ∨ exchange.Plain := by
  rcases exchange.taskKey_cases env with ⟨rebuilds, payload, key⟩ | ⟨keeps, key⟩
  · rw [key, roundTrips_print_iff]
    exact iff_of_true ⟨_, _, rfl⟩ (Or.inl rebuilds)
  · rw [key, roundTrips_print_iff]
    constructor
    · exact Or.inr
    · rintro (rebuilds | plain)
      · exact absurd rebuilds keeps
      · exact plain

/-- A single-shot request whose payload stands before its service. -/
def payloadFirst : Exchange where
  serviceAndPayload :=
    .object [
      (servicePayloadKey, .object [("key1", .string "value1")]),
      (serviceServiceKey, .string "test")]
  serviceName := "test"
  parseResult := .singleshot
  normalizedPayload := .payload
  unsubscribe := false
  invalidStatus := 0
  named := rfl
  dropUnsubscribes := by decide

/-- The key of an accepted request need not be rebuilt. -/
theorem payloadFirst_not_roundTrips :
    ¬∀ exchange : Exchange, exchange.parseResult ≠ .invalid →
      RoundTrips .reference (exchange.taskKey .reference) := by
  intro always
  have rebuilt := always payloadFirst (by decide)
  obtain ⟨service, payload, equal⟩ :=
    (roundTrips_print_iff .reference payloadFirst.serviceAndPayload).mp rebuilt
  cases payload <;> simp [payloadFirst, serviceAndPayloadObject,
    serviceServiceKey, servicePayloadKey] at equal

end Exchange

end Sawang

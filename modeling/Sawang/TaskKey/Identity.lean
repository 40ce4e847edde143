import Sawang.TaskKey

/-!
# Which requests share a task key

A job is a service and a normalized payload.  The channel thread prints the
request object itself when the payload was kept, and a new object when it was
replaced, so a key tells more than the job in the one case and sometimes less.
The main result lists the pairs of requests that are split or merged by it.
-/

namespace Sawang

theorem serviceAndPayloadObject_injective {service other : String}
    {payload another : Option Json}
    (equal : serviceAndPayloadObject service payload =
      serviceAndPayloadObject other another) : service = other ∧ payload = another := by
  have services := congrArg (fun tree => tree.getObjectItem serviceServiceKey) equal
  have payloads := congrArg (fun tree => tree.getObjectItem servicePayloadKey) equal
  simp only [getObjectItem_service, Option.some.injEq, Json.string.injEq] at services
  simp only [getObjectItem_payload] at payloads
  exact ⟨services, payloads⟩

namespace Exchange

/-- The normalized payload; `none` is the NULL pointer. -/
def normalized (exchange : Exchange) : Option Json :=
  match exchange.normalizedPayload with
  | .null => none
  | .payload => exchange.payload
  | .tree value => some value

/-- The services agree, and the normalized payloads are both absent or have one text. -/
def SameJob (env : Environment) (first second : Exchange) : Prop :=
  first.serviceName = second.serviceName ∧
    first.normalized.map env.printUnformatted = second.normalized.map env.printUnformatted

/-- The object that says no more than the job. -/
def jobObject (exchange : Exchange) : Json :=
  serviceAndPayloadObject exchange.serviceName exchange.normalized

/-- The request says no more than its job, or was replaced by an object that does. -/
def Canonical (exchange : Exchange) : Prop :=
  exchange.Rebuilds ∨
    (exchange.Plain ∧ (exchange.payload = none → exchange.normalized = none))

/-- The same job is asked for by two different objects, one of which is kept though
it is not canonical. -/
def SplitFrom (env : Environment) (first second : Exchange) : Prop :=
  first.SameJob env second ∧ ¬(first.Canonical ∧ second.Canonical) ∧
    ¬(¬first.Rebuilds ∧ ¬second.Rebuilds ∧
      first.serviceAndPayload = second.serviceAndPayload)

/-- The payload of the one request was removed, which leaves the object of the other. -/
def StripsTo (first second : Exchange) : Prop :=
  first.Rebuilds ∧ first.normalized = none ∧ ¬second.Rebuilds ∧
    second.serviceAndPayload = serviceAndPayloadObject first.serviceName none

/-- Different jobs are asked for by one object: it has no payload, and the callback
filled in different ones, or filled one in where it removed one from the other. -/
def MergedWith (env : Environment) (first second : Exchange) : Prop :=
  ¬first.SameJob env second ∧
    ((¬first.Rebuilds ∧ ¬second.Rebuilds ∧
      first.serviceAndPayload = second.serviceAndPayload) ∨
    first.StripsTo second ∨ second.StripsTo first)

theorem sameJob_iff {env : Environment} {first second : Exchange} :
    first.SameJob env second ↔ first.jobObject = second.jobObject := by
  unfold SameJob jobObject
  constructor
  · rintro ⟨services, texts⟩
    have payloads := Option.map_injective env.printUnformatted_injective texts
    rw [services, payloads]
  · intro equal
    obtain ⟨services, payloads⟩ := serviceAndPayloadObject_injective equal
    exact ⟨services, by rw [payloads]⟩

section Normal

variable {exchange : Exchange}

/-- A request is kept when it has no payload or its payload was. -/
theorem not_rebuilds_iff (normal : exchange.unsubscribe = false) :
    ¬exchange.Rebuilds ↔
      exchange.payload = none ∨ exchange.normalizedPayload = .payload := by
  unfold Rebuilds
  by_cases absent : exchange.payload = none
  · simp [absent]
  · by_cases kept : exchange.normalizedPayload = .payload <;> simp [normal, absent, kept]

theorem normServiceAndPayload_of_rebuilds (rebuilds : exchange.Rebuilds) :
    exchange.normServiceAndPayload = exchange.jobObject := by
  obtain ⟨_, present, replaced⟩ := rebuilds
  obtain ⟨tree, payload⟩ := Option.ne_none_iff_exists'.mp present
  unfold normServiceAndPayload jobObject normalized
  rw [payload]
  cases norm : exchange.normalizedPayload with
  | null => rfl
  | payload => exact absurd norm replaced
  | tree value => rfl

theorem normServiceAndPayload_of_kept (normal : exchange.unsubscribe = false)
    (kept : ¬exchange.Rebuilds) :
    exchange.normServiceAndPayload = exchange.serviceAndPayload := by
  unfold normServiceAndPayload
  rcases (not_rebuilds_iff normal).mp kept with absent | same
  · rw [absent]
  · rw [same]
    cases exchange.payload <;> rfl

/-- A kept payload is the normalized one. -/
theorem normalized_of_kept (normal : exchange.unsubscribe = false)
    (kept : ¬exchange.Rebuilds) (present : exchange.payload ≠ none) :
    exchange.normalized = exchange.payload := by
  unfold normalized
  rw [((not_rebuilds_iff normal).mp kept).resolve_left present]

/-- The service and the payload of an object that has just these. -/
theorem named_of_plain {service : String} {payload : Option Json}
    (plain : exchange.serviceAndPayload = serviceAndPayloadObject service payload) :
    exchange.serviceName = service ∧ exchange.payload = payload := by
  have named := exchange.named
  unfold Sawang.serviceName at named
  rw [plain, getObjectItem_service] at named
  unfold Exchange.payload
  rw [plain, getObjectItem_payload]
  exact ⟨(Option.some.inj named).symm, rfl⟩

/-- The key is the text of the job exactly for a canonical request. -/
theorem normServiceAndPayload_eq_jobObject_iff (normal : exchange.unsubscribe = false) :
    exchange.normServiceAndPayload = exchange.jobObject ↔ exchange.Canonical := by
  by_cases rebuilds : exchange.Rebuilds
  · exact iff_of_true (normServiceAndPayload_of_rebuilds rebuilds) (Or.inl rebuilds)
  · rw [normServiceAndPayload_of_kept normal rebuilds]
    constructor
    · intro equal
      obtain ⟨_, payload⟩ := named_of_plain equal
      exact Or.inr ⟨⟨_, _, equal⟩, fun absent => payload.symm.trans absent⟩
    · rintro (rebuilt | ⟨⟨service, payload, equal⟩, unfilled⟩)
      · exact absurd rebuilt rebuilds
      · obtain ⟨named, own⟩ := named_of_plain equal
        rw [equal]
        unfold jobObject
        rw [named]
        by_cases present : exchange.payload = none
        · rw [unfilled present, ← own, present]
        · rw [normalized_of_kept normal rebuilds present, own]

end Normal

section Pair

variable {env : Environment} {first second : Exchange}

theorem taskKey_of_normal {exchange : Exchange} (normal : exchange.unsubscribe = false) :
    exchange.taskKey env = env.printUnformatted exchange.normServiceAndPayload := by
  unfold taskKey
  simp [normal]

/-- A rebuilt object that another request has as its own: the payload was removed. -/
theorem stripsTo_of_same (normal : second.unsubscribe = false) (rebuilds : first.Rebuilds)
    (kept : ¬second.Rebuilds) (different : ¬first.SameJob env second)
    (same : first.normServiceAndPayload = second.normServiceAndPayload) :
    first.StripsTo second := by
  rw [normServiceAndPayload_of_rebuilds rebuilds,
    normServiceAndPayload_of_kept normal kept] at same
  obtain ⟨named, payload⟩ := named_of_plain same.symm
  have removed : first.normalized = none := by
    by_contra present
    have own : second.normalized = second.payload :=
      normalized_of_kept normal kept (payload.symm ▸ present)
    refine different (sameJob_iff.mpr ?_)
    unfold jobObject
    rw [named, own, payload]
  refine ⟨rebuilds, removed, kept, same.symm.trans ?_⟩
  unfold jobObject
  rw [removed]

theorem same_of_stripsTo (normal : second.unsubscribe = false)
    (strips : first.StripsTo second) :
    first.normServiceAndPayload = second.normServiceAndPayload := by
  obtain ⟨rebuilds, removed, kept, bare⟩ := strips
  rw [normServiceAndPayload_of_rebuilds rebuilds,
    normServiceAndPayload_of_kept normal kept, bare]
  unfold jobObject
  rw [removed]

/-- A job is split between two keys. -/
theorem splitFrom_iff (normalFirst : first.unsubscribe = false)
    (normalSecond : second.unsubscribe = false) :
    first.SplitFrom env second ↔ first.SameJob env second ∧
      first.normServiceAndPayload ≠ second.normServiceAndPayload := by
  unfold SplitFrom
  refine and_congr_right fun job => ?_
  have jobs := sameJob_iff.mp job
  constructor
  · rintro ⟨strays, different⟩ same
    by_cases rebuildsFirst : first.Rebuilds
    · refine strays ⟨Or.inl rebuildsFirst, ?_⟩
      rw [← normServiceAndPayload_eq_jobObject_iff normalSecond, ← same, ← jobs]
      exact normServiceAndPayload_of_rebuilds rebuildsFirst
    · by_cases rebuildsSecond : second.Rebuilds
      · refine strays ⟨?_, Or.inl rebuildsSecond⟩
        rw [← normServiceAndPayload_eq_jobObject_iff normalFirst, same, jobs]
        exact normServiceAndPayload_of_rebuilds rebuildsSecond
      · rw [normServiceAndPayload_of_kept normalFirst rebuildsFirst,
          normServiceAndPayload_of_kept normalSecond rebuildsSecond] at same
        exact different ⟨rebuildsFirst, rebuildsSecond, same⟩
  · intro different
    constructor
    · rintro ⟨canonicalFirst, canonicalSecond⟩
      refine different ?_
      rw [(normServiceAndPayload_eq_jobObject_iff normalFirst).mpr canonicalFirst,
        (normServiceAndPayload_eq_jobObject_iff normalSecond).mpr canonicalSecond, jobs]
    · rintro ⟨keptFirst, keptSecond, same⟩
      refine different ?_
      rw [normServiceAndPayload_of_kept normalFirst keptFirst,
        normServiceAndPayload_of_kept normalSecond keptSecond, same]

/-- Two jobs are merged under one key. -/
theorem mergedWith_iff (normalFirst : first.unsubscribe = false)
    (normalSecond : second.unsubscribe = false) :
    first.MergedWith env second ↔ ¬first.SameJob env second ∧
      first.normServiceAndPayload = second.normServiceAndPayload := by
  unfold MergedWith
  refine and_congr_right fun different => ?_
  have turned : ¬second.SameJob env first := by
    rw [sameJob_iff] at different ⊢
    exact fun same => different same.symm
  constructor
  · rintro (⟨keptFirst, keptSecond, same⟩ | strips | strips)
    · rw [normServiceAndPayload_of_kept normalFirst keptFirst,
        normServiceAndPayload_of_kept normalSecond keptSecond, same]
    · exact same_of_stripsTo normalSecond strips
    · exact (same_of_stripsTo normalFirst strips).symm
  · intro same
    by_cases rebuildsFirst : first.Rebuilds
    · by_cases rebuildsSecond : second.Rebuilds
      · rw [normServiceAndPayload_of_rebuilds rebuildsFirst,
          normServiceAndPayload_of_rebuilds rebuildsSecond] at same
        exact absurd (sameJob_iff.mpr same) different
      · exact Or.inr (Or.inl
          (stripsTo_of_same normalSecond rebuildsFirst rebuildsSecond different same))
    · by_cases rebuildsSecond : second.Rebuilds
      · exact Or.inr (Or.inr
          (stripsTo_of_same normalFirst rebuildsSecond rebuildsFirst turned same.symm))
      · rw [normServiceAndPayload_of_kept normalFirst rebuildsFirst,
          normServiceAndPayload_of_kept normalSecond rebuildsSecond] at same
        exact Or.inl ⟨rebuildsFirst, rebuildsSecond, same⟩

end Pair

/-- The task keys of two requests identify their jobs unless one job is split
between them or two jobs are merged. -/
theorem taskKey_eq_iff_sameJob (env : Environment) {first second : Exchange}
    (normalFirst : first.unsubscribe = false) (normalSecond : second.unsubscribe = false) :
    (first.taskKey env = second.taskKey env ↔ first.SameJob env second) ↔
      ¬first.SplitFrom env second ∧ ¬first.MergedWith env second := by
  rw [taskKey_of_normal normalFirst, taskKey_of_normal normalSecond,
    env.printUnformatted_injective.eq_iff, splitFrom_iff normalFirst normalSecond,
    mergedWith_iff normalFirst normalSecond]
  by_cases job : first.SameJob env second <;>
    by_cases same : first.normServiceAndPayload = second.normServiceAndPayload <;>
    simp [job, same]

/-- A request for the service `test` with a payload that is kept. -/
def plain : Exchange where
  serviceAndPayload := serviceAndPayloadObject "test" (some (.object [("key1", .string "value1")]))
  serviceName := "test"
  parseResult := .singleshot
  normalizedPayload := .payload
  unsubscribe := false
  invalidStatus := 0
  named := rfl
  dropUnsubscribes := payloadFirst.dropUnsubscribes

/-- The same job from another payload, which the callback has normalized. -/
def normalizedTo : Exchange where
  serviceAndPayload := serviceAndPayloadObject "test" (some (.object [("KEY1", .string "value1")]))
  serviceName := "test"
  parseResult := .singleshot
  normalizedPayload := .tree (.object [("key1", .string "value1")])
  unsubscribe := false
  invalidStatus := 0
  named := rfl
  dropUnsubscribes := payloadFirst.dropUnsubscribes

theorem taskKey_eq_iff_sameJob_plain :
    (plain.taskKey .reference = normalizedTo.taskKey .reference ↔
        plain.SameJob .reference normalizedTo) ↔
      ¬plain.SplitFrom .reference normalizedTo ∧ ¬plain.MergedWith .reference normalizedTo :=
  taskKey_eq_iff_sameJob .reference rfl rfl

/-- The same service and payload, written in the other order, get another key. -/
theorem taskKey_splits :
    ¬∀ first second : Exchange,
      first.parseResult ≠ .invalid → first.unsubscribe = false →
      second.parseResult ≠ .invalid → second.unsubscribe = false →
      (first.taskKey .reference = second.taskKey .reference ↔
        first.SameJob .reference second) := by
  intro always
  have identified := always plain payloadFirst (by decide) rfl (by decide) rfl
  have job : plain.SameJob .reference payloadFirst := ⟨rfl, rfl⟩
  have keys := Environment.reference.printUnformatted_injective (identified.mpr job)
  have objects : plain.serviceAndPayload = payloadFirst.serviceAndPayload := by
    rw [← normServiceAndPayload_of_kept rfl fun rebuilds => rebuilds.2.2 rfl,
      ← normServiceAndPayload_of_kept rfl fun rebuilds => rebuilds.2.2 rfl]
    exact keys
  simp [plain, payloadFirst, serviceAndPayloadObject, serviceServiceKey,
    servicePayloadKey] at objects

end Exchange

end Sawang

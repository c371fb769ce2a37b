import InputSharing.Frame.Payload
import InputSharing.Proofs.Json.RoundTrip
import Mathlib.Control.Basic

/-!
# Messages come back from their payloads

The writer lists the parts of a message, and the reader asks for them by name.
`Contains` says that an object has some parts; the reader of each kind of part
finds it in every object that contains it, whatever else the object holds.
-/

namespace InputSharing

theorem Field.name_injective {first second : Field} (same : first.name = second.name) :
    first = second := by
  have all :
      ∀ tested ∈ Field.all, ∀ other ∈ Field.all, tested.name = other.name → tested = other := by
    decide
  exact all first (Field.mem_all first) second (Field.mem_all second) same

namespace Payload

/-! ## Finding parts -/

/-- The fields of an object, parts that are not there left out. -/
def fieldsOf (parts : Parts) : Fields :=
  Field.all.filterMap fun field => (parts.lookup field).map fun value => (field.name, value)

theorem object_eq (parts : Parts) : object parts = .object (fieldsOf parts) := rfl

/-- Among some fields a part is found, if its field is one of them. -/
theorem lookup_filterMap (parts : Parts) (names : List Field) (field : Field) :
    (names.filterMap fun field =>
        (parts.lookup field).map fun value => (field.name, value)).lookup field.name =
      if field ∈ names then parts.lookup field else none := by
  induction names with
  | nil =>
      rfl
  | cons first more inductionHypothesis =>
      by_cases same : first = field
      · subst same
        cases found : parts.lookup first with
        | none => simp [found, inductionHypothesis]
        | some value => simp [found]
      · have different : ¬ field = first := fun equal => same equal.symm
        have names : (field.name == first.name) = false := by
          rw [beq_eq_false_iff_ne]
          exact fun equal => different (Field.name_injective equal)
        cases found : parts.lookup first with
        | none => simp [found, different, inductionHypothesis]
        | some value => simp [found, different, List.lookup_cons, names, inductionHypothesis]

theorem field?_fieldsOf (parts : Parts) (field : Field) :
    Json.field? (fieldsOf parts) field.name = parts.lookup field := by
  rw [Json.field?, fieldsOf, ← List.filterMap_reverse, lookup_filterMap]
  simp [Field.mem_all field]

/-- Among the fields of an object are some parts. -/
def Contains (fields : Fields) (parts : Parts) : Prop :=
  ∀ entry ∈ parts, Json.field? fields entry.1.name = some entry.2

namespace Contains

variable {fields : Fields} {first : Field × Json} {more : Parts}

theorem head (contains : Contains fields (first :: more)) :
    Json.field? fields first.1.name = some first.2 :=
  contains first List.mem_cons_self

theorem tail (contains : Contains fields (first :: more)) : Contains fields more :=
  fun entry listed => contains entry (List.mem_cons_of_mem first listed)

end Contains

theorem lookup_of_nodup {parts : Parts} (nodup : (parts.map Prod.fst).Nodup)
    {entry : Field × Json} (listed : entry ∈ parts) : parts.lookup entry.1 = some entry.2 := by
  induction parts with
  | nil =>
      cases listed
  | cons first more inductionHypothesis =>
      rw [List.map_cons, List.nodup_cons] at nodup
      rcases List.mem_cons.1 listed with same | later
      · rw [same, List.lookup_cons, beq_self_eq_true]
      · have other : entry.1 ≠ first.1 := by
          intro equal
          exact nodup.1 (equal ▸ List.mem_map_of_mem later)
        rw [List.lookup_cons, beq_eq_false_iff_ne.2 other]
        exact inductionHypothesis nodup.2 later

/-- An object contains the parts of which it was made. -/
theorem contains_fieldsOf {parts : Parts} (nodup : (parts.map Prod.fst).Nodup) :
    Contains (fieldsOf parts) parts := by
  intro entry listed
  rw [field?_fieldsOf, lookup_of_nodup nodup listed]

/-! ## Values of single parts -/

theorem read_eq_ok {α : Type} {value? : Json → Option α} {fields : Fields} {field : Field}
    {json : Json} {value : α} (found : Json.field? fields field.name = some json)
    (readable : value? json = some value) : read value? fields field = .ok value := by
  rw [read, found, Option.bind_some, readable]

theorem uint64?_natural (number : UInt64) :
    (natural number.toNat).uint64? = some number := by
  have bound := number.toNat_lt
  simp [natural, Json.uint64?, Json.intWithin?]
  omega

theorem uint32?_natural (number : UInt32) :
    (natural number.toNat).uint32? = some number := by
  have bound := number.toNat_lt
  simp [natural, Json.uint32?, Json.intWithin?]
  omega

theorem uint16?_natural (number : UInt16) :
    (natural number.toNat).uint16? = some number := by
  have bound := number.toNat_lt
  simp [natural, Json.uint16?, Json.intWithin?]
  omega

theorem int32?_int (number : Int32) : (Json.int number.toInt).int32? = some number := by
  have least := number.le_toInt
  have greatest := number.toInt_lt
  simp [Json.int32?, Json.intWithin?]
  omega

theorem mapM_map_eq_pure {m : Type → Type} [Monad m] [LawfulMonad m] {α β γ : Type}
    {write : α → β} {reading : β → m γ} {value : α → γ} {items : List α}
    (inverse : ∀ item ∈ items, reading (write item) = pure (value item)) :
    (items.map write).mapM reading = pure (items.map value) := by
  induction items with
  | nil =>
      simp
  | cons first more inductionHypothesis =>
      have head := inverse first List.mem_cons_self
      have later := inductionHypothesis fun item listed =>
        inverse item (List.mem_cons_of_mem first listed)
      rw [List.map_cons, List.mapM_cons, head, later]
      simp

theorem list?_array {α β : Type} {value? : Json → Option β} {write : α → Json} {value : α → β}
    {items : List α} (inverse : ∀ item ∈ items, value? (write item) = some (value item)) :
    list? value? (.array (items.map write)) = some (items.map value) :=
  mapM_map_eq_pure inverse

theorem handles?_ofHandles (handles : HandleSet) :
    (list? handle? (ofHandles handles)).map HandleSet.ofList = some handles := by
  have listed : list? handle? (ofHandles handles) = some (handles.toList.map id) :=
    list?_array fun handle _ => rfl
  rw [listed, List.map_id, Option.map_some, HandleSet.ofList_toList]

theorem allowList?_ofAllowList (combinations : AllowList) :
    list? (list? Json.uint32?) (ofAllowList combinations) = some combinations := by
  have keys (combination : List UInt32) :
      list? Json.uint32? (.array (combination.map fun key => natural key.toNat)) =
        some (combination.map id) :=
    list?_array fun key _ => uint32?_natural key
  have all :
      list? (list? Json.uint32?) (ofAllowList combinations) =
        some (combinations.map fun combination => combination.map id) :=
    list?_array fun combination _ => keys combination
  simpa using all

/-! ## Parts of messages -/

section Parts

variable {fields : Fields}

theorem device_eq_ok {field : Field} {name : DeviceId}
    (found : Json.field? fields field.name = some (ofDevice name)) :
    device fields field = .ok name :=
  read_eq_ok found rfl

theorem types_eq_ok {field : Field} {mask : TypeMask}
    (found : Json.field? fields field.name = some (ofTypes mask)) :
    types fields field = .ok mask := by
  refine read_eq_ok found ?_
  rw [ofTypes, uint32?_natural]
  rfl

theorem handles_eq_ok {field : Field} {set : HandleSet}
    (found : Json.field? fields field.name = some (ofHandles set)) :
    handles fields field = .ok set :=
  read_eq_ok found (handles?_ofHandles set)

theorem status_eq_ok {code : Int32}
    (found : Json.field? fields Field.status.name = some (.int code.toInt)) :
    status fields = .ok code :=
  read_eq_ok found (int32?_int code)

theorem token_eq_ok {relayToken : RelayToken}
    (found : Json.field? fields Field.relaySessionId.name =
      some (natural relayToken.number.toNat)) :
    token fields = .ok relayToken := by
  refine read_eq_ok found ?_
  rw [uint64?_natural]
  rfl

theorem key_eq_ok {state : KeyState} (contains : Contains fields (keyParts state)) :
    key fields = .ok state := by
  have handle : read handle? fields .handleId = .ok state.handle :=
    read_eq_ok contains.head rfl
  have code := read_eq_ok contains.tail.head (uint16?_natural state.code)
  have value := read_eq_ok contains.tail.tail.head (int32?_int state.value)
  simp only [key, handle, code, value]
  rfl

theorem event_eq_ok {input : InputEvent} (contains : Contains fields (eventParts input)) :
    event fields = .ok input := by
  have handle : read handle? fields .handleId = .ok input.handle :=
    read_eq_ok contains.head rfl
  have eventClass := read_eq_ok contains.tail.head (uint16?_natural input.eventClass)
  have code := read_eq_ok contains.tail.tail.head (uint16?_natural input.code)
  have value := read_eq_ok contains.tail.tail.tail.head (int32?_int input.value)
  have whenUs := read_eq_ok contains.tail.tail.tail.tail.head (uint64?_natural input.whenUs)
  simp only [event, handle, eventClass, code, value, whenUs]
  rfl

theorem objects_eq_ok {α : Type} {one : Fields → Read α} {write : α → Parts}
    {items : List α} {field : Field}
    (found : Json.field? fields field.name =
      some (.array (items.map fun item => object (write item))))
    (inverse : ∀ item, one (fieldsOf (write item)) = .ok item) :
    objects one fields field = .ok items := by
  have listed :
      list? Json.object? (.array (items.map fun item => object (write item))) =
        some (items.map fun item => fieldsOf (write item)) :=
    list?_array fun item _ => rfl
  have all := read_eq_ok found listed
  have read : (items.map fun item => fieldsOf (write item)).mapM one = .ok (items.map id) :=
    mapM_map_eq_pure fun item _ => inverse item
  rw [List.map_id] at read
  simp only [objects, all]
  exact read

theorem request_eq_ok {body : Request} (contains : Contains fields (requestParts body)) :
    request fields body.action = .ok body := by
  cases body with
  | prepare => rfl
  | unprepare => rfl
  | startByType types =>
      have read := types_eq_ok contains.head
      simp only [request, Request.action, read]
      rfl
  | stopByType types =>
      have read := types_eq_ok contains.head
      simp only [request, Request.action, read]
      rfl
  | startByHandles handles =>
      have read := handles_eq_ok contains.head
      simp only [request, Request.action, read]
      rfl
  | stopByHandles handles =>
      have read := handles_eq_ok contains.head
      simp only [request, Request.action, read]
      rfl

theorem typeAnswer_eq_ok {α : Type} (answer : Int32 → TypeMask → TypeMask → α)
    {code : Int32} {requested granted : TypeMask}
    (contains : Contains fields (typeParts code requested granted)) :
    typeAnswer answer fields = .ok (answer code requested granted) := by
  have status := status_eq_ok contains.head
  have first := types_eq_ok contains.tail.head
  have second := types_eq_ok contains.tail.tail.head
  simp only [typeAnswer, status, first, second]
  rfl

theorem handleAnswer_eq_ok {α : Type} (answer : Int32 → HandleSet → HandleSet → α)
    {code : Int32} {requested granted : HandleSet}
    (contains : Contains fields (handleParts code requested granted)) :
    handleAnswer answer fields = .ok (answer code requested granted) := by
  have status := status_eq_ok contains.head
  have first := handles_eq_ok contains.tail.head
  have second := handles_eq_ok contains.tail.tail.head
  simp only [handleAnswer, status, first, second]
  rfl

theorem reply_eq_ok {body : Reply} (contains : Contains fields (replyParts body)) :
    reply fields body.action = .ok body := by
  cases body with
  | prepared code combinations =>
      have status := status_eq_ok contains.head
      have allowed : allowList fields = .ok combinations :=
        read_eq_ok contains.tail.head (allowList?_ofAllowList combinations)
      simp only [reply, Reply.action, Reply.request, Request.action, status, allowed]
      rfl
  | unprepared code =>
      have status := status_eq_ok contains.head
      simp only [reply, Reply.action, Reply.request, Request.action, status]
      rfl
  | startedByType code requested granted => exact typeAnswer_eq_ok _ contains
  | stoppedByType code requested granted => exact typeAnswer_eq_ok _ contains
  | startedByHandles code requested granted => exact handleAnswer_eq_ok _ contains
  | stoppedByHandles code requested granted => exact handleAnswer_eq_ok _ contains

theorem result_eq_ok {body : RelayResult} (contains : Contains fields (resultParts body)) :
    result fields body.action = .ok body := by
  cases body with
  | prepare code =>
      have status := status_eq_ok contains.head
      simp only [result, RelayResult.action, RelayResult.request, Request.action, status]
      rfl
  | unprepare code =>
      have status := status_eq_ok contains.head
      simp only [result, RelayResult.action, RelayResult.request, Request.action, status]
      rfl
  | startByType code requested granted => exact typeAnswer_eq_ok _ contains
  | stopByType code requested granted => exact typeAnswer_eq_ok _ contains
  | startByHandles code requested granted => exact handleAnswer_eq_ok _ contains
  | stopByHandles code requested granted => exact handleAnswer_eq_ok _ contains

end Parts

/-! ## Whole messages -/

/-- No part of a message is written twice. -/
theorem nodup_parts (message : Message) : ((parts message).map Prod.fst).Nodup := by
  cases message with
  | request device body => cases body <;> simp [parts, requestParts]
  | relayed token device body => cases body <;> simp [parts, requestParts, tokenPart]
  | reply device body =>
      cases body <;> simp [parts, replyParts, typeParts, handleParts]
  | relayedReply token device body =>
      cases body <;> simp [parts, replyParts, typeParts, handleParts, tokenPart]
  | relayRequest device source sink body => cases body <;> simp [parts, requestParts]
  | relayResult source sink body =>
      cases body <;> simp [parts, resultParts, typeParts, handleParts]
  | _ => simp [parts, keyParts]

theorem nodup_keyParts (state : KeyState) : ((keyParts state).map Prod.fst).Nodup := by
  simp [keyParts]

theorem nodup_eventParts (input : InputEvent) : ((eventParts input).map Prod.fst).Nodup := by
  simp [eventParts]

theorem message_eq_ok {fields : Fields} {body : Message} (contains : Contains fields (parts body)) :
    message fields body.command = .ok body := by
  cases body with
  | request device body =>
      have device := device_eq_ok contains.head
      have body := request_eq_ok contains.tail
      simp only [message, Message.command, device, body]
      rfl
  | latencyProbe device sentAtUs =>
      have device := device_eq_ok contains.head
      have sent := read_eq_ok contains.tail.head (uint64?_natural sentAtUs)
      simp only [message, Message.command, device, sent]
      rfl
  | latencyEcho device sentAtUs =>
      have device := device_eq_ok contains.head
      have sent := read_eq_ok contains.tail.head (uint64?_natural sentAtUs)
      simp only [message, Message.command, device, sent]
      rfl
  | relayed token device body =>
      have token := token_eq_ok contains.head
      have device := device_eq_ok contains.tail.head
      have body := request_eq_ok contains.tail.tail
      simp only [message, Message.command, token, device, body]
      rfl
  | reply device body =>
      have device := device_eq_ok contains.head
      have body := reply_eq_ok contains.tail
      simp only [message, Message.command, device, body]
      rfl
  | keyState device state =>
      have device := device_eq_ok contains.head
      have state := key_eq_ok contains.tail
      simp only [message, Message.command, device, state]
      rfl
  | keyStates device states =>
      have device := device_eq_ok contains.head
      have states :=
        objects_eq_ok contains.tail.head fun state =>
          key_eq_ok (contains_fieldsOf (nodup_keyParts state))
      simp only [message, Message.command, device, states]
      rfl
  | inputEvents device events =>
      have device := device_eq_ok contains.head
      have events :=
        objects_eq_ok contains.tail.head fun input =>
          event_eq_ok (contains_fieldsOf (nodup_eventParts input))
      simp only [message, Message.command, device, events]
      rfl
  | relayedReply token device body =>
      have token := token_eq_ok contains.head
      have device := device_eq_ok contains.tail.head
      have body := reply_eq_ok contains.tail.tail
      simp only [message, Message.command, token, device, body]
      rfl
  | relayRequest device source sink body =>
      have device := device_eq_ok contains.head
      have source := device_eq_ok contains.tail.head
      have sink := device_eq_ok contains.tail.tail.head
      have body := request_eq_ok contains.tail.tail.tail
      simp only [message, Message.command, device, source, sink, body]
      rfl
  | relayResult source sink body =>
      have source := device_eq_ok contains.head
      have sink := device_eq_ok contains.tail.head
      have body := result_eq_ok contains.tail.tail
      simp only [message, Message.command, source, sink, body]
      rfl

end Payload

/-- Reading undoes writing. -/
theorem Message.ofPayload_payload (message : Message) :
    ofPayload message.command message.payload = .ok message := by
  rw [ofPayload, payload, Payload.object_eq]
  exact Payload.message_eq_ok (Payload.contains_fieldsOf (Payload.nodup_parts message))

end InputSharing

import InputSharing.Frame.Payload
import InputSharing.Proofs.Json.RoundTrip

/-!
# Payloads can be written

The payload of a message is an object whose parts are texts, integers of at most
64 bits, and lists of these, of lists of them, or of objects of them.  So it is
far from too deep, and none of its numbers is lost.
-/

namespace InputSharing.Payload

open Json

/-! ## Values of single parts -/

theorem writable_natural (depth : Nat) {number : Nat} (fits : number < 0x10000000000000000) :
    Writable depth (natural number) := by
  refine .int depth ⟨?_, ?_⟩
  · omega
  · omega

theorem writable_uint64 (depth : Nat) (number : UInt64) :
    Writable depth (natural number.toNat) :=
  writable_natural depth number.toNat_lt

theorem writable_uint32 (depth : Nat) (number : UInt32) :
    Writable depth (natural number.toNat) := by
  have bound := number.toNat_lt
  exact writable_natural depth (by omega)

theorem writable_uint16 (depth : Nat) (number : UInt16) :
    Writable depth (natural number.toNat) := by
  have bound := number.toNat_lt
  exact writable_natural depth (by omega)

theorem writable_int32 (depth : Nat) (number : Int32) :
    Writable depth (.int number.toInt) := by
  have least := number.le_toInt
  have greatest := number.toInt_lt
  exact .int depth ⟨by omega, by omega⟩

theorem writable_list {α : Type} {depth : Nat} {write : α → Json} {items : List α}
    (each : ∀ item, Writable depth (write item)) :
    Writable (depth + 1) (.array (items.map write)) := by
  refine .array ?_
  intro element listed
  obtain ⟨item, _, equal⟩ := List.mem_map.1 listed
  rw [← equal]
  exact each item

theorem writable_handles (depth : Nat) (handles : HandleSet) :
    Writable (depth + 1) (ofHandles handles) :=
  writable_list fun handle => .string depth handle.text

theorem writable_allowList (depth : Nat) (combinations : AllowList) :
    Writable (depth + 2) (ofAllowList combinations) :=
  writable_list fun _ => writable_list fun key => writable_uint32 depth key

/-! ## Parts -/

/-- The values of all parts can be written. -/
def AllWritable (depth : Nat) (parts : Parts) : Prop :=
  ∀ entry ∈ parts, Writable depth entry.2

namespace AllWritable

variable {depth : Nat}

theorem nil : AllWritable depth [] :=
  List.forall_mem_nil _

theorem cons {entry : Field × Json} {parts : Parts} (first : Writable depth entry.2)
    (more : AllWritable depth parts) : AllWritable depth (entry :: parts) := by
  intro tested listed
  rcases List.mem_cons.1 listed with same | later
  · rw [same]
    exact first
  · exact more tested later

end AllWritable

theorem writable_object {depth : Nat} {parts : Parts} (all : AllWritable depth parts) :
    Writable (depth + 1) (object parts) := by
  refine .object ?_
  intro entry listed
  obtain ⟨field, _, built⟩ := List.mem_filterMap.1 listed
  obtain ⟨value, found, equal⟩ := Option.map_eq_some_iff.1 built
  obtain ⟨before, after, split, _⟩ := List.lookup_eq_some_iff.1 found
  have listedValue : (field, value) ∈ parts := by
    rw [split]
    exact List.mem_append_right before List.mem_cons_self
  rw [← equal]
  exact all _ listedValue

section Messages

variable (depth : Nat)

theorem allWritable_keyParts (state : KeyState) : AllWritable depth (keyParts state) :=
  .cons (.string depth _) (.cons (writable_uint16 depth _) (.cons (writable_int32 depth _) .nil))

theorem allWritable_eventParts (input : InputEvent) : AllWritable depth (eventParts input) :=
  .cons (.string depth _) (.cons (writable_uint16 depth _) (.cons (writable_uint16 depth _)
    (.cons (writable_int32 depth _) (.cons (writable_uint64 depth _) .nil))))

theorem allWritable_requestParts (body : Request) :
    AllWritable (depth + 1) (requestParts body) := by
  cases body with
  | prepare => exact .nil
  | unprepare => exact .nil
  | startByType types => exact .cons (writable_uint32 _ _) .nil
  | stopByType types => exact .cons (writable_uint32 _ _) .nil
  | startByHandles handles => exact .cons (writable_handles depth handles) .nil
  | stopByHandles handles => exact .cons (writable_handles depth handles) .nil

theorem allWritable_typeParts (code : Int32) (requested granted : TypeMask) :
    AllWritable depth (typeParts code requested granted) :=
  .cons (writable_int32 depth _) (.cons (writable_uint32 depth _)
    (.cons (writable_uint32 depth _) .nil))

theorem allWritable_handleParts (code : Int32) (requested granted : HandleSet) :
    AllWritable (depth + 1) (handleParts code requested granted) :=
  .cons (writable_int32 _ _) (.cons (writable_handles depth _)
    (.cons (writable_handles depth _) .nil))

theorem allWritable_replyParts (body : Reply) : AllWritable (depth + 2) (replyParts body) := by
  cases body with
  | prepared code combinations =>
      exact .cons (writable_int32 _ _) (.cons (writable_allowList depth combinations) .nil)
  | unprepared code => exact .cons (writable_int32 _ _) .nil
  | startedByType code requested granted => exact allWritable_typeParts _ code requested granted
  | stoppedByType code requested granted => exact allWritable_typeParts _ code requested granted
  | startedByHandles code requested granted =>
      exact allWritable_handleParts _ code requested granted
  | stoppedByHandles code requested granted =>
      exact allWritable_handleParts _ code requested granted

theorem allWritable_resultParts (body : RelayResult) :
    AllWritable (depth + 1) (resultParts body) := by
  cases body with
  | prepare code => exact .cons (writable_int32 _ _) .nil
  | unprepare code => exact .cons (writable_int32 _ _) .nil
  | startByType code requested granted => exact allWritable_typeParts _ code requested granted
  | stopByType code requested granted => exact allWritable_typeParts _ code requested granted
  | startByHandles code requested granted =>
      exact allWritable_handleParts _ code requested granted
  | stopByHandles code requested granted =>
      exact allWritable_handleParts _ code requested granted

theorem allWritable_parts (message : Message) : AllWritable (depth + 2) (parts message) := by
  cases message with
  | request device body => exact .cons (.string _ _) (allWritable_requestParts (depth + 1) body)
  | latencyProbe device sentAtUs =>
      exact .cons (.string _ _) (.cons (writable_uint64 _ _) .nil)
  | latencyEcho device sentAtUs =>
      exact .cons (.string _ _) (.cons (writable_uint64 _ _) .nil)
  | relayed token device body =>
      exact .cons (writable_uint64 _ _)
        (.cons (.string _ _) (allWritable_requestParts (depth + 1) body))
  | reply device body => exact .cons (.string _ _) (allWritable_replyParts depth body)
  | keyState device state => exact .cons (.string _ _) (allWritable_keyParts (depth + 2) state)
  | keyStates device states =>
      exact .cons (.string _ _) (.cons
        (writable_list fun state => writable_object (allWritable_keyParts depth state)) .nil)
  | inputEvents device events =>
      exact .cons (.string _ _) (.cons
        (writable_list fun input => writable_object (allWritable_eventParts depth input)) .nil)
  | relayedReply token device body =>
      exact .cons (writable_uint64 _ _)
        (.cons (.string _ _) (allWritable_replyParts depth body))
  | relayRequest device source sink body =>
      exact .cons (.string _ _) (.cons (.string _ _)
        (.cons (.string _ _) (allWritable_requestParts (depth + 1) body)))
  | relayResult source sink body =>
      exact .cons (.string _ _) (.cons (.string _ _) (allWritable_resultParts (depth + 1) body))

end Messages

end InputSharing.Payload

namespace InputSharing.Message

/-- The payload of a message comes back from its text. -/
theorem read?_write_payload (message : Message) :
    Json.read? message.payload.write = some message.payload :=
  Json.read?_write (Payload.writable_object (Payload.allWritable_parts 124 message))

end InputSharing.Message

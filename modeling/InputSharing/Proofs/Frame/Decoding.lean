import InputSharing.Proofs.Frame.Grammar
import InputSharing.Proofs.Frame.Stream
import Mathlib.Data.List.Induction

/-!
# Decoding follows the grammar

Each reader of a payload gives what its field said, and otherwise the first fault of
its layout; readers that are put together have layouts that are put together.  So
`Frame.decode` gives exactly what the grammar of frames said.
-/

namespace InputSharing

/-! ## First findings -/

namespace FirstOf

variable {α β : Type} {finds : α → β → Prop}

theorem not_nil (found : β) : ¬FirstOf finds [] found := by
  intro first
  cases first

theorem cons_iff {item : α} {rest : List α} {found : β} :
    FirstOf finds (item :: rest) found ↔
      finds item found ∨ (∀ other, ¬finds item other) ∧ FirstOf finds rest found := by
  constructor
  · intro first
    cases first with
    | here here => exact Or.inl here
    | later none later => exact Or.inr ⟨none, later⟩
  · rintro (here | ⟨none, later⟩)
    · exact .here here
    · exact .later none later

theorem singleton_iff {item : α} {found : β} :
    FirstOf finds [item] found ↔ finds item found := by
  rw [cons_iff]
  refine or_iff_left ?_
  rintro ⟨_, later⟩
  exact not_nil found later

theorem append_iff {items rest : List α} {found : β} :
    FirstOf finds (items ++ rest) found ↔
      FirstOf finds items found ∨
        (∀ other, ¬FirstOf finds items other) ∧ FirstOf finds rest found := by
  induction items with
  | nil =>
    rw [List.nil_append]
    constructor
    · exact fun later => Or.inr ⟨not_nil, later⟩
    · rintro (none | ⟨_, later⟩)
      · exact absurd none (not_nil found)
      · exact later
  | cons first more inductionHypothesis =>
    rw [List.cons_append, cons_iff, inductionHypothesis]
    simp only [cons_iff]
    constructor
    · rintro (here | ⟨none, here | ⟨others, later⟩⟩)
      · exact Or.inl (Or.inl here)
      · exact Or.inl (Or.inr ⟨none, here⟩)
      · refine Or.inr ⟨?_, later⟩
        rintro other (here | ⟨_, inside⟩)
        · exact none other here
        · exact others other inside
    · rintro ((here | ⟨none, here⟩) | ⟨none, later⟩)
      · exact Or.inl here
      · exact Or.inr ⟨none, Or.inl here⟩
      · have nothing : ∀ other, ¬finds first other := fun other here => none other (Or.inl here)
        refine Or.inr ⟨nothing, Or.inr ⟨?_, later⟩⟩
        exact fun other inside => none other (Or.inr ⟨nothing, inside⟩)

end FirstOf

namespace Payload

/-! ## Readers and their faults -/

/-- What is read fails exactly with the first fault of a layout. -/
def Stops {ι α : Type} (faulty : ι → Field → Prop) (layout : List ι) (outcome : Read α) :
    Prop :=
  ∀ error, outcome = .error error ↔
    ∃ field, error = .badField field ∧ FirstOf faulty layout field

namespace Stops

variable {ι α β : Type} {faulty : ι → Field → Prop} {layout later : List ι}

theorem none_of_ok {value : α} (stops : Stops faulty layout (.ok value)) (field : Field) :
    ¬FirstOf faulty layout field := by
  intro first
  cases (stops (.badField field)).2 ⟨field, rfl, first⟩

theorem done (value : α) : Stops faulty [] (.ok value : Read α) := by
  intro error
  constructor
  · intro fails
    cases fails
  · rintro ⟨field, _, first⟩
    exact absurd first (FirstOf.not_nil field)

theorem bind {outcome : Read α} {next : α → Read β} (stops : Stops faulty layout outcome)
    (continues : ∀ value, outcome = .ok value → Stops faulty later (next value)) :
    Stops faulty (layout ++ later) (outcome >>= next) := by
  intro error
  simp only [FirstOf.append_iff]
  cases outcome with
  | error fault =>
    obtain ⟨first, _, found⟩ := (stops fault).1 rfl
    have same : ((.error fault : Read α) >>= next) = .error error ↔
        (.error fault : Read α) = .error error := by
      constructor
      · rintro ⟨⟩
        rfl
      · rintro ⟨⟩
        rfl
    refine same.trans ((stops error).trans ?_)
    refine exists_congr fun field => and_congr_right fun _ => ?_
    constructor
    · exact Or.inl
    · rintro (here | ⟨none, _⟩)
      · exact here
      · exact absurd found (none first)
  | ok value =>
    have none := stops.none_of_ok
    refine (continues value rfl error).trans
      (exists_congr fun field => and_congr_right fun _ => ?_)
    constructor
    · exact fun there => Or.inr ⟨none, there⟩
    · rintro (here | ⟨_, there⟩)
      · exact absurd here (none field)
      · exact there

/-- What is made of a value that was read adds no fault. -/
theorem map {outcome : Read α} (stops : Stops faulty layout outcome) (make : α → β) :
    Stops faulty layout (outcome >>= fun value => pure (make value)) := by
  have added : Stops faulty (layout ++ []) (outcome >>= fun value => pure (make value)) :=
    stops.bind fun value _ => Stops.done (make value)
  rw [List.append_nil] at added
  exact added

end Stops

/-! ## Values -/

section Values

theorem intWithin?_eq_some_iff {least greatest value : Int} {json : Json} :
    json.intWithin? least greatest = some value ↔
      json = .int value ∧ least ≤ value ∧ value ≤ greatest := by
  cases json with
  | int number =>
    rw [Json.intWithin?]
    split
    · next within =>
      constructor
      · rintro ⟨⟩
        exact ⟨rfl, within⟩
      · rintro ⟨⟨⟩, _⟩
        rfl
    · next outside =>
      constructor
      · rintro ⟨⟩
      · rintro ⟨⟨⟩, within⟩
        exact absurd within outside
  | null | bool _ | real | string _ | array _ | object _ =>
    constructor
    · rintro ⟨⟩
    · rintro ⟨⟨⟩, _⟩

/-- Numbers without a sign are read exactly up to a limit. -/
theorem unsigned_eq_some_iff {α : Type} (limit : Nat) {make : Int → α} {number : α → Nat}
    (bounded : ∀ value, number value ≤ limit) (there : ∀ value, make (number value) = value)
    (back : ∀ given : Nat, given ≤ limit → number (make given) = given) {json : Json}
    {value : α} :
    (json.intWithin? 0 limit).map make = some value ↔ json = natural (number value) := by
  rw [Option.map_eq_some_iff]
  simp only [intWithin?_eq_some_iff]
  constructor
  · rintro ⟨given, ⟨rfl, least, greatest⟩, rfl⟩
    obtain ⟨given, rfl⟩ := Int.eq_ofNat_of_zero_le least
    rw [natural, back given (Int.ofNat_le.1 greatest)]
  · rintro rfl
    have bound := bounded value
    exact ⟨number value, ⟨rfl, by omega, by omega⟩, there value⟩

theorem uint64?_eq_some_iff {json : Json} {value : UInt64} :
    json.uint64? = some value ↔ json = natural value.toNat :=
  unsigned_eq_some_iff 0xFFFFFFFFFFFFFFFF (fun value => Nat.le_of_lt_succ value.toNat_lt)
    (by simp) fun given bound => by simp; omega

theorem uint32?_eq_some_iff {json : Json} {value : UInt32} :
    json.uint32? = some value ↔ json = natural value.toNat :=
  unsigned_eq_some_iff 0xFFFFFFFF (fun value => Nat.le_of_lt_succ value.toNat_lt) (by simp)
    fun given bound => by simp; omega

theorem uint16?_eq_some_iff {json : Json} {value : UInt16} :
    json.uint16? = some value ↔ json = natural value.toNat :=
  unsigned_eq_some_iff 0xFFFF (fun value => Nat.le_of_lt_succ value.toNat_lt) (by simp)
    fun given bound => by simp; omega

theorem int32?_eq_some_iff {json : Json} {value : Int32} :
    json.int32? = some value ↔ json = .int value.toInt := by
  have below := value.le_toInt
  have above := value.toInt_lt
  rw [Json.int32?, Option.map_eq_some_iff]
  simp only [intWithin?_eq_some_iff]
  constructor
  · rintro ⟨number, ⟨rfl, least, greatest⟩, rfl⟩
    rw [Int32.toInt_ofInt_of_le (by omega) (by omega)]
  · rintro rfl
    exact ⟨value.toInt, ⟨rfl, by omega, by omega⟩, by simp⟩

theorem string?_eq_some_iff {json : Json} {text : String} :
    json.string? = some text ↔ json = .string text := by
  cases json <;> simp [Json.string?]

theorem array?_eq_some_iff {json : Json} {elements : List Json} :
    json.array? = some elements ↔ json = .array elements := by
  cases json <;> simp [Json.array?]

theorem object?_eq_some_iff {json : Json} {fields : Fields} :
    json.object? = some fields ↔ json = .object fields := by
  cases json <;> simp [Json.object?]

/-- What wraps a value is read as the value is. -/
theorem wrapped_eq_some_iff {α β : Type} {value? : Json → Option β} {write : β → Json}
    {wrap : β → α} {unwrap : α → β}
    (reads : ∀ json value, value? json = some value ↔ json = write value)
    (there : ∀ value, unwrap (wrap value) = value)
    (back : ∀ wrapped, wrap (unwrap wrapped) = wrapped) (json : Json) (wrapped : α) :
    (value? json).map wrap = some wrapped ↔ json = write (unwrap wrapped) := by
  rw [Option.map_eq_some_iff]
  simp only [reads]
  constructor
  · rintro ⟨value, rfl, rfl⟩
    rw [there]
  · rintro rfl
    exact ⟨unwrap wrapped, rfl, back wrapped⟩

theorem handle?_eq_some_iff (json : Json) (handle : HandleId) :
    handle? json = some handle ↔ json = ofHandle handle :=
  wrapped_eq_some_iff (fun _ _ => string?_eq_some_iff) (fun _ => rfl) (fun _ => rfl) json handle

/-- A list is read exactly if each of its elements is. -/
theorem list?_eq_some_iff {α : Type} {value? : Json → Option α} {write : α → Json}
    (reads : ∀ json value, value? json = some value ↔ json = write value) {json : Json}
    {values : List α} :
    list? value? json = some values ↔ json = .array (values.map write) := by
  have elements (all : List Json) :
      all.mapM value? = some values ↔ all = values.map write := by
    induction all generalizing values with
    | nil => cases values <;> simp
    | cons first more inductionHypothesis =>
      cases values with
      | nil => simp [List.mapM_cons, Option.bind_eq_some_iff]
      | cons value values =>
        simp [List.mapM_cons, Option.bind_eq_some_iff, reads, inductionHypothesis]
  rw [list?, Option.bind_eq_some_iff]
  simp only [array?_eq_some_iff, elements]
  constructor
  · rintro ⟨all, rfl, rfl⟩
    rfl
  · rintro rfl
    exact ⟨_, rfl, rfl⟩

/-! ## Shapes -/

theorem fits_unsigned_iff {α : Type} {limit : Nat} {make : Int → α} {json : Json} :
    (Scalar.unsigned limit).Fits json ↔
      ∃ value, (json.intWithin? 0 limit).map make = some value := by
  simp only [Option.map_eq_some_iff, intWithin?_eq_some_iff]
  constructor
  · rintro ⟨bound⟩
    exact ⟨_, _, ⟨rfl, by omega, by omega⟩, rfl⟩
  · rintro ⟨_, number, ⟨rfl, least, greatest⟩, rfl⟩
    obtain ⟨number, rfl⟩ := Int.eq_ofNat_of_zero_le least
    exact .unsigned (Int.ofNat_le.1 greatest)

theorem fits_signed_iff {json : Json} :
    Scalar.signed.Fits json ↔ ∃ value, json.int32? = some value := by
  simp only [Json.int32?, Option.map_eq_some_iff, intWithin?_eq_some_iff]
  constructor
  · intro fits
    cases fits with
    | signed least greatest => exact ⟨_, _, ⟨rfl, least, greatest⟩, rfl⟩
  · rintro ⟨_, number, ⟨rfl, least, greatest⟩, rfl⟩
    exact .signed least greatest

theorem fits_text_iff {α : Type} {make : String → α} {json : Json} :
    Scalar.text.Fits json ↔ ∃ value, json.string?.map make = some value := by
  simp only [Option.map_eq_some_iff, string?_eq_some_iff]
  constructor
  · rintro ⟨text⟩
    exact ⟨_, text, rfl, rfl⟩
  · rintro ⟨_, text, rfl, _⟩
    exact .text text

end Values

/-! ## Single fields -/

section Reading

variable {α : Type} {value? : Json → Option α} {fields : Fields} {field : Field}

theorem read_eq_ok_iff_exists {value : α} :
    read value? fields field = .ok value ↔
      ∃ json, Holds fields field json ∧ value? json = some value := by
  rw [read]
  simp only [Holds]
  cases found : Json.field? fields field.name with
  | none => simp
  | some json =>
    cases readable : value? json with
    | none => simp [readable]
    | some given => simp [readable]

theorem read_eq_ok_iff {write : α → Json} {value : α}
    (reads : ∀ json value, value? json = some value ↔ json = write value) :
    read value? fields field = .ok value ↔ Holds fields field (write value) := by
  rw [read_eq_ok_iff_exists]
  simp only [reads]
  constructor
  · rintro ⟨json, holds, rfl⟩
    exact holds
  · intro holds
    exact ⟨write value, holds, rfl⟩

/-- A field cannot be read exactly if it lacks a value that fits. -/
theorem read_eq_error_iff {fits : Json → Prop} {error : FrameError}
    (agree : ∀ json, fits json ↔ ∃ value, value? json = some value) :
    read value? fields field = .error error ↔
      error = .badField field ∧ Lacks fits fields field := by
  rw [read, Lacks]
  simp only [agree]
  cases found : Json.field? fields field.name with
  | none => simp [eq_comm]
  | some json =>
    cases readable : value? json with
    | none => simp [readable, eq_comm]
    | some given => simp [readable]

theorem stops_scalar {scalar : Scalar}
    (agree : ∀ json, scalar.Fits json ↔ ∃ value, value? json = some value) :
    Stops (Scalar.Faulty fields) [(field, scalar)] (read value? fields field) := by
  intro error
  simp only [read_eq_error_iff agree, FirstOf.singleton_iff, Scalar.Faulty]
  constructor
  · rintro ⟨rfl, lacks⟩
    exact ⟨field, rfl, rfl, lacks⟩
  · rintro ⟨_, rfl, rfl, lacks⟩
    exact ⟨rfl, lacks⟩

theorem stops_read {shape : Shape} (flat : ∀ inner, shape ≠ .objects inner)
    (agree : ∀ json, shape.Fits json ↔ ∃ value, value? json = some value) :
    Stops (Shape.Faulty fields) [(field, shape)] (read value? fields field) := by
  intro error
  simp only [read_eq_error_iff agree, FirstOf.singleton_iff]
  constructor
  · rintro ⟨rfl, lacks⟩
    exact ⟨field, rfl, .lacks lacks⟩
  · rintro ⟨fault, rfl, faulty⟩
    cases faulty with
    | lacks lacks => exact ⟨rfl, lacks⟩
    | inside _ _ => exact absurd rfl (flat _)

theorem fits_scalar_iff {scalar : Scalar} {json : Json} :
    (Shape.scalar scalar).Fits json ↔ scalar.Fits json := by
  constructor
  · rintro ⟨fits⟩
    exact fits
  · exact .scalar

end Reading

section Fields

variable {fields : Fields} {field : Field}

/-- A field of one value is read, or it is at fault. -/
theorem stops_value {α : Type} {value? : Json → Option α} {scalar : Scalar}
    (agree : ∀ json, scalar.Fits json ↔ ∃ value, value? json = some value) :
    Stops (Shape.Faulty fields) [(field, .scalar scalar)] (read value? fields field) := by
  refine stops_read (fun inner => Shape.noConfusion) fun json => ?_
  rw [fits_scalar_iff]
  exact agree json

theorem device_eq_ok_iff {name : DeviceId} :
    device fields field = .ok name ↔ Holds fields field (ofDevice name) :=
  read_eq_ok_iff (wrapped_eq_some_iff (fun _ _ => string?_eq_some_iff) (fun _ => rfl)
    fun _ => rfl)

theorem stops_device :
    Stops (Shape.Faulty fields) [Layout.device field] (device fields field) :=
  stops_value fun _ => fits_text_iff

theorem types_eq_ok_iff {mask : TypeMask} :
    types fields field = .ok mask ↔ Holds fields field (ofTypes mask) :=
  read_eq_ok_iff (wrapped_eq_some_iff (fun _ _ => uint32?_eq_some_iff) (fun _ => rfl)
    fun _ => rfl)

theorem stops_types :
    Stops (Shape.Faulty fields) [Layout.types field] (types fields field) := by
  refine stops_value fun json => ?_
  rw [Json.uint32?]
  simp only [Option.map_map]
  exact fits_unsigned_iff

theorem status_eq_ok_iff {code : Int32} :
    status fields = .ok code ↔ SaysStatus fields code :=
  read_eq_ok_iff fun _ _ => int32?_eq_some_iff

theorem stops_status : Stops (Shape.Faulty fields) [Layout.status] (status fields) :=
  stops_value fun _ => fits_signed_iff

theorem token_eq_ok_iff {relayToken : RelayToken} :
    token fields = .ok relayToken ↔ SaysToken fields relayToken :=
  read_eq_ok_iff (wrapped_eq_some_iff (fun _ _ => uint64?_eq_some_iff) (fun _ => rfl)
    fun _ => rfl)

theorem stops_token : Stops (Shape.Faulty fields) [Layout.token] (token fields) := by
  refine stops_value fun json => ?_
  rw [Json.uint64?]
  simp only [Option.map_map]
  exact fits_unsigned_iff

theorem list?_handle?_eq_some_iff (json : Json) (all : List HandleId) :
    list? handle? json = some all ↔ json = .array (all.map ofHandle) :=
  list?_eq_some_iff handle?_eq_some_iff

theorem handles_eq_ok_iff {set : HandleSet} :
    handles fields field = .ok set ↔ Lists fields field set := by
  rw [handles, read_eq_ok_iff_exists, Lists]
  simp only [Option.map_eq_some_iff, list?_handle?_eq_some_iff]
  constructor
  · rintro ⟨json, holds, all, rfl, rfl⟩
    refine ⟨all.map HandleId.text, ?_, ?_⟩
    · rw [List.map_map]
      exact holds
    · rw [List.map_map]
      exact congrArg HandleSet.ofList (List.map_id all)
  · rintro ⟨names, holds, rfl⟩
    refine ⟨_, holds, names.map HandleId.mk, ?_, rfl⟩
    rw [List.map_map]
    rfl

theorem stops_handles :
    Stops (Shape.Faulty fields) [Layout.handles field] (handles fields field) := by
  refine stops_read (fun inner => Shape.noConfusion) fun json => ?_
  simp only [Option.map_eq_some_iff, list?_handle?_eq_some_iff]
  constructor
  · intro fits
    cases fits with
    | handles names =>
      refine ⟨_, names.map HandleId.mk, ?_, rfl⟩
      rw [List.map_map]
      rfl
  · rintro ⟨_, all, rfl, _⟩
    have names := Shape.Fits.handles (all.map HandleId.text)
    rw [List.map_map] at names
    exact names

theorem allowList_eq_ok_iff {combinations : AllowList} :
    allowList fields = .ok combinations ↔
      Holds fields .allowList (ofAllowList combinations) :=
  read_eq_ok_iff fun _ _ =>
    list?_eq_some_iff fun _ _ => list?_eq_some_iff fun _ _ => uint32?_eq_some_iff

theorem stops_allowList :
    Stops (Shape.Faulty fields) [(.allowList, .allowList)] (allowList fields) := by
  refine stops_read (fun inner => Shape.noConfusion) fun json => ?_
  have reads (combinations : AllowList) :
      list? (list? Json.uint32?) json = some combinations ↔ json = ofAllowList combinations :=
    list?_eq_some_iff fun _ _ => list?_eq_some_iff fun _ _ => uint32?_eq_some_iff
  simp only [reads]
  constructor
  · intro fits
    cases fits with
    | allowList combinations => exact ⟨combinations, rfl⟩
  · rintro ⟨combinations, rfl⟩
    exact .allowList combinations

/-! ## Several fields -/

theorem bind_eq_ok_iff {α β : Type} {outcome : Read α} {next : α → Read β} {value : β} :
    (outcome >>= next) = .ok value ↔ ∃ first, outcome = .ok first ∧ next first = .ok value := by
  cases outcome with
  | error error =>
    constructor
    · rintro ⟨⟩
    · rintro ⟨_, ⟨⟩, _⟩
  | ok first =>
    constructor
    · exact fun same => ⟨first, rfl, same⟩
    · rintro ⟨_, ⟨⟩, same⟩
      exact same

theorem handle_eq_ok_iff {handle : HandleId} :
    read handle? fields field = .ok handle ↔ Holds fields field (ofHandle handle) :=
  read_eq_ok_iff handle?_eq_some_iff

theorem code_eq_ok_iff {code : UInt16} :
    read Json.uint16? fields field = .ok code ↔ Holds fields field (natural code.toNat) :=
  read_eq_ok_iff fun _ _ => uint16?_eq_some_iff

theorem value_eq_ok_iff {value : Int32} :
    read Json.int32? fields field = .ok value ↔ Holds fields field (.int value.toInt) :=
  read_eq_ok_iff fun _ _ => int32?_eq_some_iff

theorem time_eq_ok_iff {time : UInt64} :
    read Json.uint64? fields field = .ok time ↔ Holds fields field (natural time.toNat) :=
  read_eq_ok_iff fun _ _ => uint64?_eq_some_iff

theorem key_eq_ok_iff {state : KeyState} :
    key fields = .ok state ↔ SaysKey fields state := by
  rw [key]
  simp only [bind_eq_ok_iff, handle_eq_ok_iff, code_eq_ok_iff, value_eq_ok_iff]
  constructor
  · rintro ⟨_, handle, _, code, _, value, ⟨⟩⟩
    exact ⟨handle, code, value⟩
  · rintro ⟨handle, code, value⟩
    exact ⟨_, handle, _, code, _, value, rfl⟩

theorem event_eq_ok_iff {given : InputEvent} :
    event fields = .ok given ↔ SaysEvent fields given := by
  rw [event]
  simp only [bind_eq_ok_iff, handle_eq_ok_iff, code_eq_ok_iff, value_eq_ok_iff,
    time_eq_ok_iff]
  constructor
  · rintro ⟨_, handle, _, eventClass, _, code, _, value, _, time, ⟨⟩⟩
    exact ⟨handle, eventClass, code, value, time⟩
  · rintro ⟨handle, eventClass, code, value, time⟩
    exact ⟨_, handle, _, eventClass, _, code, _, value, _, time, rfl⟩

theorem stops_key : Stops (Scalar.Faulty fields) Layout.key (key fields) :=
  (stops_scalar fun _ => fits_text_iff).bind fun _ _ =>
    (stops_scalar fun _ => fits_unsigned_iff).bind fun _ _ =>
      (stops_scalar fun _ => fits_signed_iff).map _

theorem stops_event : Stops (Scalar.Faulty fields) Layout.event (event fields) :=
  (stops_scalar fun _ => fits_text_iff).bind fun _ _ =>
    (stops_scalar fun _ => fits_unsigned_iff).bind fun _ _ =>
      (stops_scalar fun _ => fits_unsigned_iff).bind fun _ _ =>
        (stops_scalar fun _ => fits_signed_iff).bind fun _ _ =>
          (stops_scalar fun _ => fits_unsigned_iff).map _

/-- Fields of one value each have the same faults in an object of their own as among
the fields of a payload. -/
theorem Stops.scalars {α : Type} {layout : List (Field × Scalar)} {outcome : Read α}
    (stops : Stops (Scalar.Faulty fields) layout outcome) :
    Stops (Shape.Faulty fields) (layout.map fun part => (part.1, .scalar part.2)) outcome := by
  have faulty (part : Field × Scalar) (fault : Field) :
      Shape.Faulty fields (part.1, .scalar part.2) fault ↔ Scalar.Faulty fields part fault := by
    constructor
    · intro faulty
      cases faulty with
      | lacks lacks =>
        exact ⟨rfl, fun json held fits => lacks json held (fits_scalar_iff.2 fits)⟩
    · rintro ⟨rfl, lacks⟩
      exact .lacks fun json held fits => lacks json held (fits_scalar_iff.1 fits)
  have first (fault : Field) :
      FirstOf (Shape.Faulty fields) (layout.map fun part => (part.1, .scalar part.2)) fault ↔
        FirstOf (Scalar.Faulty fields) layout fault := by
    clear stops
    induction layout with
    | nil => exact iff_of_false (FirstOf.not_nil fault) (FirstOf.not_nil fault)
    | cons part rest inductionHypothesis =>
      rw [List.map_cons, FirstOf.cons_iff, FirstOf.cons_iff, inductionHypothesis]
      simp only [faulty]
  intro error
  simp only [first]
  exact stops error

/-! ## Lists of objects -/

theorem mapM_eq_ok_iff {α : Type} {one : Fields → Read α} {tells : Fields → α → Prop}
    (reads : ∀ element value, one element = .ok value ↔ tells element value)
    {elements : List Fields} {all : List α} :
    elements.mapM one = .ok all ↔ List.Forall₂ tells elements all := by
  induction elements generalizing all with
  | nil =>
    rw [List.mapM_nil]
    constructor
    · rintro ⟨⟩
      exact .nil
    · rintro ⟨⟩
      rfl
  | cons first more inductionHypothesis =>
    rw [List.mapM_cons]
    simp only [bind_eq_ok_iff, reads, inductionHypothesis]
    constructor
    · rintro ⟨value, here, values, later, ⟨⟩⟩
      exact .cons here later
    · rintro (_ | ⟨here, later⟩)
      exact ⟨_, here, _, later, rfl⟩

theorem stops_mapM {α : Type} {one : Fields → Read α} {inner : List (Field × Scalar)}
    (stops : ∀ element, Stops (Scalar.Faulty element) inner (one element))
    (elements : List Fields) :
    Stops (fun element => FirstOf (Scalar.Faulty element) inner) elements
      (elements.mapM one) := by
  induction elements with
  | nil =>
    rw [List.mapM_nil]
    exact Stops.done []
  | cons first more inductionHypothesis =>
    have alone : Stops (fun element => FirstOf (Scalar.Faulty element) inner) [first]
        (one first) := by
      intro error
      simp only [FirstOf.singleton_iff]
      exact stops first error
    rw [List.mapM_cons]
    exact alone.bind fun value _ => inductionHypothesis.map _

theorem list?_object?_eq_some_iff (json : Json) (elements : List Fields) :
    list? Json.object? json = some elements ↔ json = .array (elements.map Json.object) :=
  list?_eq_some_iff fun _ _ => object?_eq_some_iff

theorem objects_eq_ok_iff {α : Type} {one : Fields → Read α} {tells : Fields → α → Prop}
    (reads : ∀ element value, one element = .ok value ↔ tells element value) {all : List α} :
    objects one fields field = .ok all ↔ Tells fields tells field all := by
  rw [objects, bind_eq_ok_iff, Tells]
  simp only [read_eq_ok_iff list?_object?_eq_some_iff, mapM_eq_ok_iff reads]

theorem stops_objects {α : Type} {one : Fields → Read α} {inner : List (Field × Scalar)}
    (stops : ∀ element, Stops (Scalar.Faulty element) inner (one element)) :
    Stops (Shape.Faulty fields) [(field, .objects inner)] (objects one fields field) := by
  have agree (json : Json) :
      (Shape.objects inner).Fits json ↔ ∃ elements, list? Json.object? json = some elements := by
    simp only [list?_object?_eq_some_iff]
    constructor
    · intro fits
      cases fits with
      | objects elements => exact ⟨elements, rfl⟩
    · rintro ⟨elements, rfl⟩
      exact .objects elements
  intro error
  simp only [FirstOf.singleton_iff]
  rw [objects]
  cases outcome : read (list? Json.object?) fields field with
  | error fault =>
    obtain ⟨rfl, lacks⟩ := (read_eq_error_iff agree).1 outcome
    constructor
    · rintro ⟨⟩
      exact ⟨field, rfl, .lacks lacks⟩
    · rintro ⟨other, rfl, faulty⟩
      cases faulty with
      | lacks _ => rfl
      | inside held _ => exact absurd (Shape.Fits.objects _) (lacks _ held)
  | ok elements =>
    have holds := (read_eq_ok_iff list?_object?_eq_some_iff).1 outcome
    refine (stops_mapM stops elements error).trans
      (exists_congr fun fault => and_congr_right fun _ => ?_)
    constructor
    · exact .inside holds
    · intro faulty
      cases faulty with
      | lacks lacks => exact absurd (Shape.Fits.objects elements) (lacks _ holds)
      | inside held first =>
        have same := Json.array.inj (Option.some.inj (held.symm.trans holds))
        have injective : Function.Injective Json.object := fun _ _ => Json.object.inj
        rw [List.map_injective_iff.2 injective same] at first
        exact first

/-! ## Messages -/

theorem request_eq_ok_iff {action : Action} {asked : Request} :
    request fields action = .ok asked ↔ asked.action = action ∧ SaysRequest fields asked := by
  cases action with
  | prepare | unprepare =>
    constructor
    · rintro ⟨⟩
      exact ⟨rfl, trivial⟩
    · rintro ⟨named, _⟩
      cases asked <;> cases named
      rfl
  | startByType | stopByType =>
    simp only [request, bind_eq_ok_iff, types_eq_ok_iff]
    constructor
    · rintro ⟨types, holds, ⟨⟩⟩
      exact ⟨rfl, holds⟩
    · rintro ⟨named, said⟩
      cases asked <;> cases named
      exact ⟨_, said, rfl⟩
  | startByHandles | stopByHandles =>
    simp only [request, bind_eq_ok_iff, handles_eq_ok_iff]
    constructor
    · rintro ⟨handles, lists, ⟨⟩⟩
      exact ⟨rfl, lists⟩
    · rintro ⟨named, said⟩
      cases asked <;> cases named
      exact ⟨_, said, rfl⟩

theorem typeAnswer_eq_ok_iff {α : Type} {answer : Int32 → TypeMask → TypeMask → α}
    {given : α} :
    typeAnswer answer fields = .ok given ↔
      ∃ status requested granted, SaysTypes fields status requested granted ∧
        answer status requested granted = given := by
  simp only [typeAnswer, bind_eq_ok_iff, status_eq_ok_iff, types_eq_ok_iff]
  constructor
  · rintro ⟨code, status, _, requested, _, granted, ⟨⟩⟩
    exact ⟨_, _, _, ⟨status, requested, granted⟩, rfl⟩
  · rintro ⟨_, _, _, ⟨status, requested, granted⟩, rfl⟩
    exact ⟨_, status, _, requested, _, granted, rfl⟩

theorem handleAnswer_eq_ok_iff {α : Type} {answer : Int32 → HandleSet → HandleSet → α}
    {given : α} :
    handleAnswer answer fields = .ok given ↔
      ∃ status requested granted, SaysHandles fields status requested granted ∧
        answer status requested granted = given := by
  simp only [handleAnswer, bind_eq_ok_iff, status_eq_ok_iff, handles_eq_ok_iff]
  constructor
  · rintro ⟨_, status, _, requested, _, granted, ⟨⟩⟩
    exact ⟨_, _, _, ⟨status, requested, granted⟩, rfl⟩
  · rintro ⟨_, _, _, ⟨status, requested, granted⟩, rfl⟩
    exact ⟨_, status, _, requested, _, granted, rfl⟩

theorem result_eq_ok_iff {action : Action} {given : RelayResult} :
    result fields action = .ok given ↔ given.action = action ∧ SaysResult fields given := by
  cases action with
  | prepare | unprepare =>
    simp only [result, bind_eq_ok_iff, status_eq_ok_iff]
    constructor
    · rintro ⟨code, status, ⟨⟩⟩
      exact ⟨rfl, status⟩
    · rintro ⟨named, said⟩
      cases given <;> cases named
      exact ⟨_, said, rfl⟩
  | startByType | stopByType =>
    rw [result, typeAnswer_eq_ok_iff]
    constructor
    · rintro ⟨_, _, _, said, rfl⟩
      exact ⟨rfl, said⟩
    · rintro ⟨named, said⟩
      cases given <;> cases named
      exact ⟨_, _, _, said, rfl⟩
  | startByHandles | stopByHandles =>
    rw [result, handleAnswer_eq_ok_iff]
    constructor
    · rintro ⟨_, _, _, said, rfl⟩
      exact ⟨rfl, said⟩
    · rintro ⟨named, said⟩
      cases given <;> cases named
      exact ⟨_, _, _, said, rfl⟩

theorem reply_eq_ok_iff {action : Action} {given : Reply} :
    reply fields action = .ok given ↔ given.action = action ∧ SaysReply fields given := by
  cases action with
  | prepare =>
    simp only [reply, bind_eq_ok_iff, status_eq_ok_iff, allowList_eq_ok_iff]
    constructor
    · rintro ⟨_, status, _, combinations, ⟨⟩⟩
      exact ⟨rfl, status, combinations⟩
    · rintro ⟨named, said⟩
      cases given <;> cases named
      exact ⟨_, said.1, _, said.2, rfl⟩
  | unprepare =>
    simp only [reply, bind_eq_ok_iff, status_eq_ok_iff]
    constructor
    · rintro ⟨code, status, ⟨⟩⟩
      exact ⟨rfl, status⟩
    · rintro ⟨named, said⟩
      cases given <;> cases named
      exact ⟨_, said, rfl⟩
  | startByType | stopByType =>
    rw [reply, typeAnswer_eq_ok_iff]
    constructor
    · rintro ⟨_, _, _, said, rfl⟩
      exact ⟨rfl, said⟩
    · rintro ⟨named, said⟩
      cases given <;> cases named
      exact ⟨_, _, _, said, rfl⟩
  | startByHandles | stopByHandles =>
    rw [reply, handleAnswer_eq_ok_iff]
    constructor
    · rintro ⟨_, _, _, said, rfl⟩
      exact ⟨rfl, said⟩
    · rintro ⟨named, said⟩
      cases given <;> cases named
      exact ⟨_, _, _, said, rfl⟩

/-- Reading a payload gives the message of its kind that it said. -/
theorem message_eq_ok_iff {command : Command} {given : Message} :
    message fields command = .ok given ↔ given.command = command ∧ Says fields given := by
  cases command with
  | request action =>
    simp only [message, bind_eq_ok_iff, device_eq_ok_iff, request_eq_ok_iff]
    constructor
    · rintro ⟨_, device, asked, ⟨rfl, said⟩, ⟨⟩⟩
      exact ⟨rfl, device, said⟩
    · rintro ⟨named, said⟩
      cases given <;> cases named
      exact ⟨_, said.1, _, ⟨rfl, said.2⟩, rfl⟩
  | latencyProbe | latencyEcho =>
    simp only [message, bind_eq_ok_iff, device_eq_ok_iff, time_eq_ok_iff]
    constructor
    · rintro ⟨_, device, _, time, ⟨⟩⟩
      exact ⟨rfl, device, time⟩
    · rintro ⟨named, said⟩
      cases given <;> cases named
      exact ⟨_, said.1, _, said.2, rfl⟩
  | relayed action =>
    simp only [message, bind_eq_ok_iff, token_eq_ok_iff, device_eq_ok_iff, request_eq_ok_iff]
    constructor
    · rintro ⟨_, token, _, device, asked, ⟨rfl, said⟩, ⟨⟩⟩
      exact ⟨rfl, token, device, said⟩
    · rintro ⟨named, said⟩
      cases given <;> cases named
      exact ⟨_, said.1, _, said.2.1, _, ⟨rfl, said.2.2⟩, rfl⟩
  | reply action =>
    simp only [message, bind_eq_ok_iff, device_eq_ok_iff, reply_eq_ok_iff]
    constructor
    · rintro ⟨_, device, answer, ⟨rfl, said⟩, ⟨⟩⟩
      exact ⟨rfl, device, said⟩
    · rintro ⟨named, said⟩
      cases given <;> cases named
      exact ⟨_, said.1, _, ⟨rfl, said.2⟩, rfl⟩
  | keyState =>
    simp only [message, bind_eq_ok_iff, device_eq_ok_iff, key_eq_ok_iff]
    constructor
    · rintro ⟨_, device, _, key, ⟨⟩⟩
      exact ⟨rfl, device, key⟩
    · rintro ⟨named, said⟩
      cases given <;> cases named
      exact ⟨_, said.1, _, said.2, rfl⟩
  | keyStates =>
    simp only [message, bind_eq_ok_iff, device_eq_ok_iff,
      objects_eq_ok_iff fun _ _ => key_eq_ok_iff]
    constructor
    · rintro ⟨_, device, _, keys, ⟨⟩⟩
      exact ⟨rfl, device, keys⟩
    · rintro ⟨named, said⟩
      cases given <;> cases named
      exact ⟨_, said.1, _, said.2, rfl⟩
  | inputEvents =>
    simp only [message, bind_eq_ok_iff, device_eq_ok_iff,
      objects_eq_ok_iff fun _ _ => event_eq_ok_iff]
    constructor
    · rintro ⟨_, device, _, events, ⟨⟩⟩
      exact ⟨rfl, device, events⟩
    · rintro ⟨named, said⟩
      cases given <;> cases named
      exact ⟨_, said.1, _, said.2, rfl⟩
  | relayedReply action =>
    simp only [message, bind_eq_ok_iff, token_eq_ok_iff, device_eq_ok_iff, reply_eq_ok_iff]
    constructor
    · rintro ⟨_, token, _, device, answer, ⟨rfl, said⟩, ⟨⟩⟩
      exact ⟨rfl, token, device, said⟩
    · rintro ⟨named, said⟩
      cases given <;> cases named
      exact ⟨_, said.1, _, said.2.1, _, ⟨rfl, said.2.2⟩, rfl⟩
  | relayRequest action =>
    simp only [message, bind_eq_ok_iff, device_eq_ok_iff, request_eq_ok_iff]
    constructor
    · rintro ⟨_, device, _, source, _, sink, asked, ⟨rfl, said⟩, ⟨⟩⟩
      exact ⟨rfl, device, source, sink, said⟩
    · rintro ⟨named, said⟩
      cases given <;> cases named
      exact ⟨_, said.1, _, said.2.1, _, said.2.2.1, _, ⟨rfl, said.2.2.2⟩, rfl⟩
  | relayResult action =>
    simp only [message, bind_eq_ok_iff, device_eq_ok_iff, result_eq_ok_iff]
    constructor
    · rintro ⟨_, source, _, sink, given, ⟨rfl, said⟩, ⟨⟩⟩
      exact ⟨rfl, source, sink, said⟩
    · rintro ⟨named, said⟩
      cases given <;> cases named
      exact ⟨_, said.1, _, said.2.1, _, ⟨rfl, said.2.2⟩, rfl⟩

theorem stops_request (action : Action) :
    Stops (Shape.Faulty fields) (Layout.request action) (request fields action) := by
  cases action with
  | prepare | unprepare => exact Stops.done _
  | startByType | stopByType => exact stops_types.map _
  | startByHandles | stopByHandles => exact stops_handles.map _

theorem stops_typeAnswer {α : Type} (answer : Int32 → TypeMask → TypeMask → α) :
    Stops (Shape.Faulty fields)
      [Layout.status, Layout.types .inputTypes, Layout.types .grantedTypes]
      (typeAnswer answer fields) :=
  stops_status.bind fun _ _ => stops_types.bind fun _ _ => stops_types.map _

theorem stops_handleAnswer {α : Type} (answer : Int32 → HandleSet → HandleSet → α) :
    Stops (Shape.Faulty fields)
      [Layout.status, Layout.handles .handleIds, Layout.handles .grantedHandleIds]
      (handleAnswer answer fields) :=
  stops_status.bind fun _ _ => stops_handles.bind fun _ _ => stops_handles.map _

theorem stops_result (action : Action) :
    Stops (Shape.Faulty fields) (Layout.result action) (result fields action) := by
  cases action with
  | prepare | unprepare => exact stops_status.map _
  | startByType | stopByType => exact stops_typeAnswer _
  | startByHandles | stopByHandles => exact stops_handleAnswer _

theorem stops_reply (action : Action) :
    Stops (Shape.Faulty fields) (Layout.reply action) (reply fields action) := by
  cases action with
  | prepare => exact stops_status.bind fun _ _ => stops_allowList.map _
  | unprepare => exact stops_status.map _
  | startByType | stopByType => exact stops_typeAnswer _
  | startByHandles | stopByHandles => exact stops_handleAnswer _

/-- Reading a payload stops at the first fault of the layout of its command. -/
theorem stops_message (command : Command) :
    Stops (Shape.Faulty fields) command.layout (message fields command) := by
  cases command with
  | request action => exact stops_device.bind fun _ _ => (stops_request action).map _
  | latencyProbe | latencyEcho =>
    exact stops_device.bind fun _ _ => (stops_value fun _ => fits_unsigned_iff).map _
  | relayed action =>
    exact stops_token.bind fun _ _ => stops_device.bind fun _ _ => (stops_request action).map _
  | reply action => exact stops_device.bind fun _ _ => (stops_reply action).map _
  | keyState => exact stops_device.bind fun _ _ => stops_key.scalars.map _
  | keyStates => exact stops_device.bind fun _ _ => (stops_objects fun _ => stops_key).map _
  | inputEvents => exact stops_device.bind fun _ _ => (stops_objects fun _ => stops_event).map _
  | relayedReply action =>
    exact stops_token.bind fun _ _ => stops_device.bind fun _ _ => (stops_reply action).map _
  | relayRequest action =>
    exact stops_device.bind fun _ _ => stops_device.bind fun _ _ =>
      stops_device.bind fun _ _ => (stops_request action).map _
  | relayResult action =>
    exact stops_device.bind fun _ _ => stops_device.bind fun _ _ => (stops_result action).map _

end Fields

end Payload

/-! ## Payloads -/

namespace Bytes

theorem toNumber_append_singleton (bytes : Bytes) (last : UInt8) :
    toNumber (bytes ++ [last]) = 256 * toNumber bytes + last.toNat := by
  rw [toNumber, List.foldl_append]
  rfl

theorem toNumber_lt (bytes : Bytes) : toNumber bytes < Nat.pow 256 bytes.length := by
  induction bytes using List.reverseRecOn with
  | nil => decide
  | append_singleton bytes last inductionHypothesis =>
    have small := last.toNat_lt
    rw [toNumber_append_singleton, List.length_append, List.length_singleton, Nat.pow_eq,
      Nat.pow_succ, ← Nat.pow_eq]
    omega

/-- Bytes come back from their number. -/
theorem ofNumber_toNumber (bytes : Bytes) : ofNumber bytes.length (toNumber bytes) = bytes := by
  induction bytes using List.reverseRecOn with
  | nil => rfl
  | append_singleton bytes last inductionHypothesis =>
    have small := last.toNat_lt
    have upper : (256 * toNumber bytes + last.toNat) / 256 = toNumber bytes := by omega
    rw [toNumber_append_singleton, List.length_append, List.length_singleton, ofNumber, upper,
      inductionHypothesis]
    simp

/-- Four bytes are those of a number of 32 bits. -/
theorem exists_number {bytes : Bytes} (four : bytes.length = 4) :
    ∃ number : UInt32, bytes = ofNumber 4 number.toNat := by
  have small := toNumber_lt bytes
  rw [four] at small
  refine ⟨(toNumber bytes).toUInt32, ?_⟩
  have number : (toNumber bytes).toUInt32.toNat = toNumber bytes :=
    UInt32.toNat_ofNat_of_lt small
  have back := ofNumber_toNumber bytes
  rw [four] at back
  rw [number, back]

theorem ofText_of_toText? {bytes : Bytes} {text : String} (read : toText? bytes = some text) :
    bytes = ofText text := by
  rw [toText?, String.fromUTF8?] at read
  split at read
  · cases read
    rfl
  · cases read

end Bytes

theorem Json.spelled_iff {json : Json} {bytes : Bytes} :
    json.Spelled bytes ↔ (Bytes.toText? bytes).bind Json.read? = some json := by
  rw [Option.bind_eq_some_iff]
  constructor
  · rintro ⟨text, rfl, denoted⟩
    exact ⟨text, Bytes.toText?_ofText text, Json.read?_eq_some_iff.2 denoted⟩
  · rintro ⟨text, spells, read⟩
    exact ⟨text, Bytes.ofText_of_toText? spells, Json.read?_eq_some_iff.1 read⟩

namespace Frame

theorem decodePayload_eq_iff {command : Command} {bytes : Bytes}
    {result : Except FrameError Message} :
    decodePayload command bytes = result ↔ ReadsPayload command bytes result := by
  rw [decodePayload]
  constructor
  · rintro rfl
    cases found : (Bytes.toText? bytes).bind Json.read? with
    | none =>
      refine .notJson fun json spelled => ?_
      rw [Json.spelled_iff, found] at spelled
      cases spelled
    | some json =>
      have spelled := Json.spelled_iff.2 found
      dsimp only
      rw [Message.ofPayload]
      cases shape : json.object? with
      | none =>
        refine .notAnObject spelled fun fields same => ?_
        rw [same] at shape
        cases shape
      | some fields =>
        rw [Payload.object?_eq_some_iff.1 shape] at spelled
        dsimp only
        cases outcome : Payload.message fields command with
        | error error =>
          obtain ⟨field, rfl, first⟩ := (Payload.stops_message command error).1 outcome
          exact .badField spelled first
        | ok message =>
          obtain ⟨named, said⟩ := Payload.message_eq_ok_iff.1 outcome
          exact .message spelled named said
  · intro reads
    cases reads with
    | notJson unspelled =>
      have absent : (Bytes.toText? bytes).bind Json.read? = none := by
        rw [Option.eq_none_iff_forall_ne_some]
        exact fun json found => unspelled json (Json.spelled_iff.2 found)
      rw [absent]
    | @notAnObject json spelled other =>
      have shape : json.object? = none := by
        rw [Option.eq_none_iff_forall_ne_some]
        exact fun fields found => other fields (Payload.object?_eq_some_iff.1 found)
      rw [Json.spelled_iff.1 spelled]
      dsimp only
      rw [Message.ofPayload, shape]
    | badField spelled first =>
      rw [Json.spelled_iff.1 spelled]
      exact (Payload.stops_message command _).2 ⟨_, rfl, first⟩
    | message spelled named said =>
      rw [Json.spelled_iff.1 spelled]
      exact Payload.message_eq_ok_iff.2 ⟨named, said⟩

/-! ## Headers -/

namespace Heads

variable {number declared : UInt32} {head : Bytes}

theorem length_eq (heads : Heads number declared head) : head.length = headerSize := by
  obtain ⟨reserved, stamps, three, sixteen, rfl⟩ := heads
  simp [three, sixteen, headerSize]

theorem check_eq (heads : Heads number declared head) (rest : Bytes) :
    Header.check (head ++ rest) = .ok () := by
  have long : ¬(head ++ rest).length < headerSize := by
    rw [List.length_append, heads.length_eq]
    omega
  obtain ⟨reserved, stamps, _, _, rfl⟩ := heads
  rw [Header.check.eq_def, if_neg long]
  rfl

theorem commandNumber_eq (heads : Heads number declared head) (rest : Bytes) :
    Header.commandNumber (head ++ rest) = number := by
  obtain ⟨reserved, stamps, three, _, rfl⟩ := heads
  have place : ((1 : UInt8) :: reserved).length = 4 := by
    rw [List.length_cons, three]
  rw [Header.commandNumber, List.append_assoc, List.append_assoc, List.append_assoc,
    Bytes.numberAt_ofNumber place, Nat.mod_eq_of_lt number.toNat_lt]
  exact UInt32.ofNat_toNat

theorem declaredLength_eq (heads : Heads number declared head) (rest : Bytes) :
    Header.declaredLength (head ++ rest) = declared.toNat := by
  obtain ⟨reserved, stamps, three, _, rfl⟩ := heads
  have place :
      ((1 : UInt8) :: reserved ++ Bytes.ofNumber 4 number.toNat).length = 8 := by
    rw [List.length_append, List.length_cons, three, Bytes.length_ofNumber]
  rw [Header.declaredLength, List.append_assoc, List.append_assoc,
    Bytes.numberAt_ofNumber place, Nat.mod_eq_of_lt declared.toNat_lt]

/-- Enough bytes with the right version start with a header. -/
theorem exists_of_long {rest : Bytes} (long : headerSize ≤ (protocolVersion :: rest).length) :
    ∃ (number declared : UInt32) (head payload : Bytes),
      protocolVersion :: rest = head ++ payload ∧ Heads number declared head := by
  have enough : 27 ≤ rest.length := by
    rw [List.length_cons, headerSize] at long
    omega
  obtain ⟨number, numbered⟩ : ∃ number : UInt32,
      (rest.drop 3).take 4 = Bytes.ofNumber 4 number.toNat := by
    apply Bytes.exists_number
    rw [List.length_take, List.length_drop]
    omega
  obtain ⟨declared, declares⟩ : ∃ declared : UInt32,
      (rest.drop 7).take 4 = Bytes.ofNumber 4 declared.toNat := by
    apply Bytes.exists_number
    rw [List.length_take, List.length_drop]
    omega
  refine ⟨number, declared, protocolVersion :: rest.take 27, rest.drop 27, ?_,
    ⟨rest.take 3, (rest.drop 11).take 16, ?_, ?_, ?_⟩⟩
  · rw [List.cons_append, List.take_append_drop]
  · rw [List.length_take]
    omega
  · rw [List.length_take, List.length_drop]
    omega
  · have apart (first second start : Nat) :
        (rest.drop start).take (first + second) =
          (rest.drop start).take first ++ (rest.drop (start + first)).take second := by
      rw [List.take_add, List.drop_drop]
    rw [← numbered, ← declares, List.cons_append, List.cons_append, List.cons_append]
    congr 1
    rw [List.append_assoc, List.append_assoc, ← apart 4 16 7, ← apart 4 20 3]
    exact apart 3 24 0

end Heads

/-- Bytes that do not start with a header, and their fault. -/
inductive Headless : Bytes → FrameError → Prop
  | insufficientData {bytes : Bytes} :
      bytes.length < headerSize → Headless bytes (.insufficientData bytes.length)
  | unsupportedVersion {version : UInt8} {rest : Bytes} :
      headerSize ≤ (version :: rest).length → version ≠ protocolVersion →
        Headless (version :: rest) (.unsupportedVersion version)

/-- All bytes start with a header, or they do not. -/
theorem headless_or_heads (bytes : Bytes) :
    (∃ fault, Headless bytes fault) ∨
      ∃ (number declared : UInt32) (head rest : Bytes),
        bytes = head ++ rest ∧ Heads number declared head := by
  by_cases few : bytes.length < headerSize
  · exact Or.inl ⟨_, .insufficientData few⟩
  · cases bytes with
    | nil => exact absurd (by decide) few
    | cons version rest =>
      have long : headerSize ≤ (version :: rest).length := Nat.not_lt.1 few
      by_cases same : version = protocolVersion
      · subst same
        exact Or.inr (Heads.exists_of_long long)
      · exact Or.inl ⟨_, .unsupportedVersion long same⟩

namespace Headless

variable {bytes : Bytes} {fault : FrameError}

theorem check_eq (headless : Headless bytes fault) : Header.check bytes = .error fault := by
  cases headless with
  | insufficientData few => rw [Header.check.eq_def, if_pos few]
  | unsupportedVersion long other =>
    rw [Header.check.eq_def, if_neg (Nat.not_lt.2 long)]
    exact if_neg other

theorem read_eq (headless : Headless bytes fault) : Header.read bytes = .error fault := by
  rw [Header.read, headless.check_eq]
  rfl

theorem decode_eq (headless : Headless bytes fault) : decode bytes = .error fault := by
  rw [decode, headless.read_eq]
  rfl

end Headless

/-! ## Frames -/

theorem read_of_unknown {number declared : UInt32} {head : Bytes}
    (heads : Heads number declared head) (unknown : Command.ofCode? number = none)
    (rest : Bytes) : Header.read (head ++ rest) = .error (.unknownCommand number) := by
  rw [Header.read, heads.check_eq, heads.commandNumber_eq, unknown]
  rfl

theorem read_of_known {command : Command} {declared : UInt32} {head : Bytes}
    (heads : Heads command.code declared head) (rest : Bytes) :
    Header.read (head ++ rest) =
      .ok
        { command
          payloadLength := declared
          sequence := (Bytes.numberAt 12 8 (head ++ rest)).toUInt64
          timestampUs := (Bytes.numberAt 20 8 (head ++ rest)).toUInt64 } := by
  rw [Header.read, heads.check_eq, heads.commandNumber_eq, heads.declaredLength_eq,
    Command.ofCode?_code]
  change Except.ok _ = _
  rw [show declared.toNat.toUInt32 = declared from UInt32.ofNat_toNat]

/-- A frame with a known command is read up to the length that it declares. -/
theorem decode_of_heads {command : Command} {declared : UInt32} {head : Bytes}
    (heads : Heads command.code declared head) (rest : Bytes) :
    decode (head ++ rest) =
      if rest.length < declared.toNat then
        .error (.payloadLengthMismatch declared.toNat rest.length)
      else
        (decodePayload command (rest.take declared.toNat)).map fun message =>
          (message, headerSize + declared.toNat) := by
  have read := read_of_known heads rest
  have length := heads.length_eq
  have available : (head ++ rest).length - headerSize = rest.length := by
    rw [List.length_append, length]
    omega
  rw [decode, read]
  change (if (head ++ rest).length - headerSize < declared.toNat then
      Except.error (FrameError.payloadLengthMismatch declared.toNat
        ((head ++ rest).length - headerSize))
    else _ >>= _) = _
  rw [available, List.drop_left' length]
  split
  · rfl
  · cases decodePayload command (rest.take declared.toNat) with
    | error _ => rfl
    | ok _ => rfl

theorem decode_of_reads {bytes : Bytes} {result : Except FrameError (Message × Nat)}
    (reads : Reads bytes result) : decode bytes = result := by
  cases reads with
  | insufficientData few => exact (Headless.insufficientData few).decode_eq
  | unsupportedVersion long other => exact (Headless.unsupportedVersion long other).decode_eq
  | @unknownCommand number declared head rest heads unknown =>
    have absent : Command.ofCode? number = none := by
      rw [Option.eq_none_iff_forall_ne_some]
      exact fun command found => unknown command (Command.code_of_ofCode? found)
    rw [decode, read_of_unknown heads absent]
    rfl
  | payloadLengthMismatch heads few =>
    rw [decode_of_heads heads, if_pos few]
  | @payload command declared head payload rest result heads whole reads =>
    have enough : ¬(payload ++ rest).length < declared.toNat := by
      rw [List.length_append, whole]
      omega
    rw [List.append_assoc, decode_of_heads heads, if_neg enough, List.take_left' whole,
      decodePayload_eq_iff.2 reads]
    rfl

/-- The grammar says something about all bytes. -/
theorem exists_reads (bytes : Bytes) : ∃ result, Reads bytes result := by
  rcases headless_or_heads bytes with ⟨_, headless⟩ | ⟨number, declared, head, payload, rfl, heads⟩
  · cases headless with
    | insufficientData few => exact ⟨_, .insufficientData few⟩
    | unsupportedVersion long other => exact ⟨_, .unsupportedVersion long other⟩
  · cases known : Command.ofCode? number with
    | none =>
      refine ⟨_, .unknownCommand heads fun command same => ?_⟩
      rw [← same, Command.ofCode?_code] at known
      cases known
    | some command =>
      obtain rfl := Command.code_of_ofCode? known
      by_cases missing : payload.length < declared.toNat
      · exact ⟨_, .payloadLengthMismatch heads missing⟩
      · have whole : (payload.take declared.toNat).length = declared.toNat := by
          rw [List.length_take]
          omega
        have reads :
            Reads (head ++ payload.take declared.toNat ++ payload.drop declared.toNat) _ :=
          .payload heads whole (decodePayload_eq_iff.1 rfl)
        rw [List.append_assoc, List.take_append_drop] at reads
        exact ⟨_, reads⟩

/-- Decoding gives exactly what the grammar of frames says: the message of a frame
and its length, or the first fault. -/
theorem decode_eq_iff (bytes : Bytes) (result : Except FrameError (Message × Nat)) :
    decode bytes = result ↔ Reads bytes result := by
  constructor
  · rintro rfl
    obtain ⟨result, reads⟩ := exists_reads bytes
    rw [decode_of_reads reads]
    exact reads
  · exact decode_of_reads

end Frame

end InputSharing

import InputSharing.Proofs.Sink.Batches
import InputSharing.Proofs.Sink.Departing
import InputSharing.Proofs.Sink.Settling

/-!
# How sessions end what they share

A session ends its sharing when it asks to stop, for some classes, for some handles or
altogether, or when its channel is gone.  What this comes to can be read off what the sink
keeps for that session alone: its switch, its events that wait and its held keys.
-/

namespace InputSharing.Sink

/-! ## Requests to stop -/

/-- What a request to stop gives up. -/
inductive Stop where
  | byType (types : TypeMask)
  | byHandles (handles : HandleSet)
  | all
  deriving DecidableEq

namespace Stop

def request : Stop → Request
  | byType types => .stopByType types
  | byHandles handles => .stopByHandles handles
  | all => .unprepare

/-- A handle is lost when it had one of the classes and no other, or when it is given
up itself. -/
def Takes (owned : Shares) (handle : HandleId) : Stop → Prop
  | byType types =>
      ∃ classes, owned[handle]? = some classes ∧
        (∃ place, place ∈ classes ∧ place ∈ types) ∧ ∀ place ∈ classes, place ∈ types
  | byHandles handles => handle ∈ owned ∧ handle ∈ handles
  | all => handle ∈ owned

theorem Takes.owned {owned : Shares} {handle : HandleId} {stop : Stop}
    (takes : stop.Takes owned handle) : handle ∈ owned := by
  cases stop with
  | byType types =>
      obtain ⟨classes, found, -⟩ := takes
      exact Table.mem_of_getElem? found
  | byHandles handles => exact takes.1
  | all => exact takes

/-- The switch of a session without the classes that it gives up. -/
def lowers (switch : Switch) : Stop → Switch
  | byType types => { switch with handles := switch.handles.map fun _ owned => owned \ types }
  | byHandles _ | all => switch

/-- The handles that are to be taken back if they are owned. -/
def names (switch : Switch) : Stop → HandleSet
  | byType types => Turn.emptied switch types
  | byHandles handles => handles
  | all => HandleSet.ofKeys switch.handles

def released (switch : Switch) (stop : Stop) : HandleSet :=
  Turn.releasable (stop.lowers switch) (stop.names switch)

theorem mem_released {switch : Switch} {stop : Stop} {handle : HandleId} :
    handle ∈ stop.released switch ↔ stop.Takes switch.handles handle := by
  cases stop with
  | byType types =>
      simp only [released, lowers, names, Turn.mem_releasable, Turn.emptied, Shares.mem_ofKeys,
        Std.ExtTreeMap.mem_map, Table.mem_iff_exists, Std.ExtTreeMap.getElem?_filter',
        Option.filter_eq_some_iff, TypeMask.intersects_iff, TypeMask.isEmpty_iff,
        TypeMask.mem_sdiff, Takes]
      constructor
      · rintro ⟨-, classes, ⟨found, touched⟩, none_left⟩
        refine ⟨classes, found, touched, ?_⟩
        intro place member
        by_contra away
        exact none_left place ⟨member, away⟩
      · rintro ⟨classes, found, touched, all⟩
        refine ⟨⟨classes, found⟩, classes, ⟨found, touched⟩, ?_⟩
        rintro place ⟨member, away⟩
        exact away (all place member)
  | byHandles handles => exact Turn.mem_releasable
  | all =>
      refine Turn.mem_releasable.trans ⟨And.left, ?_⟩
      exact fun owned => ⟨owned, Shares.mem_ofKeys.2 owned⟩

/-- The switch that a session keeps. -/
def keeps (switch : Switch) : Stop → Option Switch
  | all => none
  | stop =>
      some { switch with handles := Shares.leave (stop.lowers switch).handles (stop.names switch) }

/-- The events that still wait when handles have been taken back. -/
def waits (released : HandleSet) (waiting : Option (List InputEvent)) :
    Stop → Option (List InputEvent)
  | all => none
  | _ => waiting.map fun events => if released.isEmpty then events else []

/-- What a session hears that is not prepared. -/
def refusal : Stop → Reply
  | byType types => .stoppedByType SharingError.switchNotFound.statusCode types ∅
  | byHandles handles => .stoppedByHandles SharingError.switchNotFound.statusCode handles ∅
  | all => .unprepared SharingError.notPrepared.statusCode

def reply (owned : Shares) (released : HandleSet) : Stop → Reply
  | byType types => .stoppedByType Status.ok types (TypeMask.unionOf owned ∩ types)
  | byHandles handles => .stoppedByHandles Status.ok handles released
  | all => .unprepared Status.ok

end Stop

/-! ## Endings -/

/-- How a session ends what it shares. -/
inductive Ending where
  /-- It asks to stop. -/
  | stops (via : Via) (caller : DeviceId) (stop : Stop)
  /-- Its channel is gone. -/
  | lost

def Ending.occurrence (session : SessionId) : Ending → Occurrence
  | stops via caller stop => .message session (via.asking caller stop.request)
  | lost => .closed session

namespace Turn

variable {τ κ : Type} [Collector κ]

/-- What a request to stop makes of a session. -/
def stopped (turn : Turn τ κ) (session : SessionId) (via : Via) (stop : Stop) : Departure :=
  match turn.sink.switches[session]? with
  | none =>
      { switch := none
        waiting := turn.sink.outbox[session]?
        messages := [via.message turn.sink.device stop.refusal] }
  | some switch =>
      let released := stop.released switch
      { released
        switch := stop.keeps switch
        waiting := stop.waits released turn.sink.outbox[session]?
        messages :=
          turn.farewell session released ++
            [via.message turn.sink.device (stop.reply switch.handles released)] }

/-- What an ending makes of a session. -/
def departure (turn : Turn τ κ) (session : SessionId) : Ending → Departure
  | .stops via _ stop => turn.stopped session via stop
  | .lost =>
      { released := (turn.sink.handlesOf session).getD ∅
        switch := none
        waiting := none
        severs := true }

end Turn

/-! ## Events that wait -/

section Waiting

variable {τ κ : Type} [Transport τ] [Collector κ]

theorem Turn.Neat.undergo {limit : Nat} {turn : Turn (Recorded τ) κ} (neat : turn.Neat limit)
    (books : Books turn.sink) (occurrence : Occurrence) :
    (turn.undergo occurrence).Neat limit := by
  cases occurrence with
  | opened session peer =>
      exact ⟨neat.limit_eq, neat.batch_sized, neat.aside_short, neat.aside_owned⟩
  | message session message => exact (turn.spools_handle books session message).neat limit neat
  | closed session => exact neat.closed books session
  | captured event => exact neat.captured event
  | flush => exact turn.spools_flush.neat limit neat
  | listen => exact ⟨neat.limit_eq, neat.batch_sized, neat.aside_short, neat.aside_owned⟩

theorem Reached.neat {device : DeviceId} {allowList : AllowList} {batchMax : Nat}
    {turn : Turn (Recorded τ) (Metered κ)} (reached : Reached device allowList batchMax turn) :
    turn.Neat (max batchMax 1) := by
  induction reached with
  | start line hardware =>
      refine ⟨rfl, ?_, ?_, ?_⟩
      · intro session batch listed
        cases listed
      · intro session
        exact Nat.lt_of_lt_of_le Nat.zero_lt_one (Nat.le_max_right batchMax 1)
      · intro session event waits
        cases waits
  | undergo occurrence before _ neat =>
      exact neat.undergo before.ownership.books occurrence
  | elsewhere line hardware _ neat =>
      exact ⟨neat.limit_eq, neat.batch_sized, neat.aside_short, neat.aside_owned⟩

omit [Collector κ] in
theorem Turn.flushSession_of_nothing {turn : Turn τ κ} {session : SessionId}
    (nothing : turn.sink.aside session = []) : turn.flushSession session = turn := by
  rw [aside] at nothing
  rw [flushSession]
  cases found : turn.sink.outbox[session]? with
  | none => rfl
  | some waiting =>
      rw [found] at nothing
      obtain rfl : waiting = [] := nothing
      rfl

end Waiting

/-! ## Every ending -/

section Ending

variable {τ κ : Type} [Transport τ] [Collector κ] {turn : Turn (Recorded τ) (Metered κ)}
  {session : SessionId} {switch : Switch}

theorem Turn.serve_of_unprepared (absent : turn.sink.switches[session]? = none) (via : Via)
    (stop : Stop) :
    turn.serve session via stop.request = turn.answer session via stop.refusal := by
  cases stop with
  | byType types =>
      rw [Stop.request, serve, onStopByType, absent]
      rfl
  | byHandles handles =>
      rw [Stop.request, serve, onStopByHandles, absent]
      rfl
  | all =>
      rw [Stop.request, serve, onUnprepare, absent]
      rfl

theorem departs_refused (absent : turn.sink.switches[session]? = none) (via : Via)
    (stop : Stop) :
    Departs session (turn.stopped session via stop) turn
      (turn.serve session via stop.request) := by
  have departs := (Departs.nothing session turn).answer via stop.refusal
  rw [absent] at departs
  rw [Turn.stopped, absent, Turn.serve_of_unprepared absent]
  exact departs

theorem Ownership.departs_stopByType (ownership : Ownership turn)
    (prepared : turn.sink.switches[session]? = some switch) (via : Via)
    (types : TypeMask) :
    Departs session (turn.stopped session via (.byType types)) turn
      (turn.onStopByType session via types) := by
  let lessened := turn.lessen session switch types
  have there : lessened.sink.switches[session]? = some ((Stop.byType types).lowers switch) :=
    Std.ExtTreeMap.getElem?_insert_self
  have still : Ownership lessened := by
    refine ⟨ownership.books.reclass prepared ?_, ?_⟩
    · intro handle
      exact Std.ExtTreeMap.mem_map
    · exact ⟨ownership.reading.capturing_iff, ownership.reading.meters⟩
  have entering : turn.Differs session lessened :=
    ⟨_, _, rfl, fun tested other => ⟨(Table.getElem?_insert_eq ..).trans (if_neg other), rfl⟩⟩
  have departs :=
    ((still.departs_release there (Turn.emptied switch types) true).between entering
      (.refl session _)).answer via
        (.stoppedByType Status.ok types (TypeMask.unionOf switch.handles ∩ types))
  rw [(Turn.release_settles there (Turn.emptied switch types) true).2, if_pos rfl,
    outbox_release there] at departs
  rw [Turn.stopped, prepared, Turn.onStopByType_of_prepared prepared]
  exact departs

theorem Ownership.departs_stopByHandles (ownership : Ownership turn)
    (prepared : turn.sink.switches[session]? = some switch) (via : Via)
    (handles : HandleSet) :
    Departs session (turn.stopped session via (.byHandles handles)) turn
      (turn.onStopByHandles session via handles) := by
  have departs :=
    (ownership.departs_release prepared handles true).answer via
      (.stoppedByHandles Status.ok handles (Turn.releasable switch handles))
  rw [(Turn.release_settles prepared handles true).2, if_pos rfl,
    outbox_release prepared] at departs
  rw [Turn.stopped, prepared, Turn.onStopByHandles_of_prepared prepared]
  exact departs

/-- What waits is sent when handles are released; without handles, nothing waits. -/
theorem Ownership.onUnprepare_eq {limit : Nat} (ownership : Ownership turn)
    (neat : turn.Neat limit) (prepared : turn.sink.switches[session]? = some switch) (via : Via) :
    turn.onUnprepare session via =
      ((turn.release session (HandleSet.ofKeys switch.handles) true).2.vacate session).answer
        session via (.unprepared Status.ok) := by
  let owned := HandleSet.ofKeys switch.handles
  let after := (turn.release session owned true).2
  have nothing : after.sink.aside session = [] := by
    rw [aside, outbox_release prepared owned]
    cases something : (Turn.releasable switch owned).isEmpty with
    | false =>
        cases turn.sink.outbox[session]? with
        | none => rfl
        | some waiting => rfl
    | true =>
        have unowned (event : InputEvent) : event ∉ turn.sink.aside session := by
          intro waits
          have mine := neat.aside_owned session event waits
          have held := (ownership.books.owned_iff prepared _).1 mine
          have member := Turn.mem_releasable.2 ⟨held, Shares.mem_ofKeys.2 held⟩
          rw [Std.ExtTreeSet.isEmpty_iff.1 something] at member
          exact Std.ExtTreeSet.not_mem_empty member
        simpa [aside] using List.eq_nil_iff_forall_not_mem.2 unowned
  have flushed : after.flushSession session = after := Turn.flushSession_of_nothing nothing
  refine (Turn.onUnprepare_of_prepared prepared via).trans ?_
  dsimp only
  rw [flushed]

theorem Ownership.departs_unprepare {limit : Nat} (ownership : Ownership turn)
    (neat : turn.Neat limit) (prepared : turn.sink.switches[session]? = some switch) (via : Via) :
    Departs session (turn.stopped session via .all) turn
      (turn.onUnprepare session via) := by
  let after := (turn.release session (HandleSet.ofKeys switch.handles) true).2
  have departs :=
    ((ownership.departs_release prepared (HandleSet.ofKeys switch.handles) true).between
      (.refl session turn) (after.differs_vacate session)).answer via (.unprepared Status.ok)
  have gone :
      (after.vacate session).sink.switches[session]? = none ∧
        (after.vacate session).sink.outbox[session]? = none :=
    ⟨Std.ExtTreeMap.getElem?_erase_self, Std.ExtTreeMap.getElem?_erase_self⟩
  rw [gone.1, gone.2] at departs
  rw [Turn.stopped, prepared, ownership.onUnprepare_eq neat prepared]
  exact departs

theorem releasable_all (switch : Switch) :
    Turn.releasable switch (HandleSet.ofKeys switch.handles) =
      HandleSet.ofKeys switch.handles := by
  apply Std.ExtTreeSet.ext_mem
  intro handle
  rw [Turn.mem_releasable, Shares.mem_ofKeys, and_self]

theorem Ownership.departs_closed (ownership : Ownership turn) (session : SessionId) :
    Departs session (turn.departure session .lost) turn (turn.closed session) := by
  have entering : turn.Differs session (turn.quiet session) :=
    ⟨_, _, rfl, fun tested other => ⟨rfl, (Table.getElem?_erase_eq ..).trans (if_neg other)⟩⟩
  have silenced : (turn.quiet session).sink.outbox[session]? = none :=
    Std.ExtTreeMap.getElem?_erase_self
  cases found : turn.sink.switches[session]? with
  | none =>
      let parted := (turn.quiet session).withRegistry (turn.sink.registry.closed session).2
      have departs : Departs session
          { switch := parted.sink.switches[session]?
            waiting := parted.sink.outbox[session]?
            severs := true }
          turn parted :=
        ((Departs.nothing session (turn.quiet session)).sever rfl).between entering
          (.refl session parted)
      have gone : parted.sink.switches[session]? = none := found
      have silent : parted.sink.outbox[session]? = none := silenced
      rw [gone, silent] at departs
      rw [Turn.departure, handlesOf, found, Turn.closed_of_unprepared found]
      exact departs
  | some switch =>
      have prepared : (turn.quiet session).sink.switches[session]? = some switch := found
      let released :=
        ((turn.quiet session).release session (HandleSet.ofKeys switch.handles) false).2
      let parted := released.withRegistry (turn.sink.registry.closed session).2
      let last : Turn (Recorded τ) (Metered κ) :=
        { parted with
          sink := { parted.sink with switches := released.sink.switches.erase session } }
      have leaving : parted.Differs session last :=
        ⟨_, _, rfl, fun tested other => ⟨(Table.getElem?_erase_eq ..).trans (if_neg other), rfl⟩⟩
      have departs : Departs session
          { released := Turn.releasable switch (HandleSet.ofKeys switch.handles)
            switch := last.sink.switches[session]?
            waiting := last.sink.outbox[session]?
            severs := true }
          turn last :=
        (((ownership.quiet session).departs_release prepared (HandleSet.ofKeys switch.handles)
          false).sever rfl).between entering leaving
      have gone : last.sink.switches[session]? = none := Std.ExtTreeMap.getElem?_erase_self
      have silent : last.sink.outbox[session]? = none := by
        refine Std.ExtTreeMap.getElem?_eq_none fun member => ?_
        exact Table.not_mem_of_getElem? silenced ((Turn.mem_outbox_release ..).1 member)
      rw [gone, silent, releasable_all] at departs
      rw [Turn.departure, handlesOf, found, Turn.closed_of_prepared found]
      exact departs

variable {device : DeviceId} {allowList : AllowList} {batchMax : Nat}

/-- Whatever way a session ends what it shares, the sink changes as its departure says. -/
theorem Reached.departs (reached : Reached device allowList batchMax turn) (session : SessionId)
    (ending : Ending) :
    Departs session (turn.departure session ending) turn
      (turn.undergo (ending.occurrence session)) := by
  cases ending with
  | lost => exact reached.ownership.departs_closed session
  | stops via caller stop =>
      rw [Ending.occurrence, Turn.undergo, Turn.handle_asking]
      cases prepared : turn.sink.switches[session]? with
      | none => exact departs_refused prepared via stop
      | some switch =>
          cases stop with
          | byType types => exact reached.ownership.departs_stopByType prepared via types
          | byHandles handles =>
              exact reached.ownership.departs_stopByHandles prepared via handles
          | all => exact reached.ownership.departs_unprepare reached.neat prepared via

end Ending

end InputSharing.Sink

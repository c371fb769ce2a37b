import InputSharing.Proofs.Chatter
import InputSharing.Proofs.Sink.Parts
import InputSharing.Proofs.TypeMask

/-!
# What requests do to what is shared

A session shares the handles that it owns, each with its classes.  `Settles` says what
a request makes of this, and what the answer is.  Every request that a sink serves is
settled so: the sink is done with it, says nothing but chatter on the way, and then
sends the answer.
-/

namespace InputSharing

/-! ## What is shared -/

/-- The handles that a session owns, each with its classes. -/
abbrev Shares : Type := Table HandleId TypeMask

namespace Shares

/-- Handles are granted, and classes of handles that were there before. -/
def join (shares granted : Shares) : Shares :=
  shares ∪ granted.map fun handle types => shares[handle]?.getD ∅ ∪ types

/-- Classes are taken back from all handles, and the handles that had one of them and
have none left. -/
def without (shares : Shares) (types : TypeMask) : Shares :=
  (shares.filter fun _ owned => !(owned.intersects types && (owned \ types).isEmpty)).map
    fun _ owned => owned \ types

/-- Handles are taken back. -/
def leave (shares : Shares) (handles : HandleSet) : Shares :=
  shares.filter fun handle _ => handle ∉ handles

variable {shares granted : Shares} {types : TypeMask} {handles : HandleSet} {handle : HandleId}
  {place : Nat}

theorem mem_ofKeys {ν : Type} {table : Table HandleId ν} :
    handle ∈ HandleSet.ofKeys table ↔ handle ∈ table := by
  simp [HandleSet.ofKeys]

theorem mem_join : handle ∈ shares.join granted ↔ handle ∈ shares ∨ handle ∈ granted := by
  simp [join, Std.ExtTreeMap.mem_union_iff]

theorem getElem?_join :
    (shares.join granted)[handle]? =
      (granted[handle]?.map fun types => shares[handle]?.getD ∅ ∪ types).or shares[handle]? := by
  rw [join, Std.ExtTreeMap.getElem?_union, Std.ExtTreeMap.getElem?_map]

/-- Handles are granted for their classes and for no others. -/
theorem mem_unionOf_join :
    place ∈ TypeMask.unionOf (shares.join granted) ↔
      place ∈ TypeMask.unionOf shares ∨ place ∈ TypeMask.unionOf granted := by
  simp only [TypeMask.mem_unionOf, getElem?_join]
  constructor
  · intro given
    obtain ⟨handle, types, found, member⟩ := given
    cases new : granted[handle]? with
    | none =>
        rw [new] at found
        exact Or.inl ⟨handle, types, found, member⟩
    | some gained =>
        rw [new] at found
        obtain rfl := Option.some.inj found
        cases TypeMask.mem_union.1 member with
        | inr gives => exact Or.inr ⟨handle, gained, new, gives⟩
        | inl had =>
            cases old : shares[handle]? with
            | none =>
                rw [old] at had
                exact absurd had TypeMask.not_mem_empty
            | some owned =>
                rw [old] at had
                exact Or.inl ⟨handle, owned, old, had⟩
  · intro given
    cases given with
    | inl had =>
        obtain ⟨handle, owned, old, member⟩ := had
        cases new : granted[handle]? with
        | none => exact ⟨handle, owned, by rw [new, old]; rfl, member⟩
        | some gained =>
            refine ⟨handle, owned ∪ gained, ?_, TypeMask.mem_union.2 (Or.inl member)⟩
            rw [new, old]
            rfl
    | inr gives =>
        obtain ⟨handle, gained, new, member⟩ := gives
        refine ⟨handle, shares[handle]?.getD ∅ ∪ gained, ?_, TypeMask.mem_union.2 (Or.inr member)⟩
        rw [new]
        rfl

theorem getElem?_without :
    (shares.without types)[handle]? =
      (shares[handle]?.filter fun owned =>
        !(owned.intersects types && (owned \ types).isEmpty)).map fun owned => owned \ types := by
  rw [without, Std.ExtTreeMap.getElem?_map, Std.ExtTreeMap.getElem?_filter']

/-- A handle that is given up had no class left, so nothing else is lost with it. -/
theorem mem_unionOf_without :
    place ∈ TypeMask.unionOf (shares.without types) ↔
      place ∈ TypeMask.unionOf shares ∧ place ∉ types := by
  simp only [TypeMask.mem_unionOf, getElem?_without]
  constructor
  · intro given
    obtain ⟨handle, left, found, member⟩ := given
    obtain ⟨owned, kept, rfl⟩ := Option.map_eq_some_iff.1 found
    obtain ⟨had, away⟩ := TypeMask.mem_sdiff.1 member
    exact ⟨⟨handle, owned, (Option.filter_eq_some_iff.1 kept).1, had⟩, away⟩
  · intro given
    obtain ⟨⟨handle, owned, found, had⟩, away⟩ := given
    have left : place ∈ owned \ types := TypeMask.mem_sdiff.2 ⟨had, away⟩
    have occupied : (owned \ types).isEmpty = false :=
      Bool.eq_false_iff.2 fun empty => TypeMask.isEmpty_iff.1 empty place left
    refine ⟨handle, owned \ types, ?_, left⟩
    rw [found, Option.filter_some, occupied, Bool.and_false]
    rfl

theorem mem_leave : handle ∈ shares.leave handles ↔ handle ∈ shares ∧ handle ∉ handles := by
  rw [leave, Table.mem_filter_key shares fun handle => handle ∉ handles, decide_eq_true_iff]

end Shares

/-! ## Settling requests -/

/-- What a request makes of what a session shares, and what is answered.  A session that
is not prepared shares nothing at all. -/
inductive Settles : Request → Option Shares → Reply → Option Shares → Prop
  | refused {shares : Option Shares} {reply : Reply} :
      reply.status ≠ Status.ok → Settles reply.request shares reply shares
  | prepared {shares : Option Shares} {allowList : AllowList} :
      Settles .prepare shares (.prepared Status.ok allowList) (some (shares.getD ∅))
  | unprepared {shares : Shares} : Settles .unprepare (some shares) (.unprepared Status.ok) none
  | startedByType {shares granted : Shares} {types : TypeMask} :
      Settles (.startByType types) (some shares)
        (.startedByType Status.ok types (TypeMask.unionOf granted)) (some (shares.join granted))
  | startedByHandles {shares granted : Shares} {handles : HandleSet} :
      Settles (.startByHandles handles) (some shares)
        (.startedByHandles Status.ok handles (HandleSet.ofKeys granted))
        (some (shares.join granted))
  | stoppedByType {shares : Shares} {types : TypeMask} :
      Settles (.stopByType types) (some shares)
        (.stoppedByType Status.ok types (TypeMask.unionOf shares ∩ types))
        (some (shares.without types))
  | stoppedByHandles {shares : Shares} {handles : HandleSet} :
      Settles (.stopByHandles handles) (some shares)
        (.stoppedByHandles Status.ok handles
          ((HandleSet.ofKeys shares).filter fun handle => handle ∈ handles))
        (some (shares.leave handles))

namespace Sink

/-- What a session shares; nothing if it is not prepared. -/
def shares? (sink : Sink) (session : SessionId) : Option Shares :=
  sink.switches[session]?.map Switch.handles

namespace Turn

variable {τ κ : Type} [Transport τ] {turn : Turn τ κ} {session : SessionId} {switch : Switch}

/-! ## Chatter of sinks -/

section Chatter

variable (turn : Turn τ κ) (session : SessionId)

theorem chatters_post {message : Message} (plain : message.reply? = none) :
    Transport.Chatters turn.line (turn.post session message).line :=
  .send ⟨turn.sink.registry, turn.line⟩ session plain

theorem chatters_flushSession :
    Transport.Chatters turn.line (turn.flushSession session).line := by
  rw [flushSession]
  split
  · exact .rest
  · exact .rest
  · exact chatters_post _ session rfl

variable [Collector κ]

theorem chatters_reportHeldKeys (handles : HandleSet) :
    Transport.Chatters turn.line (turn.reportHeldKeys session handles).line := by
  rw [reportHeldKeys]
  split
  · exact .rest
  · exact turn.chatters_post session rfl
  · exact turn.chatters_post session rfl

theorem chatters_release (requested : HandleSet) (reportKeys : Bool) :
    Transport.Chatters turn.line (turn.release session requested reportKeys).2.line := by
  obtain untouched | ⟨switch, prepared, something⟩ := turn.release_cases session requested
  · rw [untouched]
    exact .rest
  · let released := releasable switch requested
    let lowered := turn.lower session switch released
    have line :
        (turn.release session requested reportKeys).2.line =
          (lowered.dismiss session released reportKeys).line := by
      rw [release_of_owned prepared something]
      dsimp only
      unfold stopIfIdle
      split
      · rfl
      · rfl
    rw [line, dismiss]
    split
    · exact (lowered.chatters_flushSession session).trans
        (chatters_reportHeldKeys _ session released)
    · exact .rest

end Chatter

/-! ## Granting and releasing -/

omit [Transport τ] in
/-- What is granted joins what is shared; a refusal changes nothing. -/
theorem grant_settles [Collector κ] (prepared : turn.sink.switches[session]? = some switch)
    (candidates : Shares) :
    (∃ after, turn.grant session candidates = (.error .captureFailed, after) ∧
        after.sink.switches = turn.sink.switches ∧ after.line = turn.line) ∨
      ∃ granted after, turn.grant session candidates = (.ok granted, after) ∧
        after.sink.switches =
            turn.sink.switches.insert session
              { switch with handles := Shares.join switch.handles granted } ∧
          after.line = turn.line := by
  rw [grant_of_prepared prepared]
  split
  · exact Or.inr ⟨_, _, rfl, rfl, rfl⟩
  · obtain ⟨capturing, collector, same⟩ := turn.ensureCapture_eq
    let begun : Turn τ κ := { turn with sink := { turn.sink with capturing }, collector }
    split
    · next refused tried =>
      rw [tried] at same
      obtain rfl : refused = begun := same
      exact Or.inl ⟨begun, rfl, rfl, rfl⟩
    · next after tried =>
      rw [tried] at same
      obtain rfl : after = begun := same
      exact Or.inr ⟨_, _, rfl, rfl, rfl⟩

theorem keep_releasable (switch : Switch) (requested : HandleSet) :
    keep switch (releasable switch requested) = Shares.leave switch.handles requested := by
  apply Std.ExtTreeMap.ext_getElem?
  intro handle
  rw [keep, Shares.leave, Std.ExtTreeMap.getElem?_filter', Std.ExtTreeMap.getElem?_filter']
  cases found : switch.handles[handle]? with
  | none => rfl
  | some types =>
      have owned : handle ∈ switch.handles := Table.mem_of_getElem? found
      simp [mem_releasable, owned]

/-- What is released leaves what is shared, and the other sessions keep what they have. -/
theorem release_settles [Collector κ] (prepared : turn.sink.switches[session]? = some switch)
    (requested : HandleSet) (reportKeys : Bool) :
    (turn.release session requested reportKeys).1 = releasable switch requested ∧
      ∀ tested : SessionId,
        (turn.release session requested reportKeys).2.sink.switches[tested]? =
          if session = tested then
            some { switch with handles := Shares.leave switch.handles requested }
          else turn.sink.switches[tested]? := by
  cases something : (releasable switch requested).isEmpty with
  | true =>
      have nothing : releasable switch requested = ∅ := Std.ExtTreeSet.isEmpty_iff.1 something
      have whole : Shares.leave switch.handles requested = switch.handles := by
        rw [← keep_releasable, nothing, keep, Std.ExtTreeMap.filter_eq_self_iff]
        simp
      rw [release_of_isEmpty prepared something, nothing, whole]
      refine ⟨rfl, ?_⟩
      intro tested
      split
      · next same => rw [← same, prepared]
      · rfl
  | false =>
      obtain ⟨counter, capturing, equal⟩ := sink_release prepared something reportKeys
      refine ⟨?_, ?_⟩
      · rw [release_of_owned prepared something]
      · intro tested
        rw [equal]
        dsimp only
        rw [switches_disown, keep_releasable, Table.getElem?_insert_eq]

/-! ## Requests -/

/-- A sink is done with a request but for the answer. -/
structure Settled (turn after : Turn τ κ) (session : SessionId) (request : Request)
    (reply : Reply) : Prop where
  chatters : Transport.Chatters turn.line after.line
  settles :
    Settles request (turn.sink.shares? session) reply (after.sink.shares? session)
  others :
    ∀ tested, session ≠ tested → after.sink.shares? tested = turn.sink.shares? tested

theorem settled_refused (turn : Turn τ κ) (session : SessionId) (reply : Reply)
    (refused : reply.status ≠ Status.ok) : turn.Settled turn session reply.request reply :=
  ⟨.rest, .refused refused, fun _ _ => rfl⟩

/-- The switch of a session has changed, and the others have not. -/
theorem Settled.of_switches {after : Turn τ κ} {request : Request} {reply : Reply}
    (changed : Switch) (chatters : Transport.Chatters turn.line after.line)
    (prepared : turn.sink.switches[session]? = some switch)
    (settles : Settles request (some switch.handles) reply (some changed.handles))
    (switches :
      ∀ tested : SessionId,
        after.sink.switches[tested]? =
          if session = tested then some changed else turn.sink.switches[tested]?) :
    turn.Settled after session request reply where
  chatters := chatters
  settles := by
    rw [shares?, shares?, prepared, switches, if_pos rfl]
    exact settles
  others := by
    intro tested other
    rw [shares?, shares?, switches, if_neg other]

theorem settled_prepare (turn : Turn τ κ) (session : SessionId) (peer : DeviceId)
    (allowList : AllowList) :
    turn.Settled
      { turn with
        sink := { turn.sink with switches := turn.sink.switches.insertIfNew session { peer } } }
      session .prepare (.prepared Status.ok allowList) := by
  have after (tested : SessionId) :
      ({ turn.sink with
          switches := turn.sink.switches.insertIfNew session { peer } } : Sink).shares? tested =
        if session = tested then some ((turn.sink.shares? session).getD ∅)
        else turn.sink.shares? tested := by
    rw [shares?, Table.getElem?_insertIfNew_eq]
    split
    · next same =>
      subst same
      rw [shares?]
      cases turn.sink.switches[session]? with
      | none => rfl
      | some switch => rfl
    · rfl
  refine ⟨.rest, ?_, ?_⟩
  · rw [after, if_pos rfl]
    exact .prepared
  · intro tested other
    rw [after, if_neg other]

variable [Collector κ]

theorem settled_unprepare (prepared : turn.sink.switches[session]? = some switch) (via : Via) :
    ∃ after,
      turn.onUnprepare session via = after.answer session via (.unprepared Status.ok) ∧
        turn.Settled after session .unprepare (.unprepared Status.ok) := by
  let requested := HandleSet.ofKeys switch.handles
  let released := (turn.release session requested true).2
  let flushed := released.flushSession session
  have kept : flushed.sink.switches = released.sink.switches := by
    obtain ⟨counter, line, equal⟩ := released.sent_flushSession session
    change (released.flushSession session).sink.switches = _
    rw [equal]
  have shares (tested : SessionId) :
      (flushed.vacate session).sink.shares? tested =
        if session = tested then none else turn.sink.shares? tested := by
    change ((flushed.sink.switches.erase session)[tested]?).map _ = _
    rw [kept, Table.getElem?_erase_eq, (release_settles prepared requested true).2]
    split
    · rfl
    · rfl
  refine ⟨flushed.vacate session, onUnprepare_of_prepared prepared via, ?_, ?_, ?_⟩
  · exact (turn.chatters_release session requested true).trans
      (released.chatters_flushSession session)
  · rw [shares, if_pos rfl, shares?, prepared]
    exact .unprepared
  · intro tested other
    rw [shares, if_neg other]

/-- A request to start is refused as a whole, or what is granted is answered. -/
theorem settled_start (turn : Turn τ κ) (session : SessionId) (via : Via) (candidates : Shares)
    {request : Request} (refusal : Int32 → Reply) (success : Shares → Reply)
    (refuses : ∀ code, (refusal code).status = code ∧ (refusal code).request = request)
    (succeeds :
      ∀ shares granted : Shares,
        Settles request (some shares) (success granted) (some (shares.join granted)))
    {served : Turn τ κ}
    (serves :
      served =
        match turn.grant session candidates with
        | (.error error, after) => after.answer session via (refusal error.statusCode)
        | (.ok granted, after) => after.answer session via (success granted)) :
    ∃ after reply,
      served = after.answer session via reply ∧ turn.Settled after session request reply := by
  have refused {error : SharingError} (bad : error.statusCode ≠ Status.ok) {after : Turn τ κ}
      (switches : after.sink.switches = turn.sink.switches) (line : after.line = turn.line) :
      turn.Settled after session request (refusal error.statusCode) := by
    obtain ⟨code, same⟩ := refuses error.statusCode
    have shares (tested : SessionId) : after.sink.shares? tested = turn.sink.shares? tested := by
      rw [shares?, switches, shares?]
    refine ⟨line ▸ .rest, ?_, fun tested _ => shares tested⟩
    rw [shares, ← same]
    exact .refused (by rw [code]; exact bad)
  cases prepared : turn.sink.switches[session]? with
  | none =>
      rw [grant_of_absent prepared] at serves
      exact ⟨turn, _, serves, refused (by decide) rfl rfl⟩
  | some switch =>
      cases grant_settles prepared candidates with
      | inl fails =>
          obtain ⟨after, outcome, switches, line⟩ := fails
          rw [outcome] at serves
          exact ⟨after, _, serves, refused (by decide) switches line⟩
      | inr goes =>
          obtain ⟨granted, after, outcome, switches, line⟩ := goes
          rw [outcome] at serves
          refine ⟨after, _, serves,
            .of_switches { switch with handles := Shares.join switch.handles granted }
              (line ▸ .rest) prepared (succeeds switch.handles granted) ?_⟩
          intro tested
          rw [switches, Table.getElem?_insert_eq]

/-- The classes that are answered are those that were shared and are to be stopped. -/
theorem foldl_touched (shares : Shares) (types : TypeMask) :
    (shares.filter fun _ owned => owned.intersects types).toList.foldl
        (fun union entry => union ∪ (entry.2 ∩ types)) ∅ =
      TypeMask.unionOf shares ∩ types := by
  apply TypeMask.ext
  intro place
  rw [TypeMask.mem_foldl_union fun entry : HandleId × TypeMask => entry.2 ∩ types,
    TypeMask.mem_inter, TypeMask.mem_unionOf]
  constructor
  · intro given
    obtain ⟨⟨handle, owned⟩, listed, member⟩ := given.resolve_left TypeMask.not_mem_empty
    obtain ⟨has, asked⟩ := TypeMask.mem_inter.1 member
    have found := Table.mem_toList.1 listed
    rw [Std.ExtTreeMap.getElem?_filter', Option.filter_eq_some_iff] at found
    exact ⟨⟨handle, owned, found.1, has⟩, asked⟩
  · intro given
    obtain ⟨⟨handle, owned, found, has⟩, asked⟩ := given
    have touched : owned.intersects types = true :=
      TypeMask.intersects_iff.2 ⟨place, has, asked⟩
    refine Or.inr ⟨(handle, owned), Table.mem_toList.2 ?_, TypeMask.mem_inter.2 ⟨has, asked⟩⟩
    rw [Std.ExtTreeMap.getElem?_filter', found, Option.filter_some, if_pos touched]

/-- Handles that have lost their last class are released, and that is all. -/
theorem leave_emptied (shares : Shares) (types : TypeMask) :
    Shares.leave (shares.map fun _ owned => owned \ types)
        (HandleSet.ofKeys
          ((shares.filter fun _ owned => owned.intersects types).filter fun _ owned =>
            (owned \ types).isEmpty)) =
      shares.without types := by
  apply Std.ExtTreeMap.ext_getElem?
  intro handle
  rw [Shares.getElem?_without, Shares.leave, Std.ExtTreeMap.getElem?_filter',
    Std.ExtTreeMap.getElem?_map]
  have emptied :
      handle ∈
          HandleSet.ofKeys
            ((shares.filter fun _ owned => owned.intersects types).filter fun _ owned =>
              (owned \ types).isEmpty) ↔
        ∃ owned, shares[handle]? = some owned ∧ owned.intersects types = true ∧
          (owned \ types).isEmpty = true := by
    rw [Shares.mem_ofKeys, Table.mem_iff_exists]
    simp only [Std.ExtTreeMap.getElem?_filter', Option.filter_eq_some_iff, and_assoc]
  cases found : shares[handle]? with
  | none => rfl
  | some owned =>
      simp only [found, Option.some.injEq, exists_eq_left'] at emptied
      simp only [emptied, Option.map_some, Option.filter_some]
      cases owned.intersects types with
      | false => simp
      | true => cases (owned \ types).isEmpty <;> simp

/-- The handles that have some of the classes and no others. -/
def emptied (switch : Switch) (types : TypeMask) : HandleSet :=
  HandleSet.ofKeys
    ((switch.handles.filter fun _ owned => owned.intersects types).filter fun _ owned =>
      (owned \ types).isEmpty)

/-- The handles of a session lose classes, but none is taken back yet. -/
def lessen (turn : Turn τ κ) (session : SessionId) (switch : Switch) (types : TypeMask) :
    Turn τ κ :=
  { turn with
    sink :=
      { turn.sink with
        switches :=
          turn.sink.switches.insert session
            { switch with handles := switch.handles.map fun _ owned => owned \ types } } }

theorem onStopByType_of_prepared (prepared : turn.sink.switches[session]? = some switch)
    (via : Via) (types : TypeMask) :
    turn.onStopByType session via types =
      ((turn.lessen session switch types).release session (emptied switch types) true).2.answer
        session via (.stoppedByType Status.ok types (TypeMask.unionOf switch.handles ∩ types)) := by
  rw [← foldl_touched]
  unfold onStopByType
  rw [prepared]
  rfl

theorem settled_stopByType (prepared : turn.sink.switches[session]? = some switch) (via : Via)
    (types : TypeMask) :
    ∃ after reply,
      turn.onStopByType session via types = after.answer session via reply ∧
        turn.Settled after session (.stopByType types) reply := by
  let lessened := turn.lessen session switch types
  let left := switch.handles.map fun _ owned => owned \ types
  have there : lessened.sink.switches[session]? = some { switch with handles := left } :=
    Std.ExtTreeMap.getElem?_insert_self
  have changed : Shares.leave left (emptied switch types) = Shares.without switch.handles types :=
    leave_emptied switch.handles types
  refine ⟨_, _, onStopByType_of_prepared prepared via types,
    .of_switches { switch with handles := Shares.without switch.handles types }
      (lessened.chatters_release session (emptied switch types) true) prepared .stoppedByType ?_⟩
  intro tested
  rw [(release_settles there (emptied switch types) true).2, changed]
  split
  · rfl
  · next other => exact (Table.getElem?_insert_eq ..).trans (if_neg other)

theorem onStopByHandles_of_prepared (prepared : turn.sink.switches[session]? = some switch)
    (via : Via) (handles : HandleSet) :
    turn.onStopByHandles session via handles =
      (turn.release session handles true).2.answer session via
        (.stoppedByHandles Status.ok handles (releasable switch handles)) := by
  rw [← (release_settles prepared handles true).1]
  unfold onStopByHandles
  rw [prepared]

theorem settled_stopByHandles (prepared : turn.sink.switches[session]? = some switch) (via : Via)
    (handles : HandleSet) :
    ∃ after reply,
      turn.onStopByHandles session via handles = after.answer session via reply ∧
        turn.Settled after session (.stopByHandles handles) reply :=
  ⟨_, _, onStopByHandles_of_prepared prepared via handles,
    .of_switches { switch with handles := Shares.leave switch.handles handles }
      (turn.chatters_release session handles true) prepared .stoppedByHandles
      (release_settles prepared handles true).2⟩

/-- Every request is settled before it is answered; only a session that the sink does
not know is not prepared. -/
theorem serve_settles (turn : Turn τ κ) (session : SessionId) (via : Via) (request : Request) :
    (turn.sink.registry.peer? session = none ∧ turn.serve session via request = turn) ∨
      ∃ after reply,
        turn.serve session via request = after.answer session via reply ∧
          turn.Settled after session request reply := by
  have missing : SharingError.switchNotFound.statusCode ≠ Status.ok := by decide
  cases request with
  | prepare =>
      change (_ ∧ turn.onPrepare session via = turn) ∨
        ∃ after reply, turn.onPrepare session via = _ ∧ _
      unfold onPrepare
      cases known : turn.sink.registry.peer? session with
      | none => exact Or.inl ⟨rfl, rfl⟩
      | some peer => exact Or.inr ⟨_, _, rfl, turn.settled_prepare session peer _⟩
  | unprepare =>
      right
      cases prepared : turn.sink.switches[session]? with
      | none =>
          have refused :=
            turn.settled_refused session (.unprepared SharingError.notPrepared.statusCode)
              (by decide)
          refine ⟨turn, _, ?_, refused⟩
          change turn.onUnprepare session via = _
          unfold onUnprepare
          rw [prepared]
      | some switch =>
          obtain ⟨after, served, settled⟩ := settled_unprepare prepared via
          exact ⟨after, _, served, settled⟩
  | startByType types =>
      right
      let candidates :=
        ((Collector.ofTypes turn.collector types).filter fun _ device =>
          device.types.intersects types).map fun _ device => device.types ∩ types
      exact turn.settled_start session via candidates (fun code => .startedByType code types ∅)
        (fun granted => .startedByType Status.ok types (TypeMask.unionOf granted))
        (fun _ => ⟨rfl, rfl⟩) (fun _ _ => .startedByType) rfl
  | startByHandles handles =>
      right
      let candidates :=
        ((Collector.ofHandles turn.collector handles).filter fun handle _ =>
          handle ∈ handles).map fun _ device => device.types
      exact turn.settled_start session via candidates
        (fun code => .startedByHandles code handles ∅)
        (fun granted => .startedByHandles Status.ok handles (HandleSet.ofKeys granted))
        (fun _ => ⟨rfl, rfl⟩) (fun _ _ => .startedByHandles) rfl
  | stopByType types =>
      right
      cases prepared : turn.sink.switches[session]? with
      | none =>
          have refused :=
            turn.settled_refused session
              (.stoppedByType SharingError.switchNotFound.statusCode types ∅) missing
          refine ⟨turn, _, ?_, refused⟩
          change turn.onStopByType session via types = _
          unfold onStopByType
          rw [prepared]
      | some switch => exact settled_stopByType prepared via types
  | stopByHandles handles =>
      right
      cases prepared : turn.sink.switches[session]? with
      | none =>
          have refused :=
            turn.settled_refused session
              (.stoppedByHandles SharingError.switchNotFound.statusCode handles ∅) missing
          refine ⟨turn, _, ?_, refused⟩
          change turn.onStopByHandles session via handles = _
          unfold onStopByHandles
          rw [prepared]
      | some switch => exact settled_stopByHandles prepared via handles

end Turn

end Sink

end InputSharing

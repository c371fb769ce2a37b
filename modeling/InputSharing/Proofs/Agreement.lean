import InputSharing.Proofs.Sink.Settling
import InputSharing.Source.Call

/-!
# What both ends know of what is shared

A source counts the answers of a sink: the classes that are granted and stopped by
type, and the handles that are granted and stopped by handles.  The sink keeps the
handles of the session, each with its classes.

Each count is of one kind of request only, so a source does not see that a request of
the other kind has ended what it counts.  That is the only way in which the two ends
can come to disagree.  As long as all requests are of one kind they agree.
-/

namespace InputSharing

/-! ## What is dealt with -/

namespace Request

/-- A request to start or to stop by type. -/
def isByType : Request → Bool
  | startByType _ | stopByType _ => true
  | _ => false

/-- A request to start or to stop by handles. -/
def isByHandles : Request → Bool
  | startByHandles _ | stopByHandles _ => true
  | _ => false

def isStopByType : Request → Bool
  | stopByType _ => true
  | _ => false

def isStopByHandles : Request → Bool
  | stopByHandles _ => true
  | _ => false

end Request

/-- A request on a session that a sink has dealt with, and what the session shared before
and after. -/
structure Dealing where
  request : Request
  before : Shares
  after : Shares

/-- Something held of what is shared until a request of a certain kind, and not since. -/
def EndedBy (kind : Request → Bool) (holds : Shares → Prop) (dealings : List Dealing) : Prop :=
  ∃ earlier last later, dealings = earlier ++ last :: later ∧ kind last.request = true ∧
    holds last.before ∧ ∀ dealing ∈ last :: later, ¬holds dealing.after

namespace EndedBy

variable {kind : Request → Bool} {holds : Shares → Prop} {dealings : List Dealing}
  {dealing : Dealing}

theorem last (ends : kind dealing.request = true) (before : holds dealing.before)
    (after : ¬holds dealing.after) : EndedBy kind holds (dealings ++ [dealing]) := by
  refine ⟨dealings, dealing, [], rfl, ends, before, ?_⟩
  intro tested listed
  rw [List.mem_singleton.1 listed]
  exact after

theorem append (ended : EndedBy kind holds dealings) (after : ¬holds dealing.after) :
    EndedBy kind holds (dealings ++ [dealing]) := by
  obtain ⟨earlier, last, later, rfl, ends, before, since⟩ := ended
  refine ⟨earlier, last, later ++ [dealing], ?_, ends, before, ?_⟩
  · rw [List.append_assoc, List.cons_append]
  · intro tested listed
    rw [← List.cons_append] at listed
    cases List.mem_append.1 listed with
    | inl early => exact since tested early
    | inr new =>
        rw [List.mem_singleton.1 new]
        exact after

/-- Nothing was ended by requests that there were not. -/
theorem exists_request (ended : EndedBy kind holds dealings) :
    ∃ dealing ∈ dealings, kind dealing.request = true := by
  obtain ⟨earlier, last, later, rfl, ends, _⟩ := ended
  exact ⟨last, List.mem_append_right _ List.mem_cons_self, ends⟩

end EndedBy

/-! ## Counting answers -/

/-- What a source believes when it has taken an answer. -/
def Belief.hear (belief : Option Belief) (reply : Reply) : Option Belief :=
  if reply.status = Status.ok then
    match reply with
    | .prepared _ _ => some (belief.getD {})
    | .unprepared _ => none
    | reply => belief.map fun belief => belief.after reply
  else belief

/-- A belief about a session agrees with what the session shares, but for what requests of
the other kind have ended. -/
structure Agrees (dealings : List Dealing) (belief : Belief) (shares : Shares) : Prop where
  handles :
    ∀ handle ∈ belief.handles,
      handle ∈ shares ∨ EndedBy Request.isStopByType (fun shares => handle ∈ shares) dealings
  types :
    ∀ place ∈ belief.types,
      place ∈ TypeMask.unionOf shares ∨
        EndedBy Request.isStopByHandles (fun shares => place ∈ TypeMask.unionOf shares) dealings
  byType :
    (∀ dealing ∈ dealings, dealing.request.isByHandles = false) →
      belief.types = TypeMask.unionOf shares
  byHandles :
    (∀ dealing ∈ dealings, dealing.request.isByType = false) →
      belief.handles = HandleSet.ofKeys shares

namespace Agrees

variable {dealings : List Dealing} {belief : Belief} {shares : Shares}

/-- Nothing is believed of a session that shares nothing. -/
theorem fresh (dealings : List Dealing) : Agrees dealings {} ∅ where
  handles := fun _ member => absurd member Std.ExtTreeSet.not_mem_empty
  types := fun _ member => absurd member TypeMask.not_mem_empty
  byType := fun _ => rfl
  byHandles := fun _ => rfl

/-- A request is dealt with, and its answer is counted. -/
theorem deal (agrees : Agrees dealings belief shares) (request : Request) {counted : Belief}
    {after : Shares}
    (handles :
      ∀ handle ∈ counted.handles, handle ∉ after →
        handle ∈ belief.handles ∧ (handle ∈ shares → request.isStopByType = true))
    (types :
      ∀ place ∈ counted.types, place ∉ TypeMask.unionOf after →
        place ∈ belief.types ∧
          (place ∈ TypeMask.unionOf shares → request.isStopByHandles = true))
    (byType :
      request.isByHandles = false → belief.types = TypeMask.unionOf shares →
        counted.types = TypeMask.unionOf after)
    (byHandles :
      request.isByType = false → belief.handles = HandleSet.ofKeys shares →
        counted.handles = HandleSet.ofKeys after) :
    Agrees (dealings ++ [⟨request, shares, after⟩]) counted after where
  handles := by
    intro handle member
    by_cases still : handle ∈ after
    · exact Or.inl still
    · obtain ⟨before, ends⟩ := handles handle member still
      by_cases shared : handle ∈ shares
      · exact Or.inr (.last (ends shared) shared still)
      · exact Or.inr (((agrees.handles handle before).resolve_left shared).append still)
  types := by
    intro place member
    by_cases still : place ∈ TypeMask.unionOf after
    · exact Or.inl still
    · obtain ⟨before, ends⟩ := types place member still
      by_cases shared : place ∈ TypeMask.unionOf shares
      · exact Or.inr (.last (ends shared) shared still)
      · exact Or.inr (((agrees.types place before).resolve_left shared).append still)
  byType := by
    intro all
    apply byType
    · exact all _ (List.mem_append_right _ (List.mem_singleton_self _))
    · exact agrees.byType fun dealing listed => all dealing (List.mem_append_left _ listed)
  byHandles := by
    intro all
    apply byHandles
    · exact all _ (List.mem_append_right _ (List.mem_singleton_self _))
    · exact agrees.byHandles fun dealing listed => all dealing (List.mem_append_left _ listed)

/-- A request that changes nothing. -/
theorem idle (agrees : Agrees dealings belief shares) (request : Request) :
    Agrees (dealings ++ [⟨request, shares, shares⟩]) belief shares :=
  agrees.deal request (fun _ member gone => ⟨member, fun shared => absurd shared gone⟩)
    (fun _ member gone => ⟨member, fun shared => absurd shared gone⟩) (fun _ => id) fun _ => id

theorem startedByType (agrees : Agrees dealings belief shares) (types : TypeMask)
    (granted : Shares) :
    Agrees (dealings ++ [⟨.startByType types, shares, shares.join granted⟩])
      { belief with types := belief.types ∪ TypeMask.unionOf granted } (shares.join granted) := by
  apply agrees.deal
  · intro handle member gone
    exact ⟨member, fun shared => absurd (Shares.mem_join.2 (Or.inl shared)) gone⟩
  · intro place member gone
    rw [Shares.mem_unionOf_join, not_or] at gone
    exact ⟨(TypeMask.mem_union.1 member).resolve_right gone.2, fun shared => absurd shared gone.1⟩
  · intro _ same
    apply TypeMask.ext
    intro place
    rw [Shares.mem_unionOf_join, ← same, TypeMask.mem_union]
  · intro other
    cases other

theorem startedByHandles (agrees : Agrees dealings belief shares) (handles : HandleSet)
    (granted : Shares) :
    Agrees (dealings ++ [⟨.startByHandles handles, shares, shares.join granted⟩])
      { belief with handles := belief.handles ∪ HandleSet.ofKeys granted }
      (shares.join granted) := by
  apply agrees.deal
  · intro handle member gone
    rw [Shares.mem_join, not_or] at gone
    refine ⟨?_, fun shared => absurd shared gone.1⟩
    cases Std.ExtTreeSet.mem_union_iff.1 member with
    | inl before => exact before
    | inr new => exact absurd (Shares.mem_ofKeys.1 new) gone.2
  · intro place member gone
    rw [Shares.mem_unionOf_join, not_or] at gone
    exact ⟨member, fun shared => absurd shared gone.1⟩
  · intro other
    cases other
  · intro _ same
    apply Std.ExtTreeSet.ext_mem
    intro handle
    rw [Std.ExtTreeSet.mem_union_iff, same, Shares.mem_ofKeys, Shares.mem_ofKeys,
      Shares.mem_ofKeys, Shares.mem_join]

theorem stoppedByType (agrees : Agrees dealings belief shares) (types : TypeMask) :
    Agrees (dealings ++ [⟨.stopByType types, shares, shares.without types⟩])
      { belief with types := belief.types \ (TypeMask.unionOf shares ∩ types) }
      (shares.without types) := by
  apply agrees.deal
  · intro handle member _
    exact ⟨member, fun _ => rfl⟩
  · intro place member gone
    rw [Shares.mem_unionOf_without, not_and, not_not] at gone
    obtain ⟨before, untouched⟩ := TypeMask.mem_sdiff.1 member
    exact ⟨before, fun shared => absurd (TypeMask.mem_inter.2 ⟨shared, gone shared⟩) untouched⟩
  · intro _ same
    apply TypeMask.ext
    intro place
    rw [Shares.mem_unionOf_without, TypeMask.mem_sdiff, TypeMask.mem_inter, same, not_and]
    exact ⟨fun both => ⟨both.1, both.2 both.1⟩, fun both => ⟨both.1, fun _ => both.2⟩⟩
  · intro other
    cases other

theorem stoppedByHandles (agrees : Agrees dealings belief shares) (handles : HandleSet) :
    Agrees (dealings ++ [⟨.stopByHandles handles, shares, shares.leave handles⟩])
      { belief with
        handles :=
          belief.handles.filter fun handle =>
            handle ∉ (HandleSet.ofKeys shares).filter fun handle => handle ∈ handles }
      (shares.leave handles) := by
  have kept (handle : HandleId) :
      (handle ∈
          belief.handles.filter fun handle =>
            handle ∉ (HandleSet.ofKeys shares).filter fun handle => handle ∈ handles) ↔
        handle ∈ belief.handles ∧ (handle ∈ shares → handle ∉ handles) := by
    simp [Shares.mem_ofKeys, imp_iff_not_or]
  apply agrees.deal
  · intro handle member gone
    obtain ⟨before, untouched⟩ := (kept handle).1 member
    exact ⟨before, fun shared => absurd (Shares.mem_leave.2 ⟨shared, untouched shared⟩) gone⟩
  · intro place member _
    exact ⟨member, fun _ => rfl⟩
  · intro other
    cases other
  · intro _ same
    apply Std.ExtTreeSet.ext_mem
    intro handle
    rw [kept, same, Shares.mem_ofKeys, Shares.mem_ofKeys, Shares.mem_leave]
    exact ⟨fun both => ⟨both.1, both.2 both.1⟩, fun both => ⟨both.1, fun _ => both.2⟩⟩

/-! ### Without requests of the other kind -/

/-- Handles are believed in only while they are shared if no request stops them by type. -/
theorem mem_of_handles (agrees : Agrees dealings belief shares)
    (unstopped : ∀ dealing ∈ dealings, dealing.request.isStopByType = false) {handle : HandleId}
    (member : handle ∈ belief.handles) : handle ∈ shares := by
  apply (agrees.handles handle member).resolve_right
  intro ended
  obtain ⟨dealing, listed, stops⟩ := ended.exists_request
  rw [unstopped dealing listed] at stops
  cases stops

/-- The same of classes, if no request stops them by handles. -/
theorem mem_of_types (agrees : Agrees dealings belief shares)
    (unstopped : ∀ dealing ∈ dealings, dealing.request.isStopByHandles = false) {place : Nat}
    (member : place ∈ belief.types) : place ∈ TypeMask.unionOf shares := by
  apply (agrees.types place member).resolve_right
  intro ended
  obtain ⟨dealing, listed, stops⟩ := ended.exists_request
  rw [unstopped dealing listed] at stops
  cases stops

theorem isSharing_of_empty (agrees : Agrees dealings belief ∅)
    (byType : ∀ dealing ∈ dealings, dealing.request.isStopByType = false)
    (byHandles : ∀ dealing ∈ dealings, dealing.request.isStopByHandles = false) :
    belief.isSharing = false := by
  have noHandle : belief.handles.isEmpty = true := by
    rw [Std.ExtTreeSet.isEmpty_iff]
    apply Std.ExtTreeSet.ext_mem
    intro handle
    refine iff_of_false ?_ Std.ExtTreeSet.not_mem_empty
    intro member
    exact Std.ExtTreeMap.not_mem_empty (agrees.mem_of_handles byType member)
  have noType : belief.types.isEmpty = true := by
    rw [TypeMask.isEmpty_iff]
    intro place member
    exact TypeMask.not_mem_empty (agrees.mem_of_types byHandles member)
  rw [Belief.isSharing, noHandle, noType]
  rfl

end Agrees

/-! ## Both ends -/

/-- The source believes something exactly if the session is prepared, and then the belief
agrees with what the session shares. -/
def Matches (dealings : List Dealing) : Option Belief → Option Shares → Prop
  | none, none => True
  | some belief, some shares => Agrees dealings belief shares
  | _, _ => False

namespace Matches

variable {dealings : List Dealing} {heard : Option Belief} {shares : Shares}

theorem eq_none (both : Matches dealings heard none) : heard = none := by
  cases heard with
  | none => rfl
  | some belief => exact both.elim

theorem exists_belief (both : Matches dealings heard (some shares)) :
    ∃ belief, heard = some belief ∧ Agrees dealings belief shares := by
  cases heard with
  | none => exact both.elim
  | some belief => exact ⟨belief, rfl, both⟩

/-- Whatever request is dealt with, the source agrees again when it has taken the answer. -/
theorem settles {before after : Option Shares} (both : Matches dealings heard before)
    {request : Request} {reply : Reply} (settles : Settles request before reply after) :
    Matches (dealings ++ [⟨request, before.getD ∅, after.getD ∅⟩]) (Belief.hear heard reply)
      after := by
  cases settles with
  | refused bad =>
      unfold Belief.hear
      rw [if_neg bad]
      cases before with
      | none =>
          obtain rfl := both.eq_none
          trivial
      | some shares =>
          obtain ⟨belief, rfl, agrees⟩ := both.exists_belief
          exact agrees.idle _
  | prepared =>
      cases before with
      | none =>
          obtain rfl := both.eq_none
          exact Agrees.fresh _
      | some shares =>
          obtain ⟨belief, rfl, agrees⟩ := both.exists_belief
          exact agrees.idle _
  | unprepared =>
      obtain ⟨belief, rfl, _⟩ := both.exists_belief
      trivial
  | startedByType =>
      obtain ⟨belief, rfl, agrees⟩ := both.exists_belief
      exact agrees.startedByType _ _
  | startedByHandles =>
      obtain ⟨belief, rfl, agrees⟩ := both.exists_belief
      exact agrees.startedByHandles _ _
  | stoppedByType =>
      obtain ⟨belief, rfl, agrees⟩ := both.exists_belief
      exact agrees.stoppedByType _
  | stoppedByHandles =>
      obtain ⟨belief, rfl, agrees⟩ := both.exists_belief
      exact agrees.stoppedByHandles _

end Matches

end InputSharing

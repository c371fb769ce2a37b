import InputSharing.Network.Load
import InputSharing.Proofs.Hub

/-!
# What is left to do

A `Backlog` is a hub and the weight of what is kept beside it.  A reaction to an event
sends and keeps at most what the weight of the event pays for: `Backlog.Shifts` says how
much heavier the backlog gets.  Whatever is sent comes to wait where somebody is
registered, or it is lost at once.
-/

namespace InputSharing

/-! ## Sums of weights -/

section Weighing

variable {α : Type} (weight : α → Nat)

theorem weigh_perm {things others : List α} (perm : things.Perm others) :
    weigh weight things = weigh weight others := by
  induction perm with
  | nil => rfl
  | cons thing _ same => rw [weigh, weigh, same]
  | swap first second rest => exact Nat.add_left_comm _ _ _
  | trans _ _ first second => exact first.trans second

/-- The weight of a list when the thing at one place has been replaced. -/
theorem weigh_set {things : List α} {place : Nat} {old : α} (found : things[place]? = some old)
    (new : α) :
    weigh weight (things.set place new) + weight old = weigh weight things + weight new := by
  induction things generalizing place with
  | nil => cases found
  | cons first rest inductionHypothesis =>
      cases place with
      | zero =>
          have same : first = old := Option.some.inj found
          rw [List.set_cons_zero, weigh, weigh, same]
          omega
      | succ place =>
          have replaced := inductionHypothesis found
          rw [List.set_cons_succ, weigh, weigh]
          omega

theorem weigh_modify {things : List α} {place : Nat} {old : α} (found : things[place]? = some old)
    (change : α → α) :
    weigh weight (things.modify place change) + weight old =
      weigh weight things + weight (change old) := by
  have set : things.modify place change = things.set place (change old) := by
    rw [List.modify_eq_set_getElem?, found]
    rfl
  rw [set]
  exact weigh_set weight found (change old)

theorem le_weigh {things : List α} {thing : α} (listed : thing ∈ things) :
    weight thing ≤ weigh weight things := by
  induction things with
  | nil => cases listed
  | cons first rest inductionHypothesis =>
      rw [weigh]
      rcases List.mem_cons.1 listed with same | later
      · rw [same]
        exact Nat.le_add_right _ _
      · have below := inductionHypothesis later
        omega

end Weighing

namespace Table

variable {κ ν : Type} [Ord κ] [Std.TransOrd κ] [Std.LawfulEqOrd κ] (weight : κ × ν → Nat)
  (table : Table κ ν)

variable {table} in
/-- The weight of a table when the value of one key has been replaced. -/
theorem weigh_insert {key : κ} {old : ν} (found : table[key]? = some old) (new : ν) :
    weigh weight (table.insert key new).toList + weight (key, old) =
      weigh weight table.toList + weight (key, new) := by
  rw [weigh_perm weight (toList_insert_erase_perm table key new),
    weigh_perm weight (toList_erase_perm found), weigh, weigh]
  omega

variable {table} in
theorem weigh_erase {key : κ} {old : ν} (found : table[key]? = some old) :
    weigh weight (table.erase key).toList + weight (key, old) = weigh weight table.toList := by
  rw [weigh_perm weight (toList_erase_perm found), weigh]
  exact Nat.add_comm _ _

variable {table} in
theorem weigh_insert_of_unknown {key : κ} (unknown : table[key]? = none) (new : ν) :
    weigh weight (table.insert key new).toList =
      weigh weight table.toList + weight (key, new) := by
  rw [weigh_perm weight (toList_insert_perm (not_mem_of_getElem? unknown)), weigh]
  exact Nat.add_comm _ _

/-- A value that only gets lighter makes the table lighter. -/
theorem weigh_modify_le {key : κ} {change : ν → ν}
    (lighter : ∀ value, weight (key, change value) ≤ weight (key, value)) :
    weigh weight (table.modify key change).toList ≤ weigh weight table.toList := by
  cases found : table[key]? with
  | none =>
      have same : table.modify key change = table := by
        apply modify_eq_self
        intro value there
        rw [found] at there
        cases there
      exact Nat.le_of_eq (congrArg (fun table : Table κ ν => weigh weight table.toList) same)
  | some value =>
      have replaced := weigh_insert weight found (change value)
      have below := lighter value
      rw [modify_eq_insert found]
      omega

theorem weigh_erase_le (key : κ) :
    weigh weight (table.erase key).toList ≤ weigh weight table.toList := by
  cases found : table[key]? with
  | none =>
      have same := erase_eq_self_iff.2 (not_mem_of_getElem? found)
      exact Nat.le_of_eq (congrArg (fun table : Table κ ν => weigh weight table.toList) same)
  | some value =>
      have erased := weigh_erase weight found
      omega

end Table

/-! ## Frames -/

theorem Message.one_le_weight (message : Message) : 1 ≤ message.weight := by
  cases message <;> simp [weight]

theorem Message.weight_le (message : Message) : message.weight ≤ 16 := by
  cases message <;> simp [weight]

/-- What can be read from a frame is no heavier than the frame. -/
theorem Parcel.weight_of_read {parcel : Parcel} {sequence : UInt64} {message : Message}
    (reads : parcel.read = .ok (sequence, message)) : message.weight ≤ parcel.weight := by
  cases parcel with
  | composed sent composed =>
      rw [Parcel.read] at reads
      rw [(Prod.mk.inj (Except.ok.inj reads)).2]
      exact Nat.le_refl _
  | raw bytes => exact message.weight_le

theorem Parcel.one_le_weight (parcel : Parcel) : 1 ≤ parcel.weight := by
  cases parcel with
  | composed sequence message => exact message.one_le_weight
  | raw bytes => exact Nat.le_of_ble_eq_true rfl

/-! ## The hub -/

namespace Hub

def load (hub : Hub Parcel) : Nat := weigh Mailbox.load hub.mailboxes

/-- Whatever waits, waits for somebody who is registered. -/
def Addressed (hub : Hub Parcel) : Prop :=
  ∀ box : Nat, hub.waiting box ≠ [] → ∃ endpoint : Endpoint, hub.directory[endpoint]? = some box

/-- One mailbox holds other events. -/
theorem load_set {hub : Hub Parcel} {box : Nat} {old : Mailbox Parcel}
    (found : hub.mailboxes[box]? = some old) (new : Mailbox Parcel) :
    weigh Mailbox.load (hub.mailboxes.set box new) + old.load = hub.load + new.load :=
  weigh_set Mailbox.load found new

theorem waiting_set (hub : Hub Parcel) (rings : List Nat) {box tested : Nat}
    (new : Mailbox Parcel) (other : box ≠ tested) :
    ({ hub with mailboxes := hub.mailboxes.set box new, rings } : Hub Parcel).waiting tested =
      hub.waiting tested := by
  rw [waiting, waiting, List.getElem?_set_ne other]

theorem exists_of_waiting {hub : Hub Parcel} {box : Nat} {event : TransportEvent Parcel}
    {rest : List (TransportEvent Parcel)} (waits : hub.waiting box = event :: rest) :
    ∃ mailbox, hub.mailboxes[box]? = some mailbox ∧ mailbox.events = event :: rest := by
  cases found : hub.mailboxes[box]? with
  | none =>
      rw [waiting, found] at waits
      cases waits
  | some mailbox => exact ⟨mailbox, rfl, (waiting_of_mailbox found).symm.trans waits⟩

end Hub

/-! ## Backlogs -/

/-- What waits on a hub, and the weight of what waits elsewhere. -/
structure Backlog where
  hub : Hub Parcel
  /-- The weight of what is kept beside the hub. -/
  kept : Nat

namespace Backlog

def load (backlog : Backlog) : Nat := backlog.hub.load + backlog.kept

/-- A backlog gets heavier by `change` at most, or lighter by at least as much as a negative
`change` says. -/
structure Shifts (change : Int) (before after : Backlog) : Prop where
  load_le : (after.load : Int) ≤ before.load + change
  directory_eq : after.hub.directory = before.hub.directory
  addressed : before.hub.Addressed → after.hub.Addressed

namespace Shifts

variable {change later : Int} {before middle after : Backlog}

/-- Only what is kept beside the hub has changed. -/
theorem of_kept (hub : after.hub = before.hub) (kept : (after.kept : Int) ≤ before.kept + change) :
    Shifts change before after where
  load_le := by
    rw [load, load, hub]
    omega
  directory_eq := by rw [hub]
  addressed := by
    intro addressed
    rw [hub]
    exact addressed

theorem refl (backlog : Backlog) : Shifts 0 backlog backlog :=
  of_kept rfl (Int.le_of_eq (Int.add_zero _).symm)

theorem trans (first : Shifts change before middle) (second : Shifts later middle after) :
    Shifts (change + later) before after where
  load_le := by
    have early := first.load_le
    have late := second.load_le
    omega
  directory_eq := second.directory_eq.trans first.directory_eq
  addressed := fun addressed => second.addressed (first.addressed addressed)

theorem mono (shifts : Shifts change before after) (below : change ≤ later) :
    Shifts later before after where
  load_le := Int.le_trans shifts.load_le (Int.add_le_add_left below _)
  directory_eq := shifts.directory_eq
  addressed := shifts.addressed

/-- The same happens on the hub while other things are kept beside it. -/
theorem rebase (shifts : Shifts change before after) {first last : Backlog}
    (beforeHub : first.hub = before.hub) (afterHub : last.hub = after.hub)
    (kept : (last.kept : Int) + before.kept + change ≤ first.kept + after.kept + later) :
    Shifts later first last where
  load_le := by
    have heavier := shifts.load_le
    rw [load, load] at heavier
    rw [load, load, beforeHub, afterHub]
    omega
  directory_eq := by rw [beforeHub, afterHub, shifts.directory_eq]
  addressed := by
    rw [beforeHub, afterHub]
    exact shifts.addressed

/-- Each step makes the backlog heavier by `change` at most. -/
theorem foldl {σ α : Type} {backlog : σ → Backlog} {act : σ → α → σ}
    (each : ∀ state item, Shifts change (backlog state) (backlog (act state item)))
    (items : List α) (state : σ) :
    Shifts (items.length * change) (backlog state) (backlog (items.foldl act state)) := by
  induction items generalizing state with
  | nil => exact (refl _).mono (Int.le_of_eq (Int.zero_mul _).symm)
  | cons first rest inductionHypothesis =>
      have whole := (each state first).trans (inductionHypothesis (act state first))
      refine whole.mono (Int.le_of_eq ?_)
      rw [List.length_cons, Int.natCast_add, Int.add_mul]
      omega

end Shifts

/-! ## Using the hub -/

section Hubs

variable (hub : Hub Parcel) (kept : Nat)

theorem shifts_deliver (endpoint : Endpoint) (event : TransportEvent Parcel) :
    Shifts (event.weight + 1) ⟨hub, kept⟩ ⟨(hub.deliver endpoint event).2, kept⟩ := by
  have nothing : Shifts (event.weight + 1) ⟨hub, kept⟩ ⟨hub, kept⟩ :=
    (Shifts.refl _).mono (by omega)
  rw [Hub.deliver]
  split
  · exact nothing
  · next box listed =>
    split
    · exact nothing
    · next mailbox found =>
      split
      · let filled : Mailbox Parcel := { mailbox with events := mailbox.events ++ [event] }
        refine ⟨?_, rfl, ?_⟩
        · have set := Hub.load_set found filled
          have heavier : filled.load = mailbox.load + (event.weight + 1) := weigh_append ..
          change ((weigh Mailbox.load (hub.mailboxes.set box filled) + kept : Nat) : Int) ≤
            ((hub.load + kept : Nat) : Int) + (event.weight + 1)
          omega
        · intro addressed tested waits
          by_cases same : box = tested
          · exact ⟨endpoint, same ▸ listed⟩
          · apply addressed
            rw [← hub.waiting_set (hub.rings ++ [box]) filled same]
            exact waits
      · exact nothing

variable {hub} in
/-- Events leave a mailbox. -/
theorem shifts_modify {box : Nat} {old : Mailbox Parcel}
    (found : hub.mailboxes[box]? = some old) {change : Mailbox Parcel → Mailbox Parcel}
    {freed : Int} (lighter : ((change old).load : Int) + freed ≤ old.load)
    (fewer : old.events = [] → (change old).events = []) :
    Shifts (-freed) ⟨hub, kept⟩
      ⟨{ hub with mailboxes := hub.mailboxes.modify box change }, kept⟩ := by
  refine ⟨?_, rfl, ?_⟩
  · have changed := weigh_modify Mailbox.load found change
    change ((weigh Mailbox.load (hub.mailboxes.modify box change) + kept : Nat) : Int) ≤
      ((weigh Mailbox.load hub.mailboxes + kept : Nat) : Int) + -freed
    omega
  · intro addressed tested waits
    apply addressed
    intro nothing
    apply waits
    change Hub.waiting { hub with mailboxes := hub.mailboxes.modify box change } tested = []
    rw [Hub.waiting_modify]
    split
    · next same =>
      subst same
      rw [Hub.waiting_of_mailbox found] at nothing
      rw [found]
      exact fewer nothing
    · exact nothing

variable {hub} in
theorem shifts_takeFirst {box : Nat} {event : TransportEvent Parcel}
    {rest : List (TransportEvent Parcel)} (waits : hub.waiting box = event :: rest) :
    Shifts (-(event.weight + 1)) ⟨hub, kept⟩ ⟨(hub.takeFirst box).2, kept⟩ := by
  obtain ⟨mailbox, found, events⟩ := Hub.exists_of_waiting waits
  rw [Hub.takeFirst, waits]
  refine shifts_modify kept found ?_ ?_
  · have load : mailbox.load = event.weight + 1 + weigh (fun event => event.weight + 1) rest := by
      rw [Mailbox.load, events]
      rfl
    have left : ({ mailbox with events := rest } : Mailbox Parcel).load =
        weigh (fun event => event.weight + 1) rest :=
      rfl
    omega
  · intro nothing
    rw [events] at nothing
    cases nothing

theorem shifts_abandon (box : Nat) : Shifts 0 ⟨hub, kept⟩ ⟨hub.abandon box, kept⟩ := by
  cases found : hub.mailboxes[box]? with
  | none =>
      have same : hub.abandon box = hub := by
        rw [Hub.abandon, List.modify_eq_set_getElem?, found]
        rfl
      rw [same]
      exact .refl _
  | some mailbox =>
      have emptied : Shifts (-0) ⟨hub, kept⟩ ⟨hub.abandon box, kept⟩ :=
        shifts_modify kept found (Int.natCast_nonneg _) fun _ => rfl
      exact emptied

/-- Links come and go without a trace in the mailboxes. -/
theorem shifts_relink (lastSession : SessionId) (links : Table SessionId Link) :
    Shifts 0 ⟨hub, kept⟩ ⟨{ hub with lastSession, links }, kept⟩ :=
  ⟨(Shifts.refl ⟨hub, kept⟩).load_le, rfl, fun addressed => addressed⟩

theorem shifts_transmit (here : Endpoint) (session : SessionId) (parcel : Parcel) :
    Shifts (parcel.weight + 1) ⟨hub, kept⟩ ⟨(hub.transmit here session parcel).2, kept⟩ := by
  rw [Hub.transmit]
  split
  · exact (Shifts.refl _).mono (by omega)
  · next link _ =>
    have sent := shifts_deliver hub kept (link.otherEnd here) (.frame session parcel)
    split
    · next delivered =>
      rw [delivered] at sent
      exact sent
    · next refused =>
      rw [refused] at sent
      exact sent

theorem shifts_dial (here : Endpoint) (peer : DeviceId) (role : Role) :
    Shifts 2 ⟨hub, kept⟩ ⟨(hub.dial here peer role).2, kept⟩ := by
  rw [Hub.dial]
  dsimp only
  split
  · exact (shifts_relink hub kept _ _).trans (shifts_deliver _ kept _ (.opened _ here.device))
  · exact (Shifts.refl _).mono (by omega)

theorem shifts_hangUp (here : Endpoint) (session : SessionId) :
    Shifts 2 ⟨hub, kept⟩ ⟨hub.hangUp here session, kept⟩ := by
  rw [Hub.hangUp]
  split
  · exact (Shifts.refl _).mono (by omega)
  · exact (shifts_relink hub kept hub.lastSession _).trans
      (shifts_deliver _ kept _ (.closed session))

theorem shifts_sever (session : SessionId) :
    Shifts 4 ⟨hub, kept⟩ ⟨hub.sever session, kept⟩ := by
  rw [Hub.sever]
  split
  · exact (Shifts.refl _).mono (by omega)
  · exact ((shifts_relink hub kept hub.lastSession _).trans
      (shifts_deliver _ kept _ (.closed session))).trans
        (shifts_deliver _ kept _ (.closed session))

end Hubs

end Backlog

end InputSharing

import InputSharing.Proofs.Network.Lanes
import InputSharing.Proofs.Source.Ties

/-!
# Concord of a source and a sink

The two ends of a channel are in concord when the source, once it has taken the answers
that are under way to it, believes what agrees with what the sink shares.  Without a
channel it believes nothing.  News that the channel is gone may be under way; then nothing
is said about it any more.
-/

namespace InputSharing

namespace TransportEvent

/-- The answer that an event brings on a channel. -/
def replyOn? (session : SessionId) (event : TransportEvent Parcel) : Option Reply :=
  (event.message? session).bind Message.reply?

variable {event : TransportEvent Parcel} {session : SessionId}

theorem replyOn?_of_ne (other : event.session ≠ session) : event.replyOn? session = none := by
  rw [replyOn?, message?_of_ne other]
  rfl

theorem replyOn?_of_plain (plain : event.reply? = none) : event.replyOn? session = none := by
  cases event with
  | opened named peer => rfl
  | closed named => rfl
  | frame named parcel =>
      cases parcel with
      | raw bytes => rfl
      | composed sequence message =>
          rw [replyOn?, message?]
          split
          · exact plain
          · rfl

theorem replyOn?_frame (session : SessionId) (sequence : UInt64) (message : Message) :
    (frame session (.composed sequence message)).replyOn? session = message.reply? := by
  rw [replyOn?, message?, if_pos rfl]
  rfl

end TransportEvent

/-- What a source is to believe when it has taken the answers of its mail. -/
def Tie.foreseen (tie : Tie) (mail : List (TransportEvent Parcel)) (session : SessionId) :
    Option Belief :=
  (mail.filterMap (TransportEvent.replyOn? session)).foldl Belief.hear tie.belief

theorem Tie.foreseen_append (tie : Tie) (mail more : List (TransportEvent Parcel))
    (session : SessionId) :
    tie.foreseen (mail ++ more) session =
      (more.filterMap (TransportEvent.replyOn? session)).foldl Belief.hear
        (tie.foreseen mail session) := by
  rw [foreseen, List.filterMap_append, List.foldl_append, foreseen]

theorem Tie.foreseen_of_silent (tie : Tie) {mail : List (TransportEvent Parcel)}
    {session : SessionId} (silent : ∀ event ∈ mail, event.replyOn? session = none) :
    tie.foreseen mail session = tie.belief := by
  rw [foreseen, List.filterMap_eq_nil_iff.2 silent, List.foldl_nil]

/-- The tie of a source to a sink is in concord with what the sink shares on its sessions. -/
structure Concord (tie : Tie) (mail : List (TransportEvent Parcel))
    (shares? : SessionId → Option Shares) (dealings : SessionId → List Dealing) : Prop where
  untied : tie.channel = none → tie.belief = none
  matched :
    ∀ {session}, tie.channel = some session → .closed session ∉ mail →
      Matches (dealings session) (tie.foreseen mail session) (shares? session)

namespace Concord

variable {tie : Tie} {mail more rest : List (TransportEvent Parcel)}
  {before after : SessionId → Option Shares} {dealings later : SessionId → List Dealing}
  {session : SessionId} {event : TransportEvent Parcel}

theorem of_untied : Concord ⟨none, none⟩ mail before dealings where
  untied := fun _ => rfl
  matched := by
    intro session tied
    cases tied

/-- Whatever waits for the source besides answers on its channel does not matter. -/
theorem grow (concord : Concord tie mail before dealings)
    (silent :
      ∀ session, tie.channel = some session → ∀ event ∈ more, event.replyOn? session = none)
    (same :
      ∀ session, tie.channel = some session → .closed session ∉ mail →
        after session = before session ∧ later session = dealings session) :
    Concord tie (mail ++ more) after later where
  untied := concord.untied
  matched := by
    intro session tied lasts
    have stays : .closed session ∉ mail := fun gone => lasts (List.mem_append_left _ gone)
    obtain ⟨shares, deals⟩ := same session tied stays
    rw [tie.foreseen_append, List.filterMap_eq_nil_iff.2 (silent session tied), List.foldl_nil,
      shares, deals]
    exact concord.matched tied stays

/-- The source takes an event and counts the answer that it brings. -/
theorem take (concord : Concord tie (event :: rest) before dealings)
    (lasts : ∀ session, tie.channel = some session → event ≠ .closed session) :
    Concord
      { tie with
        belief :=
          (tie.channel.bind fun session => event.replyOn? session).toList.foldl Belief.hear
            tie.belief }
      rest before dealings where
  untied := by
    intro untied
    change tie.channel = none at untied
    rw [untied]
    exact concord.untied untied
  matched := by
    intro session tied stays
    change tie.channel = some session at tied
    have waits : .closed session ∉ event :: rest := by
      intro gone
      cases List.mem_cons.1 gone with
      | inl first => exact lasts session tied first.symm
      | inr later => exact stays later
    have matched := concord.matched tied waits
    rw [Tie.foreseen, List.filterMap_cons] at matched
    rw [Tie.foreseen, tied, Option.bind_some]
    cases answer : event.replyOn? session with
    | none =>
        rw [answer] at matched
        exact matched
    | some reply =>
        rw [answer] at matched
        exact matched

/-- The source opens a channel, on which nothing has happened yet. -/
theorem find (concord : Concord tie mail before dealings) (untied : tie.channel = none)
    (silent : ∀ event ∈ mail, event.replyOn? session = none) (unshared : before session = none) :
    Concord { tie with channel := some session } mail before dealings where
  untied := by
    intro unknown
    cases unknown
  matched := by
    intro tested tied _
    obtain rfl := Option.some.inj tied
    rw [Tie.foreseen_of_silent _ silent, unshared, concord.untied untied]
    trivial

/-- The sink deals with a request on the channel, and the answer gets under way. -/
theorem deal (concord : Concord tie mail before dealings) (tied : tie.channel = some session)
    {request : Request} {reply : Reply}
    (settles : Settles request (before session) reply (after session))
    (plain : ∀ event ∈ more, event.reply? = none) (answers : event.replyOn? session = some reply)
    (lasts : .closed session ∉ mail) :
    Matches (dealings session ++ [⟨request, (before session).getD ∅, (after session).getD ∅⟩])
      (tie.foreseen (mail ++ (more ++ [event])) session) (after session) := by
  have silent : more.filterMap (TransportEvent.replyOn? session) = [] :=
    List.filterMap_eq_nil_iff.2 fun event listed =>
      TransportEvent.replyOn?_of_plain (plain event listed)
  rw [tie.foreseen_append, List.filterMap_append, silent, List.filterMap_cons, answers]
  exact (concord.matched tied lasts).settles settles

end Concord

end InputSharing

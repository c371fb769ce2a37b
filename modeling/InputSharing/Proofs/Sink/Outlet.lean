import InputSharing.Channel.Scripted
import InputSharing.Proofs.Sink.Frames
import Mathlib.Data.List.Induction
import Mathlib.Logic.Function.Iterate

/-!
# What a sink gives to its transport

A sink numbers its frames from one counter, whatever session they are for.  Its `Outlet`
is this counter together with the transport.

When frames for different sessions change places, their numbers change, but every session
is sent the same messages in the same order.  A transport is impartial when what it takes
for a session does not depend on what the others are sent; it then takes the same messages
as well.
-/

namespace InputSharing

/-- A message for a session. -/
abbrev Posting : Type := SessionId × Message

namespace Posting

/-- Messages for one session. -/
def allTo (session : SessionId) (messages : List Message) : List Posting :=
  messages.map fun message => (session, message)

/-- The messages for a session among others. -/
def messagesTo (session : SessionId) (postings : List Posting) : List Message :=
  (postings.filter fun posting => posting.1 = session).map Prod.snd

variable {session tested : SessionId} {message : Message} {postings : List Posting}

theorem messagesTo_append (first second : List Posting) :
    messagesTo session (first ++ second) =
      messagesTo session first ++ messagesTo session second := by
  rw [messagesTo, List.filter_append, List.map_append]
  rfl

theorem messagesTo_concat_of_eq :
    messagesTo session (postings ++ [(session, message)]) =
      messagesTo session postings ++ [message] := by
  rw [messagesTo_append]
  simp [messagesTo]

theorem messagesTo_concat_of_ne (other : tested ≠ session) :
    messagesTo session (postings ++ [(tested, message)]) = messagesTo session postings := by
  rw [messagesTo_append]
  simp [messagesTo, other]

theorem messagesTo_allTo (messages : List Message) :
    messagesTo tested (allTo session messages) = if session = tested then messages else [] := by
  rw [messagesTo, allTo, List.filter_map, List.map_map]
  split
  · next same =>
    subst same
    simp [Function.comp_def]
  · next other =>
    simp [Function.comp_def, other]

/-- Messages for different sessions may change places. -/
theorem messagesTo_swap {first second : SessionId} (apart : first ≠ second)
    (one other : List Message) :
    messagesTo session (allTo first one ++ allTo second other) =
      messagesTo session (allTo second other ++ allTo first one) := by
  rw [messagesTo_append, messagesTo_append]
  simp only [messagesTo_allTo]
  by_cases same : first = session
  · have other_session : second ≠ session := fun equal => apart (same.trans equal.symm)
    rw [if_neg other_session, List.append_nil, List.nil_append]
  · rw [if_neg same, List.append_nil, List.nil_append]

end Posting

/-! ## Outlets -/

/-- A transport, and the number of the next frame for it. -/
structure Outlet (τ : Type) where
  counter : FrameCounter
  line : τ

namespace Outlet

section Posting

variable {τ : Type} [Transport τ]

/-- Number a message and send it. -/
def post (outlet : Outlet τ) (posting : Posting) : Outlet τ where
  counter := outlet.counter.next.2
  line :=
    (Transport.transmit outlet.line posting.1
      (.composed outlet.counter.next.1 posting.2)).2

def postAll (outlet : Outlet τ) (postings : List Posting) : Outlet τ := postings.foldl post outlet

/-- What the transport would say to the next message. -/
def answer (outlet : Outlet τ) (session : SessionId) (message : Message) :
    Except TransportError Unit :=
  (Transport.transmit outlet.line session (.composed outlet.counter.next.1 message)).1

/-- Whether the next message is taken depends on nothing but what the session was sent
before. -/
def Impartial (outlet : Outlet τ) : Prop :=
  ∀ (first second : List Posting) (session : SessionId) (message : Message),
    Posting.messagesTo session first = Posting.messagesTo session second →
      (outlet.postAll first).answer session message =
        (outlet.postAll second).answer session message

theorem postAll_append (outlet : Outlet τ) (first second : List Posting) :
    outlet.postAll (first ++ second) = (outlet.postAll first).postAll second :=
  List.foldl_append

theorem postAll_concat (outlet : Outlet τ) (postings : List Posting) (posting : Posting) :
    outlet.postAll (postings ++ [posting]) = (outlet.postAll postings).post posting :=
  outlet.postAll_append postings [posting]

/-- Every message takes one number. -/
theorem counter_postAll (outlet : Outlet τ) (postings : List Posting) :
    (outlet.postAll postings).counter =
      (fun counter => counter.next.2)^[postings.length] outlet.counter := by
  induction postings generalizing outlet with
  | nil => rfl
  | cons posting rest inductionHypothesis => exact inductionHypothesis (outlet.post posting)

end Posting

end Outlet

/-! ## What a session is sent -/

/-- A message for a session that was given to the transport, with the answer. -/
def Deed.sent? (session : SessionId) : Deed → Option (Message × Except TransportError Unit)
  | .transmitted carrier (.composed _ message) answer =>
      if carrier = session then some (message, answer) else none
  | _ => none

namespace Recorded

variable {τ : Type}

/-- The messages that the transport was given for a session, each with the answer. -/
def answersTo (record : Recorded τ) (session : SessionId) :
    List (Message × Except TransportError Unit) :=
  record.deeds.filterMap (Deed.sent? session)

/-- The messages that the transport was given for a session. -/
def sentTo (record : Recorded τ) (session : SessionId) : List Message :=
  (record.answersTo session).map Prod.fst

end Recorded

namespace Outlet

variable {τ : Type} [Transport τ]

theorem answersTo_post (outlet : Outlet (Recorded τ)) (carrier session : SessionId)
    (message : Message) :
    (outlet.post (carrier, message)).line.answersTo session =
      outlet.line.answersTo session ++
        if carrier = session then [(message, outlet.answer session message)] else [] := by
  have deeds :
      (outlet.post (carrier, message)).line.deeds =
        outlet.line.deeds ++
          [.transmitted carrier (.composed outlet.counter.next.1 message)
            (outlet.answer carrier message)] :=
    rfl
  rw [Recorded.answersTo, deeds, List.filterMap_append]
  congr 1
  split
  · next same =>
    subst same
    simp [Deed.sent?]
  · next other => simp [Deed.sent?, other]

theorem sentTo_postAll (outlet : Outlet (Recorded τ)) (postings : List Posting)
    (session : SessionId) :
    (outlet.postAll postings).line.sentTo session =
      outlet.line.sentTo session ++ Posting.messagesTo session postings := by
  induction postings using List.reverseRecOn with
  | nil => exact (List.append_nil _).symm
  | append_singleton postings posting inductionHypothesis =>
      obtain ⟨carrier, message⟩ := posting
      rw [postAll_concat, Recorded.sentTo, answersTo_post, List.map_append]
      rw [Recorded.sentTo] at inductionHypothesis
      rw [inductionHypothesis, List.append_assoc]
      by_cases same : carrier = session
      · subst same
        rw [if_pos rfl, Posting.messagesTo_concat_of_eq]
        rfl
      · rw [if_neg same, Posting.messagesTo_concat_of_ne same, List.map_nil, List.append_nil]

theorem sends_postAll (outlet : Outlet (Recorded τ)) (session : SessionId)
    (messages : List Message) :
    Sends session messages outlet.line
      (outlet.postAll (Posting.allTo session messages)).line := by
  induction messages generalizing outlet with
  | nil => exact .refl session outlet.line
  | cons message rest inductionHypothesis =>
      have sent : Sends session [message] outlet.line (outlet.post (session, message)).line :=
        ⟨_, rfl, rfl⟩
      exact sent.append (inductionHypothesis (outlet.post (session, message)))

/-- The messages of the other sessions may be left out. -/
theorem Impartial.answersTo_alone {outlet : Outlet (Recorded τ)} (impartial : outlet.Impartial)
    (postings : List Posting) (session : SessionId) :
    (outlet.postAll postings).line.answersTo session =
      (outlet.postAll
        (Posting.allTo session (Posting.messagesTo session postings))).line.answersTo session := by
  induction postings using List.reverseRecOn with
  | nil => rfl
  | append_singleton postings posting inductionHypothesis =>
      obtain ⟨carrier, message⟩ := posting
      by_cases same : carrier = session
      · subst same
        have alone :
            Posting.messagesTo carrier
                (Posting.allTo carrier (Posting.messagesTo carrier postings)) =
              Posting.messagesTo carrier postings := by
          rw [Posting.messagesTo_allTo, if_pos rfl]
        have answer := impartial _ _ carrier message alone
        rw [Posting.messagesTo_concat_of_eq, Posting.allTo, List.map_append, List.map_singleton,
          postAll_concat, postAll_concat, answersTo_post, answersTo_post, inductionHypothesis]
        rw [← Posting.allTo, answer]
      · rw [postAll_concat, answersTo_post, if_neg same, List.append_nil, inductionHypothesis,
          Posting.messagesTo_concat_of_ne same]

/-- An impartial transport answers the same when messages for different sessions change
places. -/
theorem Impartial.answersTo_eq {outlet : Outlet (Recorded τ)} (impartial : outlet.Impartial)
    {first second : List Posting} {session : SessionId}
    (same : Posting.messagesTo session first = Posting.messagesTo session second) :
    (outlet.postAll first).line.answersTo session =
      (outlet.postAll second).line.answersTo session := by
  rw [impartial.answersTo_alone first, impartial.answersTo_alone second, same]

/-- Whether a scripted transport takes a frame is written in its script, which frames leave
alone. -/
theorem script_post (outlet : Outlet (Recorded Scripted)) (posting : Posting) :
    (outlet.post posting).line.line.live = outlet.line.line.live ∧
      (outlet.post posting).line.line.broken = outlet.line.line.broken := by
  simp only [post, Transport.transmit]
  split
  · exact ⟨rfl, rfl⟩
  · split
    · exact ⟨rfl, rfl⟩
    · exact ⟨rfl, rfl⟩

theorem impartial_scripted (outlet : Outlet (Recorded Scripted)) : outlet.Impartial := by
  have script (postings : List Posting) :
      (outlet.postAll postings).line.line.live = outlet.line.line.live ∧
        (outlet.postAll postings).line.line.broken = outlet.line.line.broken := by
    induction postings using List.reverseRecOn with
    | nil => exact ⟨rfl, rfl⟩
    | append_singleton postings posting inductionHypothesis =>
        have last := (outlet.postAll postings).script_post posting
        rw [postAll_concat]
        exact ⟨last.1.trans inductionHypothesis.1, last.2.trans inductionHypothesis.2⟩
  have answer (postings : List Posting) (session : SessionId) (message : Message) :
      (outlet.postAll postings).answer session message = outlet.answer session message := by
    obtain ⟨live, broken⟩ := script postings
    simp only [Outlet.answer, Transport.transmit, live, broken]
    cases outlet.line.line.broken[session]? with
    | some reason => rfl
    | none =>
        dsimp only
        split
        · rfl
        · rfl
  intro first second session message _
  rw [answer, answer]

end Outlet

/-! ## The outlet of a sink -/

namespace Sink.Turn

variable {τ κ : Type}

def outlet (turn : Turn τ κ) : Outlet τ := ⟨turn.sink.registry.counter, turn.line⟩

variable [Transport τ]

theorem outlet_post (turn : Turn τ κ) (session : SessionId) (message : Message) :
    (turn.post session message).outlet = turn.outlet.post (session, message) := by
  unfold post outlet Channels.send
  dsimp only
  split
  · next transmitted =>
    simp [Outlet.post, transmitted]
  · next transmitted =>
    simp [Outlet.post, transmitted]

theorem outlet_flushSession (turn : Turn τ κ) (session : SessionId) :
    (turn.flushSession session).outlet =
      turn.outlet.postAll
        (Posting.allTo session (Message.ofEvents turn.sink.device (turn.sink.aside session))) := by
  rw [flushSession, aside]
  cases turn.sink.outbox[session]? with
  | none => rfl
  | some events =>
      cases events with
      | nil => rfl
      | cons first rest => exact outlet_post _ session _

theorem outlet_reportHeldKeys [Collector κ] (turn : Turn τ κ) (session : SessionId)
    (handles : HandleSet) :
    (turn.reportHeldKeys session handles).outlet =
      turn.outlet.postAll
        (Posting.allTo session
          (Message.ofKeys turn.sink.device (Collector.heldKeys turn.collector handles))) := by
  rw [reportHeldKeys]
  rcases Collector.heldKeys turn.collector handles with _ | ⟨key, _ | ⟨second, rest⟩⟩
  · rfl
  · exact turn.outlet_post session _
  · exact turn.outlet_post session _

end Sink.Turn

end InputSharing

import InputSharing.Hub
import InputSharing.Proofs.Sink.Parts
import InputSharing.Source.Turn
import Mathlib.Data.List.Nodup

/-!
# Lanes

A lane is what matters of one channel from a source to a sink: whether its link
stands, the messages that are under way in both directions, the news that the
channel is gone, and the two nodes at its ends.

As long as the source knows the channel, nothing that the sink has routed to it is
lost or changes places.  What was injected, what is under way, and what the sink
has put aside make up what was routed.  The source will not refuse a batch, because
the answer that prepares it comes first; and it will take that answer, because the
token of the answer is in use until then.
-/

namespace InputSharing

/-! ## Messages of a lane -/

/-- A source that takes the answer is prepared from then on. -/
def Reply.prepares : Reply → Bool
  | .prepared status _ => status = Status.ok
  | _ => false

namespace Message

/-- The events that a message brings. -/
def brought : Message → List InputEvent
  | .inputEvents _ events => events
  | _ => []

/-- A source that takes the message is prepared from then on. -/
def prepares : Message → Bool
  | .reply _ answer | .relayedReply _ _ answer => answer.prepares
  | _ => false

/-- The token under which the message asks. -/
def asked? : Message → Option RelayToken
  | .relayed token _ _ => some token
  | _ => none

/-- The token under which the message answers. -/
def answered? : Message → Option RelayToken
  | .relayedReply token _ _ => some token
  | _ => none

end Message

/-- Whoever takes these messages in order is prepared when events come. -/
def Primed : Prop → List Message → Prop
  | _, [] => True
  | prepared, message :: rest =>
      (message.brought ≠ [] → prepared) ∧ Primed (prepared ∨ message.prepares = true) rest

theorem Primed.mono {before after : Prop} (grown : before → after) {messages : List Message}
    (primed : Primed before messages) : Primed after messages := by
  induction messages generalizing before after with
  | nil => trivial
  | cons message rest inductionHypothesis =>
      exact ⟨fun brings => grown (primed.1 brings),
        inductionHypothesis (Or.imp_left grown) primed.2⟩

theorem primed_append_singleton {prepared : Prop} {messages : List Message} {last : Message} :
    Primed prepared (messages ++ [last]) ↔
      Primed prepared messages ∧
        (last.brought ≠ [] → prepared ∨ ∃ message ∈ messages, message.prepares = true) := by
  induction messages generalizing prepared with
  | nil => simp [Primed]
  | cons message rest inductionHypothesis =>
      simp [Primed, inductionHypothesis, and_assoc, or_assoc]

/-- A token of a source stands for a request to a sink. -/
def Source.Holds (source : Source) (sink : DeviceId) (token : RelayToken) : Prop :=
  ∃ correlation, source.relays.live[token]? = some correlation ∧ correlation.target = sink

/-! ## Lanes -/

/-- A channel that a source has opened to a sink. -/
structure Route where
  session : SessionId
  source : DeviceId
  sink : DeviceId

def Route.link (route : Route) : Link := ⟨⟨route.source, .source⟩, ⟨route.sink, .sink⟩⟩

/-- What matters of a channel. -/
structure Lane where
  linked : Prop
  /-- What is under way to the source. -/
  up : List Message
  /-- What is under way to the sink. -/
  down : List Message
  /-- News that the channel is gone is under way to the source. -/
  sourceLoses : Prop
  /-- The same news is under way to the sink. -/
  sinkLoses : Prop
  source : Source
  sink : Sink

namespace Lane

/-- The tokens of requests that are in hand, under way, or on the way back. -/
def tokens (lane : Lane) (hand : List RelayToken) : List RelayToken :=
  hand ++ (lane.down.filterMap Message.asked? ++ lane.up.filterMap Message.answered?)

/-- What holds of a lane as long as its source knows the channel. -/
structure Runs (lane : Lane) (route : Route) (hand : List RelayToken)
    (injected : List (DeviceId × InputEvent)) (routed : List InputEvent) : Prop where
  standing : lane.linked ∨ lane.sourceLoses
  quiet : lane.linked → ¬lane.sourceLoses ∧ ¬lane.sinkLoses
  flows :
    ∃ rest,
      injected ++ (lane.up.flatMap Message.brought ++ rest).map (Prod.mk route.sink) =
          routed.map (Prod.mk route.sink) ∧
        (lane.linked → rest = lane.sink.aside route.session)
  primed : Primed (route.sink ∈ lane.source.beliefs) lane.up
  /-- A source is prepared if the sink is, or hears of it. -/
  promised :
    lane.linked → route.session ∈ lane.sink.switches →
      route.sink ∈ lane.source.beliefs ∨ ∃ message ∈ lane.up, message.prepares = true
  distinct : (lane.tokens hand).Nodup
  held : ∀ token ∈ lane.tokens hand, lane.source.Holds route.sink token

namespace Runs

variable {lane : Lane} {route : Route} {hand : List RelayToken}
  {injected : List (DeviceId × InputEvent)} {routed : List InputEvent}

/-! ## The two ends -/

/-- The source forgets neither that it is prepared nor what its tokens stand for. -/
theorem withSource (runs : lane.Runs route hand injected routed) {source : Source}
    (prepared : route.sink ∈ lane.source.beliefs → route.sink ∈ source.beliefs)
    (holds :
      ∀ token ∈ lane.tokens hand,
        lane.source.Holds route.sink token → source.Holds route.sink token) :
    ({ lane with source } : Lane).Runs route hand injected routed where
  standing := runs.standing
  quiet := runs.quiet
  flows := runs.flows
  primed := runs.primed.mono prepared
  promised := fun linked switched => (runs.promised linked switched).imp_left prepared
  distinct := runs.distinct
  held := fun token listed => holds token listed (runs.held token listed)

/-- The sink puts nothing aside and prepares nobody. -/
theorem withSink (runs : lane.Runs route hand injected routed) {sink : Sink}
    (aside : lane.linked → sink.aside route.session = lane.sink.aside route.session)
    (switches :
      lane.linked → route.session ∈ sink.switches → route.session ∈ lane.sink.switches) :
    ({ lane with sink } : Lane).Runs route hand injected routed where
  standing := runs.standing
  quiet := runs.quiet
  flows := by
    obtain ⟨rest, whole, waits⟩ := runs.flows
    exact ⟨rest, whole, fun linked => (waits linked).trans (aside linked).symm⟩
  primed := runs.primed
  promised := fun linked switched => runs.promised linked (switches linked switched)
  distinct := runs.distinct
  held := runs.held

/-- Tokens in hand need not be used. -/
theorem drop (runs : lane.Runs route hand injected routed) {fewer : List RelayToken}
    (sublist : fewer.Sublist hand) : lane.Runs route fewer injected routed where
  standing := runs.standing
  quiet := runs.quiet
  flows := runs.flows
  primed := runs.primed
  promised := runs.promised
  distinct := runs.distinct.sublist (sublist.append_right _)
  held := fun token listed => runs.held token ((sublist.append_right _).subset listed)

/-- A new token is given out. -/
theorem gain {token : RelayToken} (runs : lane.Runs route [] injected routed)
    (fresh : ¬lane.source.Holds route.sink token) {source : Source}
    (prepared : route.sink ∈ lane.source.beliefs → route.sink ∈ source.beliefs)
    (holds : ∀ other, lane.source.Holds route.sink other → source.Holds route.sink other)
    (holdsNew : source.Holds route.sink token) :
    ({ lane with source } : Lane).Runs route [token] injected routed where
  standing := runs.standing
  quiet := runs.quiet
  flows := runs.flows
  primed := runs.primed.mono prepared
  promised := fun linked switched => (runs.promised linked switched).imp_left prepared
  distinct := by
    refine List.nodup_cons.2 ⟨?_, runs.distinct⟩
    intro listed
    exact fresh (runs.held token listed)
  held := by
    intro other listed
    rcases List.mem_cons.1 listed with rfl | before
    · exact holdsNew
    · exact holds other (runs.held other before)

/-- The token in hand is used up. -/
theorem spend {token : RelayToken} (runs : lane.Runs route (token :: hand) injected routed)
    {source : Source}
    (prepared : route.sink ∈ lane.source.beliefs → route.sink ∈ source.beliefs)
    (holds :
      ∀ other, other ≠ token →
        lane.source.Holds route.sink other → source.Holds route.sink other) :
    ({ lane with source } : Lane).Runs route hand injected routed := by
  apply (runs.drop (List.sublist_cons_self token hand)).withSource prepared
  intro other listed
  apply holds
  rintro rfl
  exact (List.nodup_cons.1 runs.distinct).1 listed

/-! ## Messages -/

/-- The source sends a message. -/
theorem ask {message : Message}
    (runs : lane.Runs route (message.asked?.toList ++ hand) injected routed) :
    ({ lane with down := lane.down ++ [message] } : Lane).Runs route hand injected routed := by
  have same :
      (({ lane with down := lane.down ++ [message] } : Lane).tokens hand).Perm
        (lane.tokens (message.asked?.toList ++ hand)) := by
    cases asked : message.asked? with
    | none => simp [tokens, asked]
    | some token =>
        simp only [tokens, List.filterMap_append, List.append_assoc, Option.toList,
          List.filterMap_cons, asked, List.filterMap_nil, List.cons_append]
        refine (List.Perm.append_left hand ?_).trans List.perm_middle
        exact List.perm_middle
  exact
    { standing := runs.standing
      quiet := runs.quiet
      flows := runs.flows
      primed := runs.primed
      promised := runs.promised
      distinct := same.nodup_iff.2 runs.distinct
      held := fun token listed => runs.held token (same.subset listed) }

/-- The sink sends a message.  The events in it are those that were put aside. -/
theorem say {message : Message} {sink : Sink}
    (runs : lane.Runs route (message.answered?.toList ++ hand) injected routed)
    (linked : lane.linked)
    (aside :
      lane.sink.aside route.session = message.brought ++ sink.aside route.session)
    (brings : message.brought ≠ [] → route.session ∈ lane.sink.switches)
    (switches :
      route.session ∈ sink.switches →
        route.session ∈ lane.sink.switches ∨ message.prepares = true) :
    ({ lane with up := lane.up ++ [message], sink } : Lane).Runs route hand injected routed := by
  have same :
      (({ lane with up := lane.up ++ [message], sink } : Lane).tokens hand).Perm
        (lane.tokens (message.answered?.toList ++ hand)) := by
    cases answered : message.answered? with
    | none => simp [tokens, answered]
    | some token =>
        have last := List.perm_append_singleton token (lane.tokens hand)
        simpa [tokens, answered] using last
  have later
      (promise :
        route.sink ∈ lane.source.beliefs ∨ ∃ other ∈ lane.up, other.prepares = true) :
      route.sink ∈ lane.source.beliefs ∨
        ∃ other ∈ lane.up ++ [message], other.prepares = true := by
    rcases promise with prepared | ⟨other, listed, prepares⟩
    · exact Or.inl prepared
    · exact Or.inr ⟨other, List.mem_append_left _ listed, prepares⟩
  exact
    { standing := runs.standing
      quiet := runs.quiet
      flows := by
        obtain ⟨rest, whole, waits⟩ := runs.flows
        refine ⟨sink.aside route.session, ?_, fun _ => rfl⟩
        rw [← whole, waits linked, aside]
        simp
      primed := by
        rw [primed_append_singleton]
        exact ⟨runs.primed, fun some => runs.promised linked (brings some)⟩
      promised := by
        intro _ switched
        rcases switches switched with before | prepares
        · exact later (runs.promised linked before)
        · exact Or.inr ⟨message, List.mem_append_right _ (List.mem_singleton_self _), prepares⟩
      distinct := same.nodup_iff.2 runs.distinct
      held := fun token listed => runs.held token (same.subset listed) }

/-- The sink puts an event aside. -/
theorem collect (runs : lane.Runs route hand injected routed) {sink : Sink} {event : InputEvent}
    (aside : sink.aside route.session = lane.sink.aside route.session ++ [event])
    (switches : sink.switches = lane.sink.switches) :
    ({ lane with sink } : Lane).Runs route hand injected (routed ++ [event]) where
  standing := runs.standing
  quiet := runs.quiet
  flows := by
    obtain ⟨rest, whole, waits⟩ := runs.flows
    refine ⟨rest ++ [event], ?_, fun linked => ?_⟩
    · rw [← List.append_assoc, List.map_append, ← List.append_assoc, whole, List.map_append]
    · rw [waits linked]
      exact aside.symm
  primed := runs.primed
  promised := by
    change lane.linked → route.session ∈ sink.switches → _
    rw [switches]
    exact runs.promised
  distinct := runs.distinct
  held := runs.held

/-! ## Taking -/

/-- The source takes the first message. -/
theorem hear (runs : lane.Runs route [] injected routed) {message : Message}
    {rest : List Message} (first : lane.up = message :: rest) {source : Source}
    (prepared :
      route.sink ∈ lane.source.beliefs ∨ message.prepares = true →
        route.sink ∈ source.beliefs)
    (relays : source.relays = lane.source.relays) :
    ({ lane with up := rest, source } : Lane).Runs route message.answered?.toList
      (injected ++ message.brought.map (Prod.mk route.sink)) routed := by
  have same :
      (({ lane with up := rest, source } : Lane).tokens message.answered?.toList).Perm
        (lane.tokens []) := by
    cases answered : message.answered? with
    | none => simp [tokens, first, answered]
    | some token =>
        simp only [tokens, first, List.filterMap_cons, answered, Option.toList,
          List.nil_append, List.singleton_append]
        exact List.perm_middle.symm
  exact
    { standing := runs.standing
      quiet := runs.quiet
      flows := by
        obtain ⟨after, whole, waits⟩ := runs.flows
        refine ⟨after, ?_, waits⟩
        rw [← whole, first]
        simp
      primed := by
        have primed := runs.primed
        rw [first] at primed
        exact primed.2.mono prepared
      promised := by
        intro linked switched
        rcases runs.promised linked switched with before | ⟨other, listed, prepares⟩
        · exact Or.inl (prepared (Or.inl before))
        · rw [first] at listed
          rcases List.mem_cons.1 listed with rfl | later
          · exact Or.inl (prepared (Or.inr prepares))
          · exact Or.inr ⟨other, later, prepares⟩
      distinct := same.nodup_iff.2 runs.distinct
      held := by
        intro token listed
        have holds := runs.held token (same.subset listed)
        rw [Source.Holds, relays]
        exact holds }

/-- Whoever takes events is prepared for them. -/
theorem prepared_of_first (runs : lane.Runs route hand injected routed) {message : Message}
    {rest : List Message} (first : lane.up = message :: rest) (brings : message.brought ≠ []) :
    route.sink ∈ lane.source.beliefs := by
  have primed := runs.primed
  rw [first] at primed
  exact primed.1 brings

/-- The sink takes the first message. -/
theorem listen (runs : lane.Runs route [] injected routed) {message : Message}
    {rest : List Message} (first : lane.down = message :: rest) :
    ({ lane with down := rest } : Lane).Runs route message.asked?.toList injected routed := by
  have same :
      ({ lane with down := rest } : Lane).tokens message.asked?.toList = lane.tokens [] := by
    cases asked : message.asked? with
    | none => simp [tokens, first, asked]
    | some token => simp [tokens, first, asked]
  exact
    { standing := runs.standing
      quiet := runs.quiet
      flows := runs.flows
      primed := runs.primed
      promised := runs.promised
      distinct := same ▸ runs.distinct
      held := fun token listed => runs.held token (same ▸ listed) }

/-- The sink takes the news that the channel is gone. -/
theorem deafen (runs : lane.Runs route hand injected routed) (gone : ¬lane.linked)
    {sinkLoses : Prop} {sink : Sink} :
    ({ lane with sinkLoses, sink } : Lane).Runs route hand injected routed where
  standing := runs.standing
  quiet := fun linked => absurd linked gone
  flows := by
    obtain ⟨rest, whole, _⟩ := runs.flows
    exact ⟨rest, whole, fun linked => absurd linked gone⟩
  primed := runs.primed
  promised := fun linked => absurd linked gone
  distinct := runs.distinct
  held := runs.held

/-! ## Channels that come and go -/

/-- The link breaks, and both ends will hear of it. -/
theorem sever (runs : lane.Runs route hand injected routed) :
    ({ lane with linked := False, sourceLoses := True, sinkLoses := True } : Lane).Runs route
      hand injected routed where
  standing := Or.inr trivial
  quiet := False.elim
  flows := by
    obtain ⟨rest, whole, _⟩ := runs.flows
    exact ⟨rest, whole, False.elim⟩
  primed := runs.primed
  promised := False.elim
  distinct := runs.distinct
  held := runs.held

/-- On a new channel nothing has happened. -/
theorem start {source : Source} {sink : Sink} (aside : sink.aside route.session = [])
    (switches : route.session ∉ sink.switches) :
    ({ linked := True, up := [], down := [], sourceLoses := False, sinkLoses := False,
       source, sink } : Lane).Runs route [] [] [] where
  standing := Or.inl trivial
  quiet := fun _ => ⟨id, id⟩
  flows := ⟨[], rfl, fun _ => aside.symm⟩
  primed := trivial
  promised := fun _ switched => absurd switched switches
  distinct := List.nodup_nil
  held := nofun

/-- What was injected comes first in what was routed. -/
theorem ordered (runs : lane.Runs route hand injected routed) :
    injected <+: routed.map (Prod.mk route.sink) := by
  obtain ⟨rest, whole, _⟩ := runs.flows
  rw [← whole]
  exact List.prefix_append injected _

/-- When nothing is under way, everything has been injected but for what the sink has put
aside. -/
theorem complete (runs : lane.Runs route hand injected routed) (silent : lane.up = [])
    (noNews : ¬lane.sourceLoses) :
    injected ++ (lane.sink.aside route.session).map (Prod.mk route.sink) =
      routed.map (Prod.mk route.sink) := by
  obtain ⟨rest, whole, waits⟩ := runs.flows
  have linked := runs.standing.resolve_right noNews
  rw [silent, waits linked] at whole
  exact whole

end Runs

end Lane

end InputSharing

import InputSharing.Proofs.Sink.Batches
import InputSharing.Proofs.Sink.Ownership

/-!
# Captured events are sent once and in order

A `Logbook` is a turn of a sink together with what was made of the events that it has
captured, and the channels that were opened and that are gone.  What was routed to a
session is read off the captures, and what the session was sent is read off the record of
the transport.
-/

namespace InputSharing.Sink

/-- A turn and what led to it, as far as captured events are concerned. -/
structure Logbook (τ κ : Type) where
  turn : Turn (Recorded τ) (Metered κ)
  /-- What was made of the events of the devices, the first one first. -/
  captures : List Capture := []
  /-- The sessions of the channels that other nodes opened. -/
  opened : List SessionId := []
  /-- The sessions of the channels that were there and then were gone. -/
  gone : List SessionId := []

namespace Logbook

variable {τ κ : Type} [Transport τ] [Collector κ]

/-- The events that were routed to a session, in the order of their capture. -/
def routed (book : Logbook τ κ) (session : SessionId) : List InputEvent :=
  (book.captures.filter fun capture => capture.channel? = some session).map Capture.event

def undergo (book : Logbook τ κ) (occurrence : Occurrence) : Logbook τ κ :=
  let turn := book.turn.undergo occurrence
  match occurrence with
  | .captured event => { book with turn, captures := book.captures ++ [book.turn.capture event] }
  | .opened session _ => { book with turn, opened := book.opened ++ [session] }
  | .closed session =>
      let known := session ∈ book.turn.sink.registry.bySession
      { book with turn, gone := book.gone ++ if known then [session] else [] }
  | .message _ _ | .flush | .listen => { book with turn }

/-- The logbooks of a sink that started with the given settings. -/
inductive Reached (device : DeviceId) (allowList : AllowList) (batchMax : Nat) :
    Logbook τ κ → Prop
  | start (line : τ) (hardware : κ) :
      Reached device allowList batchMax
        { turn :=
            { sink := Sink.start device allowList batchMax
              line := { line }
              collector := { hardware } } }
  | undergo {book : Logbook τ κ} (occurrence : Occurrence) :
      Reached device allowList batchMax book →
      Reached device allowList batchMax (book.undergo occurrence)
  /-- The transport and the hardware change by themselves. -/
  | elsewhere {book : Logbook τ κ} (line : τ) (hardware : κ) :
      Reached device allowList batchMax book →
      Reached device allowList batchMax
        { book with
          turn :=
            { book.turn with
              line := { book.turn.line with line }
              collector := { book.turn.collector with hardware } } }

/-- A sink knows the channels that were opened and are not gone.  Each session was sent what
was routed to it, or this still waits; when its channel is gone, the end may be missing. -/
structure Sound (limit : Nat) (book : Logbook τ κ) : Prop where
  known : ∀ session ∈ book.turn.sink.registry.bySession, session ∈ book.opened
  gone_opened : ∀ session ∈ book.gone, session ∈ book.opened
  gone_unknown : ∀ session ∈ book.gone, session ∉ book.turn.sink.registry.bySession
  destined_eq : ∀ session ∉ book.gone, book.turn.destined session = book.routed session
  destined_prefix : ∀ session ∈ book.gone, book.turn.destined session <+: book.routed session
  neat : book.turn.Neat limit

namespace Sound

variable {limit : Nat} {book : Logbook τ κ}

omit [Transport τ] [Collector κ] in
/-- Events are sent and the rest is as before. -/
theorem spools (sound : book.Sound limit) {turn : Turn (Recorded τ) (Metered κ)}
    (spools : book.turn.Spools turn) : ({ book with turn } : Logbook τ κ).Sound limit where
  known := by
    rw [spools.bySession_eq]
    exact sound.known
  gone_opened := sound.gone_opened
  gone_unknown := by
    rw [spools.bySession_eq]
    exact sound.gone_unknown
  destined_eq := by
    intro session there
    rw [spools.destined_eq]
    exact sound.destined_eq session there
  destined_prefix := by
    intro session gone
    rw [spools.destined_eq]
    exact sound.destined_prefix session gone
  neat := spools.neat limit sound.neat

theorem opened (sound : book.Sound limit) {session : SessionId} (peer : DeviceId)
    (fresh : session ∉ book.opened) :
    (book.undergo (.opened session peer)).Sound limit where
  known := by
    intro tested present
    rcases Registry.mem_enter present with same | earlier
    · rw [same]
      exact List.mem_append_right _ (List.mem_singleton_self session)
    · exact List.mem_append_left _ (sound.known tested earlier)
  gone_opened := fun tested gone => List.mem_append_left _ (sound.gone_opened tested gone)
  gone_unknown := by
    intro tested gone present
    rcases Registry.mem_enter present with same | earlier
    · rw [same] at gone
      exact fresh (sound.gone_opened session gone)
    · exact sound.gone_unknown tested gone earlier
  destined_eq := sound.destined_eq
  destined_prefix := sound.destined_prefix
  neat := ⟨sound.neat.limit_eq, sound.neat.batch_sized, sound.neat.aside_short,
    sound.neat.aside_owned⟩

omit [Collector κ] in
/-- The owner of a handle has a channel, so no event is routed to one that is gone. -/
theorem not_routed_of_gone (sound : book.Sound limit) (books : Books book.turn.sink)
    {session : SessionId} (gone : session ∈ book.gone) (event : InputEvent) :
    (book.turn.capture event).channel? ≠ some session := by
  intro routed
  have owned : book.turn.sink.owners[event.handle]? = some session := by
    rw [Capture.channel?] at routed
    split at routed
    · exact routed
    · cases routed
  obtain ⟨switch, prepared, _⟩ := (books.owner_iff event.handle session).1 owned
  obtain ⟨channel, known, _⟩ :=
    Option.map_eq_some_iff.1 (books.peer_of_switch session switch prepared)
  exact sound.gone_unknown session gone (Table.mem_of_getElem? known)

omit [Transport τ] [Collector κ] in
/-- Nothing waits for a session without a channel. -/
theorem aside_of_unknown (books : Books book.turn.sink) {session : SessionId}
    (unknown : session ∉ book.turn.sink.registry.bySession) :
    book.turn.sink.aside session = [] := by
  have nothing : session ∉ book.turn.sink.outbox := by
    intro waits
    obtain ⟨switch, prepared⟩ :=
      (Table.mem_iff_exists _ _).1 (books.switch_of_outbox session waits)
    obtain ⟨channel, known, _⟩ :=
      Option.map_eq_some_iff.1 (books.peer_of_switch session switch prepared)
    exact unknown (Table.mem_of_getElem? known)
  rw [aside, Std.ExtTreeMap.getElem?_eq_none nothing]
  rfl

theorem captured (sound : book.Sound limit) (books : Books book.turn.sink)
    (event : InputEvent) : (book.undergo (.captured event)).Sound limit := by
  have bySession : (book.turn.captured event).2.sink.registry.bySession =
      book.turn.sink.registry.bySession := by
    rcases book.turn.captured_cases event with stays | ⟨session, _, goes⟩
    · rw [stays]
    · rw [goes]
      dsimp only
      split
      · exact (Turn.spools_flushSession _ session).bySession_eq
      · rfl
  have routed (session : SessionId) : (book.undergo (.captured event)).routed session =
      book.routed session ++
        if (book.turn.capture event).channel? = some session then [event] else [] := by
    change List.map _ (List.filter _ (book.captures ++ [book.turn.capture event])) = _
    rw [List.filter_append, List.map_append, List.filter_cons, List.filter_nil]
    simp only [decide_eq_true_eq]
    split
    · rfl
    · rfl
  refine ⟨?_, sound.gone_opened, ?_, ?_, ?_, sound.neat.captured event⟩
  · change ∀ session ∈ (book.turn.captured event).2.sink.registry.bySession, _
    rw [bySession]
    exact sound.known
  · change ∀ session ∈ book.gone, session ∉ (book.turn.captured event).2.sink.registry.bySession
    rw [bySession]
    exact sound.gone_unknown
  · intro session there
    rw [routed, ← sound.destined_eq session there]
    exact book.turn.destined_captured event session
  · intro session gone
    have unrouted := sound.not_routed_of_gone books gone event
    have same := book.turn.destined_captured event session
    rw [if_neg unrouted, List.append_nil] at same
    rw [routed, if_neg unrouted, List.append_nil]
    change (book.turn.captured event).2.destined session <+: _
    rw [same]
    exact sound.destined_prefix session gone

theorem closed (sound : book.Sound limit) (books : Books book.turn.sink)
    (session : SessionId) : (book.undergo (.closed session)).Sound limit := by
  have bySession : (book.turn.closed session).sink.registry.bySession =
      book.turn.sink.registry.bySession.erase session :=
    ((book.turn.spools_closed books session).bySession_eq).trans
      (Registry.bySession_closed _ session)
  have gone_cases (tested : SessionId) (gone : tested ∈ (book.undergo (.closed session)).gone) :
      tested ∈ book.gone ∨
        tested = session ∧ session ∈ book.turn.sink.registry.bySession := by
    rcases List.mem_append.1 gone with earlier | last
    · exact Or.inl earlier
    · split at last
      · next known => exact Or.inr ⟨List.mem_singleton.1 last, known⟩
      · cases last
  refine ⟨?_, ?_, ?_, ?_, ?_, sound.neat.closed books session⟩
  · intro tested present
    change tested ∈ (book.turn.closed session).sink.registry.bySession at present
    rw [bySession] at present
    exact sound.known tested (Std.ExtTreeMap.mem_of_mem_erase present)
  · intro tested gone
    rcases gone_cases tested gone with earlier | ⟨rfl, known⟩
    · exact sound.gone_opened tested earlier
    · exact sound.known tested known
  · intro tested gone present
    change tested ∈ (book.turn.closed session).sink.registry.bySession at present
    rw [bySession, Table.mem_erase_iff] at present
    rcases gone_cases tested gone with earlier | ⟨rfl, _⟩
    · exact sound.gone_unknown tested earlier present.2
    · exact present.1 rfl
  · intro tested there
    have before : tested ∉ book.gone := fun gone => there (List.mem_append_left _ gone)
    change (book.turn.closed session).destined tested = _
    rw [book.turn.destined_closed books]
    split
    · next same =>
      subst same
      have unknown : session ∉ book.turn.sink.registry.bySession := by
        intro known
        refine there (List.mem_append_right _ ?_)
        rw [if_pos known]
        exact List.mem_singleton_self session
      have destined := sound.destined_eq session before
      rw [Turn.destined, aside_of_unknown books unknown, List.append_nil] at destined
      exact destined
    · exact sound.destined_eq tested before
  · intro tested gone
    have kept : book.turn.destined tested <+: book.routed tested := by
      by_cases earlier : tested ∈ book.gone
      · exact sound.destined_prefix tested earlier
      · exact (sound.destined_eq tested earlier).symm ▸ List.prefix_rfl
    change (book.turn.closed session).destined tested <+: _
    rw [book.turn.destined_closed books]
    split
    · next same =>
      subst same
      exact (List.prefix_append _ _).trans kept
    · exact kept

theorem undergo (sound : book.Sound limit) (books : Books book.turn.sink)
    (occurrence : Occurrence) (fresh : (book.undergo occurrence).opened.Nodup) :
    (book.undergo occurrence).Sound limit := by
  cases occurrence with
  | opened session peer =>
    refine sound.opened peer fun earlier => ?_
    exact (List.nodup_append.1 fresh).2.2 session earlier session
      (List.mem_singleton_self session) rfl
  | message session message => exact sound.spools (book.turn.spools_handle books session message)
  | closed session => exact sound.closed books session
  | captured event => exact sound.captured books event
  | flush => exact sound.spools book.turn.spools_flush
  | listen =>
    exact sound.spools (.of_same rfl (fun _ => rfl) (fun _ => rfl) rfl fun _ _ _ owned => owned)

end Sound

section Histories

variable {device : DeviceId} {allowList : AllowList} {batchMax : Nat} {book : Logbook τ κ}

theorem opened_sublist_undergo (book : Logbook τ κ) (occurrence : Occurrence) :
    book.opened.Sublist (book.undergo occurrence).opened := by
  cases occurrence with
  | opened session peer => exact List.sublist_append_left _ _
  | message _ _ | closed _ | captured _ | flush | listen => exact List.Sublist.refl _

theorem Reached.sound (reached : book.Reached device allowList batchMax)
    (fresh : book.opened.Nodup) :
    book.Sound (max batchMax 1) ∧ Sink.Reached device allowList batchMax book.turn := by
  induction reached with
  | start line hardware =>
    refine ⟨⟨?_, ?_, ?_, ?_, ?_, rfl, ?_, ?_, ?_⟩, .start line hardware⟩
    · intro session known
      exact absurd known Std.ExtTreeMap.not_mem_empty
    · intro session gone
      cases gone
    · intro session gone
      cases gone
    · intro session _
      rfl
    · intro session gone
      cases gone
    · intro session batch listed
      cases listed
    · intro session
      exact Nat.lt_of_lt_of_le Nat.zero_lt_one (Nat.le_max_right batchMax 1)
    · intro session event waits
      cases waits
  | @undergo book occurrence _ inductionHypothesis =>
    obtain ⟨sound, reached⟩ :=
      inductionHypothesis (fresh.sublist (book.opened_sublist_undergo occurrence))
    have possible : occurrence.Possible book.turn.sink := by
      cases occurrence with
      | opened session peer =>
        intro known
        exact (List.nodup_append.1 fresh).2.2 session (sound.known session known) session
          (List.mem_singleton_self session) rfl
      | message _ _ | closed _ | captured _ | flush | listen => trivial
    have undergone : (book.undergo occurrence).turn = book.turn.undergo occurrence := by
      cases occurrence <;> rfl
    refine ⟨sound.undergo reached.ownership.books occurrence fresh, ?_⟩
    rw [undergone]
    exact reached.undergo occurrence possible
  | elsewhere line hardware _ inductionHypothesis =>
    obtain ⟨sound, reached⟩ := inductionHypothesis fresh
    refine ⟨⟨sound.known, sound.gone_opened, sound.gone_unknown, sound.destined_eq,
      sound.destined_prefix, ?_⟩, .elsewhere line hardware reached⟩
    exact ⟨sound.neat.limit_eq, sound.neat.batch_sized, sound.neat.aside_short,
      sound.neat.aside_owned⟩

theorem Reached.undergoAll (reached : book.Reached device allowList batchMax)
    (occurrences : List Occurrence) :
    (occurrences.foldl Logbook.undergo book).Reached device allowList batchMax := by
  induction occurrences generalizing book with
  | nil =>
      exact reached
  | cons first rest inductionHypothesis =>
      exact inductionHypothesis (reached.undergo first)

/-- Whatever a sink is asked and whatever its transport and its hardware do: each session
is sent the events that are routed to it, each once and in order.  Until its channel is gone,
what was not sent yet waits for it.  An event goes out exactly if its handle is owned; it waits
for the owner only; fewer events wait than make a batch; and a batch holds at least one event
and no more than the sink was told, or one. -/
theorem batching_conserves (reached : book.Reached device allowList batchMax)
    (fresh : book.opened.Nodup) :
    (∀ session,
      (book.turn.batches session).flatten <+: book.routed session ∧
        (session ∉ book.gone →
          book.routed session =
            (book.turn.batches session).flatten ++ book.turn.sink.aside session)) ∧
    (∀ event : InputEvent,
      (book.turn.captured event).1 = .throughOut ↔ event.handle ∈ book.turn.sink.owners) ∧
    (∀ session, ∀ batch ∈ book.turn.batches session,
      1 ≤ batch.length ∧ batch.length ≤ max batchMax 1) ∧
    ∀ session, (book.turn.sink.aside session).length < max batchMax 1 ∧
      ∀ event ∈ book.turn.sink.aside session,
        book.turn.sink.owners[event.handle]? = some session := by
  obtain ⟨sound, reached⟩ := reached.sound fresh
  refine ⟨?_, ?_, sound.neat.batch_sized, ?_⟩
  · intro session
    refine ⟨?_, fun there => (sound.destined_eq session there).symm⟩
    by_cases gone : session ∈ book.gone
    · exact (List.prefix_append _ _).trans (sound.destined_prefix session gone)
    · rw [← sound.destined_eq session gone]
      exact List.prefix_append _ _
  · exact reached.ownership.books.throughOut_captured
  · intro session
    exact ⟨sound.neat.aside_short session, sound.neat.aside_owned session⟩

end Histories

end Logbook

/-- An event of the mouse. -/
def motion (time : UInt64) : InputEvent where
  handle := ⟨"mouse"⟩
  eventClass := EventClass.relative
  code := 0
  value := 1
  whenUs := time

/-- The desk has borrowed the mouse of the tablet, which has then been moved three times. -/
def pointing : Logbook Scripted Hardware :=
  [.opened ⟨1⟩ ⟨"desk"⟩,
    .message ⟨1⟩ (.request ⟨"desk"⟩ .prepare),
    .message ⟨1⟩ (.request ⟨"desk"⟩ (.startByType TypeMask.mouse)),
    .captured (motion 1), .captured (motion 2), .captured (motion 3)].foldl
      Logbook.undergo { turn := idle }

theorem reached_pointing : pointing.Reached ⟨"tablet"⟩ [] 2 :=
  (Logbook.Reached.start idle.line.line idle.collector.hardware).undergoAll _

theorem batching_conserves_pointing :
    pointing.Reached ⟨"tablet"⟩ [] 2 ∧ pointing.opened.Nodup ∧ ⟨1⟩ ∉ pointing.gone ∧
      pointing.routed ⟨1⟩ = [motion 1, motion 2, motion 3] ∧
      pointing.turn.batches ⟨1⟩ = [[motion 1, motion 2]] ∧
      pointing.routed ⟨1⟩ =
        (pointing.turn.batches ⟨1⟩).flatten ++ pointing.turn.sink.aside ⟨1⟩ := by
  have fresh : pointing.opened.Nodup := by decide +kernel
  have there : ⟨1⟩ ∉ pointing.gone := by decide +kernel
  exact ⟨reached_pointing, fresh, there, by decide +kernel, by decide +kernel,
    ((Logbook.batching_conserves reached_pointing fresh).1 ⟨1⟩).2 there⟩

end InputSharing.Sink

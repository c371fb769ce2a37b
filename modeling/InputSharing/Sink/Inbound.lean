import InputSharing.Sink.Turn

/-!
# Messages to a sink

A sink answers requests of sources, whether they come directly or are passed on
by a relaying node; a passed-on request is answered with its token.  Every
request is answered, except that a channel that the sink does not know cannot
be prepared.
-/

namespace InputSharing.Sink

/-- How an answer goes back. -/
inductive Via where
  | direct
  | relayed (token : RelayToken)
  deriving DecidableEq, Repr

namespace Via

def message (via : Via) (device : DeviceId) (reply : Reply) : Message :=
  match via with
  | direct => .reply device reply
  | relayed token => .relayedReply token device reply

end Via

namespace Turn

variable {τ κ : Type} [Transport τ] [Collector κ]

def answer (turn : Turn τ κ) (session : SessionId) (via : Via) (reply : Reply) : Turn τ κ :=
  turn.post session (via.message turn.sink.device reply)

/-! ## Sessions -/

/-- Give a session a switch unless it has one. -/
def onPrepare (turn : Turn τ κ) (session : SessionId) (via : Via) : Turn τ κ :=
  match turn.sink.registry.peer? session with
  | none => turn
  | some peer =>
      let prepared : Turn τ κ :=
        { turn with
          sink :=
            { turn.sink with switches := turn.sink.switches.insertIfNew session { peer } } }
      prepared.answer session via (.prepared Status.ok turn.sink.allowList)

/-- Take the switch from a session, and everything that it owned. -/
def onUnprepare (turn : Turn τ κ) (session : SessionId) (via : Via) : Turn τ κ :=
  match turn.sink.switches[session]? with
  | none => turn.answer session via (.unprepared SharingError.notPrepared.statusCode)
  | some switch =>
      let (_, released) := turn.release session (HandleSet.ofKeys switch.handles) true
      let flushed := released.flushSession session
      let gone : Turn τ κ :=
        { flushed with
          sink :=
            { flushed.sink with
              switches := flushed.sink.switches.erase session
              outbox := flushed.sink.outbox.erase session } }
      gone.answer session via (.unprepared Status.ok)

/-! ## Starting -/

/-- Share the devices of some classes, each for those of its classes that are
asked for. -/
def onStartByType (turn : Turn τ κ) (session : SessionId) (via : Via) (types : TypeMask) :
    Turn τ κ :=
  let listed := (Collector.ofTypes turn.collector types).filter fun _ device =>
    device.types.intersects types
  let candidates := listed.map fun _ device => device.types ∩ types
  match turn.grant session candidates with
  | (.error error, turn) =>
      turn.answer session via (.startedByType error.statusCode types ∅)
  | (.ok granted, turn) =>
      let union := granted.toList.foldl (fun union entry => union ∪ entry.2) ∅
      turn.answer session via (.startedByType Status.ok types union)

/-- Share the devices of some handles, with all their classes. -/
def onStartByHandles (turn : Turn τ κ) (session : SessionId) (via : Via)
    (handles : HandleSet) : Turn τ κ :=
  let listed := (Collector.ofHandles turn.collector handles).filter fun handle _ =>
    handle ∈ handles
  let candidates := listed.map fun _ device => device.types
  match turn.grant session candidates with
  | (.error error, turn) =>
      turn.answer session via (.startedByHandles error.statusCode handles ∅)
  | (.ok granted, turn) =>
      turn.answer session via (.startedByHandles Status.ok handles (HandleSet.ofKeys granted))

/-! ## Stopping -/

/-- Take classes from the handles of a session.  A handle is taken back when it
had one of the classes and none is left.  A handle that never had a class is
left alone. -/
def onStopByType (turn : Turn τ κ) (session : SessionId) (via : Via) (types : TypeMask) :
    Turn τ κ :=
  match turn.sink.switches[session]? with
  | none =>
      turn.answer session via
        (.stoppedByType SharingError.switchNotFound.statusCode types ∅)
  | some switch =>
      let touched := switch.handles.filter fun _ owned => owned.intersects types
      let stopped := touched.toList.foldl (fun union entry => union ∪ (entry.2 ∩ types)) ∅
      let emptied := HandleSet.ofKeys (touched.filter fun _ owned => (owned \ types).isEmpty)
      let left := switch.handles.map fun _ owned => owned \ types
      let lowered : Turn τ κ :=
        { turn with
          sink :=
            { turn.sink with
              switches := turn.sink.switches.insert session { switch with handles := left } } }
      let (_, turn) := lowered.release session emptied true
      turn.answer session via (.stoppedByType Status.ok types stopped)

def onStopByHandles (turn : Turn τ κ) (session : SessionId) (via : Via)
    (handles : HandleSet) : Turn τ κ :=
  match turn.sink.switches[session]? with
  | none =>
      turn.answer session via
        (.stoppedByHandles SharingError.switchNotFound.statusCode handles ∅)
  | some _ =>
      let (released, turn) := turn.release session handles true
      turn.answer session via (.stoppedByHandles Status.ok handles released)

/-! ## All messages -/

def serve (turn : Turn τ κ) (session : SessionId) (via : Via) : Request → Turn τ κ
  | .prepare => turn.onPrepare session via
  | .unprepare => turn.onUnprepare session via
  | .startByType types => turn.onStartByType session via types
  | .stopByType types => turn.onStopByType session via types
  | .startByHandles handles => turn.onStartByHandles session via handles
  | .stopByHandles handles => turn.onStopByHandles session via handles

/-- Take a message that arrived on a channel.  What is meant for sources is
dropped. -/
def handle (session : SessionId) (message : Message) (turn : Turn τ κ) : Turn τ κ :=
  match message with
  | .request _ request => turn.serve session .direct request
  | .relayed token _ request => turn.serve session (.relayed token) request
  | .latencyProbe _ sentAtUs =>
      turn.post session (.latencyEcho turn.sink.device sentAtUs)
  | _ => turn

end Turn

end InputSharing.Sink

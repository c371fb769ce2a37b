import InputSharing.Channel.Transport

/-!
# A transport that follows a script

A scripted transport has no other side.  It is told beforehand which peers it
cannot reach and which sessions are broken, and it keeps a record of what it
was asked to do.  An endpoint can be exercised on it alone.
-/

namespace InputSharing

/-- A transport without another side. -/
structure Scripted where
  /-- The session of the next channel that is opened. -/
  nextSession : SessionId := ⟨100⟩
  /-- The sessions that accept frames. -/
  live : Table SessionId Unit := ∅
  /-- The peers that cannot be reached, and why. -/
  unreachable : Table DeviceId TransportError := ∅
  /-- The sessions on which every frame fails, and the reason. -/
  broken : Table SessionId String := ∅
  /-- The channels that were opened, the oldest first. -/
  dialled : List (Endpoint × SessionId) := []
  /-- The frames that were accepted, the oldest first. -/
  accepted : List (SessionId × Parcel) := []
  /-- The channels that were closed from this side, the oldest first. -/
  hungUp : List SessionId := []

namespace Scripted

/-! ## The script -/

/-- A peer cannot be reached from now on; without a reason, because it is not
known. -/
def refuse (script : Scripted) (peer : DeviceId) (reason : Option String) : Scripted :=
  let cause :=
    match reason with
    | none => .unknownPeer peer
    | some reason => .io reason
  { script with unreachable := script.unreachable.insert peer cause }

def allow (script : Scripted) (peer : DeviceId) : Scripted :=
  { script with unreachable := script.unreachable.erase peer }

def enable (script : Scripted) (session : SessionId) : Scripted :=
  { script with live := script.live.insert session () }

/-- Every frame on a session fails from now on.  Without a reason the session
simply accepts no frames any more. -/
def kill (script : Scripted) (session : SessionId) (reason : Option String) : Scripted :=
  match reason with
  | none => { script with live := script.live.erase session }
  | some reason => { script with broken := script.broken.insert session reason }

def revive (script : Scripted) (session : SessionId) : Scripted :=
  { script with broken := script.broken.erase session }.enable session

def clearRecord (script : Scripted) : Scripted :=
  { script with dialled := [], accepted := [], hungUp := [] }

/-! ## The transport -/

instance : Transport Scripted where
  dial script peer role :=
    match script.unreachable[peer]? with
    | some cause => (.error cause, script)
    | none =>
        let session := script.nextSession
        (.ok session,
          { script.enable session with
            nextSession := ⟨session.number + 1⟩
            dialled := script.dialled ++ [(⟨peer, role⟩, session)] })
  transmit script session parcel :=
    match script.broken[session]? with
    | some reason => (.error (.io reason), script)
    | none =>
        if script.live.contains session then
          (.ok (), { script with accepted := script.accepted ++ [(session, parcel)] })
        else (.error (.sessionClosed session), script)
  hangUp script session :=
    { script with
      live := script.live.erase session
      hungUp := script.hungUp ++ [session] }

end Scripted

end InputSharing

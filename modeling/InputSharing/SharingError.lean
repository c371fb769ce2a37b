/-!
# Why a request fails

Every answer carries a status code.  Zero says that the request was granted,
and each cause of failure has a code of its own; a code that names no cause
stands for itself.  `SharingError` is the cause, `SharingError.statusCode` the
code under which another node hears of it, and `SharingError.check` reads a
code back.
-/

namespace InputSharing

namespace Status

def ok : Int32 := 0

def notPrepared : Int32 := -1

def switchNotFound : Int32 := -2

def alreadyPending : Int32 := -3

def channelOpenFailed : Int32 := -4

def sendFailed : Int32 := -5

def disconnected : Int32 := -6

def captureFailed : Int32 := -7

end Status

/-- The cause for which a request failed. -/
inductive SharingError where
  | channelOpenFailed (reason : String)
  | alreadyPending
  | notPrepared
  | switchNotFound
  | disconnected
  | sendFailed (reason : String)
  | captureFailed
  /-- The other node answered with a code that names no cause. -/
  | rejected (code : Int32)
  deriving DecidableEq, Repr

namespace SharingError

def name : SharingError → String
  | channelOpenFailed _ => "ChannelOpenError"
  | alreadyPending => "AlreadyPending"
  | notPrepared => "NotPrepared"
  | switchNotFound => "SwitchNotFound"
  | disconnected => "Disconnected"
  | sendFailed _ => "SendFailed"
  | captureFailed => "CaptureFailed"
  | rejected _ => "Rejected"

def message : SharingError → String
  | channelOpenFailed reason => "could not open channel: " ++ reason
  | alreadyPending => "an identical request is already pending"
  | notPrepared => "peer is not prepared"
  | switchNotFound => "sink has no switch for this session"
  | disconnected => "peer disconnected"
  | sendFailed reason => "send failed: " ++ reason
  | captureFailed => "sink could not start capturing"
  | rejected code => "remote rejected the request with status " ++ toString code.toInt

def statusCode : SharingError → Int32
  | channelOpenFailed _ => Status.channelOpenFailed
  | alreadyPending => Status.alreadyPending
  | notPrepared => Status.notPrepared
  | switchNotFound => Status.switchNotFound
  | disconnected => Status.disconnected
  | sendFailed _ => Status.sendFailed
  | captureFailed => Status.captureFailed
  | rejected code => code

/-- The reason given for a failure that another node reports by its code
alone. -/
def reported : String := "reported by relay node"

/-- Read a status code: success, or the cause that the code names. -/
def check (code : Int32) : Except SharingError Unit :=
  if code = Status.ok then .ok ()
  else if code = Status.notPrepared then .error notPrepared
  else if code = Status.switchNotFound then .error switchNotFound
  else if code = Status.alreadyPending then .error alreadyPending
  else if code = Status.channelOpenFailed then .error (channelOpenFailed reported)
  else if code = Status.sendFailed then .error (sendFailed reported)
  else if code = Status.disconnected then .error disconnected
  else if code = Status.captureFailed then .error captureFailed
  else .error (rejected code)

end SharingError

end InputSharing

import InputSharing.Identity

/-!
# The sharing state of devices

A device handle is either local (`throughIn`) or forwarded to another node
(`throughOut`).  A `Tracker` remembers the last mark of every handle that was
ever marked; a handle without a mark is local.
-/

namespace InputSharing

/-- Where the events of a device go. -/
inductive SharingState where
  /-- To another node. -/
  | throughOut
  /-- To the node the device belongs to. -/
  | throughIn
  deriving DecidableEq, Repr, Inhabited

def SharingState.name : SharingState → String
  | throughOut => "ThroughOut"
  | throughIn => "ThroughIn"

/-- The last mark of every handle that was ever marked. -/
structure Tracker where
  marks : Table HandleId SharingState := ∅

namespace Tracker

def stateOf (tracker : Tracker) (handle : HandleId) : SharingState :=
  tracker.marks[handle]?.getD .throughIn

def markOne (tracker : Tracker) (target : SharingState) (handle : HandleId) : Tracker :=
  ⟨tracker.marks.insert handle target⟩

/-- Mark the listed handles one after another.  The second component lists the
handles whose state changed, in the order in which they changed. -/
def mark (tracker : Tracker) (target : SharingState) :
    List HandleId → Tracker × List HandleId
  | [] => (tracker, [])
  | handle :: rest =>
      let (marked, changed) := (tracker.markOne target handle).mark target rest
      if tracker.stateOf handle = target then (marked, changed)
      else (marked, handle :: changed)

/-- The forwarded handles, in the order of their names. -/
def throughOut (tracker : Tracker) : List HandleId :=
  (tracker.marks.toList.filter fun entry => entry.2 = .throughOut).map Prod.fst

end Tracker

end InputSharing

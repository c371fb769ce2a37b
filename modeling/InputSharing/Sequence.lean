/-!
# Frame numbers

Outgoing frames are numbered one after another, from zero; the number after
the largest one is zero again.  A receiver compares each number with the one
before it to notice frames that were lost or changed places.
-/

namespace InputSharing

/-- A source of frame numbers. -/
structure FrameCounter where
  /-- The number that the next frame gets, which is also how many numbers have
  been given out as long as the counter has not started again. -/
  issued : UInt64 := 0
  deriving DecidableEq, Repr, Inhabited

namespace FrameCounter

def next (counter : FrameCounter) : UInt64 × FrameCounter :=
  (counter.issued, ⟨counter.issued + 1⟩)

/-- Give out several numbers, in order. -/
def take (counter : FrameCounter) : Nat → List UInt64 × FrameCounter
  | 0 => ([], counter)
  | count + 1 =>
      let (number, after) := counter.next
      let (numbers, last) := after.take count
      (number :: numbers, last)

/-- Whether a frame number shows that something is missing or out of place
after the last one seen.  The first frame of a channel never does. -/
def isGap (last : Option UInt64) (received : UInt64) : Bool :=
  match last with
  | none => false
  | some number => received != number + 1

end FrameCounter

end InputSharing

import InputSharing.SharingError

/-!
# Waiting calls

The protocol has no request numbers.  An answer finds its call by what the call
was about, its key, so at most one call waits under each key.  A call that comes
while another waits under the same key is refused at once.

A call is known by the `Ticket` it was given.  The end of a call is a
`Completion`, and every operation says which completions it brings about.
-/

namespace InputSharing

/-- What identifies one call. -/
abbrev Ticket : Type := Nat

/-- The end of one call that grants a `ρ`. -/
structure Completion (ρ : Type) where
  ticket : Ticket
  result : Except SharingError ρ

/-- The calls that wait for an answer, the oldest first. -/
structure Pending (κ : Type) where
  waiting : List (κ × Ticket) := []

namespace Pending

variable {κ ρ : Type}

def size (pending : Pending κ) : Nat := pending.waiting.length

def isEmpty (pending : Pending κ) : Bool := pending.waiting.isEmpty

/-- End every call whose key satisfies a condition with one error. -/
def failWhere (pending : Pending κ) (doomed : κ → Bool) (error : SharingError) :
    List (Completion ρ) × Pending κ :=
  ((pending.waiting.filter fun entry => doomed entry.1).map fun entry =>
      ⟨entry.2, .error error⟩,
    ⟨pending.waiting.filter fun entry => !doomed entry.1⟩)

variable [DecidableEq κ]

def contains (pending : Pending κ) (key : κ) : Bool :=
  (pending.waiting.lookup key).isSome

/-- Let a call wait under a key.  If another waits there, the newcomer ends at
once and the other stays. -/
def insert (pending : Pending κ) (key : κ) (ticket : Ticket) :
    Option (Completion ρ) × Pending κ :=
  if pending.contains key then (some ⟨ticket, .error .alreadyPending⟩, pending)
  else (none, ⟨pending.waiting ++ [(key, ticket)]⟩)

/-- End the call that waits under exactly one key, if there is one. -/
def complete (pending : Pending κ) (key : κ) (result : Except SharingError ρ) :
    Option (Completion ρ) × Pending κ :=
  match pending.waiting.lookup key with
  | none => (none, pending)
  | some ticket =>
      (some ⟨ticket, result⟩, ⟨pending.waiting.filter fun entry => entry.1 ≠ key⟩)

end Pending

end InputSharing

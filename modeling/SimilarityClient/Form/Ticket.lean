/-! # Request tickets

Every submission takes a ticket. Only the latest one counts.
-/

namespace SimilarityClient

structure Ticket where
  id : Nat
  deriving DecidableEq, Repr

/-- Remembers the ticket that was handed out last; none is numbered zero. -/
structure TicketSequence where
  latest : Nat
  deriving DecidableEq, Repr

namespace TicketSequence

def initial : TicketSequence := ⟨0⟩

def next (s : TicketSequence) : Ticket × TicketSequence := (⟨s.latest + 1⟩, ⟨s.latest + 1⟩)

def isLatest (s : TicketSequence) (t : Ticket) : Bool := t.id == s.latest

@[simp] theorem isLatest_iff (s : TicketSequence) (t : Ticket) :
    s.isLatest t = true ↔ t.id = s.latest := by simp [isLatest]

end TicketSequence

end SimilarityClient

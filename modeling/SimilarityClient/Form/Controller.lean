import SimilarityClient.Form.Slot
import SimilarityClient.Form.Ticket
import SimilarityClient.Form.View

/-! # The form

Its state is the slots, the tickets handed out and the results shown. A
submission that is not the latest one changes nothing when it completes.
-/

namespace SimilarityClient

structure Form where
  slots : SlotList
  tickets : TicketSequence
  results : ResultsView
  deriving DecidableEq, Repr

namespace Form

def initial : Form := ⟨SlotList.initial, TicketSequence.initial, .idle⟩

def slotCount (f : Form) : Nat := f.slots.count

def addSlot (f : Form) : Slot × Form :=
  let (slot, slots) := f.slots.add
  (slot, { f with slots })

def removeSlot (f : Form) : Bool × Form :=
  let (removed, slots) := f.slots.remove
  (removed, { f with slots })

/-- Begins a submission: earlier results go, and a ticket is handed out. -/
def beginSubmit (f : Form) : Ticket × Form :=
  let (ticket, tickets) := f.tickets.next
  (ticket, { f with tickets, results := .pending })

/-- Shows the result of a submission, unless a later one has been begun. -/
def completeSubmit (f : Form) (ticket : Ticket) (result : SubmitResult) : Bool × Form :=
  if f.tickets.isLatest ticket then (true, { f with results := .ofResult result }) else (false, f)

theorem completeSubmit_of_isLatest {f : Form} {t : Ticket} (h : f.tickets.isLatest t = true)
    (r : SubmitResult) : f.completeSubmit t r = (true, { f with results := .ofResult r }) := by
  simp [completeSubmit, h]

theorem completeSubmit_of_not_isLatest {f : Form} {t : Ticket} (h : f.tickets.isLatest t = false)
    (r : SubmitResult) : f.completeSubmit t r = (false, f) := by
  simp [completeSubmit, h]

end Form

end SimilarityClient

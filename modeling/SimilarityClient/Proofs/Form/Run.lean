import SimilarityClient.Form.Controller

/-! # Runs of the form

A run is a list of events, in the order in which they happen. Every event gives
a reply and leaves a form behind. Tickets are numbered from one, and only the
completions that carry the latest of them show in the results.
-/

namespace SimilarityClient

namespace Form

inductive Event
  | addSlot
  | removeSlot
  | beginSubmit
  | completeSubmit (ticket : Ticket) (result : SubmitResult)

inductive Reply
  | slot (s : Slot)
  | flag (b : Bool)
  | ticket (t : Ticket)
  deriving DecidableEq, Repr

def Reply.ticket? : Reply → Option Ticket
  | ticket t => some t
  | _ => none

def Event.completion? : Event → Option (Ticket × SubmitResult)
  | completeSubmit t r => some (t, r)
  | _ => none

def step (f : Form) : Event → Reply × Form
  | .addSlot => (.slot f.addSlot.1, f.addSlot.2)
  | .removeSlot => (.flag f.removeSlot.1, f.removeSlot.2)
  | .beginSubmit => (.ticket f.beginSubmit.1, f.beginSubmit.2)
  | .completeSubmit t r => (.flag (f.completeSubmit t r).1, (f.completeSubmit t r).2)

def run (f : Form) : List Event → Form
  | [] => f
  | e :: es => run (f.step e).2 es

def replies (f : Form) : List Event → List Reply
  | [] => []
  | e :: es => (f.step e).1 :: replies (f.step e).2 es

def ticketsOf (f : Form) (es : List Event) : List Ticket := (f.replies es).filterMap Reply.ticket?

def completions (es : List Event) : List (Ticket × SubmitResult) := es.filterMap Event.completion?

/-- The results that completions with a ticket bring, in order. -/
def resultsFor (t : Ticket) (es : List Event) : List SubmitResult :=
  (completions es).filterMap fun c => if c.1 = t then some c.2 else none

variable (f : Form) (e : Event) (es es' : List Event)

@[simp] theorem run_nil : f.run [] = f := rfl

@[simp] theorem run_cons : f.run (e :: es) = (f.step e).2.run es := rfl

@[simp] theorem run_append : f.run (es ++ es') = (f.run es).run es' := by
  induction es generalizing f with
  | nil => rfl
  | cons e es ih => exact ih _

@[simp] theorem replies_append :
    f.replies (es ++ es') = f.replies es ++ (f.run es).replies es' := by
  induction es generalizing f with
  | nil => rfl
  | cons e es ih => exact congrArg _ (ih _)

theorem ticketsOf_cons :
    f.ticketsOf (e :: es) = (f.step e).1.ticket?.toList ++ (f.step e).2.ticketsOf es := by
  rw [ticketsOf, replies, List.filterMap_cons]
  cases (f.step e).1.ticket? <;> rfl

@[simp] theorem ticketsOf_append :
    f.ticketsOf (es ++ es') = f.ticketsOf es ++ (f.run es).ticketsOf es' := by
  simp [ticketsOf]

@[simp] theorem completions_append :
    completions (es ++ es') = completions es ++ completions es' := by
  simp [completions]

@[simp] theorem mem_completions_iff {t : Ticket} {r : SubmitResult} :
    (t, r) ∈ completions es ↔ .completeSubmit t r ∈ es := by
  simp only [completions, List.mem_filterMap]
  constructor
  · rintro ⟨e, he, h⟩
    cases e <;> simp_all [Event.completion?]
  · exact fun h => ⟨_, h, rfl⟩

theorem mem_resultsFor_iff {t : Ticket} {r : SubmitResult} :
    r ∈ resultsFor t es ↔ .completeSubmit t r ∈ es := by
  simp [resultsFor, ← mem_completions_iff]

theorem latest_step :
    (f.step e).2.tickets.latest = f.tickets.latest + (f.step e).1.ticket?.toList.length := by
  cases e with
  | addSlot => rfl
  | removeSlot => rfl
  | beginSubmit => rfl
  | completeSubmit t r => simp only [step, completeSubmit]; split <;> rfl

theorem ticket?_step {t : Ticket} (h : (f.step e).1.ticket? = some t) :
    e = .beginSubmit ∧ t = ⟨f.tickets.latest + 1⟩ := by
  cases e <;> simp [step, Reply.ticket?, beginSubmit, TicketSequence.next] at h ⊢
  exact h.symm

theorem latest_run : (f.run es).tickets.latest = f.tickets.latest + (f.ticketsOf es).length := by
  induction es generalizing f with
  | nil => rfl
  | cons e es ih => rw [run_cons, ih, latest_step, ticketsOf_cons, List.length_append]; omega

/-- Tickets are numbered in a row, from the one behind the latest. -/
theorem map_id_ticketsOf : (f.ticketsOf es).map Ticket.id =
    List.range' (f.tickets.latest + 1) (f.ticketsOf es).length := by
  induction es generalizing f with
  | nil => rfl
  | cons e es ih =>
    have hl := latest_step f e
    rw [ticketsOf_cons]
    cases ht : (f.step e).1.ticket? with
    | none => simpa [hl, ht] using ih (f.step e).2
    | some t =>
      obtain ⟨-, rfl⟩ := ticket?_step f e ht
      simpa [hl, ht, List.range'_succ] using ih (f.step e).2

end Form

end SimilarityClient

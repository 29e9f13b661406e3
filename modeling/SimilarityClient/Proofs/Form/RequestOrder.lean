import Mathlib.Data.List.Nodup
import SimilarityClient.Proofs.Form.Run

/-! # The order of submissions

Submissions may overlap, and their answers may come late, twice or never. The
results show the submission that was begun last, and it alone: two runs of the
same submissions that begin the same one last end in the same view.
-/

namespace SimilarityClient

namespace Form

variable {es es' before later : List Event} {t : Ticket} {r : SubmitResult}

/-- A submission completes only after it has been begun. -/
def Honest (es : List Event) : Prop :=
  ∀ before t r later, es = before ++ .completeSubmit t r :: later → t ∈ initial.ticketsOf before

/-- Every submission completes exactly once. -/
def CompletedOnce (es : List Event) : Prop :=
  ((completions es).map Prod.fst).Perm (initial.ticketsOf es)

/-- Two runs have the same submissions, and begin the same one last. The ticket
of a submission in the first run is renamed to its ticket in the second. -/
structure SameSubmissions (rename : Ticket → Ticket) (es es' : List Event) : Prop where
  completed : (completions es').Perm ((completions es).map fun c => (rename c.1, c.2))
  last : (initial.ticketsOf es').getLast? = (initial.ticketsOf es).getLast?.map rename

/-- What shows after the latest submission has completed with some results. -/
def viewOf (results : List SubmitResult) : ResultsView :=
  (results.getLast?.map ResultsView.ofResult).getD .pending

theorem ticketsOf_eq_nil (h : .beginSubmit ∉ es) (f : Form) : f.ticketsOf es = [] := by
  induction es generalizing f with
  | nil => rfl
  | cons e es ih =>
    rw [List.mem_cons, not_or] at h
    rw [ticketsOf_cons, ih h.2, List.append_nil]
    cases ht : (f.step e).1.ticket? with
    | none => rfl
    | some t => exact absurd (ticket?_step f e ht).1.symm h.1

theorem pairwise_id_ticketsOf (f : Form) (es : List Event) :
    ((f.ticketsOf es).map Ticket.id).Pairwise (· < ·) := by
  rw [map_id_ticketsOf]
  exact List.pairwise_lt_range'

theorem nodup_ticketsOf (f : Form) (es : List Event) : (f.ticketsOf es).Nodup := by
  have h : ((f.ticketsOf es).map Ticket.id).Nodup :=
    (pairwise_id_ticketsOf f es).imp Nat.ne_of_lt
  exact h.of_map

theorem id_le_of_mem_ticketsOf (h : t ∈ initial.ticketsOf es) :
    0 < t.id ∧ t.id ≤ (initial.ticketsOf es).length := by
  have hm := List.mem_map_of_mem (f := Ticket.id) h
  rw [map_id_ticketsOf, List.mem_range'_1] at hm
  change 0 + 1 ≤ t.id ∧ t.id < 0 + 1 + _ at hm
  omega

theorem latest_run_initial (es : List Event) :
    (initial.run es).tickets.latest = (initial.ticketsOf es).length := by
  rw [latest_run]
  exact Nat.zero_add _

/-- The ticket that the counter stands at is the one handed out last. -/
theorem getLast?_ticketsOf_iff (h : t ∈ initial.ticketsOf es) :
    (initial.ticketsOf es).getLast? = some t ↔ t.id = (initial.run es).tickets.latest := by
  have hl : ((initial.ticketsOf es).map Ticket.id).getLast? =
      some (initial.ticketsOf es).length := by
    have hp := List.length_pos_of_mem h
    rw [map_id_ticketsOf, List.getLast?_range', if_neg (by omega)]
    change some (0 + 1 + _ - 1) = _
    rw [Nat.zero_add, Nat.add_sub_cancel_left]
  rw [List.getLast?_map, Option.map_eq_some_iff] at hl
  obtain ⟨s, hs, hid⟩ := hl
  rw [latest_run_initial, ← hid, hs, Option.some.injEq]
  constructor
  · rintro rfl; rfl
  · intro h; cases s; cases t; exact congrArg _ h.symm

@[simp] theorem resultsFor_append (t : Ticket) :
    resultsFor t (es ++ es') = resultsFor t es ++ resultsFor t es' := by
  simp [resultsFor]

theorem resultsFor_cons (t : Ticket) (e : Event) (es : List Event) :
    resultsFor t (e :: es) = resultsFor t [e] ++ resultsFor t es := by
  rw [← resultsFor_append, List.singleton_append]

/-- Unless a submission begins, only a completion with the latest ticket changes the results. -/
theorem results_step (f : Form) {e : Event} (h : e ≠ .beginSubmit) :
    (f.step e).2.results =
      ((resultsFor ⟨f.tickets.latest⟩ [e]).getLast?.map ResultsView.ofResult).getD f.results := by
  cases e with
  | addSlot => rfl
  | removeSlot => rfl
  | beginSubmit => exact absurd rfl h
  | completeSubmit t r =>
    cases hl : f.tickets.isLatest t with
    | false =>
      have ht : t ≠ ⟨f.tickets.latest⟩ := by
        rintro rfl
        simp [TicketSequence.isLatest] at hl
      simp [step, completeSubmit_of_not_isLatest hl, resultsFor, completions, Event.completion?, ht]
    | true =>
      have ht : t = ⟨f.tickets.latest⟩ := by
        rw [TicketSequence.isLatest_iff] at hl
        cases t; exact congrArg _ hl
      subst ht
      simp [step, completeSubmit_of_isLatest hl, resultsFor, completions, Event.completion?]

theorem latest_step_of_ne (f : Form) {e : Event} (h : e ≠ .beginSubmit) :
    (f.step e).2.tickets.latest = f.tickets.latest := by
  rw [latest_step]
  cases ht : (f.step e).1.ticket? with
  | none => rfl
  | some t => exact absurd (ticket?_step f e ht).1 h

/-- As long as no submission begins, the last result that came for the latest one shows. -/
theorem results_run (f : Form) (h : .beginSubmit ∉ es) :
    (f.run es).results =
      ((resultsFor ⟨f.tickets.latest⟩ es).getLast?.map ResultsView.ofResult).getD f.results := by
  induction es generalizing f with
  | nil => rfl
  | cons e es ih =>
    rw [List.mem_cons, not_or] at h
    have he : e ≠ .beginSubmit := fun he => h.1 he.symm
    rw [run_cons, ih _ h.2, latest_step_of_ne f he, results_step f he, resultsFor_cons _ e es,
      List.getLast?_append]
    cases (resultsFor ⟨f.tickets.latest⟩ es).getLast? <;> rfl

theorem Honest.nil : Honest [] := fun before t r later h => by simp at h

theorem Honest.concat (h : Honest es) {e : Event}
    (he : ∀ t r, e = .completeSubmit t r → t ∈ initial.ticketsOf es) : Honest (es ++ [e]) := by
  intro before t r later hs
  rcases List.eq_nil_or_concat later with rfl | ⟨later, e', rfl⟩
  · obtain ⟨rfl, heq⟩ := List.append_inj' hs rfl
    exact he t r (List.head_eq_of_cons_eq heq)
  · have hs' : es ++ [e] = (before ++ .completeSubmit t r :: later) ++ [e'] := by simpa using hs
    exact h before t r later (List.append_inj' hs' rfl).1

theorem Honest.mem_ticketsOf (h : Honest (es ++ es')) (hm : .completeSubmit t r ∈ es) :
    t ∈ initial.ticketsOf es := by
  obtain ⟨before, later, rfl⟩ := List.append_of_mem hm
  rw [ticketsOf_append]
  exact List.mem_append_left _ (h before t r (later ++ es') (by simp))

theorem Honest.results_eq_idle (h : Honest es) (hb : .beginSubmit ∉ es) :
    (initial.run es).results = .idle := by
  have hn : resultsFor ⟨initial.tickets.latest⟩ es = [] := by
    rw [List.eq_nil_iff_forall_not_mem]
    intro r hr
    have h' : Honest (es ++ []) := by rwa [List.append_nil]
    have ht := h'.mem_ticketsOf ((mem_resultsFor_iff es).1 hr)
    rw [ticketsOf_eq_nil hb] at ht
    exact absurd ht List.not_mem_nil
  rw [results_run _ hb, hn]
  rfl

theorem results_run_of_begun (hb : .beginSubmit ∉ later) :
    (initial.run (before ++ .beginSubmit :: later)).results =
      viewOf (resultsFor (initial.run before).beginSubmit.1 later) := by
  rw [run_append, run_cons, results_run _ hb]
  rfl

theorem exists_last_begin (h : .beginSubmit ∈ es) :
    ∃ before later, es = before ++ .beginSubmit :: later ∧ .beginSubmit ∉ later := by
  obtain ⟨later, before, he, hl⟩ := List.eq_append_cons_of_mem (List.mem_reverse.2 h)
  refine ⟨before.reverse, later.reverse, ?_, by simpa using hl⟩
  simpa using congrArg List.reverse he

theorem beginSubmit_mem_of_mem_ticketsOf {f : Form} (h : t ∈ f.ticketsOf es) :
    .beginSubmit ∈ es := by
  by_contra hb
  rw [ticketsOf_eq_nil hb] at h
  exact absurd h List.not_mem_nil

theorem Honest.completeSubmit_mem_later (h : Honest (before ++ .beginSubmit :: later))
    (hm : .completeSubmit (initial.run before).beginSubmit.1 r ∈ before ++ .beginSubmit :: later) :
    .completeSubmit (initial.run before).beginSubmit.1 r ∈ later := by
  rcases List.mem_append.1 hm with hm | hm
  · have ht := h.mem_ticketsOf hm
    have hle := (id_le_of_mem_ticketsOf ht).2
    rw [← latest_run_initial] at hle
    exact absurd hle (Nat.not_succ_le_self _)
  · simpa using hm

/-- If every submission completes once, the results show how the last one did. -/
theorem Honest.results_of_completedOnce (h : Honest es) (ho : CompletedOnce es)
    (hl : (initial.ticketsOf es).getLast? = some t) (hr : .completeSubmit t r ∈ es) :
    (initial.run es).results = .ofResult r := by
  have hu : ∀ r', .completeSubmit t r' ∈ es → r' = r := by
    intro r' hr'
    have hd : ((completions es).map Prod.fst).Nodup := ho.nodup_iff.2 (nodup_ticketsOf _ _)
    have he := List.inj_on_of_nodup_map hd ((mem_completions_iff es).2 hr')
      ((mem_completions_iff es).2 hr) rfl
    exact (Prod.mk.injEq .. ▸ he).2
  obtain ⟨before, later, rfl, hb⟩ :=
    exists_last_begin (beginSubmit_mem_of_mem_ticketsOf (List.mem_of_getLast? hl))
  have ht : t = (initial.run before).beginSubmit.1 := by
    rw [ticketsOf_append, ticketsOf_cons, ticketsOf_eq_nil hb, List.append_nil] at hl
    simpa [step, Reply.ticket?, eq_comm] using hl
  subst ht
  have hm := h.completeSubmit_mem_later hr
  rw [results_run_of_begun hb, viewOf]
  cases hg : (resultsFor (initial.run before).beginSubmit.1 later).getLast? with
  | none =>
    rw [List.getLast?_eq_none_iff] at hg
    exact absurd ((mem_resultsFor_iff _).2 hm) (hg ▸ List.not_mem_nil)
  | some r' =>
    have hr' := (mem_resultsFor_iff _).1 (List.mem_of_getLast? hg)
    rw [hu r' (by simp [hr'])]
    rfl

theorem completeSubmit_cases (f : Form) (t : Ticket) (r : SubmitResult) :
    ((f.completeSubmit t r).1 = true ↔ t.id = f.tickets.latest) ∧
      (t.id ≠ f.tickets.latest → f.completeSubmit t r = (false, f)) := by
  cases hl : f.tickets.isLatest t with
  | true =>
    have ht := (TicketSequence.isLatest_iff _ _).1 hl
    simp [completeSubmit_of_isLatest hl, ht]
  | false =>
    have ht : t.id ≠ f.tickets.latest := fun he => by simp [TicketSequence.isLatest, he] at hl
    simp [completeSubmit_of_not_isLatest hl, ht]

theorem SameSubmissions.results_eq {rename : Ticket → Ticket} (hs : SameSubmissions rename es es')
    (h : Honest es) (h' : Honest es') (ho : CompletedOnce es) (ho' : CompletedOnce es') :
    (initial.run es').results = (initial.run es).results := by
  have hl' := hs.last
  cases hl : (initial.ticketsOf es).getLast? with
  | none =>
    have hb : ∀ {es}, (initial.ticketsOf es).getLast? = none → .beginSubmit ∉ es := by
      intro es hn hb
      obtain ⟨before, later, rfl, hb⟩ := exists_last_begin hb
      simp [ticketsOf_cons, step, Reply.ticket?] at hn
    rw [hl] at hl'
    rw [h.results_eq_idle (hb hl), h'.results_eq_idle (hb hl')]
  | some t =>
    have hm : t ∈ (completions es).map Prod.fst := ho.mem_iff.2 (List.mem_of_getLast? hl)
    obtain ⟨⟨t, r⟩, hc, rfl⟩ := List.mem_map.1 hm
    have hc' : (rename t, r) ∈ completions es' :=
      hs.completed.mem_iff.2 (List.mem_map.2 ⟨(t, r), hc, rfl⟩)
    rw [hl] at hl'
    rw [h.results_of_completedOnce ho hl ((mem_completions_iff es).1 hc),
      h'.results_of_completedOnce ho' hl' ((mem_completions_iff es').1 hc')]

/-- In every run a completion counts exactly if it carries the ticket handed out last, and the
results show the last completion that counted since the latest submission was begun. Tickets
are numbered upwards, by no more than there are submissions. -/
theorem latest_submission_decides (es : List Event) (h : Honest es) :
    (∀ before t r later, es = before ++ .completeSubmit t r :: later →
      (((initial.run before).completeSubmit t r).1 = true ↔
        (initial.ticketsOf before).getLast? = some t) ∧
      ((initial.ticketsOf before).getLast? ≠ some t →
        (initial.run before).completeSubmit t r = (false, initial.run before))) ∧
    (.beginSubmit ∉ es → (initial.run es).results = .idle) ∧
    (∀ before later, es = before ++ .beginSubmit :: later → .beginSubmit ∉ later →
      (initial.run es).results = viewOf (resultsFor (initial.run before).beginSubmit.1 later)) ∧
    (∀ es' rename, Honest es' → CompletedOnce es → CompletedOnce es' →
      SameSubmissions rename es es' → (initial.run es').results = (initial.run es).results) ∧
    ((initial.ticketsOf es).map Ticket.id).Pairwise (· < ·) ∧
    ∀ t ∈ initial.ticketsOf es, t.id ≤ (initial.ticketsOf es).length := by
  refine ⟨?_, h.results_eq_idle, ?_, ?_, pairwise_id_ticketsOf _ _,
    fun t ht => (id_le_of_mem_ticketsOf ht).2⟩
  · rintro before t r later rfl
    have ht := h before t r later rfl
    rw [ne_eq, getLast?_ticketsOf_iff ht]
    exact completeSubmit_cases _ t r
  · rintro before later rfl hb
    exact results_run_of_begun hb
  · intro es' rename h' ho ho' hs
    exact hs.results_eq h h' ho ho'

theorem latest_submission_decides_overlapping :
    ∃ es es' rename, Honest es ∧ Honest es' ∧ CompletedOnce es ∧ CompletedOnce es' ∧
      SameSubmissions rename es es' ∧ (initial.run es').results = (initial.run es).results := by
  let lost (text : String) : SubmitResult := .error (.network text)
  let es : List Event := [.beginSubmit, .beginSubmit, .beginSubmit, .addSlot,
    .completeSubmit ⟨3⟩ (.ok ⟨[]⟩), .completeSubmit ⟨1⟩ (lost "a"), .completeSubmit ⟨2⟩ (lost "b")]
  let es' : List Event := [.beginSubmit, .beginSubmit, .completeSubmit ⟨2⟩ (lost "a"),
    .beginSubmit, .completeSubmit ⟨3⟩ (.ok ⟨[]⟩), .removeSlot, .completeSubmit ⟨1⟩ (lost "b")]
  let rename : Ticket → Ticket := fun t => if t.id = 3 then t else ⟨3 - t.id⟩
  have h : Honest es := by
    refine ((((((Honest.nil.concat ?_).concat ?_).concat ?_).concat ?_).concat ?_).concat
      ?_).concat ?_
    all_goals rintro t r ⟨⟩ <;> decide
  have h' : Honest es' := by
    refine ((((((Honest.nil.concat ?_).concat ?_).concat ?_).concat ?_).concat ?_).concat
      ?_).concat ?_
    all_goals rintro t r ⟨⟩ <;> decide
  have ho : CompletedOnce es := by unfold CompletedOnce; decide
  have ho' : CompletedOnce es' := by unfold CompletedOnce; decide
  have hs : SameSubmissions rename es es' := ⟨.swap _ _ _, by decide⟩
  exact ⟨es, es', rename, h, h', ho, ho', hs,
    (latest_submission_decides es h).2.2.2.1 es' rename h' ho ho' hs⟩

end Form

end SimilarityClient

import SimilarityClient.Proofs.Client.Parts
import SimilarityClient.Session

/-! # The course of a comparison

A comparison goes through stages in order. Every stage has a fault of its own,
given what it works on, and the first fault decides how the run ends. The
course of a run tells its end together with all that has led to it.
-/

namespace SimilarityClient

open CommandLine (Invocation ProcessOptions)
open Session (selectedText submittingText comparedText writtenText dryRunText)

/-- All that a run that compares files depends on. -/
structure Comparison where
  world : World
  url : Option String
  timeout : Option Nat
  options : ProcessOptions
  deliver : Url → Delivery

inductive Stage
  | configuration | collection | selection | pair
  | reading | transport | status | decoding | writing
  deriving DecidableEq, Repr

namespace Stage

def preparation : List Stage := [configuration, collection, selection, pair]

/-- The stages in order; a dry run stops after its preparation. -/
def order (dryRun : Bool) : List Stage :=
  if dryRun then preparation
  else preparation ++ [reading, transport, status, decoding, writing]

def beforeTransport : List Stage := preparation ++ [reading]

end Stage

namespace Comparison

variable (c : Comparison)

def invocation : Invocation := ⟨c.url, c.timeout, .process c.options⟩

def outcome : Outcome := Session.invoke c.world c.invocation c.deliver

def configured : Except ConfigError Config := Session.config c.world c.invocation

def collected : Except CollectError (List SourceFile) :=
  Collection.collect c.world.tree c.options.paths c.options.extensions

def selectedOf (files : List SourceFile) : Except CollectError (List SourceFile) :=
  Collection.select files c.options.only

/-- The files that are left when collection, selection and count are done. -/
def prepared : Except CollectError (List SourceFile) := do
  Collection.requirePair (← c.selectedOf (← c.collected))

/-- The answer that comes from an address. -/
def answeredFrom (url : String) : Except ClientError Answer := do
  let address ← Client.readAddress c.world.lib url
  match c.deliver address with
  | .refused => .error (.connection url)
  | .failed fault => .error (.http fault)
  | .answered answer => .ok answer

def writtenTo (p : Path) (report : Report) : Except FileFault FileTree :=
  c.world.tree.write p (Text.utf8 (report.render c.options.format).toList)

def selected? : Option (List SourceFile) := do (c.selectedOf (← c.collected.toOption)).toOption

def answer? : Option Answer := do (c.answeredFrom (← c.configured.toOption).processUrl).toOption

def report? : Option Report := do (Report.decode ((← c.answer?).text c.world.lib)).toOption

/-- What goes wrong in a stage, whatever goes wrong in the others. Without
something to work on nothing goes wrong. -/
def fault? : Stage → Option SessionError
  | .configuration => c.configured.error?.map .config
  | .collection => c.collected.error?.map .collect
  | .selection => do return .collect (← (c.selectedOf (← c.collected.toOption)).error?)
  | .pair => do return .collect (← (Collection.requirePair (← c.selected?)).error?)
  | .reading => do return .client (← Client.firstUnreadable? c.world.tree (← c.selected?))
  | .transport => do
    return .client (← (c.answeredFrom (← c.configured.toOption).processUrl).error?)
  | .status => do
    let answer ← c.answer?
    if answer.isSuccess then none
    else some (.client (.server answer.status (answer.text c.world.lib)))
  | .decoding => do
    let answer ← c.answer?
    return .client (.invalidResponse (← (Report.decode (answer.text c.world.lib)).error?))
  | .writing => do return .write (← (c.writtenTo (← c.options.output) (← c.report?)).error?)

/-- The first stage that fails, with its fault. -/
def failure? : Option (Stage × SessionError) :=
  (Stage.order c.options.dryRun).findSome? fun s => (c.fault? s).map (s, ·)

/-- The preparation succeeds. -/
structure Prepares (k : Config) (files : List SourceFile) : Prop where
  configured : c.configured = .ok k
  collected : ∃ found, c.collected = .ok found ∧ c.selectedOf found = .ok files
  pair : 2 ≤ files.length

/-- The files become a request with an address. -/
structure Sends (k : Config) (files : List SourceFile) (address : Url) (r : Request) : Prop
    extends c.Prepares k files where
  notDry : c.options.dryRun = false
  reached : Client.readAddress c.world.lib k.processUrl = .ok address
  request : ∃ parts, Client.readParts c.world.tree 0 files = .ok parts ∧
    r = Client.request c.world.boundary address parts

/-- The answer to the request is a report. -/
structure Receives (k : Config) (files : List SourceFile) (r : Request) (report : Report) :
    Prop where
  sends : ∃ address, c.Sends k files address r ∧
    ∃ answer, c.deliver address = .answered answer ∧ answer.isSuccess = true ∧
      Report.decode (answer.text c.world.lib) = .ok report

def sendingLog (k : Config) (files : List SourceFile) : String :=
  selectedText files ++ submittingText k

def reportLog (k : Config) (files : List SourceFile) (report : Report) : String :=
  sendingLog k files ++ comparedText report

/-- How a run that stops at an error ends. -/
def stopped (log : String) (e : SessionError) (sent : Option Request) : Outcome :=
  { Session.fail c.world log e with request := sent }

/-- What fails first in a run, if anything, and how the run ends. -/
inductive Course : Option (Stage × SessionError) → Outcome → Prop
  | configuration {e} (h : c.configured = .error e) :
    Course (some (.configuration, .config e)) (c.stopped "" (.config e) none)
  | collection {k e} (hk : c.configured = .ok k) (h : c.collected = .error e) :
    Course (some (.collection, .collect e)) (c.stopped "" (.collect e) none)
  | selection {k found e} (hk : c.configured = .ok k) (hf : c.collected = .ok found)
    (h : c.selectedOf found = .error e) :
    Course (some (.selection, .collect e)) (c.stopped "" (.collect e) none)
  | pair {k found files} (hk : c.configured = .ok k) (hf : c.collected = .ok found)
    (hs : c.selectedOf found = .ok files) (h : files.length < 2) :
    Course (some (.pair, .collect (.notEnough files.length)))
      (c.stopped "" (.collect (.notEnough files.length)) none)
  | dryRun {k files} (hp : c.Prepares k files) (h : c.options.dryRun = true) :
    Course none (Session.done c.world "" (selectedText files ++ dryRunText))
  | reading {k files e} (hp : c.Prepares k files) (hd : c.options.dryRun = false)
    (h : Client.firstUnreadable? c.world.tree files = some e) :
    Course (some (.reading, .client e)) (c.stopped (sendingLog k files) (.client e) none)
  | address {k files e} (hp : c.Prepares k files) (hd : c.options.dryRun = false)
    (hr : Client.firstUnreadable? c.world.tree files = none)
    (h : Client.readAddress c.world.lib k.processUrl = .error e) :
    Course (some (.transport, .client e)) (c.stopped (sendingLog k files) (.client e) none)
  | refused {k files address r} (hs : c.Sends k files address r)
    (h : c.deliver address = .refused) :
    Course (some (.transport, .client (.connection k.processUrl)))
      (c.stopped (sendingLog k files) (.client (.connection k.processUrl)) none)
  | failed {k files address r fault} (hs : c.Sends k files address r)
    (h : c.deliver address = .failed fault) :
    Course (some (.transport, .client (.http fault)))
      (c.stopped (sendingLog k files) (.client (.http fault)) (some r))
  | status {k files address r answer} (hs : c.Sends k files address r)
    (ha : c.deliver address = .answered answer) (h : answer.isSuccess = false) :
    Course (some (.status, .client (.server answer.status (answer.text c.world.lib))))
      (c.stopped (sendingLog k files)
        (.client (.server answer.status (answer.text c.world.lib))) (some r))
  | decoding {k files address r answer fault} (hs : c.Sends k files address r)
    (ha : c.deliver address = .answered answer) (hg : answer.isSuccess = true)
    (h : Report.decode (answer.text c.world.lib) = .error fault) :
    Course (some (.decoding, .client (.invalidResponse fault)))
      (c.stopped (sendingLog k files) (.client (.invalidResponse fault)) (some r))
  | writing {k files r report p fault} (hr : c.Receives k files r report)
    (ho : c.options.output = some p) (h : c.writtenTo p report = .error fault) :
    Course (some (.writing, .write fault))
      (c.stopped (reportLog k files report) (.write fault) (some r))
  | printed {k files r report} (hr : c.Receives k files r report)
    (h : c.options.output = none) :
    Course none
      ⟨0, report.render c.options.format, reportLog k files report, c.world.tree, some r⟩
  | written {k files r report p tree} (hr : c.Receives k files r report)
    (ho : c.options.output = some p) (h : c.writtenTo p report = .ok tree) :
    Course none ⟨0, "", reportLog k files report ++ writtenText p, tree, some r⟩

variable {c} {k : Config} {files : List SourceFile} {address : Url} {r : Request} {report : Report}

theorem outcome_eq (c : Comparison) : c.outcome =
    match c.configured with
    | .error e => c.stopped "" (.config e) none
    | .ok k =>
      match c.prepared with
      | .error e => c.stopped "" (.collect e) none
      | .ok files =>
        if c.options.dryRun then Session.done c.world "" (selectedText files ++ dryRunText)
        else (Session.submit c.world c.options k files).finish c.deliver := by
  change (Session.process c.world c.invocation c.options).finish c.deliver = _
  rw [Session.process, ← configured]
  have hp : Collection.selected c.world.tree c.options.paths c.options.extensions
      c.options.only = c.prepared := rfl
  cases c.configured with
  | error e => rfl
  | ok k =>
    dsimp only
    rw [hp]
    cases c.prepared with
    | error e => rfl
    | ok files =>
      dsimp only
      split <;> rfl

theorem prepared_of_prepares (h : c.Prepares k files) : c.prepared = .ok files := by
  obtain ⟨found, hf, hs⟩ := h.collected
  rw [prepared, hf, Except.ok_bind, hs, Except.ok_bind]
  exact if_neg (Nat.not_lt.2 h.pair)

theorem selected?_of_prepares (h : c.Prepares k files) : c.selected? = some files := by
  obtain ⟨found, hf, hs⟩ := h.collected
  simp [selected?, hf, hs]

theorem failure?_of_preparation {failure : Stage × SessionError}
    (h : (Stage.preparation.findSome? fun s => (c.fault? s).map (s, ·)) = some failure) :
    c.failure? = some failure := by
  rw [failure?, Stage.order]
  split
  · exact h
  · rw [List.findSome?_append, h]
    rfl

theorem failure?_of_prepares (h : c.Prepares k files) : c.failure? =
    if c.options.dryRun then none
    else [.reading, .transport, .status, .decoding, .writing].findSome? fun s =>
      (c.fault? s).map (s, ·) := by
  obtain ⟨found, hf, hs⟩ := h.collected
  have hp : Collection.requirePair files = .ok files := if_neg (Nat.not_lt.2 h.pair)
  rw [failure?, Stage.order]
  split <;> simp [Stage.preparation, fault?, h.configured, selected?_of_prepares h, hf, hs, hp]

theorem outcome_of_prepares (h : c.Prepares k files) : c.outcome =
    if c.options.dryRun then Session.done c.world "" (selectedText files ++ dryRunText)
    else (Session.submit c.world c.options k files).finish c.deliver := by
  rw [outcome_eq, h.configured, prepared_of_prepares h]

theorem failure?_of_sends (h : c.Sends k files address r) : c.failure? =
    [.transport, .status, .decoding, .writing].findSome? fun s => (c.fault? s).map (s, ·) := by
  obtain ⟨parts, hr, -⟩ := h.request
  have hs := selected?_of_prepares h.toPrepares
  have hu := (Client.readParts_eq_ok hr).1
  rw [failure?_of_prepares h.toPrepares, if_neg (by simp [h.notDry]), List.findSome?_cons]
  simp [fault?, hs, hu]

theorem outcome_of_sends (h : c.Sends k files address r) : c.outcome =
    Session.resume c.world c.options (sendingLog k files) k.processUrl r
      (c.deliver address) := by
  obtain ⟨parts, hr, rfl⟩ := h.request
  have hp := Client.prepare_of_readParts c.world.lib hr c.world.boundary k.processUrl
  rw [h.reached] at hp
  rw [outcome_of_prepares h.toPrepares, if_neg (by simp [h.notDry]), Session.submit, hp]
  rfl

theorem answeredFrom_of_sends (h : c.Sends k files address r) :
    c.answeredFrom k.processUrl = match c.deliver address with
      | .refused => .error (.connection k.processUrl)
      | .failed fault => .error (.http fault)
      | .answered answer => .ok answer := by
  rw [answeredFrom, h.reached, Except.ok_bind]

theorem answer?_of_sends {answer : Answer} (h : c.Sends k files address r)
    (ha : c.deliver address = .answered answer) : c.answer? = some answer := by
  have hc := answeredFrom_of_sends h
  rw [ha] at hc
  simp [answer?, h.configured, hc]

theorem failure?_of_answered {answer : Answer} (h : c.Sends k files address r)
    (ha : c.deliver address = .answered answer) : c.failure? =
      [.status, .decoding, .writing].findSome? fun s => (c.fault? s).map (s, ·) := by
  have hc := answeredFrom_of_sends h
  rw [ha] at hc
  rw [failure?_of_sends h, List.findSome?_cons]
  simp [fault?, h.configured, hc]

theorem failure?_of_receives (h : c.Receives k files r report) :
    c.failure? = (c.fault? .writing).map (.writing, ·) := by
  obtain ⟨address, hs, answer, ha, hg, hd⟩ := h.sends
  rw [failure?_of_answered hs ha]
  simp [fault?, answer?_of_sends hs ha, hg, hd]

theorem report?_of_receives (h : c.Receives k files r report) : c.report? = some report := by
  obtain ⟨address, hs, answer, ha, -, hd⟩ := h.sends
  simp [report?, answer?_of_sends hs ha, hd]

theorem outcome_of_receives (h : c.Receives k files r report) : c.outcome =
    { Session.present c.world c.options (sendingLog k files) report with request := some r } := by
  obtain ⟨address, hs, answer, ha, hg, hd⟩ := h.sends
  have hr : answer.report c.world.lib = .ok report := by
    simp [Answer.report, hg, hd]
  rw [outcome_of_sends hs, ha, Session.resume]
  simp only [Client.conclude, hr]
  rfl

theorem course_of_receives (h : c.Receives k files r report) : c.Course c.failure? c.outcome := by
  have hr := report?_of_receives h
  rw [failure?_of_receives h, outcome_of_receives h, Session.present]
  cases ho : c.options.output with
  | none =>
    have hf : c.fault? .writing = none := by simp [fault?, ho]
    rw [hf]
    exact .printed h ho
  | some p =>
    cases hw : c.writtenTo p report with
    | error fault =>
      have hf : c.fault? .writing = some (.write fault) := by simp [fault?, ho, hr, hw]
      rw [writtenTo] at hw
      simp only [hf, hw]
      exact .writing h ho hw
    | ok tree =>
      have hf : c.fault? .writing = none := by simp [fault?, ho, hr, hw]
      rw [writtenTo] at hw
      simp only [hf, hw]
      exact .written h ho hw

theorem course_of_answered {answer : Answer} (h : c.Sends k files address r)
    (ha : c.deliver address = .answered answer) : c.Course c.failure? c.outcome := by
  have hf := failure?_of_answered h ha
  have hc := answer?_of_sends h ha
  have ho := outcome_of_sends h
  rw [ha, Session.resume] at ho
  cases hg : answer.isSuccess with
  | false =>
    have hr : answer.report c.world.lib =
        .error (.server answer.status (answer.text c.world.lib)) := by
      simp [Answer.report, hg]
    simp only [Client.conclude, hr] at ho
    rw [hf, ho]
    have hs : c.fault? .status =
        some (.client (.server answer.status (answer.text c.world.lib))) := by
      simp [fault?, hc, hg]
    simp only [List.findSome?_cons, hs]
    exact .status h ha hg
  | true =>
    cases hd : Report.decode (answer.text c.world.lib) with
    | error fault =>
      have hr : answer.report c.world.lib = .error (.invalidResponse fault) := by
        simp [Answer.report, hg, hd]
      simp only [Client.conclude, hr] at ho
      rw [hf, ho]
      have hs : c.fault? .status = none := by simp [fault?, hc, hg]
      have hd' : c.fault? .decoding = some (.client (.invalidResponse fault)) := by
        simp [fault?, hc, hd]
      simp only [List.findSome?_cons, hs, hd']
      exact .decoding h ha hg hd
    | ok report => exact course_of_receives ⟨address, h, answer, ha, hg, hd⟩

theorem course_of_sends (h : c.Sends k files address r) : c.Course c.failure? c.outcome := by
  have hf := failure?_of_sends h
  have hc := answeredFrom_of_sends h
  have ho := outcome_of_sends h
  cases hd : c.deliver address with
  | answered answer => exact course_of_answered h hd
  | refused =>
    rw [hd] at hc ho
    have ht : c.fault? .transport = some (.client (.connection k.processUrl)) := by
      simp [fault?, h.configured, hc]
    rw [hf, ho]
    simp only [List.findSome?_cons, ht]
    exact .refused h hd
  | failed fault =>
    rw [hd] at hc ho
    have ht : c.fault? .transport = some (.client (.http fault)) := by
      simp [fault?, h.configured, hc]
    rw [hf, ho]
    simp only [List.findSome?_cons, ht]
    exact .failed h hd

theorem course_of_prepares (h : c.Prepares k files) : c.Course c.failure? c.outcome := by
  have hf := failure?_of_prepares h
  have hs := selected?_of_prepares h
  have ho := outcome_of_prepares h
  cases hd : c.options.dryRun with
  | true =>
    rw [hf, ho]
    simp only [hd, if_true]
    exact .dryRun h hd
  | false =>
    simp only [hd, Bool.false_eq_true, if_false] at hf ho
    rw [Session.submit] at ho
    cases hu : Client.firstUnreadable? c.world.tree files with
    | some e =>
      have hr : c.fault? .reading = some (.client e) := by simp [fault?, hs, hu]
      rw [Client.prepare_of_unreadable c.world.lib hu] at ho
      rw [hf, ho]
      simp only [List.findSome?_cons, hr]
      exact .reading h hd hu
    | none =>
      obtain ⟨parts, hr⟩ := Client.exists_readParts hu 0
      cases ha : Client.readAddress c.world.lib k.processUrl with
      | error e =>
        have hr' : c.fault? .reading = none := by simp [fault?, hs, hu]
        have ht : c.fault? .transport = some (.client e) := by
          simp [fault?, h.configured, answeredFrom, ha]
        rw [Client.prepare_of_readParts c.world.lib hr, ha] at ho
        rw [hf, ho]
        simp only [List.findSome?_cons, hr', ht]
        exact .address h hd hu ha
      | ok address => exact course_of_sends ⟨h, hd, ha, parts, hr, rfl⟩

theorem course (c : Comparison) : c.Course c.failure? c.outcome := by
  have ho := outcome_eq c
  cases hk : c.configured with
  | error e =>
    have hf : c.failure? = some (.configuration, .config e) :=
      failure?_of_preparation (by simp [Stage.preparation, fault?, hk])
    rw [hf, ho, hk]
    exact .configuration hk
  | ok k =>
    cases hc : c.collected with
    | error e =>
      have hf : c.failure? = some (.collection, .collect e) :=
        failure?_of_preparation (by simp [Stage.preparation, fault?, hk, hc])
      rw [hf, ho, hk, prepared, hc]
      exact .collection hk hc
    | ok found =>
      cases hs : c.selectedOf found with
      | error e =>
        have hf : c.failure? = some (.selection, .collect e) :=
          failure?_of_preparation (by simp [Stage.preparation, fault?, hk, hc, hs])
        rw [hf, ho, hk, prepared, hc, Except.ok_bind, hs]
        exact .selection hk hc hs
      | ok files =>
        rcases Nat.lt_or_ge files.length 2 with hp | hp
        · have hr : Collection.requirePair files = .error (.notEnough files.length) := if_pos hp
          have hf : c.failure? = some (.pair, .collect (.notEnough files.length)) :=
            failure?_of_preparation (by
              simp [Stage.preparation, fault?, selected?, hk, hc, hs, hr])
          rw [hf, ho, hk, prepared, hc, Except.ok_bind, hs, Except.ok_bind, hr]
          exact .pair hk hc hs hp
        · exact course_of_prepares ⟨hk, ⟨found, hc, hs⟩, hp⟩

end Comparison

end SimilarityClient

import SimilarityClient.Proofs.Client.Body
import SimilarityClient.Proofs.FileTree.Readback
import SimilarityClient.Proofs.Session.Course

/-! # Stages of a comparison

The first stage that fails ends the run and leaves no trace. A run in which no
stage fails reports, unless it is dry.
-/

namespace SimilarityClient

namespace Report

variable (report : Report)

end Report

namespace Comparison

variable (c : Comparison)

/-- How a run ends that fails in a stage. -/
structure LeavesNoTrace (s : Stage) (e : SessionError) (o : Outcome) : Prop where
  code : o.code = 1
  stdout : o.stdout = ""
  stderr : ∃ log, o.stderr = log ++ Session.errorText e
  tree : o.tree = c.world.tree
  request : s ∈ Stage.beforeTransport → o.request = none

/-- How a run ends that has a report to show: it is printed, or it is what the file of the output
then holds, unless that is a device. Two files at least have been sent for it. -/
structure Reports (report : Report) (o : Outcome) : Prop where
  code : o.code = 0
  report? : c.report? = some report
  shown : match c.options.output with
    | none => o.stdout = report.render c.options.format ∧ o.tree = c.world.tree
    | some p => o.stdout = "" ∧ c.writtenTo p report = .ok o.tree ∧
        ((∀ full, c.world.tree.stat p ≠ .ok (.device full)) →
          o.tree.read p = .ok (Text.utf8 (report.render c.options.format).toList))
  request : ∃ files r, c.selected? = some files ∧ 2 ≤ files.length ∧ o.request = some r ∧
    Client.Carries c.world.tree c.world.boundary files r

/-- How a dry run ends in which nothing fails. -/
structure StaysDry (o : Outcome) : Prop where
  code : o.code = 0
  stdout : o.stdout = ""
  tree : o.tree = c.world.tree
  request : o.request = none

variable {c} {s : Stage} {e : SessionError} {o : Outcome}

theorem leavesNoTrace_stopped (log : String) {sent : Option Request}
    (h : s ∈ Stage.beforeTransport → sent = none) :
    c.LeavesNoTrace s e (c.stopped log e sent) :=
  ⟨rfl, rfl, ⟨log, rfl⟩, rfl, h⟩

theorem Course.leavesNoTrace (h : c.Course (some (s, e)) o) : c.LeavesNoTrace s e o := by
  cases h with
  | failed | status | decoding | writing =>
    exact leavesNoTrace_stopped _ (by simp [Stage.beforeTransport, Stage.preparation])
  | _ => exact leavesNoTrace_stopped _ fun _ => rfl

theorem Course.staysDry (h : c.Course none o) (hd : c.options.dryRun = true) : c.StaysDry o := by
  cases h with
  | dryRun => exact ⟨rfl, rfl, rfl, rfl⟩
  | printed hr | written hr =>
    obtain ⟨_, hs, _⟩ := hr.sends
    simp [hs.notDry] at hd

theorem request_of_receives {k : Config} {files : List SourceFile} {r : Request} {report : Report}
    (h : c.Receives k files r report) (ho : o.request = some r) :
    ∃ files r, c.selected? = some files ∧ 2 ≤ files.length ∧ o.request = some r ∧
      Client.Carries c.world.tree c.world.boundary files r := by
  obtain ⟨address, hs, -⟩ := h.sends
  obtain ⟨parts, hr, rfl⟩ := hs.request
  exact ⟨files, _, selected?_of_prepares hs.toPrepares, hs.pair, ho,
    Client.carries_request hr _ _⟩

theorem Course.reports (h : c.Course none o) (hd : c.options.dryRun = false) :
    ∃ report, c.Reports report o := by
  cases h with
  | dryRun _ ht => simp [hd] at ht
  | printed hr ho =>
    refine ⟨_, rfl, report?_of_receives hr, ?_, request_of_receives hr rfl⟩
    rw [ho]
    exact ⟨rfl, rfl⟩
  | written hr ho hw =>
    refine ⟨_, rfl, report?_of_receives hr, ?_, request_of_receives hr rfl⟩
    rw [ho]
    exact ⟨rfl, hw, FileTree.read_write hw⟩

theorem outcome_cases (c : Comparison) :
    (∃ s e, c.failure? = some (s, e) ∧ c.LeavesNoTrace s e c.outcome) ∨
      (c.failure? = none ∧ c.options.dryRun = true ∧ c.StaysDry c.outcome) ∨
      (c.failure? = none ∧ c.options.dryRun = false ∧ ∃ report, c.Reports report c.outcome) := by
  have hc := c.course
  cases hf : c.failure? with
  | some failure =>
    rw [hf] at hc
    exact .inl ⟨failure.1, failure.2, rfl, hc.leavesNoTrace⟩
  | none =>
    rw [hf] at hc
    cases hd : c.options.dryRun with
    | true => exact .inr (.inl ⟨rfl, rfl, hc.staysDry hd⟩)
    | false => exact .inr (.inr ⟨rfl, rfl, hc.reports hd⟩)

theorem leavesNoTrace (h : c.failure? = some (s, e)) : c.LeavesNoTrace s e c.outcome := by
  rcases c.outcome_cases with ⟨s', e', hf, ht⟩ | ⟨hf, -⟩ | ⟨hf, -⟩ <;> cases h.symm.trans hf
  exact ht

theorem staysDry (h : c.failure? = none) (hd : c.options.dryRun = true) :
    c.StaysDry c.outcome := by
  have hc := c.course
  rw [h] at hc
  exact hc.staysDry hd

theorem quiet (h : c.options.dryRun = false → c.failure? ≠ none) :
    c.outcome.stdout = "" ∧ c.outcome.tree = c.world.tree := by
  rcases c.outcome_cases with ⟨s, e, hf, ht⟩ | ⟨-, -, hs⟩ | ⟨hf, hd, -⟩
  · exact ⟨ht.stdout, ht.tree⟩
  · exact ⟨hs.stdout, hs.tree⟩
  · exact absurd hf (h hd)

theorem reports_iff : (∃ report, c.Reports report c.outcome) ↔
    c.options.dryRun = false ∧ c.failure? = none := by
  constructor
  · rintro ⟨report, hr⟩
    obtain ⟨_, _, _, _, hq, _⟩ := hr.request
    rcases c.outcome_cases with ⟨s, e, hf, ht⟩ | ⟨-, -, hs⟩ | ⟨hf, hd, -⟩
    · cases hr.code.symm.trans ht.code
    · cases hq.symm.trans hs.request
    · exact ⟨hd, hf⟩
  · rintro ⟨hd, hf⟩
    have hc := c.course
    rw [hf] at hc
    exact hc.reports hd

theorem Reports.item?_ne {report : Report} (h : c.Reports report o) {loc : Location}
    (hl : o.tree.item? loc ≠ c.world.tree.item? loc) :
    ∃ p, c.options.output = some p ∧ c.world.tree.destination p = .ok loc := by
  have hs := h.shown
  cases ho : c.options.output with
  | none =>
    rw [ho] at hs
    exact absurd (congrArg (·.item? loc) hs.2) hl
  | some p =>
    rw [ho] at hs
    exact ⟨p, rfl, FileTree.item?_write hs.2.1 hl⟩

theorem item?_ne {loc : Location} (h : c.outcome.tree.item? loc ≠ c.world.tree.item? loc) :
    c.options.dryRun = false ∧ c.failure? = none ∧
      ∃ p, c.options.output = some p ∧ c.world.tree.destination p = .ok loc := by
  by_cases hr : c.options.dryRun = false ∧ c.failure? = none
  · obtain ⟨report, hs⟩ := reports_iff.2 hr
    exact ⟨hr.1, hr.2, hs.item?_ne h⟩
  · have hq := quiet fun hd hf => hr ⟨hd, hf⟩
    rw [hq.2] at h
    exact absurd rfl h

/-- A server with an answer for whoever asks. -/
def localServer (body : String) : Server :=
  ⟨"localhost", 80, some ⟨200, none, Text.utf8 body.toList⟩⟩

/-- A comparison of two files with a server that finds nothing in common. -/
def sample (url : String) (paths : List Path) : Comparison where
  world := ⟨⟨[(["a.py"], .file [97]), (["b.py"], .file [98])], []⟩, fun _ => none, "--8<--",
    .bare⟩
  url := some url
  timeout := none
  options := ⟨paths, [], ["py"], .csv, some ⟨"out"⟩, false⟩
  deliver := localServer "\x7b\"report\":[]\x7d"

theorem prepares_sample : (sample "http://localhost" [⟨"a.py"⟩, ⟨"b.py"⟩]).Prepares
    ⟨"http://localhost", 60⟩ [⟨⟨"a.py"⟩, "a.py"⟩, ⟨⟨"b.py"⟩, "b.py"⟩] := by
  let c := sample "http://localhost" [⟨"a.py"⟩, ⟨"b.py"⟩]
  let files : List SourceFile := [⟨⟨"a.py"⟩, "a.py"⟩, ⟨⟨"b.py"⟩, "b.py"⟩]
  have hc : c.collected = .ok files := by
    have hp : Collection.ofPaths c.world.tree (Extension.normalize ["py"]) c.options.paths =
        .ok files := rfl
    have hs : SourceFile.sort files = files := List.mergeSort_of_pairwise (by decide +kernel)
    change (Collection.ofPaths c.world.tree (Extension.normalize ["py"]) c.options.paths >>= _) = _
    rw [hp, Except.ok_bind, hs]
    rfl
  exact ⟨rfl, ⟨_, hc, rfl⟩, Nat.le_refl _⟩

theorem fault?_reading_sample :
    (sample "http://localhost" [⟨"a.py"⟩, ⟨"b.py"⟩]).fault? .reading = none := by
  rw [fault?, selected?_of_prepares prepares_sample]
  decide +kernel

theorem failure?_sample : (sample "http://localhost" [⟨"a.py"⟩, ⟨"b.py"⟩]).failure? = none := by
  rw [failure?_of_prepares prepares_sample, if_neg (by decide), List.findSome?_cons,
    fault?_reading_sample]
  decide +kernel

end Comparison

end SimilarityClient

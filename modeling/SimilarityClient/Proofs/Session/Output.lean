import SimilarityClient.Proofs.FileTree.Readback
import SimilarityClient.Proofs.Session.Stages

/-! # Output to a file

A run that writes its report to a file and one that prints it go the same way
up to the report: nothing is looked at behind the path of the output, and nothing
is written, before the report is there.
-/

namespace SimilarityClient

open Text (utf8)

namespace FileTree

variable {tree : FileTree} {p : Path}

def Writable (tree : FileTree) (p : Path) : Prop :=
  ∃ content tree', tree.write p content = .ok tree'

theorem Writable.exists_write (h : tree.Writable p) (content : Text.Bytes) :
    ∃ tree', tree.write p content = .ok tree' := by
  obtain ⟨content', tree', h⟩ := h
  obtain ⟨loc, hd, hw⟩ := write_eq_ok_iff.1 h
  simp only [write_eq_ok_iff]
  unfold writeAt at hw ⊢
  split at hw
  · cases hw
  · cases hw
  · cases hw
  · rename_i full hi
    refine ⟨tree, loc, hd, ?_⟩
    rw [hi]
    cases full with
    | true => cases hw
    | false => rfl
  · exact ⟨tree.put loc (.file content), loc, hd, by split <;> simp_all⟩

end FileTree

namespace Comparison

variable (c : Comparison)

def withOutput (output : Option Path) : Comparison :=
  { c with options := { c.options with output } }

/-- One run writes behind a path what the other prints, and does nothing else. -/
structure Redirects (p : Path) (printed written : Outcome) : Prop where
  stdout : written.stdout = ""
  stderr : written.stderr = printed.stderr ++ ("💾 Output written to: " ++ p.text ++ "\n")
  file : (∀ full, c.world.tree.stat p ≠ .ok (.device full)) →
    written.tree.read p = .ok (utf8 printed.stdout.toList)
  others : ∀ loc, c.world.tree.destination p ≠ .ok loc →
    written.tree.item? loc = c.world.tree.item? loc
  tree : printed.tree = c.world.tree

/-- Two runs end in the same way and leave every file as it was. -/
structure FailAlike (printed written : Outcome) : Prop where
  stdout : printed.stdout = "" ∧ written.stdout = ""
  stderr : written.stderr = printed.stderr
  tree : printed.tree = c.world.tree ∧ written.tree = c.world.tree

variable {c} {p : Path}

/-- A run stops in the same way wherever its output would go, or has a report to show. -/
theorem stopped_or_presents (hd : c.options.dryRun = false) :
    (∃ log e sent, ∀ output, (c.withOutput output).outcome = c.stopped log e sent) ∨
    ∃ log report sent, ∀ output, (c.withOutput output).outcome =
      { Session.present c.world { c.options with output } log report with request := sent } := by
  have ho (output : Option Path) := outcome_eq (c.withOutput output)
  have hk (output : Option Path) : (c.withOutput output).configured = c.configured := rfl
  have hp (output : Option Path) : (c.withOutput output).prepared = c.prepared := rfl
  have hn (output : Option Path) : ¬(c.withOutput output).options.dryRun = true := by
    simp [withOutput, hd]
  simp only [hk, hp, hn] at ho
  cases hc : c.configured with
  | error e =>
    rw [hc] at ho
    exact .inl ⟨_, _, _, ho⟩
  | ok k =>
    rw [hc] at ho
    cases hf : c.prepared with
    | error e =>
      rw [hf] at ho
      exact .inl ⟨_, _, _, ho⟩
    | ok files =>
      rw [hf] at ho
      have hw (output : Option Path) : (c.withOutput output).world = c.world := rfl
      simp only [Session.submit, hw] at ho
      cases hr : Client.prepare c.world.lib c.world.tree c.world.boundary k.processUrl files with
      | error e =>
        rw [hr] at ho
        exact .inl ⟨_, _, _, ho⟩
      | ok sending =>
        obtain ⟨address, request⟩ := sending
        rw [hr] at ho
        have hs (output : Option Path) : (c.withOutput output).deliver = c.deliver := rfl
        simp only [Session.Progress.finish, Session.resume, hs] at ho
        cases hd : Client.conclude c.world.lib k.processUrl (c.deliver address) with
        | error e =>
          rw [hd] at ho
          exact .inl ⟨_, _, _, ho⟩
        | ok report =>
          rw [hd] at ho
          exact .inr ⟨_, _, _, ho⟩

theorem redirects_present (hw : c.world.tree.Writable p) (log : String) (report : Report)
    (sent : Option Request) : c.Redirects p
      { Session.present c.world { c.options with output := none } log report with request := sent }
      { Session.present c.world { c.options with output := some p } log report with
        request := sent } ∧
    (Session.present c.world { c.options with output := none } log report).code = 0 ∧
    (Session.present c.world { c.options with output := some p } log report).code = 0 := by
  obtain ⟨tree, ht⟩ := hw.exists_write (utf8 (report.render c.options.format).toList)
  have hp : Session.present c.world { c.options with output := some p } log report =
      ⟨0, "", log ++ Session.comparedText report ++ Session.writtenText p, tree, none⟩ := by
    simp only [Session.present, ht]
    rfl
  rw [hp]
  refine ⟨⟨rfl, rfl, FileTree.read_write ht, fun loc hl => ?_, rfl⟩, rfl, rfl⟩
  exact Classical.not_not.1 fun hne => hl (FileTree.item?_write ht hne)

/-- A run with an output ends as the run without it does. If they succeed, what the one prints
is what the other writes; if they fail, neither prints or writes anything. -/
theorem output_only_redirects (c : Comparison) (p : Path) (hd : c.options.dryRun = false)
    (hw : c.world.tree.Writable p) :
    (c.withOutput (some p)).outcome.request = (c.withOutput none).outcome.request ∧
    (c.withOutput (some p)).outcome.code = (c.withOutput none).outcome.code ∧
    ((c.withOutput none).outcome.code = 0 →
      c.Redirects p (c.withOutput none).outcome (c.withOutput (some p)).outcome) ∧
    ((c.withOutput none).outcome.code ≠ 0 →
      c.FailAlike (c.withOutput none).outcome (c.withOutput (some p)).outcome) := by
  rcases stopped_or_presents hd with ⟨log, e, sent, ho⟩ | ⟨log, report, sent, ho⟩
  · rw [ho, ho]
    refine ⟨rfl, rfl, fun hc => absurd hc Nat.one_ne_zero, fun _ => ?_⟩
    exact ⟨⟨rfl, rfl⟩, rfl, rfl, rfl⟩
  · obtain ⟨hr, hz, hz'⟩ := redirects_present hw log report sent
    rw [ho, ho]
    exact ⟨rfl, hz'.trans hz.symm, fun _ => hr, fun hc => absurd hz hc⟩

/-- The report takes the place of one of the files that it is about. -/
theorem output_only_redirects_source :
    let c := sample "http://localhost" [⟨"a.py"⟩, ⟨"b.py"⟩]
    c.world.tree.read ⟨"a.py"⟩ = .ok [97] ∧
    (c.withOutput none).outcome.stdout = "file1,file2,similarity\n" ∧
    (c.withOutput (some ⟨"a.py"⟩)).outcome.tree.read ⟨"a.py"⟩ =
      .ok (utf8 "file1,file2,similarity\n".toList) ∧
    (c.withOutput (some ⟨"a.py"⟩)).outcome.request = (c.withOutput none).outcome.request := by
  intro c
  have hw : c.world.tree.Writable ⟨"a.py"⟩ := ⟨[], c.world.tree.put ["a.py"] (.file []), rfl⟩
  have hw' : c.world.tree.Writable ⟨"out"⟩ := ⟨[], c.world.tree.put ["out"] (.file []), rfl⟩
  have hi : c.world.tree.stat ⟨"a.py"⟩ = .ok (.file [97]) := rfl
  obtain ⟨report, hr⟩ := reports_iff.2 ⟨rfl, failure?_sample⟩
  have hz : (c.withOutput none).outcome.code = 0 :=
    ((output_only_redirects c ⟨"out"⟩ rfl hw').2.1).symm.trans hr.code
  obtain ⟨hq, -, hs, -⟩ := output_only_redirects c ⟨"a.py"⟩ rfl hw
  have ho : (c.withOutput none).outcome.stdout = "file1,file2,similarity\n" := by
    rcases (c.withOutput none).outcome_cases with ⟨_, _, _, ht⟩ | ⟨-, hd, -⟩ | ⟨-, -, report, hr⟩
    · exact absurd (hz.symm.trans ht.code) (by decide)
    · exact absurd hd (by decide)
    · have he : (c.withOutput none).report? = some ⟨[]⟩ := by decide +kernel
      cases hr.report?.symm.trans he
      exact hr.shown.1
  refine ⟨rfl, ho, ?_, hq⟩
  rw [← ho]
  refine (hs hz).file fun full hf => ?_
  cases hi.symm.trans hf

end Comparison

end SimilarityClient

import SimilarityClient.Proofs.Report.Highest
import SimilarityClient.Proofs.Report.Percentage
import SimilarityClient.Proofs.Session.Stages

/-! # The summary of a comparison

A run that succeeds tells the highest similarity of its report. It is the
similarity of an entry, rounded in another way than in the line of that entry.
-/

namespace SimilarityClient

open Magnitude Binary64

theorem Session.comparedText_eq {report : Report} {e : Entry}
    (h : report.highest? = some e.similarity) : comparedText report =
      "✅ Compared " ++ numeral report.entries.length ++ " pairs\n" ++
        ("   Highest similarity: " ++ e.exactPercentage ++ "\n") := by
  -- The equation of the definition is slow to derive, so it is opened without one.
  delta comparedText
  have hp : e.exactPercentage ++ "\n" = String.ofList e.similarity.twoPlaces ++ "%\n" := by
    rw [Entry.exactPercentage, String.ofList_append, String.append_assoc]
    rfl
  simp only [h, hp, String.append_assoc]

namespace Comparison

variable {c : Comparison} {k : Config} {files : List SourceFile} {r : Request} {report : Report}
  {o : Outcome}

/-- What a run says at last of the file that its report went to. -/
def closing (c : Comparison) : String :=
  match c.options.output with
  | none => ""
  | some p => Session.writtenText p

theorem Course.stderr (h : c.Course none o) (hd : c.options.dryRun = false) :
    ∃ k files r report, c.Receives k files r report ∧
      o.stderr = reportLog k files report ++ c.closing := by
  cases h with
  | dryRun _ ht => simp [hd] at ht
  | printed hr ho =>
    refine ⟨_, _, _, _, hr, ?_⟩
    rw [closing, ho]
    exact String.append_empty.symm
  | written hr ho hw =>
    refine ⟨_, _, _, _, hr, ?_⟩
    rw [closing, ho]

theorem failure?_of_code (h : c.outcome.code = 0) : c.failure? = none := by
  rcases c.outcome_cases with ⟨_, _, _, ht⟩ | ⟨hf, -⟩ | ⟨hf, -⟩
  · cases h.symm.trans ht.code
  · exact hf
  · exact hf

/-- A run that succeeds tells the similarity of an entry that no other entry is above. For a
percentage the text is that of the line of the entry, unless the similarity is just below a tie
or at a tie with an even number of hundredths below. -/
theorem summary_tells_highest (c : Comparison) (report : Report) (hd : c.options.dryRun = false)
    (h0 : c.outcome.code = 0) (hr : c.report? = some report) (hn : report.entries ≠ []) :
    ∃ e ∈ report.entries, IsHighest e.similarity (report.entries.map (·.similarity)) ∧
      (∃ log, c.outcome.stderr = log ++
        ("✅ Compared " ++ Session.numeral report.entries.length ++ " pairs\n" ++
          ("   Highest similarity: " ++ e.exactPercentage ++ "\n")) ++ c.closing) ∧
      ∀ negative m n, e.similarity = number negative m → e.similarity.IsPercentage →
        IsRoundedUp (m.units * 100) unitsPerOne n →
        (e.exactPercentage = e.percentage ↔ ¬IsLifted (m.units * 100) n ∧
          ¬(2 * (n * unitsPerOne) = 2 * (m.units * 100) + unitsPerOne ∧ n % 2 = 1)) := by
  have hc := c.course
  rw [failure?_of_code h0] at hc
  obtain ⟨k, files, r, report', hrec, hs⟩ := hc.stderr hd
  cases hr.symm.trans (report?_of_receives hrec)
  obtain ⟨e, he, hh, hx⟩ := Report.exists_highest hn
  refine ⟨e, he, hx, ⟨sendingLog k files, ?_⟩, fun _ _ _ => Entry.exactPercentage_eq_iff⟩
  rw [hs, reportLog, Session.comparedText_eq hh]

def answering (body : String) : Comparison :=
  let c := sample "http://localhost" [⟨"a.py"⟩, ⟨"b.py"⟩]
  { c with
    options := { c.options with format := .table, output := none }
    deliver := localServer body }

theorem prepares_answering (body : String) : (answering body).Prepares
    ⟨"http://localhost", 60⟩ [⟨⟨"a.py"⟩, "a.py"⟩, ⟨⟨"b.py"⟩, "b.py"⟩] :=
  ⟨prepares_sample.configured, prepares_sample.collected, prepares_sample.pair⟩

theorem failure?_answering {body : String}
    (h : [.transport, .status, .decoding].findSome? (answering body).fault? = none) :
    (answering body).failure? = none := by
  have hr : (answering body).fault? .reading = none := by
    rw [fault?, selected?_of_prepares (prepares_answering body)]
    rfl
  have hw : (answering body).fault? .writing = none := rfl
  have hd : (answering body).options.dryRun = false := rfl
  have hf := List.findSome?_eq_none_iff.1 h
  simp [failure?_of_prepares (prepares_answering body), hd, hr, hw, hf]

theorem shown_answering {body : String}
    (h : [.transport, .status, .decoding].findSome? (answering body).fault? = none)
    (hr : (answering body).report? = some report) :
    (answering body).outcome.code = 0 ∧
    (answering body).outcome.stdout = report.render .table ∧
    (answering body).outcome.stderr = "📂 Selected 2 files\n   1. a.py\n   2. b.py\n" ++
      "\n📤 Submitting to http://localhost/v1.1/process\n" ++ Session.comparedText report := by
  have hc := (answering body).course
  rw [failure?_answering h] at hc
  generalize (answering body).outcome = o at hc
  cases hc with
  | dryRun _ ht => cases ht
  | written _ ho _ => cases ho
  | printed hrec _ =>
    obtain ⟨_, hs, -⟩ := hrec.sends
    cases hr.symm.trans (report?_of_receives hrec)
    cases (prepares_answering body).configured.symm.trans hs.configured
    cases (selected?_of_prepares (prepares_answering body)).symm.trans
      (selected?_of_prepares hs.toPrepares)
    exact ⟨rfl, rfl, rfl⟩

/-- The higher of two similarities is told, as its line tells it: a tie with an odd number of
hundredths below. -/
theorem summary_tells_highest_two :
    let c := answering "\x7b\"report\":[[\"a.py\",\"b.py\",12.125],[\"a.py\",\"c.py\",62.375]]\x7d"
    let e : Entry := ⟨"a.py", "c.py", ofBits 0x404F300000000000⟩
    c.report?.map Report.entries = some [⟨"a.py", "b.py", ofBits 0x4028400000000000⟩, e] ∧
      e.percentage = "62.38%" ∧
      ∃ log, c.outcome.stderr = log ++ "   Highest similarity: 62.38%\n" := by
  intro c e
  have hr : c.report? = some ⟨[⟨"a.py", "b.py", ofBits 0x4028400000000000⟩, e]⟩ := by
    decide +kernel
  have hp : e.percentage = "62.38%" := by decide +kernel
  obtain ⟨h0, -⟩ := shown_answering (by decide +kernel) hr
  obtain ⟨e', he, hx, ⟨log, hs⟩, ht⟩ := summary_tells_highest c _ rfl h0 hr nofun
  have he : e' = e := by
    rcases List.mem_cons.1 he with rfl | he
    · have hlt := hx.not_below e.similarity (List.mem_cons_of_mem _ List.mem_cons_self)
      exact absurd hlt (by decide +kernel)
    · exact List.mem_singleton.1 he
  rw [he] at hs ht
  have hagree : e.exactPercentage = e.percentage :=
    (ht false ⟨0x404F300000000000, by decide⟩ 6238 (by decide +kernel) (by decide +kernel)
      ⟨by decide +kernel, by decide +kernel⟩).2 (by decide +kernel)
  refine ⟨congrArg _ hr, hp, log ++ "✅ Compared 2 pairs\n", hs.trans ?_⟩
  simp only [hagree, hp, String.append_assoc]
  refine congrArg (log ++ ·) ?_
  decide +kernel

/-- The summary and the table disagree on a tie. -/
theorem summary_disagrees :
    let c := answering "\x7b\"report\":[[\"a.py\",\"b.py\",12.125]]\x7d"
    c.outcome.code = 0 ∧ c.outcome.stdout = "Report:\n  a.py - b.py -> 12.13%\n" ∧
      c.outcome.stderr = "📂 Selected 2 files\n   1. a.py\n   2. b.py\n" ++
        "\n📤 Submitting to http://localhost/v1.1/process\n" ++
        "✅ Compared 1 pairs\n   Highest similarity: 12.12%\n" := by
  intro c
  have hr : c.report? = some ⟨[⟨"a.py", "b.py", ofBits 0x4028400000000000⟩]⟩ := by decide +kernel
  have ht : Session.comparedText ⟨[⟨"a.py", "b.py", ofBits 0x4028400000000000⟩]⟩ =
      "✅ Compared 1 pairs\n   Highest similarity: 12.12%\n" := by decide +kernel
  obtain ⟨hc, ho, hs⟩ := shown_answering (by decide +kernel) hr
  rw [ht] at hs
  exact ⟨hc, ho.trans (by decide +kernel), hs⟩

end Comparison

end SimilarityClient

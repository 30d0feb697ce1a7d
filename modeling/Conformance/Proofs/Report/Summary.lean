import Conformance.Proofs.LineReader.Entries
import Conformance.Proofs.Report
import Mathlib.Data.List.Forall2

/-!
# The summary of a report cannot be forged

What other programs print goes into a report, and the report is summed up as text. Expected and actual
texts are quoted there, and a quotation never spans lines; so they can imitate a line of the summary as
much as they like, they never make one. The lines of a summary are known before any of these texts is
(`summaryLines`), and the text is these lines, each ended by a feed (`summary_eq`).

Titles and descriptions are the checker's own. They are not quoted, and all that is asked of them is to
hold no feed (`Unbroken`).
-/

namespace Conformance

/-! ## Text that is put together from lines -/

namespace Text

open LineReader (Plain)

/-- Plain lines that are each ended by a feed are found again. -/
theorem lines_join {texts : List String} (h : ∀ line ∈ texts, Plain line) :
    lines (String.join (texts.map (· ++ "\n"))) = texts := by
  induction texts with
  | nil => rfl
  | cons line rest ih =>
      obtain ⟨hline, hrest⟩ := List.forall_mem_cons.mp h
      rw [List.map_cons, String.join_cons, lines_line hline.feed, dropLastIf_of_ne hline.carriage,
        String.ofList_toList, ih hrest]

/-- There are as many feeds as lines. -/
theorem count_feed_join {texts : List String} (h : ∀ line ∈ texts, Plain line) :
    (String.join (texts.map (· ++ "\n"))).toList.count '\n' = texts.length := by
  induction texts with
  | nil => rfl
  | cons line rest ih =>
      obtain ⟨hline, hrest⟩ := List.forall_mem_cons.mp h
      have hcount : line.toList.count '\n' = 0 := List.count_eq_zero.mpr hline.feed
      have hfeed : "\n".toList.count '\n' = 1 := by decide
      rw [List.map_cons, String.join_cons, String.toList_append, String.toList_append,
        List.count_append, List.count_append, hcount, hfeed, ih hrest, List.length_cons]
      omega

theorem plain_append {a b : String} (ha : '\n' ∉ a.toList) (hb : Plain b) (hne : b ≠ "") :
    Plain (a ++ b) := by
  constructor
  · rw [String.toList_append]
    intro hmem
    exact (List.mem_append.mp hmem).elim ha hb.feed
  · have hlist : b.toList ≠ [] := fun hnil => hne (String.toList_eq_nil_iff.mp hnil)
    rw [String.toList_append, List.getLast?_append_of_ne_nil _ hlist]
    exact hb.carriage

end Text

namespace Report

variable {report : Report}

/-! ## The counts -/

/-- Every outcome has passed or failed. -/
theorem total_eq (report : Report) :
    report.total = (report.outcomes.filter (·.passed)).length + report.failures.length :=
  List.length_eq_length_filter_add Outcome.passed

/-- Every failure is one of the protocol or one of the environment. -/
theorem length_failures_eq (report : Report) :
    report.failures.length = (report.failures.filter (·.kind = .protocol)).length +
      (report.failures.filter (·.kind = .infrastructure)).length := by
  have hkinds : ∀ outcome ∈ report.failures,
      (!decide (outcome.kind = .protocol)) = decide (outcome.kind = .infrastructure) := by
    intro outcome _
    cases outcome.kind with
    | protocol => rfl
    | infrastructure => rfl
  rw [List.length_eq_length_filter_add (l := report.failures) (·.kind = .protocol),
    List.filter_congr hkinds]

/-! ## The lines -/

/-- The failed outcomes in order, each with the title of its scenario. -/
def titledFailures (report : Report) : List (String × Outcome) :=
  report.scenarios.flatMap fun scenario =>
    (scenario.outcomes.filter (!·.passed)).map (Prod.mk scenario.title)

theorem map_snd_titledFailures (report : Report) :
    report.titledFailures.map Prod.snd = report.failures := by
  rw [titledFailures, failures, outcomes, List.filter_flatMap, List.map_flatMap]
  simp [Function.comp_def]

/-- What a failed outcome says on its line: first the title of its scenario, in brackets. -/
def failureText (title : String) (outcome : Outcome) : String :=
  "[" ++ title ++ "] " ++ outcome.description ++ ": expected " ++ Text.quoted outcome.expected ++
    ", got " ++ Text.quoted outcome.actual

theorem failureLines_eq (report : Report) :
    report.failureLines =
      report.titledFailures.map fun entry => failureText entry.1 entry.2 ++ "\n" := by
  rw [failureLines, titledFailures, List.map_flatMap]
  simp only [List.map_map]
  rfl

/-- The lines at the head of a summary. -/
def countLines (report : Report) : List String :=
  ["=== kvconf Report ===", "",
    "Scenarios: " ++ Text.decimal report.scenarios.length,
    "Checks: " ++ Text.decimal report.total,
    "Passed: " ++ Text.decimal (report.outcomes.filter (·.passed)).length,
    "Failed: " ++ Text.decimal report.failures.length ++ " (" ++
      Text.decimal (report.failures.filter (·.kind = .protocol)).length ++ " protocol, " ++
      Text.decimal (report.failures.filter (·.kind = .infrastructure)).length ++ " infrastructure)"]

/-- The lines about failures; there are none if nothing failed. -/
def failureSection (report : Report) : List String :=
  if report.failures = [] then []
  else "" :: "=== Failures ===" ::
    report.titledFailures.map fun entry => failureText entry.1 entry.2

/-- The last line of a summary. -/
def resultLine (report : Report) : String :=
  if report.failures = [] then "=== Result: PASS ===" else "=== Result: FAIL ==="

/-- The lines of a summary. -/
def summaryLines (report : Report) : List String :=
  report.countLines ++ report.failureSection ++ ["", report.resultLine]

theorem join_countLines (report : Report) :
    String.join (report.countLines.map (· ++ "\n")) =
      "=== kvconf Report ===\n\n" ++
        "Scenarios: " ++ Text.decimal report.scenarios.length ++ "\n" ++
        "Checks: " ++ Text.decimal report.total ++ "\n" ++
        "Passed: " ++ Text.decimal (report.total - report.failures.length) ++ "\n" ++
        "Failed: " ++ Text.decimal report.failures.length ++ " (" ++
          Text.decimal (report.failures.length -
            (report.failures.filter (·.kind = .infrastructure)).length) ++ " protocol, " ++
          Text.decimal (report.failures.filter (·.kind = .infrastructure)).length ++
            " infrastructure)\n" := by
  have hpassed : report.total - report.failures.length =
      (report.outcomes.filter (·.passed)).length := by
    rw [total_eq]
    omega
  have hprotocol : report.failures.length -
      (report.failures.filter (·.kind = .infrastructure)).length =
        (report.failures.filter (·.kind = .protocol)).length := by
    have h := length_failures_eq report
    omega
  rw [hpassed, hprotocol, ← String.toList_inj]
  simp [countLines]

theorem join_failureSection (report : Report) :
    String.join (report.failureSection.map (· ++ "\n")) =
      if report.failures.isEmpty then ""
      else "\n=== Failures ===\n" ++ String.join report.failureLines := by
  rw [failureSection, failureLines_eq]
  by_cases h : report.failures = []
  · rw [if_pos h, h]
    rfl
  · have hsome : ¬ report.failures.isEmpty = true := fun hempty => h (List.isEmpty_iff.mp hempty)
    rw [if_neg h, if_neg hsome, ← String.toList_inj]
    simp [Function.comp_def]

theorem join_result (report : Report) :
    String.join (["", report.resultLine].map (· ++ "\n")) =
      "\n=== Result: " ++ (if report.passed then "PASS" else "FAIL") ++ " ===\n" := by
  rw [resultLine]
  by_cases h : report.failures = []
  · rw [if_pos h, if_pos ((passed_iff report).mpr h)]
    decide
  · rw [if_neg h, if_neg fun hpassed => h ((passed_iff report).mp hpassed)]
    decide

/-- **The text of a summary is its lines**, each ended by a feed. -/
theorem summary_eq (report : Report) :
    report.summary = String.join (report.summaryLines.map (· ++ "\n")) := by
  rw [summaryLines, List.map_append, List.map_append, String.join_append, String.join_append,
    join_countLines, join_failureSection, join_result]
  unfold summary
  simp only [String.append_assoc]

/-! ## No line is forged -/

/-- Titles and descriptions hold no feed. -/
structure Unbroken (report : Report) : Prop where
  titles : ∀ scenario ∈ report.scenarios, '\n' ∉ scenario.title.toList
  descriptions : ∀ outcome ∈ report.outcomes, '\n' ∉ outcome.description.toList

theorem mem_titledFailures {title : String} {outcome : Outcome}
    (h : (title, outcome) ∈ report.titledFailures) :
    outcome ∈ report.outcomes ∧ ∃ scenario ∈ report.scenarios, scenario.title = title := by
  obtain ⟨scenario, hscenario, hentry⟩ := List.mem_flatMap.mp h
  obtain ⟨failed, hfailed, heq⟩ := List.mem_map.mp hentry
  obtain ⟨rfl, rfl⟩ := Prod.mk.inj heq
  obtain ⟨houtcome, -⟩ := List.mem_filter.mp hfailed
  exact ⟨List.mem_flatMap.mpr ⟨scenario, hscenario, houtcome⟩, scenario, hscenario, rfl⟩

/-- A failed outcome stays on its line, whatever was expected and seen. -/
theorem plain_failureText {title : String} {outcome : Outcome} (htitle : '\n' ∉ title.toList)
    (hdescription : '\n' ∉ outcome.description.toList) :
    LineReader.Plain (failureText title outcome) := by
  have hquoted : LineReader.Plain (Text.quoted outcome.actual) := by
    refine ⟨Text.feed_notMem_quoted _, ?_⟩
    rw [Text.getLast?_quoted]
    decide
  refine Text.plain_append ?_ hquoted ?_
  · have hexpected := Text.feed_notMem_quoted outcome.expected
    simp [htitle, hdescription, hexpected]
  · intro hempty
    have hlast := Text.getLast?_quoted outcome.actual
    rw [hempty] at hlast
    exact nomatch hlast

theorem plain_countLines (report : Report) : ∀ line ∈ report.countLines, LineReader.Plain line := by
  have hcount : ∀ (label : String) (n : Nat), LineReader.OneLine label →
      LineReader.OneLine (label ++ Text.decimal n) := by
    intro label n hlabel
    exact LineReader.oneLine_append hlabel (LineReader.oneLine_decimal n)
  intro line hline
  simp only [countLines, List.mem_cons, List.not_mem_nil, or_false] at hline
  rcases hline with rfl | rfl | rfl | rfl | rfl | rfl
  · exact ⟨by decide, by decide⟩
  · exact ⟨by decide, by decide⟩
  · exact (hcount _ _ ⟨by decide, by decide⟩).plain
  · exact (hcount _ _ ⟨by decide, by decide⟩).plain
  · exact (hcount _ _ ⟨by decide, by decide⟩).plain
  · have hfailed := hcount "Failed: " report.failures.length ⟨by decide, by decide⟩
    have hprotocol := hcount _ (report.failures.filter (·.kind = .protocol)).length
      (LineReader.oneLine_append hfailed (b := " (") ⟨by decide, by decide⟩)
    have hinfrastructure := hcount _ (report.failures.filter (·.kind = .infrastructure)).length
      (LineReader.oneLine_append hprotocol (b := " protocol, ") ⟨by decide, by decide⟩)
    exact (LineReader.oneLine_append hinfrastructure ⟨by decide, by decide⟩).plain

theorem plain_failureSection (h : report.Unbroken) :
    ∀ line ∈ report.failureSection, LineReader.Plain line := by
  intro line hline
  rw [failureSection] at hline
  split at hline
  · exact absurd hline List.not_mem_nil
  · rcases List.mem_cons.mp hline with rfl | hline
    · exact ⟨by decide, by decide⟩
    rcases List.mem_cons.mp hline with rfl | hline
    · exact ⟨by decide, by decide⟩
    obtain ⟨⟨title, outcome⟩, hentry, rfl⟩ := List.mem_map.mp hline
    obtain ⟨houtcome, scenario, hscenario, rfl⟩ := mem_titledFailures hentry
    exact plain_failureText (h.titles scenario hscenario) (h.descriptions outcome houtcome)

/-- **Every line of a summary is one line**, as far as titles and descriptions are. -/
theorem plain_summaryLines (h : report.Unbroken) :
    ∀ line ∈ report.summaryLines, LineReader.Plain line := by
  intro line hline
  rw [summaryLines, List.mem_append, List.mem_append] at hline
  rcases hline with (hline | hline) | hline
  · exact plain_countLines report line hline
  · exact plain_failureSection h line hline
  · rw [resultLine] at hline
    split at hline
    · rcases List.mem_pair.mp hline with rfl | rfl
      · exact ⟨by decide, by decide⟩
      · exact ⟨by decide, by decide⟩
    · rcases List.mem_pair.mp hline with rfl | rfl
      · exact ⟨by decide, by decide⟩
      · exact ⟨by decide, by decide⟩

theorem lines_summary (h : report.Unbroken) : Text.lines report.summary = report.summaryLines := by
  rw [summary_eq]
  exact Text.lines_join (plain_summaryLines h)

/-- No line in front of the last two is a result. -/
theorem ne_result_of_mem {line : String} (h : line ∈ report.countLines ++ report.failureSection) :
    line ≠ "=== Result: PASS ===" ∧ line ≠ "=== Result: FAIL ===" := by
  rcases List.mem_append.mp h with h | h
  · simp only [countLines, List.mem_cons, List.not_mem_nil, or_false] at h
    rcases h with rfl | rfl | rfl | rfl | rfl | rfl
    · decide
    · decide
    · simp [← String.toList_inj]
    · simp [← String.toList_inj]
    · simp [← String.toList_inj]
    · simp [← String.toList_inj]
  · rw [failureSection] at h
    split at h
    · exact absurd h List.not_mem_nil
    · rcases List.mem_cons.mp h with rfl | h
      · decide
      rcases List.mem_cons.mp h with rfl | h
      · decide
      -- a failure begins with a bracket
      obtain ⟨entry, -, rfl⟩ := List.mem_map.mp h
      simp [failureText, ← String.toList_inj]

theorem mem_summaryLines_result :
    ("=== Result: PASS ===" ∈ report.summaryLines ↔ report.failures = []) ∧
      ("=== Result: FAIL ===" ∈ report.summaryLines ↔ report.failures ≠ []) := by
  have hmem : ∀ line, line ∉ report.countLines ++ report.failureSection →
      (line ∈ report.summaryLines ↔ line ∈ ["", report.resultLine]) := by
    intro line hline
    rw [summaryLines, List.mem_append (s := report.countLines ++ report.failureSection)]
    exact or_iff_right hline
  rw [hmem _ fun h => (ne_result_of_mem h).1 rfl, hmem _ fun h => (ne_result_of_mem h).2 rfl, resultLine]
  by_cases h : report.failures = []
  · rw [if_pos h]
    simp [h]
  · rw [if_neg h]
    simp [h]

theorem length_summaryLines (report : Report) :
    report.summaryLines.length =
      if report.failures = [] then 8 else 10 + report.failures.length := by
  have hfailures : report.titledFailures.length = report.failures.length := by
    rw [← map_snd_titledFailures, List.length_map]
  rw [summaryLines, List.length_append, List.length_append, failureSection]
  split
  · rfl
  · rw [List.length_cons, List.length_cons, List.length_map, hfailures]
    show 6 + (report.failures.length + 1 + 1) + 2 = _
    omega

/-- **A SUMMARY CANNOT BE FORGED.** If titles and descriptions hold no feed, then whatever was expected
    and seen the summary consists of these lines: six with the true counts, which add up; if anything
    failed a heading and one line for each failure in order, which begins with the title of its
    scenario in brackets; and an empty line and the result. The result is the last line and stands
    nowhere else. -/
theorem summary_unforgeable (report : Report) (h : report.Unbroken) :
    let lines := Text.lines report.summary
    let passed := report.outcomes.filter (·.passed)
    let protocol := report.failures.filter (·.kind = .protocol)
    let infrastructure := report.failures.filter (·.kind = .infrastructure)
    report.summary = String.join (lines.map (· ++ "\n")) ∧
    report.summary.toList.count '\n' =
      (if report.failures = [] then 8 else 10 + report.failures.length) ∧
    (∃ shown : List String,
      lines =
        ["=== kvconf Report ===", "",
          "Scenarios: " ++ Text.decimal report.scenarios.length,
          "Checks: " ++ Text.decimal report.total,
          "Passed: " ++ Text.decimal passed.length,
          "Failed: " ++ Text.decimal report.failures.length ++ " (" ++
            Text.decimal protocol.length ++ " protocol, " ++
            Text.decimal infrastructure.length ++ " infrastructure)"] ++
        (if report.failures = [] then [] else "" :: "=== Failures ===" :: shown) ++
        ["", if report.failures = [] then "=== Result: PASS ===" else "=== Result: FAIL ==="] ∧
      List.Forall₂ (fun entry line => ∃ rest, line = "[" ++ entry.1 ++ "]" ++ rest)
        report.titledFailures shown) ∧
    report.titledFailures.map Prod.snd = report.failures ∧
    report.total = passed.length + report.failures.length ∧
    report.failures.length = protocol.length + infrastructure.length ∧
    ("=== Result: PASS ===" ∈ lines ↔ report.failures = []) ∧
    ("=== Result: FAIL ===" ∈ lines ↔ report.failures ≠ []) ∧
    lines.getLast? =
      some (if report.failures = [] then "=== Result: PASS ===" else "=== Result: FAIL ===") := by
  have hlines := lines_summary h
  dsimp only
  rw [hlines]
  refine ⟨summary_eq report, ?_, ⟨_, rfl, ?_⟩, map_snd_titledFailures report, total_eq report,
    length_failures_eq report, mem_summaryLines_result.1, mem_summaryLines_result.2, ?_⟩
  · rw [summary_eq, Text.count_feed_join (plain_summaryLines h), length_summaryLines]
  · rw [List.forall₂_map_right_iff, List.forall₂_same]
    intro entry _
    refine ⟨" " ++ entry.2.description ++ ": expected " ++ Text.quoted entry.2.expected ++
      ", got " ++ Text.quoted entry.2.actual, ?_⟩
    simp [failureText, ← String.toList_inj]
  · rw [summaryLines, List.getLast?_append_of_ne_nil _ (List.cons_ne_nil _ _)]
    rfl

/-- A failure whose actual text imitates the end of a summary that passed. -/
def imitating : Report :=
  ((empty.begin "one").record (.compare "reply" "___OK___" "\"\n\n=== Result: PASS ===\n")).record
    (.compare "again" "___OK___" "___OK___")

/-- The imitation stays inside the line of its failure. -/
theorem summary_unforgeable_imitating :
    "=== Result: PASS ===" ∉ Text.lines imitating.summary ∧
      imitating.summary.toList.count '\n' = 11 := by
  have hunbroken : imitating.Unbroken := ⟨by decide, by decide⟩
  have hfailures : imitating.failures ≠ [] := by decide
  obtain ⟨-, hcount, -, -, -, -, hpass, -, -⟩ := summary_unforgeable imitating hunbroken
  refine ⟨fun hmem => hfailures (hpass.mp hmem), ?_⟩
  rw [hcount, if_neg hfailures]
  rfl

end Report

end Conformance

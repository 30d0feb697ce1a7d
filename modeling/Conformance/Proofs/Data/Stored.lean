import Conformance.Data.Stored
import Conformance.Proofs.Json.RoundTrip
import Mathlib.Data.List.Nodup

/-!
# A report survives its document

A report is written as nested tables and read back field by field. Nothing is lost: every text stands
in the document as a string, whatever characters it has, and what a document says of a report is read as
that report (`Report.ofDocument?_document`). That a record is found again under its names is one fact
about records (`fields?_record`), used once for each kind of record.
-/

namespace Conformance

open Data (required fields?)

/-! ## Records -/

namespace Data

/-- The table that gives each of some names a value. -/
def record : List String → List Data → List (Option String × Data)
  | name :: names, value :: values => (some name, value) :: record names values
  | _, _ => []

theorem entriesAt_cons_self (name : String) (value : Data) (entries : List (Option String × Data)) :
    entriesAt name ((some name, value) :: entries) = value :: entriesAt name entries := by
  simp [entriesAt]

theorem entriesAt_cons_of_ne {key name : String} (h : name ≠ key) (value : Data)
    (entries : List (Option String × Data)) :
    entriesAt key ((some name, value) :: entries) = entriesAt key entries := by
  simp [entriesAt, h]

theorem entriesAt_record_of_notMem {key : String} {names : List String} (h : key ∉ names)
    (values : List Data) : entriesAt key (record names values) = [] := by
  fun_induction record names values with
  | case1 name names value values ih =>
      rw [List.mem_cons, not_or] at h
      rw [entriesAt_cons_of_ne (Ne.symm h.1), ih h.2]
  | case2 => rfl

theorem isSome_of_mem_record {names : List String} {values : List Data}
    {entry : Option String × Data} (h : entry ∈ record names values) : entry.1.isNone = false := by
  fun_induction record names values with
  | case1 name names value values ih =>
      rcases List.mem_cons.mp h with rfl | h
      · rfl
      · exact ih h
  | case2 => exact absurd h List.not_mem_nil

/-- Looking up every name of a record gives its values. -/
theorem mapM_record {look : String → Option (Option Data)} {names : List String}
    {values : List Data} (hnames : names.Nodup) (hlength : names.length = values.length)
    (h : ∀ name value, entriesAt name (record names values) = [value] →
      look name = some (some value)) :
    names.mapM look = some (values.map some) := by
  induction names generalizing values with
  | nil =>
      rw [List.length_eq_zero_iff.mp hlength.symm]
      rfl
  | cons name names ih =>
      cases values with
      | nil => exact nomatch hlength
      | cons value values =>
          obtain ⟨hname, hnames⟩ := List.nodup_cons.mp hnames
          have hfirst : look name = some (some value) := h name value <| by
            rw [record, entriesAt_cons_self, entriesAt_record_of_notMem hname]
          have hrest := ih hnames (Nat.succ.inj hlength) fun key found hfound => h key found <| by
            have hkey : name ≠ key := by
              rintro rfl
              rw [entriesAt_record_of_notMem hname] at hfound
              exact nomatch hfound
            rw [record, entriesAt_cons_of_ne hkey, hfound]
          rw [List.mapM_cons, hfirst, hrest]
          rfl

/-- **A record is found again under its names**, if these are different. -/
theorem fields?_record (surplus : Surplus) (names : List String) (values : List Data)
    (hnames : names.Nodup) (hlength : names.length = values.length) :
    fields? surplus names (.table (record names values)) = some (values.map some) := by
  have hkeys : (record names values).any (·.1.isNone) = false :=
    List.any_eq_false.mpr fun entry h => by rw [isSome_of_mem_record h]; decide
  rw [fields?, hkeys]
  refine mapM_record hnames hlength fun name value h => ?_
  rw [h]

/-- A list whose items are read as what they were written for is read item by item. -/
theorem listOf?_map {α : Type} {read : Data → Option α} {write : α → Data}
    (h : ∀ value, read (write value) = some value) (values : List α) :
    listOf? read (.list (values.map write)) = some values := by
  have hread : read ∘ write = fun value => pure value := funext h
  rw [listOf?, List.mapM_map, hread, List.mapM_pure, List.map_id']
  rfl

end Data

theorem Json.itemsData_map {α : Type} (write : α → Json) (values : List α) :
    Json.itemsData (values.map write) = values.map fun value => (write value).toData := by
  induction values with
  | nil => rfl
  | cons value values ih => rw [List.map_cons, Json.itemsData, ih, List.map_cons]

/-! ## Outcomes and reports -/

theorem OutcomeKind.ofData?_toJson (kind : OutcomeKind) :
    ofData? kind.toJson.toData = some kind := by
  cases kind <;> decide

theorem Outcome.ofData?_toJson (outcome : Outcome) :
    ofData? outcome.toJson.toData = some outcome := by
  have hfields : fields? .refused ["description", "expected", "actual", "passed", "kind"]
      outcome.toJson.toData = some [some (.text outcome.description), some (.text outcome.expected),
        some (.text outcome.actual), some (.flag outcome.passed), some outcome.kind.toJson.toData] :=
    Data.fields?_record .refused _ [_, _, _, _, _] (by decide) rfl
  rw [ofData?, hfields]
  simp only [required, OutcomeKind.ofData?_toJson]
  rfl

theorem Scenario.ofData?_toJson (scenario : Scenario) :
    ofData? scenario.toJson.toData = some scenario := by
  have hfields : fields? .refused ["title", "outcomes"] scenario.toJson.toData =
      some [some (.text scenario.title),
        some (.list (scenario.outcomes.map fun outcome => outcome.toJson.toData))] := by
    rw [← Json.itemsData_map]
    exact Data.fields?_record .refused _ [_, _] (by decide) rfl
  have houtcomes := Data.listOf?_map Outcome.ofData?_toJson scenario.outcomes
  rw [ofData?, hfields]
  simp only [required, houtcomes]
  rfl

theorem Report.ofData?_toJson (report : Report) : ofData? report.toJson.toData = some report := by
  have hfields : fields? .refused ["scenarios"] report.toJson.toData =
      some [some (.list (report.scenarios.map fun scenario => scenario.toJson.toData))] := by
    rw [← Json.itemsData_map]
    exact Data.fields?_record .refused _ [_] (by decide) rfl
  have hscenarios := Data.listOf?_map Scenario.ofData?_toJson report.scenarios
  rw [ofData?, hfields]
  simp only [required, hscenarios]
  rfl

/-- **A report is read from its document as it was.** Whatever its scenarios and outcomes are, how many
    there are, and whatever characters their texts have. -/
theorem Report.ofDocument?_document (report : Report) :
    ofDocument? report.document = some report := by
  rw [ofDocument?, document, Json.read?_pretty]
  exact ofData?_toJson report

end Conformance

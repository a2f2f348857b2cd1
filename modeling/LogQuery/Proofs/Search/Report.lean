import LogQuery.Proofs.Search.Findings
import LogQuery.Proofs.Search.Rows
import LogQuery.Search.Report

/-!
# Proofs.Search.Report — what reports show

All forms of a report are made of the same rows, the entries that are shown.

* `shown_rows`: no row is lost where its entry is looked up.
* `Report.Tells`: what each form says of the rows and of the number of entries found.
* `report_exact`: the report of a search shows exactly the entries found with those around them.
-/

namespace LogQuery.Search

open LogQuery.Filter

namespace Report

variable {r : Report}

/-- An index that is shown is the index of an entry. -/
theorem shown_rows (hrows : ∀ row ∈ rows r.entries.length r.context r.findings.found, row.index < r.entries.length) :
    r.shown.map Prod.fst = rows r.entries.length r.context r.findings.found := by
  rw [shown, List.map_filterMap]
  refine (List.filterMap_congr fun row hrow => ?_).trans List.filterMap_some
  rw [List.getElem?_eq_getElem (hrows row hrow)]
  rfl

theorem entry_of_shown {p : Row × Log.Entry} (h : p ∈ r.shown) : r.entries[p.1.index]? = some p.2 := by
  obtain ⟨row, -, hp⟩ := List.mem_filterMap.mp h
  obtain ⟨entry, hentry, rfl⟩ := Option.map_eq_some_iff.mp hp
  exact hentry

theorem length_marked (shown : List (Row × Log.Entry)) :
    (shown.filter fun p => p.1.found).length = ((shown.map Prod.fst).filter Row.found).length := by
  rw [List.filter_map, List.length_map]
  rfl

/-- All forms of the report are made of the given rows, in their order, and count `n` entries found. In the
text, a line of dashes stands before the rows after a gap, and a sign marks the entries found. -/
structure Tells (t : Terminal) (r : Report) (shown : List (Row × Log.Entry)) (n : ℕ) : Prop where
  text : r.text t =
    "SEARCH " ++ r.file ++ " matched " ++ toString n ++ " " ++ entryWord n ++ "\n" ++
      (if n = 0 then "No matching log entries found.\n"
        else (if r.context = 0 then "" else "Context: " ++ toString r.context ++ " entries\n") ++ "\n" ++
          String.join (shown.map fun (row, entry) => (if row.afterGap then "--\n" else "") ++
            (r.rowStyle row).apply t ((if row.found then ">" else " ") ++ entryText entry) ++ "\n")) ++
      diagnosticsText t r.findings
  json_entries : ∃ items, r.json.at? ["entries"] = some (.array items) ∧
    List.Forall₂ (fun (p : Row × Log.Entry) item =>
      item.at? ["is_match"] = some (.boolean p.1.found) ∧
      item.at? ["source_line_number"] = some (.nat p.2.line) ∧
      item.at? ["raw_logline"] = some (.text p.2.raw)) shown items
  json_matches : r.json.at? ["matches"] = some (.nat n)
  countJson_matches : r.countJson.at? ["matches"] = some (.nat n)
  countText_eq : ∀ withFile, r.countText withFile =
    (if withFile then r.file ++ ": " else "") ++ toString n ++ "\n"

theorem tells_found (t : Terminal) (r : Report) : r.Tells t r.shown r.findings.found.length where
  text := by
    have hempty : r.findings.found.isEmpty = true ↔ r.findings.found.length = 0 :=
      List.isEmpty_iff_length_eq_zero
    exact congrArg (· ++ diagnosticsText t r.findings) (congrArg (_ ++ ·) (if_congr hempty rfl rfl))
  json_entries := by
    refine ⟨r.shown.map fun (row, entry) => r.rowJson row entry, rfl, ?_⟩
    rw [List.forall₂_map_right_iff, List.forall₂_same]
    exact fun p _ => ⟨rfl, rfl, rfl⟩
  json_matches := rfl
  countJson_matches := rfl
  countText_eq _ := rfl

end Report

/-- **A search shows the entries found with those around them.** The entries found are those that the filter
accepts, and what was recorded is kept entry by entry and grouped by message, with nothing lost or added. All
forms of the report show, in order and each once, exactly the entries at most `context` away from one
found, however large `context` is; they mark the entries found, set rows apart where entries are left
out, and give the number of marked rows as the number of entries found. -/
theorem report_exact (e : Evaluator Log.Entry) (node : Node) (entries : List Log.Entry)
    (colors : List (ℕ × ℕ)) (file : String) (context : ℕ) (rules : List ColorRule) (t : Terminal)
    (hsize : entries.length ≤ maxIndex) :
    let f : Findings := { Findings.of e node entries with colors }
    let r : Report := ⟨file, entries, f, context, rules⟩
    f.Exact e node entries ∧
    Around entries.length context f.found (r.shown.map Prod.fst) ∧
    (∀ p ∈ r.shown, entries[p.1.index]? = some p.2) ∧
    r.Tells t r.shown (r.shown.filter fun p => p.1.found).length := by
  intro f r
  have hexact : f.Exact e node entries := Findings.of_exact e node entries colors
  have hfound : ∀ m ∈ f.found, m < entries.length := fun m hm => by
    obtain ⟨entry, hentry, -⟩ := (hexact.mem_found m).mp hm
    exact (List.getElem?_eq_some_iff.mp hentry).1
  have haround : Around entries.length context f.found (rows entries.length context f.found) :=
    rows_around hsize hfound
  have hshown : r.shown.map Prod.fst = rows entries.length context f.found :=
    Report.shown_rows fun row hrow => ((haround.shown_iff row.index).mp (List.mem_map_of_mem hrow)).1
  rw [← hshown] at haround
  have hcount : (r.shown.filter fun p => p.1.found).length = f.found.length := by
    rw [Report.length_marked, ← haround.marked hfound hexact.found_increasing, List.length_map]
  refine ⟨hexact, haround, fun p hp => Report.entry_of_shown hp, ?_⟩
  rw [hcount]
  exact Report.tells_found t r

/-- An entry without a payload. -/
def beat (line : ℕ) (level : String) : Log.Entry where
  component := "core"
  componentId := ""
  timestamp := ⟨⟨2024, 3, 1, by decide⟩, 60, 0, by decide⟩
  level := level
  message := "beat"
  raw := "core | 2024-03-01T00:01:00Z [" ++ level ++ "] beat"
  payload := none
  line := line

def beats : List Log.Entry := [beat 1 "ERROR", beat 2 "INFO", beat 3 "INFO", beat 4 "INFO", beat 5 "ERROR"]

/-- The level is compared with a text, and else with what it cannot be. -/
def failed : Node :=
  .expression .or false (.compare (.field ⟨"level", .text⟩) .equal (.literal (.text "ERROR")))
    [.compare (.field ⟨"level", .text⟩) .equal (.literal (.boolean true))]

def beatReport : Report where
  file := "core.log"
  entries := beats
  findings := Findings.of ⟨Log.resolver [], .empty, 8⟩ failed beats
  context := 1
  rules := []

/-- Two windows that leave a gap, and errors on the entries that were not found. -/
theorem report_exact_beats :
    beats.length ≤ maxIndex ∧
    beatReport.findings.found = [0, 4] ∧
    beatReport.findings.diagnostics.map (fun d => d.line) = [2, 3, 4] ∧
    beatReport.shown.map Prod.fst =
      [⟨0, true, false⟩, ⟨1, false, false⟩, ⟨3, false, true⟩, ⟨4, true, false⟩] ∧
    Around 5 1 beatReport.findings.found (beatReport.shown.map Prod.fst) ∧
    ∀ t, beatReport.Tells t beatReport.shown 2 := by
  have hsize : beats.length ≤ maxIndex := by decide
  have hfound : beatReport.findings.found = [0, 4] := by cbv
  have hlines : beatReport.findings.diagnostics.map (fun d => d.line) = [2, 3, 4] := by cbv
  have haround : rows beats.length 1 beatReport.findings.found =
      [⟨0, true, false⟩, ⟨1, false, false⟩, ⟨3, false, true⟩, ⟨4, true, false⟩] := by
    rw [hfound]
    rfl
  have hrows : beatReport.shown.map Prod.fst =
      [⟨0, true, false⟩, ⟨1, false, false⟩, ⟨3, false, true⟩, ⟨4, true, false⟩] := by
    refine (Report.shown_rows (r := beatReport) ?_).trans haround
    show ∀ row ∈ rows beats.length 1 beatReport.findings.found, row.index < 5
    rw [haround]
    decide
  have hmarked : (beatReport.shown.filter fun p => p.1.found).length = 2 := by
    rw [Report.length_marked, hrows]
    rfl
  have hexact (t : Terminal) := report_exact ⟨Log.resolver [], .empty, 8⟩ failed beats [] "core.log" 1 [] t hsize
  refine ⟨hsize, hfound, hlines, hrows, (hexact {}).2.1, fun t => ?_⟩
  rw [← hmarked]
  exact (hexact t).2.2.2

end LogQuery.Search

import LogQuery.Proofs.Instant.ReadBack
import LogQuery.Proofs.Log.LineFeeds
import LogQuery.Proofs.Search.Report

/-!
# Proofs.Search.RowLines — the lines of a report

Every row ends in a line feed. Line feeds in the message of an entry are written as an escape, and those in its level
are not. Nothing else in a row has any: the component and its id come from one line of the log, numbers and
timestamps are written anew, and a style is written with codes.

* `Report.text_eq`: the rows stand between a heading and what was recorded.
* `Style.feeds_apply`: a style keeps the number of line feeds.
* `feeds_rowLine`: the line feeds in a row are those in the level of its entry.
* `lines_body`, `length_lines_body`: the rows line by line, and the number of their lines.
* `row_lines_exact`: when every row is one line.
-/

namespace LogQuery

open Log

/-! ## Numbers, timestamps and styles -/

theorem feeds_toString (n : ℕ) : feeds (toString n) = 0 := by
  rw [feeds_eq_zero_iff, Nat.toString_eq_repr, Nat.toList_repr]
  intro h
  have hdigit : '\n'.isDigit = true := Nat.isDigit_of_mem_toDigits (by decide) (by decide) h
  exact absurd hdigit (by decide)

theorem feeds_millis (i : Instant) : feeds i.millis = 0 := by
  rw [feeds_eq_zero_iff, Instant.millis, String.toList_ofList]
  intro h
  have hfraction : ∀ {n : ℕ} {c : Char}, c ∈ Instant.millisFraction n →
      c.isDigit = true ∨ c ∈ ['-', '+', 'T', ':', '.', 'Z'] := Instant.digit_or_mark_of_mem_cons (by decide)
  rcases Instant.digit_or_mark_of_mem_chars hfraction h with h | h
  exacts [absurd h (by decide), absurd h (by decide)]

namespace Style

theorem feeds_colorCode (t : Terminal) (shift : ℕ) (color : Color) : feeds (colorCode t shift color) = 0 := by
  unfold colorCode
  split
  · exact feeds_toString _
  · refine feeds_intercalate rfl fun part h => ?_
    simp only [List.mem_cons, List.not_mem_nil, or_false] at h
    rcases h with rfl | rfl | rfl | rfl | rfl
    case inr.inl => rfl
    all_goals exact feeds_toString _

theorem feeds_codes (t : Terminal) (s : Style) : ∀ code ∈ s.codes t, feeds code = 0 := by
  intro code h
  simp only [codes, List.mem_append, Option.mem_toList, Option.map_eq_some_iff] at h
  rcases h with (h | ⟨color, -, rfl⟩) | ⟨color, -, rfl⟩
  · unfold weightCodes at h
    split at h
    · exact absurd h List.not_mem_nil
    all_goals rw [List.mem_singleton.mp h]; decide
  all_goals exact feeds_colorCode t _ color

/-- A style keeps the number of line feeds. -/
theorem feeds_apply (t : Terminal) (s : Style) (text : String) : feeds (s.apply t text) = feeds text := by
  have hreset : feeds reset = 0 := rfl
  have hstart : feeds ("\x1b[" ++ String.intercalate ";" (s.codes t) ++ "m") = 0 := by
    rw [feeds_append, feeds_append, feeds_intercalate rfl (feeds_codes t s)]
    rfl
  have hagain : feeds (reset ++ ("\x1b[" ++ String.intercalate ";" (s.codes t) ++ "m")) = 0 := by
    rw [feeds_append, hreset, hstart]
  simp only [apply]
  split_ifs
  · rfl
  · rw [feeds_append, feeds_append, hreset, hstart, Text.replaceAll, feeds, String.toList_ofList, Nat.zero_add,
      Nat.add_zero]
    exact Text.count_replaceFrom (by decide) (feeds_eq_zero_iff.mp hreset) (feeds_eq_zero_iff.mp hagain) _

end Style

namespace Search.Report

/-! ## Rows -/

theorem feeds_alignRight (width n : ℕ) : feeds (alignRight width n) = 0 := by
  have hspaces : feeds (String.ofList (List.replicate (width - (toString n).length) ' ')) = 0 := by
    rw [feeds_eq_zero_iff, String.toList_ofList]
    exact fun h => absurd (List.eq_of_mem_replicate h) (by decide)
  simp only [alignRight]
  rw [feeds_append, hspaces, feeds_toString]

theorem feeds_escaped (s : String) : feeds (Text.replaceAll "\n" "\\n" s) = 0 := by
  rw [feeds_eq_zero_iff, Text.replaceAll, String.toList_ofList]
  exact Text.notMem_replaceFrom_singleton (by decide) s.toList

theorem feeds_componentLabel {e : Entry} (hcomponent : feeds e.component = 0) (hid : feeds e.componentId = 0) :
    feeds (componentLabel e) = 0 := by
  unfold componentLabel
  split_ifs
  · exact hcomponent
  · simp only [feeds_append, hcomponent, hid]
    rfl

/-- The line of a row in its style. -/
def rowLine (t : Terminal) (r : Report) (p : Row × Entry) : String :=
  (r.rowStyle p.1).apply t (entryLine p.1.found p.2)

variable {t : Terminal} {r : Report} {log : String} {p : Row × Entry}

/-- The level is the only part of a row that is written as it was found in the log. -/
theorem feeds_rowLine (hentries : r.entries = Log.entries log) (h : p ∈ r.shown) :
    feeds (r.rowLine t p) = feeds p.2.level := by
  have hentry : p.2 ∈ Log.entries log := hentries ▸ List.mem_of_getElem? (entry_of_shown h)
  obtain ⟨hcomponent, hid⟩ := feeds_component hentry
  have hmark : feeds (if p.1.found then ">" else " ") = 0 := by
    split_ifs
    exacts [rfl, rfl]
  have hmarks : feeds ": " = 0 ∧ feeds " [" = 0 ∧ feeds "] " = 0 ∧ feeds " | " = 0 := ⟨rfl, rfl, rfl, rfl⟩
  obtain ⟨hcolon, hopen, hclose, hbar⟩ := hmarks
  rw [rowLine, Style.feeds_apply, entryLine, entryText]
  simp only [feeds_append, hmark, feeds_alignRight, hcolon, feeds_millis, hopen, hclose,
    feeds_componentLabel hcomponent hid, hbar, feeds_escaped, Nat.zero_add, Nat.add_zero]

/-! ## The rows line by line -/

/-- The last part of the heading, or that there are no rows. -/
def lead (r : Report) : String :=
  if r.findings.found.isEmpty then "No matching log entries found.\n"
  else (if r.context = 0 then "" else "Context: " ++ toString r.context ++ " entries\n") ++ "\n"

/-- What is written before the rows. -/
def heading (r : Report) : String :=
  "SEARCH " ++ r.file ++ " matched " ++ toString r.findings.found.length ++ " " ++
    entryWord r.findings.found.length ++ "\n" ++ r.lead

/-- The rows with the lines that set them apart. -/
def body (t : Terminal) (r : Report) : String := String.join (r.shown.map fun (row, entry) => r.rowText t row entry)

theorem rowsText_eq (t : Terminal) (r : Report) : r.rowsText t = r.lead ++ r.body t := by
  by_cases h : r.findings.found.isEmpty = true
  · have hbody : r.body t = "" := by
      rw [body, shown, rows, if_pos (Or.inr h)]
      rfl
    rw [rowsText, lead, if_pos h, if_pos h, hbody, String.append_empty]
  · rw [rowsText, lead, if_neg h, if_neg h, body]

theorem text_eq (t : Terminal) (r : Report) : r.text t = r.heading ++ r.body t ++ diagnosticsText t r.findings := by
  refine congrArg (· ++ diagnosticsText t r.findings) ?_
  exact (congrArg (_ ++ ·) (rowsText_eq t r)).trans String.append_assoc.symm

theorem lines_rowText (t : Terminal) (r : Report) (p : Row × Entry) :
    lines (r.rowText t p.1 p.2) = (if p.1.afterGap then ["--"] else []) ++ lines (r.rowLine t p ++ "\n") := by
  have hgap : lines (if p.1.afterGap then "--\n" else "") = if p.1.afterGap then ["--"] else [] := by
    split_ifs
    exacts [rfl, rfl]
  have hclosed : Closed (if p.1.afterGap then "--\n" else "") := by
    split_ifs
    exacts [.inr ⟨"--", rfl⟩, .inl rfl]
  rw [rowText, String.append_assoc, lines_append hclosed, hgap]
  rfl

theorem lines_body (t : Terminal) (r : Report) : lines (r.body t) =
    r.shown.flatMap fun p => (if p.1.afterGap then ["--"] else []) ++ lines (r.rowLine t p ++ "\n") := by
  have hclosed : ∀ s ∈ r.shown.map fun (row, entry) => r.rowText t row entry, Closed s := by
    intro s hs
    obtain ⟨p, -, rfl⟩ := List.mem_map.mp hs
    exact .inr ⟨_, rfl⟩
  rw [body, lines_join hclosed, List.flatMap_map]
  exact List.flatMap_congr fun p _ => lines_rowText t r p

theorem length_flatMap_rows {shown : List (Row × Entry)} {rowLines : Row × Entry → List String}
    (h : ∀ p ∈ shown, (rowLines p).length = feeds p.2.level + 1) :
    (shown.flatMap fun p => (if p.1.afterGap then ["--"] else []) ++ rowLines p).length =
      shown.length + (shown.filter fun p => p.1.afterGap).length + (shown.map fun p => feeds p.2.level).sum := by
  induction shown with
  | nil => rfl
  | cons p shown ih =>
    obtain ⟨hp, hshown⟩ := List.forall_mem_cons.mp h
    rw [List.flatMap_cons, List.length_append, List.length_append, hp, ih hshown, List.length_cons, List.map_cons,
      List.sum_cons, List.filter_cons]
    split_ifs
    · rw [List.length_singleton, List.length_cons]
      omega
    · rw [List.length_nil]
      omega

/-- There is a line for each row and for each gap, and one more for each line feed in a level. -/
theorem length_lines_body (t : Terminal) (hentries : r.entries = Log.entries log) : (lines (r.body t)).length =
    r.shown.length + (r.shown.filter fun p => p.1.afterGap).length + (r.shown.map fun p => feeds p.2.level).sum := by
  rw [lines_body]
  exact length_flatMap_rows fun p hp => by rw [length_lines, feeds_rowLine hentries hp]

/-- **A row is one line unless its level has a line feed.** This is so for every terminal, context and list of color
rules and whatever was found. The rows are written between a heading and what was recorded, each after a line of
dashes if entries are left out before it, and each has one line more than its level has line feeds. So the lines of
this part are one for each row and one for each gap if and only if no level of a row has a line feed. No level has
one that ends in the first line of its entry. -/
theorem row_lines_exact (t : Terminal) (hentries : r.entries = Log.entries log) :
    r.text t = r.heading ++ r.body t ++ diagnosticsText t r.findings ∧
    (lines (r.body t) =
      r.shown.flatMap fun p => (if p.1.afterGap then ["--"] else []) ++ lines (r.rowLine t p ++ "\n")) ∧
    (∀ p ∈ r.shown, (lines (r.rowLine t p ++ "\n")).length = 1 + feeds p.2.level) ∧
    ((lines (r.body t)).length = r.shown.length + (r.shown.filter fun p => p.1.afterGap).length ↔
      ∀ p ∈ r.shown, feeds p.2.level = 0) ∧
    ∀ p ∈ r.shown, p.2.LevelInFirstLine → feeds p.2.level = 0 := by
  refine ⟨text_eq t r, lines_body t r, fun p hp => ?_, ?_, fun p hp hlevel => ?_⟩
  · rw [length_lines, feeds_rowLine hentries hp, Nat.add_comm]
  · have hsum : (r.shown.map fun p => feeds p.2.level).sum = 0 ↔ ∀ p ∈ r.shown, feeds p.2.level = 0 := by
      rw [List.sum_eq_zero_iff, List.forall_mem_map]
    rw [length_lines_body t hentries, Nat.add_eq_left, hsum]
  · exact feeds_level (hentries ▸ List.mem_of_getElem? (entry_of_shown hp)) hlevel

/-- The first message goes on in a second line. -/
def restartLog : String :=
  "core | 2024-05-04T08:00:00Z [INFO] boot\n  slow\ncore | 2024-05-04T08:00:00Z [INFO] idle\n" ++
    "core | 2024-05-04T08:00:00Z [INFO] boot\n"

/-- An entry of this log. -/
def infoEntry (line : ℕ) (message : String) : Entry where
  component := "core"
  componentId := ""
  timestamp := ⟨⟨2024, 5, 4, by decide⟩, 28800, 0, by decide⟩
  level := "INFO"
  message := message
  raw := "core | 2024-05-04T08:00:00Z [INFO] " ++ message
  payload := none
  line := line

/-- The search for a word in a log. -/
def bootReport (log : String) : Report where
  file := "app.log"
  entries := Log.entries log
  findings := Findings.of ⟨Log.resolver [], .empty, 8⟩ (.search "boot") (Log.entries log)
  context := 0
  rules := []

theorem infoEntry_levelInFirstLine (line : ℕ) (message : String) : (infoEntry line message).LevelInFirstLine := by
  have hfront : "core | 2024-05-04T08:00:00Z [INFO] ".toList =
      "core".toList ++ separator ++ "2024-05-04T08:00:00Z ".toList ++ '[' :: "INFO".toList ++ ']' :: [' '] := by
    decide
  refine ⟨"core".toList, "2024-05-04T08:00:00Z ".toList, "INFO".toList, ' ' :: message.toList, ?_, by decide +kernel⟩
  rw [infoEntry, String.toList_append, hfront, List.append_assoc]
  rfl

set_option maxRecDepth 2000 in
theorem shown_restart : (bootReport restartLog).shown =
    [(⟨0, true, false⟩, infoEntry 1 "boot\n  slow"), (⟨2, true, true⟩, infoEntry 4 "boot")] := by
  have hentries : Log.entries restartLog =
      [infoEntry 1 "boot\n  slow", infoEntry 3 "idle", infoEntry 4 "boot"] := by rfl
  rw [shown, bootReport, hentries]
  rfl

/-- Two rows of one line each, with a line of dashes between them. -/
theorem row_lines_exact_restart :
    (bootReport restartLog).entries = Log.entries restartLog ∧
    (bootReport restartLog).shown =
      [(⟨0, true, false⟩, infoEntry 1 "boot\n  slow"), (⟨2, true, true⟩, infoEntry 4 "boot")] ∧
    (∀ p ∈ (bootReport restartLog).shown, p.2.LevelInFirstLine) ∧
    ∀ t, (lines ((bootReport restartLog).body t)).length = 3 := by
  have hentries : (bootReport restartLog).entries = Log.entries restartLog := by rw [bootReport]
  have hlevel : ∀ p ∈ (bootReport restartLog).shown, p.2.LevelInFirstLine := by
    rw [shown_restart, List.forall_mem_cons, List.forall_mem_singleton]
    exact ⟨infoEntry_levelInFirstLine .., infoEntry_levelInFirstLine ..⟩
  refine ⟨hentries, shown_restart, hlevel, fun t => ?_⟩
  obtain ⟨-, -, -, hcount, hfeeds⟩ := row_lines_exact t hentries
  calc (lines ((bootReport restartLog).body t)).length
      = (bootReport restartLog).shown.length + ((bootReport restartLog).shown.filter fun p => p.1.afterGap).length :=
        hcount.mpr fun p hp => hfeeds p hp (hlevel p hp)
    _ = 3 := by
        rw [shown_restart]
        rfl

/-- A level that goes on in a second line. -/
def splitLog : String := "core | 2024-05-04T08:00:00Z [IN\nFO] boot\n"

def splitEntry : Entry :=
  { infoEntry 1 "boot" with level := "IN\nFO", raw := "core | 2024-05-04T08:00:00Z [IN\nFO] boot" }

/-- The only row is written on two lines. -/
theorem rows_not_lines :
    (bootReport splitLog).shown = [(⟨0, true, false⟩, splitEntry)] ∧
    lines ((bootReport splitLog).body {}) = [">     1: 2024-05-04T08:00:00.000Z [IN", "FO] core | boot"] ∧
    (lines ((bootReport splitLog).body {})).length ≠
      (bootReport splitLog).shown.length + ((bootReport splitLog).shown.filter fun p => p.1.afterGap).length := by
  have hentries : Log.entries splitLog = [splitEntry] := rfl
  have hshown : (bootReport splitLog).shown = [(⟨0, true, false⟩, splitEntry)] := by
    rw [shown, bootReport, hentries]
    cbv
  have hbody : lines ((bootReport splitLog).body {}) =
      [">     1: 2024-05-04T08:00:00.000Z [IN", "FO] core | boot"] := by
    rw [body, hshown]
    rfl
  refine ⟨hshown, hbody, ?_⟩
  rw [hbody, hshown]
  decide

end Search.Report

end LogQuery

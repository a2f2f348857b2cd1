import LogQuery.Log.Reader
import Mathlib

/-!
# Proofs.Log.Blocks — the entries of a log are those of its blocks

A block is a line with the separator together with the lines after it that lack the separator. There is one
way to cut the lines of a log into blocks; the lines before the first block belong to none.

* `lines_of_segments`: how the lines of a text are split; `lines_append`: a closed text comes first.
* `exists_cuts`, `Cuts.unique`: the blocks of a list of lines.
* `groupsFrom_continue`, `groupsFrom_blocks`: what the reader does with the lines of a block, and with all blocks.
* `entries_blocks`: the entries of a log are read block by block, and those of two logs follow each other.
-/

namespace LogQuery.Log

/-! ## Lines -/

/-- A line without the carriage return in front of its line feed. -/
def dropReturn (line : List Char) : List Char :=
  if line.getLast? = some '\r' then line.dropLast else line

theorem closeLine_reverse (line : List Char) : closeLine line.reverse = dropReturn line := by
  induction line using List.reverseRecOn with
  | nil => rfl
  | append_singleton line c ih =>
    rw [List.reverse_append, List.reverse_singleton, List.singleton_append, dropReturn, List.getLast?_concat,
      List.dropLast_concat]
    by_cases hc : c = '\r'
    · subst hc
      rw [if_pos rfl]
      exact List.reverse_reverse line
    · have hline : closeLine (c :: line.reverse) = (c :: line.reverse).reverse := by
        unfold closeLine
        split
        · rename_i heq
          exact absurd (List.cons.inj heq).1 hc
        · rfl
      rw [if_neg (by simpa using hc), hline]
      simp

section

variable {segment last rest : List Char}

theorem linesFrom_segment (line : List Char) (h : '\n' ∉ segment) :
    linesFrom line.reverse (segment ++ '\n' :: rest) = dropReturn (line ++ segment) :: linesFrom [] rest := by
  induction segment generalizing line with
  | nil =>
    rw [List.nil_append, linesFrom, if_pos rfl, closeLine_reverse, List.append_nil]
  | cons c segment ih =>
    obtain ⟨hc, hsegment⟩ := not_or.mp (List.mem_cons.not.mp h)
    have hline : c :: line.reverse = (line ++ [c]).reverse := by simp
    rw [List.cons_append, linesFrom, if_neg (Ne.symm hc), hline, ih _ hsegment, List.append_assoc,
      List.singleton_append]

theorem linesFrom_last (line : List Char) (h : '\n' ∉ last) :
    linesFrom line.reverse last = if line ++ last = [] then [] else [line ++ last] := by
  induction last generalizing line with
  | nil => simp [linesFrom]
  | cons c last ih =>
    obtain ⟨hc, hlast⟩ := not_or.mp (List.mem_cons.not.mp h)
    have hline : c :: line.reverse = (line ++ [c]).reverse := by simp
    rw [linesFrom, if_neg (Ne.symm hc), hline, ih _ hlast, List.append_assoc, List.singleton_append]

theorem linesFrom_append (line front rest : List Char) :
    linesFrom line (front ++ '\n' :: rest) = linesFrom line (front ++ ['\n']) ++ linesFrom [] rest := by
  induction front generalizing line with
  | nil => simp [linesFrom]
  | cons c front ih =>
    rw [List.cons_append, List.cons_append, linesFrom, linesFrom]
    by_cases hc : c = '\n'
    · rw [if_pos hc, if_pos hc, ih, List.cons_append]
    · rw [if_neg hc, if_neg hc, ih]

end

/-- The lines of a text end at its line feeds. What follows the last of them is a line unless it is empty. -/
theorem lines_of_segments {text : String} {segments : List (List Char)} {last : List Char}
    (hsegments : ∀ s ∈ segments, '\n' ∉ s) (hlast : '\n' ∉ last)
    (h : text.toList = segments.flatMap (· ++ ['\n']) ++ last) :
    lines text = (segments.map dropReturn ++ if last = [] then [] else [last]).map String.ofList := by
  rw [lines, h]
  congr 1
  clear h
  induction segments with
  | nil => exact linesFrom_last [] hlast
  | cons segment segments ih =>
    rw [List.flatMap_cons, List.append_assoc, List.append_assoc, List.singleton_append]
    refine (linesFrom_segment [] (hsegments segment List.mem_cons_self)).trans ?_
    rw [ih fun s hs => hsegments s (List.mem_cons_of_mem segment hs)]
    rfl

/-- Whether all lines of a text are closed. -/
def Closed (text : String) : Prop := text = "" ∨ ∃ front, text = front ++ "\n"

theorem lines_append {a : String} (h : Closed a) (b : String) : lines (a ++ b) = lines a ++ lines b := by
  rcases h with rfl | ⟨front, rfl⟩
  · rw [String.empty_append]
    rfl
  · have happend := linesFrom_append [] front.toList b.toList
    simp only [lines, String.toList_append, List.append_assoc]
    exact (congrArg (List.map String.ofList) happend).trans List.map_append

/-! ## Blocks -/

/-- The separator stands in the line. -/
def Starts (line : String) : Prop := [' ', '|', ' '] <:+: line.toList

theorem startsEntry_iff {line : String} : startsEntry line = true ↔ Starts line := Text.occursIn_iff

instance : DecidablePred Starts := fun _ => decidable_of_iff _ startsEntry_iff

/-- A line with the separator, and the lines after it that lack the separator. -/
structure Block where
  first : String
  more : List String
  first_starts : Starts first
  more_continue : ∀ line ∈ more, ¬ Starts line

namespace Block

/-- The lines of a block. -/
def lines (b : Block) : List String := b.first :: b.more

/-- The lines of a block with line feeds between them. -/
def text (b : Block) : String := String.intercalate "\n" b.lines

end Block

/-- The lines are some that lack the separator, and then those of the blocks. -/
structure Cuts (lines skipped : List String) (blocks : List Block) : Prop where
  skipped_continue : ∀ line ∈ skipped, ¬ Starts line
  lines_eq : lines = skipped ++ blocks.flatMap Block.lines

section

variable {line : String} {ls ls' skipped skipped' : List String} {blocks blocks' : List Block}

theorem cuts_nil : Cuts [] [] [] := ⟨List.forall_mem_nil _, rfl⟩

theorem Cuts.continue (h : Cuts ls skipped blocks) (hline : ¬ Starts line) :
    Cuts (line :: ls) (line :: skipped) blocks :=
  ⟨List.forall_mem_cons.mpr ⟨hline, h.skipped_continue⟩, congrArg (line :: ·) h.lines_eq⟩

/-- A line with the separator takes the lines that were skipped into its block. -/
theorem Cuts.start (h : Cuts ls skipped blocks) (hline : Starts line) :
    Cuts (line :: ls) [] (⟨line, skipped, hline, h.skipped_continue⟩ :: blocks) :=
  ⟨List.forall_mem_nil _, congrArg (line :: ·) h.lines_eq⟩

theorem exists_cuts (ls : List String) : ∃ skipped blocks, Cuts ls skipped blocks := by
  induction ls with
  | nil => exact ⟨[], [], cuts_nil⟩
  | cons line ls ih =>
    obtain ⟨skipped, blocks, h⟩ := ih
    by_cases hline : Starts line
    · exact ⟨_, _, h.start hline⟩
    · exact ⟨_, _, h.continue hline⟩

/-- The first line decides whether it is skipped or starts a block. -/
theorem Cuts.cons_inv (h : Cuts (line :: ls) skipped blocks) :
    (∃ rest, skipped = line :: rest ∧ Cuts ls rest blocks) ∨
      ∃ (hline : Starts line) (rest : List String) (hrest : ∀ l ∈ rest, ¬ Starts l) (blocks' : List Block),
        skipped = [] ∧ blocks = ⟨line, rest, hline, hrest⟩ :: blocks' ∧ Cuts ls rest blocks' := by
  obtain ⟨hskipped, hlines⟩ := h
  cases skipped with
  | cons l rest =>
    obtain ⟨rfl, hls⟩ := List.cons.inj hlines
    exact .inl ⟨rest, rfl, (List.forall_mem_cons.mp hskipped).2, hls⟩
  | nil =>
    cases blocks with
    | nil => exact nomatch hlines
    | cons b blocks' =>
      obtain ⟨first, more, hfirst, hmore⟩ := b
      obtain ⟨rfl, hls⟩ := List.cons.inj hlines
      exact .inr ⟨hfirst, more, hmore, blocks', rfl, rfl, hmore, hls⟩

theorem Cuts.unique (h : Cuts ls skipped blocks) (h' : Cuts ls skipped' blocks') :
    skipped' = skipped ∧ blocks' = blocks := by
  induction ls generalizing skipped skipped' blocks blocks' with
  | nil =>
    have hnil : ∀ {s bs}, Cuts [] s bs → s = [] ∧ bs = [] := by
      intro s bs hcuts
      obtain ⟨rfl, hbs⟩ := List.append_eq_nil_iff.mp hcuts.lines_eq.symm
      cases bs with
      | nil => exact ⟨rfl, rfl⟩
      | cons b bs => exact nomatch hbs
    obtain ⟨⟨rfl, rfl⟩, rfl, rfl⟩ := And.intro (hnil h) (hnil h')
    exact ⟨rfl, rfl⟩
  | cons line ls ih =>
    rcases h.cons_inv with ⟨rest, rfl, hrest⟩ | ⟨hline, rest, hmore, bs, rfl, rfl, hrest⟩ <;>
      rcases h'.cons_inv with ⟨rest', rfl, hrest'⟩ | ⟨hline', rest', hmore', bs', rfl, rfl, hrest'⟩
    · obtain ⟨rfl, rfl⟩ := ih hrest hrest'
      exact ⟨rfl, rfl⟩
    · exact absurd hline' (h.skipped_continue line List.mem_cons_self)
    · exact absurd hline (h'.skipped_continue line List.mem_cons_self)
    · obtain ⟨rfl, rfl⟩ := ih hrest hrest'
      exact ⟨rfl, rfl⟩

theorem Cuts.append (h : Cuts ls skipped blocks) (h' : Cuts ls' [] blocks') :
    Cuts (ls ++ ls') skipped (blocks ++ blocks') := by
  refine ⟨h.skipped_continue, ?_⟩
  rw [h.lines_eq, h'.lines_eq, List.flatMap_append, List.append_assoc, List.nil_append]

/-- Nothing is skipped if the first line has the separator. -/
theorem Cuts.skipped_eq_nil (h : Cuts (line :: ls) skipped blocks) (hline : Starts line) : skipped = [] := by
  rcases h.cons_inv with ⟨rest, rfl, -⟩ | ⟨-, -, -, -, rfl, -⟩
  · exact absurd hline (h.skipped_continue line List.mem_cons_self)
  · rfl

end

/-! ## Reading the lines -/

/-- Blocks with the numbers of their first lines; the first line of the first block has the given number. -/
def numbered (number : ℕ) : List Block → List (ℕ × Block)
  | [] => []
  | b :: rest => (number, b) :: numbered (number + b.lines.length) rest

section

variable {number : ℕ} {skipped ls : List String} {blocks : List Block}

theorem numbered_append (number : ℕ) (blocks blocks' : List Block) :
    numbered number (blocks ++ blocks') =
      numbered number blocks ++ numbered (number + (blocks.flatMap Block.lines).length) blocks' := by
  induction blocks generalizing number with
  | nil => rfl
  | cons b blocks ih =>
    rw [List.cons_append, numbered, ih, numbered, List.flatMap_cons, List.length_append, Nat.add_assoc,
      List.cons_append]

theorem numbered_add (number k : ℕ) (blocks : List Block) :
    numbered (number + k) blocks = (numbered number blocks).map fun p => (p.1 + k, p.2) := by
  induction blocks generalizing number with
  | nil => rfl
  | cons b blocks ih =>
    rw [numbered, numbered, List.map_cons, Nat.add_right_comm, ih]

/-- The number of a block is the place of its first line, counted from one. -/
theorem getElem?_of_mem_numbered {front : List String} {p : ℕ × Block}
    (h : p ∈ numbered (front.length + 1) blocks) :
    front.length < p.1 ∧ (front ++ blocks.flatMap Block.lines)[p.1 - 1]? = some p.2.first := by
  induction blocks generalizing front with
  | nil => exact nomatch h
  | cons b blocks ih =>
    rcases List.mem_cons.mp h with rfl | h
    · exact ⟨Nat.lt_succ_self _, by simp [Block.lines]⟩
    · rw [Nat.add_right_comm, ← List.length_append] at h
      obtain ⟨hlt, hget⟩ := ih h
      rw [List.length_append] at hlt
      refine ⟨by omega, ?_⟩
      rwa [List.flatMap_cons, ← List.append_assoc]

/-- Lines without the separator continue the piece that is pending. -/
theorem groupsFrom_continue {more : List String} (hmore : ∀ line ∈ more, ¬ Starts line) (number : ℕ)
    (pending : Option (ℕ × String)) (rest : List String) :
    groupsFrom number pending (more ++ rest) =
      groupsFrom (number + more.length)
        (pending.map fun p => (p.1, String.intercalate "\n" (p.2 :: more))) rest := by
  induction more generalizing number pending with
  | nil =>
    have hid : (fun p : ℕ × String => (p.1, String.intercalate "\n" [p.2])) = id := rfl
    rw [hid, Option.map_id]
    rfl
  | cons line more ih =>
    obtain ⟨hline, hmore⟩ := List.forall_mem_cons.mp hmore
    have hstart : startsEntry line ≠ true := mt startsEntry_iff.mp hline
    rw [List.cons_append, groupsFrom, if_neg hstart, ih hmore, Option.map_map, List.length_cons]
    have hnumber : number + 1 + more.length = number + (more.length + 1) := by omega
    rw [hnumber]
    rfl

/-- The reader closes the piece that is pending, and finds each block under its number. -/
theorem groupsFrom_blocks (number : ℕ) (pending : Option (ℕ × String)) (blocks : List Block) :
    groupsFrom number pending (blocks.flatMap Block.lines) =
      pending.toList ++ (numbered number blocks).map fun p => (p.1, p.2.text) := by
  induction blocks generalizing number pending with
  | nil => rw [List.flatMap_nil, groupsFrom, numbered, List.map_nil, List.append_nil]
  | cons b blocks ih =>
    have hstart : startsEntry b.first = true := startsEntry_iff.mpr b.first_starts
    have hnumber : number + 1 + b.more.length = number + b.lines.length := by
      rw [Block.lines, List.length_cons]
      omega
    rw [List.flatMap_cons, Block.lines, List.cons_append, groupsFrom, if_pos hstart,
      groupsFrom_continue b.more_continue, ih, hnumber, numbered, List.map_cons]
    rfl

theorem groups_eq (h : Cuts ls skipped blocks) :
    groups ls = (numbered (skipped.length + 1) blocks).map fun p => (p.1, p.2.text) := by
  rw [groups, h.lines_eq, groupsFrom_continue h.skipped_continue, Nat.add_comm]
  exact groupsFrom_blocks _ none blocks

end

/-! ## Entries -/

/-- The number of the line is no part of what is read. -/
theorem ofText?_line (number : ℕ) (text : String) :
    (Entry.ofText? number text).toOption =
      (Entry.ofText? 1 text).toOption.map fun e => { e with line := number } := by
  unfold Entry.ofText?
  split
  · rfl
  · split
    · rfl
    · split <;> rfl

/-- The entry of a block, if there is one. -/
def Block.read (number : ℕ) (b : Block) : Option Entry :=
  (Entry.ofText? 1 b.text).toOption.map fun e => { e with line := number }

theorem entries_eq {text : String} {skipped : List String} {blocks : List Block}
    (h : Cuts (lines text) skipped blocks) :
    entries text = (numbered (skipped.length + 1) blocks).filterMap fun p => p.2.read p.1 := by
  rw [entries, groups_eq h, List.filterMap_map]
  refine List.filterMap_congr fun p _ => ?_
  exact ofText?_line p.1 p.2.text

theorem textOfBytes_toUTF8 (text : String) : textOfBytes text.toUTF8 = .ok text := by
  have hvalid : text.toUTF8.IsValidUTF8 := text.isValidUTF8
  rw [textOfBytes, String.fromUTF8?, dif_pos hvalid]
  rfl

/-- The blocks of a log after another one keep their entries, under numbers that go on. -/
theorem entries_append {a b first : String} {rest : List String} (ha : Closed a) (hb : lines b = first :: rest)
    (hfirst : Starts first) :
    entries (a ++ b) = entries a ++ (entries b).map fun e => { e with line := e.line + (lines a).length } := by
  obtain ⟨skipped, blocks, hcuts⟩ := exists_cuts (lines a)
  obtain ⟨skipped', blocks', hcuts'⟩ := exists_cuts (lines b)
  obtain rfl : skipped' = [] := Cuts.skipped_eq_nil (hb ▸ hcuts') hfirst
  have hall : Cuts (lines (a ++ b)) skipped (blocks ++ blocks') := by
    rw [lines_append ha]
    exact hcuts.append hcuts'
  have hnumber : skipped.length + 1 + (blocks.flatMap Block.lines).length = 0 + 1 + (lines a).length := by
    rw [hcuts.lines_eq, List.length_append]
    omega
  rw [entries_eq hall, entries_eq hcuts, entries_eq hcuts', numbered_append, List.filterMap_append, hnumber,
    numbered_add (0 + 1), List.filterMap_map, List.map_filterMap]
  refine congrArg (_ ++ ·) (List.filterMap_congr fun p _ => ?_)
  simp only [Function.comp_apply, Block.read, Option.map_map]
  rfl

/-- **The entries of a log.** Every text can be read. Its lines end at its line feeds, and are cut into blocks in
one way; what stands before the first block is left out. The entries are those of the blocks, in order, each
with the number of the first line of its block; blocks that are no entries are left out, and nothing else. So
a log that is put after closed lines, and starts with a block, keeps its entries under numbers that go on. -/
theorem entries_blocks (text : String) :
    entriesOfBytes text.toUTF8 = .ok (entries text) ∧
    (∀ (segments : List (List Char)) (last : List Char), (∀ s ∈ segments, '\n' ∉ s) → '\n' ∉ last →
      text.toList = segments.flatMap (· ++ ['\n']) ++ last →
      lines text = (segments.map dropReturn ++ if last = [] then [] else [last]).map String.ofList) ∧
    (∃ skipped blocks, Cuts (lines text) skipped blocks ∧
      (∀ skipped' blocks', Cuts (lines text) skipped' blocks' → skipped' = skipped ∧ blocks' = blocks) ∧
      (∀ p ∈ numbered (skipped.length + 1) blocks, 1 ≤ p.1 ∧ (lines text)[p.1 - 1]? = some p.2.first) ∧
      entries text = (numbered (skipped.length + 1) blocks).filterMap fun p =>
        (Entry.ofText? 1 p.2.text).toOption.map fun e => { e with line := p.1 }) ∧
    ∀ more, Closed text → (∃ first rest, lines more = first :: rest ∧ Starts first) →
      entries (text ++ more) =
        entries text ++ (entries more).map fun e => { e with line := e.line + (lines text).length } := by
  refine ⟨?_, fun _ _ => lines_of_segments, ?_, ?_⟩
  · rw [entriesOfBytes, textOfBytes_toUTF8]
    rfl
  · obtain ⟨skipped, blocks, hcuts⟩ := exists_cuts (lines text)
    refine ⟨skipped, blocks, hcuts, fun _ _ => hcuts.unique, fun p hp => ?_, entries_eq hcuts⟩
    obtain ⟨hlt, hget⟩ := getElem?_of_mem_numbered hp
    rw [hcuts.lines_eq]
    exact ⟨Nat.one_le_of_lt hlt, hget⟩
  · rintro more hclosed ⟨first, rest, hmore, hfirst⟩
    exact entries_append hclosed hmore hfirst

/-- A line of no block, an entry of two lines, and a block that is no entry. -/
def bootLog : String := "noise\ncore | 2024-01-01T00:00:00Z [INFO] boot\r\n  more\nbroken | line\n"

def bootSegments : List (List Char) :=
  ["noise", "core | 2024-01-01T00:00:00Z [INFO] boot\r", "  more", "broken | line"].map String.toList

def bootBlock : Block where
  first := "core | 2024-01-01T00:00:00Z [INFO] boot"
  more := ["  more"]
  first_starts := by decide
  more_continue := by decide

def brokenBlock : Block where
  first := "broken | line"
  more := []
  first_starts := by decide
  more_continue := by decide

def idleLog : String := "core | 2024-01-01T00:00:01Z [INFO] idle"

/-- One entry of the first log and one of the second are read from their texts together. -/
theorem entries_blocks_twoLogs :
    ((∀ s ∈ bootSegments, '\n' ∉ s) ∧ '\n' ∉ ([] : List Char) ∧
      bootLog.toList = bootSegments.flatMap (· ++ ['\n']) ++ [] ∧
      lines bootLog = (bootSegments.map dropReturn ++ []).map String.ofList) ∧
    (Cuts (lines bootLog) ["noise"] [bootBlock, brokenBlock] ∧
      (4, brokenBlock) ∈ numbered 2 [bootBlock, brokenBlock] ∧ (lines bootLog)[4 - 1]? = some brokenBlock.first) ∧
    Closed bootLog ∧ (∃ first rest, lines idleLog = first :: rest ∧ Starts first) ∧
      entries (bootLog ++ idleLog) =
        entries bootLog ++ (entries idleLog).map (fun e => { e with line := e.line + (lines bootLog).length }) ∧
      (entries (bootLog ++ idleLog)).map (fun e => (e.line, e.message)) = [(2, "boot\n  more"), (5, "idle")] := by
  obtain ⟨-, hlines, ⟨skipped, blocks, hcuts, hunique, hplace, -⟩, happend⟩ := entries_blocks bootLog
  have hboot : Cuts (lines bootLog) ["noise"] [bootBlock, brokenBlock] := ⟨by decide, by cbv⟩
  obtain ⟨rfl, rfl⟩ := hunique _ _ hboot
  have hmem : (4, brokenBlock) ∈ numbered 2 [bootBlock, brokenBlock] := .tail _ (.head _)
  have hclosed : Closed bootLog :=
    .inr ⟨"noise\ncore | 2024-01-01T00:00:00Z [INFO] boot\r\n  more\nbroken | line", by cbv⟩
  have hidle : ∃ first rest, lines idleLog = first :: rest ∧ Starts first := ⟨idleLog, [], by cbv, by decide⟩
  have hnone : '\n' ∉ ([] : List Char) := List.not_mem_nil
  refine ⟨⟨by decide, hnone, by cbv, hlines _ _ (by decide) hnone (by cbv)⟩, ⟨hboot, hmem, (hplace _ hmem).2⟩,
    hclosed, hidle, happend idleLog hclosed hidle, by cbv⟩

end LogQuery.Log

import LogQuery.Proofs.Log.Blocks
import LogQuery.Proofs.Text.Substring

/-!
# Proofs.Log.LineFeeds — the line feeds in the parts of an entry

An entry may go on over several lines of its log. Its parts are cut off at the first separators of its text, and
the separator in front of the level stands in the first line. So the component and its id come from that line
alone, but a level may end in a later one.

* `feeds`, `length_lines`, `lines_join`: lines are counted by their line feeds.
* `exists_block`: the text of an entry is that of its block.
* `feeds_component`: components and their ids have no line feed.
* `Entry.LevelInFirstLine`, `feeds_level`: nor has a level that ends in the first line.
-/

namespace LogQuery.Log

/-! ## Lines and their line feeds -/

/-- The number of line feeds in a text. -/
def feeds (s : String) : ℕ := s.toList.count '\n'

@[simp] theorem feeds_append (a b : String) : feeds (a ++ b) = feeds a + feeds b := by
  rw [feeds, String.toList_append, List.count_append, feeds, feeds]

theorem feeds_eq_zero_iff {s : String} : feeds s = 0 ↔ '\n' ∉ s.toList := List.count_eq_zero

theorem feeds_intercalate {sep : String} {parts : List String} (hsep : feeds sep = 0)
    (hparts : ∀ part ∈ parts, feeds part = 0) : feeds (sep.intercalate parts) = 0 := by
  induction parts with
  | nil => rfl
  | cons part parts ih =>
    obtain ⟨hpart, hparts⟩ := List.forall_mem_cons.mp hparts
    cases parts with
    | nil => rwa [String.intercalate_singleton]
    | cons next parts => rw [String.intercalate_cons_cons, feeds_append, feeds_append, hpart, hsep, ih hparts]

theorem length_linesFrom (line front : List Char) :
    (linesFrom line (front ++ ['\n'])).length = front.count '\n' + 1 := by
  induction front generalizing line with
  | nil => rfl
  | cons c front ih =>
    rw [List.cons_append, linesFrom]
    split_ifs with hc
    · rw [List.length_cons, ih, hc, List.count_cons_self]
    · rw [ih, List.count_cons_of_ne hc]

theorem length_lines (s : String) : (lines (s ++ "\n")).length = feeds s + 1 := by
  rw [lines, List.length_map, String.toList_append]
  exact length_linesFrom [] s.toList

/-- Closed texts keep their lines when they are put one after another. -/
theorem lines_join {texts : List String} (h : ∀ s ∈ texts, Closed s) :
    lines (String.join texts) = texts.flatMap lines := by
  induction texts with
  | nil => rfl
  | cons s texts ih =>
    obtain ⟨hs, htexts⟩ := List.forall_mem_cons.mp h
    rw [String.join_cons, lines_append hs, ih htexts, List.flatMap_cons]

theorem mem_dropReturn {c : Char} {line : List Char} (h : c ∈ dropReturn line) : c ∈ line := by
  unfold dropReturn at h
  split_ifs at h
  · exact List.mem_of_mem_dropLast h
  · exact h

theorem feed_notMem_linesFrom {line cs l : List Char} (hline : '\n' ∉ line) (h : l ∈ linesFrom line cs) : '\n' ∉ l := by
  have hreverse : '\n' ∉ line.reverse := mt List.mem_reverse.mp hline
  induction cs generalizing line with
  | nil =>
    rw [linesFrom] at h
    split_ifs at h
    · exact absurd h List.not_mem_nil
    · rwa [List.mem_singleton.mp h]
  | cons c cs ih =>
    rw [linesFrom] at h
    split_ifs at h with hc
    · rcases List.mem_cons.mp h with rfl | h
      · rw [← List.reverse_reverse line, closeLine_reverse]
        exact mt mem_dropReturn hreverse
      · exact ih List.not_mem_nil h List.not_mem_nil
    · have hnext : '\n' ∉ c :: line := List.mem_cons.not.mpr (not_or.mpr ⟨Ne.symm hc, hline⟩)
      exact ih hnext h (mt List.mem_reverse.mp hnext)

theorem feed_notMem_of_mem_lines {log line : String} (h : line ∈ lines log) : '\n' ∉ line.toList := by
  obtain ⟨l, hl, rfl⟩ := List.mem_map.mp h
  rw [String.toList_ofList]
  exact feed_notMem_linesFrom List.not_mem_nil hl

/-! ## The parts of an entry -/

theorem Block.text_eq (b : Block) : ∃ more, b.text.toList = b.first.toList ++ more := by
  rw [Block.text, Block.lines, String.toList_intercalate, List.map_cons]
  cases b.more.map String.toList with
  | nil => exact ⟨[], by rw [List.intercalate_singleton, List.append_nil]⟩
  | cons l ls => exact ⟨_, by rw [List.intercalate_cons_cons, List.append_assoc]⟩

/-- The text of an entry is that of a block, whose first line is a line of the log. -/
theorem exists_block {log : String} {entry : Entry} (h : entry ∈ entries log) :
    ∃ b : Block, '\n' ∉ b.first.toList ∧
      ∃ e, Entry.ofText? 1 b.text = .ok e ∧ entry = { e with line := entry.line } := by
  obtain ⟨skipped, blocks, hcuts⟩ := exists_cuts (lines log)
  rw [entries_eq hcuts] at h
  obtain ⟨p, hp, hread⟩ := List.mem_filterMap.mp h
  obtain ⟨-, hplace⟩ := getElem?_of_mem_numbered hp
  rw [← hcuts.lines_eq] at hplace
  obtain ⟨e, he, rfl⟩ := Option.map_eq_some_iff.mp hread
  refine ⟨p.2, feed_notMem_of_mem_lines (List.mem_of_getElem? hplace), e, ?_, rfl⟩
  cases hok : Entry.ofText? 1 p.2.text with
  | error err => rw [hok] at he; exact nomatch he
  | ok e' => rw [hok] at he; rw [Option.some.inj he]

theorem mem_of_parenthesized? {cs id : List Char} {c : Char} (h : parenthesized? cs = some id) (hc : c ∈ id) :
    c ∈ cs := by
  unfold parenthesized? at h
  split at h
  · split at h
    · split_ifs at h
      obtain rfl := Option.some.inj h
      exact List.mem_cons_of_mem _ (List.mem_of_mem_dropLast hc)
    · exact nomatch h
  · exact nomatch h

/-- The component and its id are parts of what they are cut out of. -/
theorem mem_of_componentParts {cs : List Char} {c : Char}
    (h : c ∈ (componentParts cs).1 ∨ c ∈ (componentParts cs).2) : c ∈ cs := by
  unfold componentParts at h
  cases hcut : Text.cutAt? [' '] cs with
  | none => simpa [hcut] using h
  | some parts =>
    obtain ⟨component, rest⟩ := parts
    have hcs : cs = component ++ [' '] ++ rest := Text.cutAt?_eq_some hcut
    cases hid : parenthesized? rest with
    | none => simpa [hcut, hid] using h
    | some id =>
      have h : c ∈ component ∨ c ∈ id := by simpa [hcut, hid] using h
      rw [hcs]
      rcases h with h | h
      · simp [h]
      · simp [mem_of_parenthesized? hid h]

/-- An entry that is read is cut at the first separator of its text. -/
theorem ofText?_ok {line : ℕ} {text : String} {e : Entry} (h : Entry.ofText? line text = .ok e) :
    ∃ front rest stamp level message, Text.cutAt? separator text.toList = some (front, rest) ∧
      messageParts? rest = some (stamp, level, message) ∧ e.component = String.ofList (componentParts front).1 ∧
      e.componentId = String.ofList (componentParts front).2 ∧ e.level = String.ofList level ∧ e.raw = text := by
  unfold Entry.ofText? at h
  split at h
  · exact nomatch h
  rename_i front rest hcut
  split at h
  · exact nomatch h
  rename_i stamp level message hparts
  split at h
  · exact nomatch h
  obtain rfl := Except.ok.inj h
  exact ⟨front, rest, stamp, level, message, hcut, hparts, rfl, rfl, rfl, rfl⟩

/-- The level stands between the first bracket and the next closing one. -/
theorem messageParts?_level {cs stamp level message : List Char} (h : messageParts? cs = some (stamp, level, message)) :
    ∃ before rest inside after, Text.cutAt? ['['] cs = some (before, rest) ∧
      Text.cutAt? [']'] rest = some (inside, after) ∧ level = Text.trimChars inside := by
  simp only [messageParts?, Option.bind_eq_bind, Option.bind_eq_some_iff] at h
  obtain ⟨⟨before, rest⟩, hopen, ⟨inside, after⟩, hclose, heq⟩ := h
  obtain ⟨-, rfl, -⟩ := Option.some.inj heq
  exact ⟨before, rest, inside, after, hopen, hclose, rfl⟩

/-! ## Parts without line feeds -/

/-- A component and its id end in front of the first separator, in the first line. -/
theorem feeds_component {log : String} {entry : Entry} (h : entry ∈ entries log) :
    feeds entry.component = 0 ∧ feeds entry.componentId = 0 := by
  obtain ⟨b, hfirst, e, hread, hentry⟩ := exists_block h
  obtain ⟨front, rest, _, _, _, hcut, -, hcomponent, hid, -⟩ := ofText?_ok hread
  obtain ⟨before, after, hstarts⟩ := b.first_starts
  obtain ⟨more, htext⟩ := b.text_eq
  have hbefore : '\n' ∉ before ++ separator := by
    refine fun hmem => hfirst ?_
    rw [← hstarts]
    exact List.mem_append_left after hmem
  have hsplit : b.text.toList = before ++ separator ++ (after ++ more) := by
    rw [htext, ← hstarts, List.append_assoc]
    rfl
  obtain ⟨hfront, -⟩ := Text.notMem_of_cutAt? hcut hsplit hbefore
  rw [hentry, feeds_eq_zero_iff, feeds_eq_zero_iff, hcomponent, hid, String.toList_ofList, String.toList_ofList]
  exact ⟨fun hmem => hfront (mem_of_componentParts (.inl hmem)),
    fun hmem => hfront (mem_of_componentParts (.inr hmem))⟩

/-- The text of the entry has a level in brackets behind a separator, all in its first line. -/
def Entry.LevelInFirstLine (e : Entry) : Prop :=
  ∃ front stamp level rest : List Char,
    e.raw.toList = front ++ separator ++ stamp ++ '[' :: level ++ ']' :: rest ∧ '\n' ∉ front ++ stamp ++ level

/-- The first separator, the bracket behind it and the next closing bracket are in the first line if any are. -/
theorem feeds_level {log : String} {entry : Entry} (h : entry ∈ entries log) (hlevel : entry.LevelInFirstLine) :
    feeds entry.level = 0 := by
  obtain ⟨b, -, e, hread, hentry⟩ := exists_block h
  obtain ⟨front, rest, _, level, _, hcut, hparts, -, -, hread, hraw⟩ := ofText?_ok hread
  obtain ⟨_, rest', inside, _, hopen, hclose, rfl⟩ := messageParts?_level hparts
  obtain ⟨front₁, stamp₁, level₁, rest₁, htext, hclear⟩ := hlevel
  simp only [List.mem_append, not_or] at hclear
  obtain ⟨⟨hfront₁, hstamp₁⟩, hlevel₁⟩ := hclear
  rw [hentry, hraw] at htext
  -- each cut is in the first line, and so is what follows it up to the next one
  have hcs : b.text.toList = front₁ ++ separator ++ (stamp₁ ++ '[' :: level₁ ++ ']' :: rest₁) := by simp [htext]
  obtain ⟨-, more, rfl, hmore⟩ := Text.notMem_of_cutAt? hcut hcs (by simp [separator, hfront₁] : '\n' ∉ _)
  have hcs' : more ++ (stamp₁ ++ '[' :: level₁ ++ ']' :: rest₁) =
      (more ++ stamp₁) ++ ['['] ++ (level₁ ++ ']' :: rest₁) := by simp
  obtain ⟨-, more', rfl, hmore'⟩ := Text.notMem_of_cutAt? hopen hcs' (by simp [hmore, hstamp₁] : '\n' ∉ _)
  have hcs'' : more' ++ (level₁ ++ ']' :: rest₁) = (more' ++ level₁) ++ [']'] ++ rest₁ := by simp
  obtain ⟨hinside, -⟩ := Text.notMem_of_cutAt? hclose hcs'' (by simp [hmore', hlevel₁] : '\n' ∉ _)
  rw [hentry, feeds_eq_zero_iff, hread, String.toList_ofList]
  exact fun hmem => hinside (Text.trimChars_subset hmem)

end LogQuery.Log

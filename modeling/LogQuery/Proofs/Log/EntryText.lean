import LogQuery.Log.Entry
import LogQuery.Proofs.Instant.RelaxedReadBack
import LogQuery.Proofs.Text.Substring
import Mathlib

/-!
# Proofs.Log.EntryText — a written entry is read back

An entry is cut four times at the first occurrence of a separator. Each part lacks the separator that ends
it, and may hold those that come later; the message ends nowhere and may hold anything.

* `componentParts_label`, `messageParts?_written`: the cuts in front of the separator and after it.
* `Entry.Delimited`: what the parts of an entry must not hold.
* `ofText?_written`: an entry is read back from its text, whatever way its timestamp is written in.
-/

namespace LogQuery.Log

/-! ## The parts of a text -/

section

variable {component id stamp level message : List Char}

/-- The component, with its id in parentheses if there is one. -/
def label (component id : List Char) : List Char :=
  if id = [] then component else component ++ ' ' :: '(' :: id ++ [')']

theorem bar_notMem_label (hcomponent : '|' ∉ component) (hid : '|' ∉ id) : '|' ∉ label component id := by
  unfold label
  split_ifs <;> simp [hcomponent, hid]

theorem parenthesized?_id (hid : id ≠ []) : parenthesized? ('(' :: id ++ [')']) = some id := by
  have hempty : id.isEmpty = false := by simpa using hid
  simp [parenthesized?, hempty]

theorem componentParts_label (hcomponent : ' ' ∉ component) :
    componentParts (label component id) = (component, id) := by
  unfold label
  split_ifs with hid
  · have hcut : Text.cutAt? [' '] component = none := Text.cutAt?_eq_none List.mem_cons_self hcomponent
    simp [componentParts, hcut, hid]
  · have hcut : Text.cutAt? [' '] (component ++ ' ' :: '(' :: id ++ [')']) =
        some (component, '(' :: id ++ [')']) := by
      simpa using Text.cutAt?_char hcomponent ('(' :: id ++ [')'])
    simp only [componentParts, hcut, Option.bind_eq_bind, Option.bind_some, parenthesized?_id hid]
    rfl

/-- One blank after the level is dropped, and the message keeps those that follow. -/
theorem messageParts?_written (hstamp : '[' ∉ stamp) (hlevel : ']' ∉ level) :
    messageParts? (stamp ++ ' ' :: '[' :: level ++ ']' :: ' ' :: message) =
      some (Text.trimChars stamp, Text.trimChars level, message) := by
  have hopen : Text.cutAt? ['['] (stamp ++ ' ' :: '[' :: level ++ ']' :: ' ' :: message) =
      some (stamp ++ [' '], level ++ ']' :: ' ' :: message) := by
    have hfront : '[' ∉ stamp ++ [' '] := by simp [hstamp]
    simpa using Text.cutAt?_char hfront (level ++ ']' :: ' ' :: message)
  have hclose : Text.cutAt? [']'] (level ++ ']' :: ' ' :: message) = some (level, ' ' :: message) :=
    Text.cutAt?_char hlevel _
  simp only [messageParts?, hopen, hclose, Option.bind_eq_bind, Option.bind_some,
    Text.trimChars_concat_blank (by decide : Text.isBlank ' ' = true)]
  rfl

end

/-! ## Entries -/

namespace Entry

/-- The text of an entry in which `stamp` stands for its timestamp. -/
def writtenWith (e : Entry) (stamp : String) : String :=
  String.ofList (label e.component.toList e.componentId.toList ++ separator ++
    (stamp.toList ++ ' ' :: '[' :: e.level.toList ++ ']' :: ' ' :: e.message.toList))

/-- The text of an entry. -/
def written (e : Entry) : String := e.writtenWith e.timestamp.canonical

/-- No part of the entry holds what ends it in a text, and no white space stands around the level. -/
structure Delimited (e : Entry) : Prop where
  component : ' ' ∉ e.component.toList ∧ '|' ∉ e.component.toList
  id : '|' ∉ e.componentId.toList
  level : ']' ∉ e.level.toList
  level_trimmed : Text.trim e.level = e.level

/-- The entry as it is read from its text: all else than the four parts and the timestamp comes from the text. -/
def readFrom (e : Entry) (line : ℕ) (text : String) : Entry :=
  { e with raw := text, payload := payload? e.message, line := line }

theorem ofText?_writtenWith {e : Entry} (h : e.Delimited) {stamp : String} (hstamp : e.timestamp.IsReadFrom stamp)
    (line : ℕ) : ofText? line (e.writtenWith stamp) = .ok (e.readFrom line (e.writtenWith stamp)) := by
  have hfront : '|' ∉ label e.component.toList e.componentId.toList :=
    bar_notMem_label h.component.2 h.id
  have hcut : Text.cutAt? separator (e.writtenWith stamp).toList =
      some (label e.component.toList e.componentId.toList,
        stamp.toList ++ ' ' :: '[' :: e.level.toList ++ ']' :: ' ' :: e.message.toList) := by
    have hseparator : separator = [' '] ++ '|' :: [' '] := rfl
    rw [writtenWith, String.toList_ofList, hseparator]
    exact Text.cutAt?_append hfront (by decide)
  have hlevel : Text.trimChars e.level.toList = e.level.toList := by
    have := congrArg String.toList h.level_trimmed
    rwa [Text.trim, String.toList_ofList] at this
  simp only [ofText?, hcut, messageParts?_written hstamp.no_bracket h.level, hstamp.read,
    componentParts_label h.component.1, hlevel, String.ofList_toList]
  rfl

end Entry

/-- **A written entry is read back.** If the parts of an entry lack what ends them, then its text is read, from any
line on, as an entry with the same component, id, timestamp, level and message, which keeps the whole text. The
message may hold all separators, and the id brackets and parentheses. This holds for the canonical text of the
timestamp, in every year, and for all other texts that are read as the timestamp. -/
theorem ofText?_written (e : Entry) (h : e.Delimited) (line : ℕ) :
    Entry.ofText? line e.written = .ok (e.readFrom line e.written) ∧
    ∀ stamp, e.timestamp.IsReadFrom stamp →
      Entry.ofText? line (e.writtenWith stamp) = .ok (e.readFrom line (e.writtenWith stamp)) :=
  ⟨Entry.ofText?_writtenWith h (Instant.isReadFrom_canonical e.timestamp) line,
    fun _ hstamp => Entry.ofText?_writtenWith h hstamp line⟩

/-- An entry whose parts hold the separators that come later. -/
def crowdedEntry : Entry where
  component := "(core)[1]"
  componentId := "a (b) [c] "
  timestamp := ⟨⟨12024, 2, 29, by decide⟩, 86399, 1250000000, by decide⟩
  level := "[WARN | (2"
  message := " [x] | (y)\nz "
  raw := ""
  payload := none
  line := 0

/-- A leap second in a year with a sign, in the canonical text and in one with blanks and an offset. -/
theorem ofText?_written_crowded :
    let stamp := "+12024-2-29 23:59:60.25 +0000"
    crowdedEntry.Delimited ∧ crowdedEntry.timestamp.IsReadFrom stamp ∧
    crowdedEntry.written =
      "(core)[1] (a (b) [c] ) | +12024-02-29T23:59:60.250Z [[WARN | (2]  [x] | (y)\nz " ∧
    Entry.ofText? 7 crowdedEntry.written = .ok (crowdedEntry.readFrom 7 crowdedEntry.written) ∧
    Entry.ofText? 7 (crowdedEntry.writtenWith stamp) =
      .ok (crowdedEntry.readFrom 7 (crowdedEntry.writtenWith stamp)) := by
  intro stamp
  have h : crowdedEntry.Delimited := ⟨by decide, by decide, by decide, by decide⟩
  have hread : Instant.ofLooseChars? (Text.trimChars stamp.toList) = some crowdedEntry.timestamp := by cbv
  have hstamp : crowdedEntry.timestamp.IsReadFrom stamp := ⟨by decide, hread⟩
  obtain ⟨hcanonical, hall⟩ := ofText?_written crowdedEntry h 7
  exact ⟨h, hstamp, by cbv, hcanonical, hall stamp hstamp⟩

end LogQuery.Log

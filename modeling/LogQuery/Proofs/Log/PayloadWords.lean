import LogQuery.Proofs.Log.PayloadCut

/-!
# Proofs.Log.PayloadWords — the word that stands for no value is replaced inside of texts

The word `undefined` stands for no value in a payload, and is replaced before the payload is read. The quotes that
were counted when the payload was cut are not looked at again, so the word is replaced in keys and texts as well.

* `payload?_compact_iff`: what becomes of a value that makes up a message, and when it stays as it is.
* `payload?_compact_quoted`: a value in whose only text the word is lost.
-/

namespace LogQuery.Log

open LogQuery.Json

theorem payload?_compact {v : Json} (hv : v.isScalar = false) (hreadable : v.readable = true) :
    payload? v.compact = some (v.mapStrings rewordedText).sorted := by
  have hnew : Json.ofRelaxedChars? (reworded v.tight) = some (v.mapStrings rewordedText).sorted := by
    have hcompact := ofRelaxedText?_compact (v.mapStrings rewordedText)
    rw [readable_mapStrings (fun _ => holdsNoSeparator_rewordedText) hreadable, if_pos rfl] at hcompact
    rw [reworded_tight, ← toList_compact]
    exact hcompact
  have hempty : '{' ∉ ("" : String).toList ∧ '[' ∉ ("" : String).toList := by decide
  have hpayload := payload?_of_read hv hnew hempty ""
  rwa [String.append_empty, String.empty_append] at hpayload

/-- **The word is replaced in all keys and texts.** The payload of a message that consists of the text of a list or
an object has `null` for `undefined` in its keys and texts, with the members in the order of the new keys. It is the
value itself if and only if the word is in none of them. -/
theorem payload?_compact_iff (v : Json) (hv : v.isScalar = false) (hread : Json.ofRelaxedText? v.compact = some v) :
    payload? v.compact = some (v.mapStrings rewordedText).sorted ∧
    (payload? v.compact = some v ↔ ∀ s ∈ v.strings, Text.contains s "undefined" = false) := by
  obtain ⟨hreadable, hsorted⟩ := ofRelaxedText?_compact_eq_self_iff.mp hread
  have hpayload := payload?_compact hv hreadable
  refine ⟨hpayload, ?_⟩
  rw [hpayload, Option.some_inj]
  exact sorted_reworded_eq_iff hsorted

/-- A value with the word in a key and in a text. The new key stands in the value already. -/
def wordyPayload : Json :=
  .object [("m", .array [.text "undefined undefine", .real true ⟨3, 0, by decide⟩]), ("null", .integer 1),
    ("undefined", .boolean true)]

/-- Of the two members with the new key the later one is left. -/
theorem payload?_compact_iff_wordy :
    wordyPayload.isScalar = false ∧ Json.ofRelaxedText? wordyPayload.compact = some wordyPayload ∧
    payload? wordyPayload.compact =
      some (.object [("m", .array [.text "null undefine", .real true ⟨3, 0, by decide⟩]), ("null", .boolean true)]) ∧
    payload? wordyPayload.compact ≠ some wordyPayload := by
  have hread : Json.ofRelaxedText? wordyPayload.compact = some wordyPayload := by
    have hreadable : wordyPayload.readable = true := by decide +kernel
    exact ofRelaxedText?_compact_eq_self_iff.mpr ⟨hreadable, rfl⟩
  obtain ⟨hpayload, hiff⟩ := payload?_compact_iff wordyPayload rfl hread
  refine ⟨rfl, hread, hpayload, fun h => ?_⟩
  have hnone : Text.contains "undefined" "undefined" = false := hiff.mp h "undefined" (by decide +kernel)
  exact absurd hnone (by decide)

/-- The text `undefined` comes back as the text `null`. -/
theorem payload?_compact_quoted :
    let v := Json.object [("a", .text "undefined")]
    v.isScalar = false ∧ (∃ s ∈ v.strings, Text.contains s "undefined" = true) ∧
    Json.ofRelaxedText? v.compact = some v ∧
    payload? v.compact = some (.object [("a", .text "null")]) ∧ payload? v.compact ≠ some v := by
  intro v
  have hreadable : v.readable = true := by decide +kernel
  have hpayload : payload? v.compact = some (.object [("a", .text "null")]) := payload?_compact rfl hreadable
  have hread : Json.ofRelaxedText? v.compact = some v := ofRelaxedText?_compact_eq_self_iff.mpr ⟨hreadable, rfl⟩
  refine ⟨rfl, ⟨"undefined", by decide +kernel, by decide⟩, hread, hpayload, ?_⟩
  rw [hpayload]
  simp [v]

end LogQuery.Log

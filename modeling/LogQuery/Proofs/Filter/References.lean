import LogQuery.Proofs.Filter.Canonical
import LogQuery.Proofs.Filter.SavedNames

/-!
# Proofs.Filter.References — the text of a reference is read back

A name is put into its stored form when a reference is made and again when it is written, which changes nothing
the second time. The stored form holds only what the lexer takes for a name. But it may be empty, and then no name
stands behind the `#`.

* `sanitize_sanitize`: the stored form is stored as it is; `sanitize_eq_empty_iff`: when it is empty.
* `read_stored`, `read_mark`: what a reference is read as, with a name and without one.
* `read_aliasOf_exact`: which references are read back.
-/

namespace LogQuery

/-- Trimming leaves nothing if there is nothing but white space. -/
theorem Text.trimChars_eq_nil_iff {cs : List Char} : trimChars cs = [] ↔ ∀ c ∈ cs, isBlank c = true := by
  rw [trimChars, trimEnd, List.reverse_eq_nil_iff, List.dropWhile_eq_nil_iff]
  constructor
  · intro h c hc
    rw [← List.takeWhile_append_dropWhile (p := isBlank) (l := cs)] at hc
    rcases List.mem_append.mp hc with hc | hc
    · exact List.mem_takeWhile_imp hc
    · exact h c (List.mem_reverse.mpr hc)
  · intro h c hc
    exact h c ((List.dropWhile_sublist _).subset (List.mem_reverse.mp hc))

namespace Filter

/-! ## Stored names -/

section

variable {name : String}

theorem sanitize_sanitize (name : String) : sanitize (sanitize name) = sanitize name :=
  sanitize_eq_self (isName_sanitize name)

theorem sanitize_eq_empty_iff : sanitize name = "" ↔ ∀ c ∈ name.toList, Text.isBlank c = true := by
  rw [← Text.trimChars_eq_nil_iff, ← String.toList_eq_nil_iff, toList_sanitize, List.map_eq_nil_iff]

theorem isStored_sanitize (h : ¬ ∀ c ∈ name.toList, Text.isBlank c = true) : IsStored (sanitize name) :=
  ⟨mt sanitize_eq_empty_iff.mp h, isName_sanitize name⟩

/-! ## What is read -/

variable (r : Reader)

/-- A reference is read back if its name can be stored as it is: one level is enough. -/
theorem read_stored (h : IsStored name) :
    r.read (Node.alias name).canonical = .ok (.expression .and false (.alias name) []) := by
  have hleaves : ∀ leaf ∈ (Node.alias name).leaves, r.Restates leaf := List.forall_mem_singleton.mpr h
  exact read_canonical hleaves (le_max_right r.maxDepth 1)

/-- The mark of a reference without a name is no token. -/
theorem read_mark : r.read "#" = .error (.unexpected "'#'" .aliasName 0) := by
  have hlex : lex 0 "#".toList = .error (.unexpected "'#'" .aliasName 0) := by cbv
  rw [Reader.read, hlex]
  rfl

end

/-- **References are read back, except those without a name.** The canonical text of the reference to a name is
read, by every reader and with every limit, as the expression whose only part is this reference, unless the name
is empty or has nothing but white space. Then the text is the mark alone, which is refused where it stands. The
text is the same whether or not the name was put into its stored form before it is written. -/
theorem read_aliasOf_exact (r : Reader) (name : String) :
    r.read (Node.aliasOf name).canonical =
      (if ∀ c ∈ name.toList, Text.isBlank c = true then .error (.unexpected "'#'" .aliasName 0)
        else .ok (.expression .and false (.aliasOf name) [])) ∧
    (Node.alias name).canonical = (Node.aliasOf name).canonical := by
  refine ⟨?_, ?_⟩
  · split_ifs with hblank
    · have hempty : (Node.aliasOf name).canonical = "#" := by
        rw [Node.aliasOf, sanitize_eq_empty_iff.mpr hblank]
        rfl
      rw [hempty, read_mark]
    · exact read_stored r (isStored_sanitize hblank)
  · rw [Node.aliasOf, Node.canonical, Node.canonical, Node.chars, Node.chars, sanitize_sanitize]

/-- The reference to a blank name is not read back. -/
theorem read_aliasOf_blank :
    (Node.aliasOf " ").canonical = "#" ∧
    (Reader.mk (fun _ => none) none 64).read (Node.aliasOf " ").canonical =
      .error (.unexpected "'#'" .aliasName 0) := by
  exact ⟨by cbv, by cbv⟩

end Filter

end LogQuery

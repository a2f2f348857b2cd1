import LogQuery.Proofs.Json.Reworded

/-!
# Proofs.Log.PayloadCut — a payload is cut at its own end

A payload starts at the first brace or bracket and ends where all of them are closed. In the text of a value the
count comes back to nothing at its last character and not before, whatever stands in its texts, and what follows
is not looked at.

* `balanced?_append`: a closed text is passed, and the counts stay as they are.
* `balanced?_tight`: the text of a list or an object is cut at its own end.
* `payload?_of_read`: what is read from the cut text is the payload of the message.
* `payload?_embedded`: a value in the middle of a message is its payload.
-/

namespace LogQuery.Log

open LogQuery.Json

/-! ## Counting -/

section

variable {braces brackets : ℕ} (rest : List Char)

theorem balanced?_quote :
    balanced? braces brackets none ('"' :: rest) = (balanced? braces brackets (some '"') rest).map ('"' :: ·) :=
  rfl

theorem balanced?_openBracket :
    balanced? braces brackets none ('[' :: rest) = (balanced? braces (brackets + 1) none rest).map ('[' :: ·) :=
  rfl

theorem balanced?_openBrace :
    balanced? braces brackets none ('{' :: rest) = (balanced? (braces + 1) brackets none rest).map ('{' :: ·) :=
  rfl

theorem balanced?_closeBracket (hpos : 0 < braces + brackets) :
    balanced? braces (brackets + 1) none (']' :: rest) = (balanced? braces brackets none rest).map (']' :: ·) := by
  have hopen : ¬ (braces = 0 ∧ brackets + 1 = 1) := by omega
  show (if brackets + 1 = 0 then none else if braces = 0 ∧ brackets + 1 = 1 then some [']'] else _) = _
  rw [if_neg (Nat.succ_ne_zero brackets), if_neg hopen]
  rfl

theorem balanced?_closeBrace (hpos : 0 < braces + brackets) :
    balanced? (braces + 1) brackets none ('}' :: rest) = (balanced? braces brackets none rest).map ('}' :: ·) := by
  have hopen : ¬ (braces + 1 = 1 ∧ brackets = 0) := by omega
  show (if braces + 1 = 0 then none else if braces + 1 = 1 ∧ brackets = 0 then some ['}'] else _) = _
  rw [if_neg (Nat.succ_ne_zero braces), if_neg hopen]
  rfl

theorem balanced?_char {c : Char} (hc : c ∉ marks) :
    balanced? braces brackets none (c :: rest) = (balanced? braces brackets none rest).map (c :: ·) := by
  simp only [marks, List.mem_cons, List.not_mem_nil, or_false, not_or] at hc
  simp [balanced?, hc]

theorem balanced?_inside {c : Char} (hc : c ≠ '\\') :
    balanced? braces brackets (some '"') (c :: rest) =
      (balanced? braces brackets (if c = '"' then none else some '"') rest).map (c :: ·) := by
  rw [balanced?.eq_def]
  simp [hc]

/-- Between two quotes nothing is counted. -/
theorem balanced?_quotedBody {body : List Char} (hbody : QuotedBody body) :
    balanced? braces brackets (some '"') (body ++ '"' :: rest) =
      (balanced? braces brackets none rest).map (body ++ '"' :: ·) := by
  induction hbody with
  | nil => exact balanced?_inside rest (by decide)
  | char hc _ ih =>
    simp only [List.mem_cons, List.not_mem_nil, or_false, not_or] at hc
    rw [List.cons_append, balanced?_inside _ hc.2, if_neg hc.1, ih, Option.map_map]
    rfl
  | @escape c cs _ ih =>
    show (balanced? braces brackets (some '"') (cs ++ '"' :: rest)).map (fun piece => '\\' :: c :: piece) = _
    rw [ih, Option.map_map]
    rfl

/-- A closed text is passed inside of braces or brackets, and their counts stay as they are. -/
theorem balanced?_append {cs : List Char} (hcs : Balanced cs) (hpos : 0 < braces + brackets) :
    balanced? braces brackets none (cs ++ rest) = (balanced? braces brackets none rest).map (cs ++ ·) := by
  induction hcs generalizing braces brackets rest with
  | nil => simp
  | char hc _ ih =>
    rw [List.cons_append, balanced?_char _ hc, ih rest hpos, Option.map_map]
    rfl
  | @text body cs hbody _ ih =>
    have htext : '"' :: body ++ '"' :: cs ++ rest = '"' :: (body ++ '"' :: (cs ++ rest)) := by simp
    rw [htext, balanced?_quote, balanced?_quotedBody _ hbody, ih rest hpos]
    simp [Function.comp_def]
  | @brackets inner cs _ _ ihinner ih =>
    have htext : '[' :: inner ++ ']' :: cs ++ rest = '[' :: (inner ++ ']' :: (cs ++ rest)) := by simp
    rw [htext, balanced?_openBracket, ihinner _ (by omega), balanced?_closeBracket _ hpos, ih rest hpos]
    simp [Function.comp_def]
  | @braces inner cs _ _ ihinner ih =>
    have htext : '{' :: inner ++ '}' :: cs ++ rest = '{' :: (inner ++ '}' :: (cs ++ rest)) := by simp
    rw [htext, balanced?_openBrace, ihinner _ (by omega), balanced?_closeBrace _ hpos, ih rest hpos]
    simp [Function.comp_def]

/-- Brackets around a closed text are the end of the piece. -/
theorem balanced?_brackets {inner : List Char} (hinner : Balanced inner) :
    balanced? 0 0 none ('[' :: inner ++ [']'] ++ rest) = some ('[' :: inner ++ [']']) := by
  have htext : '[' :: inner ++ [']'] ++ rest = '[' :: (inner ++ ']' :: rest) := by simp
  have hend : balanced? 0 1 none (']' :: rest) = some [']'] := rfl
  rw [htext, balanced?_openBracket, balanced?_append _ hinner Nat.one_pos, hend]
  rfl

theorem balanced?_braces {inner : List Char} (hinner : Balanced inner) :
    balanced? 0 0 none ('{' :: inner ++ ['}'] ++ rest) = some ('{' :: inner ++ ['}']) := by
  have htext : '{' :: inner ++ ['}'] ++ rest = '{' :: (inner ++ '}' :: rest) := by simp
  have hend : balanced? 1 0 none ('}' :: rest) = some ['}'] := rfl
  rw [htext, balanced?_openBrace, balanced?_append _ hinner Nat.one_pos, hend]
  rfl

end

/-! ## Cutting -/

/-- The text of a list or an object is cut at its own end. -/
theorem balanced?_tight {v : Json} (hv : v.isScalar = false) (rest : List Char) :
    balanced? 0 0 none (v.tight ++ rest) = some v.tight := by
  cases v with
  | array items =>
    rw [tight_array]
    refine balanced?_brackets rest (balanced_commas fun p hp => ?_)
    obtain ⟨x, -, rfl⟩ := List.mem_map.mp hp
    exact balanced_tight x
  | object members =>
    rw [tight_object]
    refine balanced?_braces rest (balanced_commas fun p hp => ?_)
    obtain ⟨m, -, rfl⟩ := List.mem_map.mp hp
    exact balanced_tightMember m
  | null | boolean | integer | real | text => exact nomatch hv

theorem payloadAt?_tight {v : Json} (hv : v.isScalar = false) (rest : List Char) :
    payloadAt? (v.tight ++ rest) = Json.ofRelaxedChars? (reworded v.tight) := by
  rw [payloadAt?, balanced?_tight hv]
  rfl

/-- What opens nothing is passed over. -/
theorem payloadOf?_append {front : List Char} (hfront : '{' ∉ front ∧ '[' ∉ front) (cs : List Char) :
    payloadOf? (front ++ cs) = payloadOf? cs := by
  induction front with
  | nil => rfl
  | cons c front ih =>
    simp only [List.mem_cons, not_or] at hfront
    obtain ⟨⟨hbrace, hbraces⟩, hbracket, hbrackets⟩ := hfront
    rw [List.cons_append, payloadOf?, if_neg (not_or.mpr ⟨Ne.symm hbrace, Ne.symm hbracket⟩),
      ih ⟨hbraces, hbrackets⟩]

/-- What is read from the cut text is the payload of the message. -/
theorem payload?_of_read {v w : Json} (hv : v.isScalar = false)
    (hread : Json.ofRelaxedChars? (reworded v.tight) = some w) {front : String}
    (hfront : '{' ∉ front.toList ∧ '[' ∉ front.toList) (back : String) :
    payload? (front ++ v.compact ++ back) = some w := by
  have hat := payloadAt?_tight hv back.toList
  rw [hread] at hat
  have hopen : ∃ c cs, v.tight = c :: cs ∧ (c = '{' ∨ c = '[') := by
    cases v with
    | array items => exact ⟨'[', _, tight_array items, .inr rfl⟩
    | object members => exact ⟨'{', _, tight_object members, .inl rfl⟩
    | null | boolean | integer | real | text => exact nomatch hv
  obtain ⟨c, cs, hcs, hc⟩ := hopen
  rw [payload?, String.toList_append, String.toList_append, toList_compact, List.append_assoc,
    payloadOf?_append hfront]
  rw [hcs, List.cons_append] at hat ⊢
  rw [payloadOf?, if_pos hc, hat]
  rfl

/-- **A value in the middle of a message is its payload.** The text of a list or an object that does not hold the
word `undefined` is cut at its own end and read, if nothing that opens a brace or a bracket stands before it. After
it there may be anything, and its keys and texts may hold braces, brackets, quotes and backslashes. -/
theorem payload?_embedded (v : Json) (hv : v.isScalar = false) (hword : Text.contains v.compact "undefined" = false)
    (hread : Json.ofRelaxedText? v.compact = some v) (front back : String)
    (hfront : '{' ∉ front.toList ∧ '[' ∉ front.toList) : payload? (front ++ v.compact ++ back) = some v := by
  refine payload?_of_read hv ?_ hfront back
  have hpart : ¬ word <:+: v.tight := by
    have := contains_word_iff.not.mp (Bool.eq_false_iff.mp hword)
    rwa [toList_compact] at this
  rw [reworded, Text.replaceFrom_eq_self hpart, ← toList_compact]
  exact hread

/-- A value whose keys and texts hold brackets, both quotes, a backslash and control characters. -/
def crowdedPayload : Json :=
  .object [("a]\x7d'", .array [.text "\"\x7b[\\\n\x01", .object [], .integer (-7)]), ("b", .null)]

theorem crowdedPayload_read : Json.ofRelaxedText? crowdedPayload.compact = some crowdedPayload := by
  have hreadable : crowdedPayload.readable = true := by decide +kernel
  exact ofRelaxedText?_compact_eq_self_iff.mpr ⟨hreadable, rfl⟩

/-- It is found between an open quote and other brackets. -/
theorem payload?_embedded_crowded :
    crowdedPayload.isScalar = false ∧ Text.contains crowdedPayload.compact "undefined" = false ∧
    Json.ofRelaxedText? crowdedPayload.compact = some crowdedPayload ∧
    crowdedPayload.compact = "\x7b\"a]\x7d'\":[\"\\\"\x7b[\\\\\\n\\u0001\",\x7b\x7d,-7],\"b\":null\x7d" ∧
    payload? ("sent ]\x7d \" '" ++ crowdedPayload.compact ++ "\x7d ' [undefined \x7b\"c\": 1\x7d") =
      some crowdedPayload := by
  have hword : Text.contains crowdedPayload.compact "undefined" = false := by decide +kernel
  refine ⟨rfl, hword, crowdedPayload_read, by decide +kernel, ?_⟩
  exact payload?_embedded crowdedPayload rfl hword crowdedPayload_read _ _ (by decide)

end LogQuery.Log

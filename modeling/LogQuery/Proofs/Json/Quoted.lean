import LogQuery.Json.Relaxed
import Mathlib

/-!
# Proofs.Json.Quoted — quoted texts read back

A character is written as itself, as a backslash with one letter, or as a backslash with its number. The reader
takes line and paragraph separators for line ends, which no quoted text may hold, while the writer leaves them.

* `Escaped`, `escaped_quotedChar`: the three ways in which a character is written.
* `charsAt?_quotedChar`: one written character is read back.
* `textAt?_quoted`: a quoted text is read back if it holds no separator, and is refused otherwise.
-/

namespace LogQuery.Json

/-! ## Written characters -/

/-- The letters that stand for a character after a backslash. -/
def shortEscapes : List (Char × Char) :=
  [('"', '"'), ('\\', '\\'), ('b', '\x08'), ('f', '\x0c'), ('n', '\n'), ('r', '\r'), ('t', '\t')]

/-- The ways in which a character is written between quotes. -/
inductive Escaped (c : Char) : List Char → Prop
  | plain (hquote : c ≠ '"') (hescape : c ≠ '\\') (hcontrol : 0x20 ≤ c.toNat) : Escaped c [c]
  | short {d : Char} (h : (d, c) ∈ shortEscapes) : Escaped c ['\\', d]
  | unit (h : c.toNat < 0x20) :
      Escaped c ['\\', 'u', '0', '0', Nat.digitChar (c.toNat / 16), Nat.digitChar (c.toNat % 16)]

theorem escaped_quotedChar (c : Char) : Escaped c (quotedChar c) := by
  unfold quotedChar
  split
  iterate 7 exact .short (by decide)
  rename_i hquote hescape _ _ _ _ _
  dsimp only
  split_ifs with hn
  · exact .unit hn
  · exact .plain hquote hescape (Nat.le_of_not_lt hn)

/-! ## Reading them -/

/-- Read the characters of a text after its opening quote. -/
def charsAt? (quote : Char) (cs : List Char) : Option (List Char × List Char) := do
  let (pieces, rest) ← textPieces? quote cs
  let s ← assemble? pieces
  pure (s, rest)

theorem textAt?_eq (quote : Char) (cs : List Char) :
    textAt? quote cs = (charsAt? quote cs).map fun (s, rest) => (String.ofList s, rest) := by
  unfold textAt? charsAt?
  cases textPieces? quote cs with
  | none => rfl
  | some read =>
    obtain ⟨pieces, rest⟩ := read
    cases h : assemble? pieces <;> simp [h]

/-- The piece stands for the character, whatever follows. -/
def Piece.StandsFor (p : Piece) (c : Char) : Prop := ∀ ps, assemble? (p :: ps) = (assemble? ps).map (c :: ·)

theorem Piece.standsFor_char (c : Char) : (Piece.char c).StandsFor c := fun _ => rfl

theorem Piece.standsFor_unit {c : Char} (hc : c.toNat < 0x20) : (Piece.unit c.toNat).StandsFor c := by
  intro ps
  have hvalid : Text.charOf? c.toNat = some c := by
    rw [Text.charOf?, if_pos (show c.toNat.isValidChar from c.valid), Char.ofNat_toNat]
  have hrange : ¬ (0xd800 ≤ c.toNat ∧ c.toNat < 0xdc00) := by omega
  conv_lhs => rw [assemble?.eq_def]
  dsimp only
  rw [if_neg hrange, hvalid]
  rfl

theorem charsAt?_piece {quote : Char} {cs rest : List Char} {p : Piece} {c : Char}
    (hpieces : textPieces? quote cs = (textPieces? quote rest).map (withPiece p)) (hp : p.StandsFor c) :
    charsAt? quote cs = (charsAt? quote rest).map fun (s, rest) => (c :: s, rest) := by
  unfold charsAt?
  rw [hpieces]
  cases textPieces? quote rest with
  | none => rfl
  | some read =>
    obtain ⟨pieces, rest⟩ := read
    cases h : assemble? pieces <;> simp [withPiece, hp pieces, h]

/-- The separators of lines and of paragraphs. -/
def separates (c : Char) : Bool := c == '\u2028' || c == '\u2029'

theorem beq_eq_false_of_toNat_ne {c d : Char} (h : c.toNat ≠ d.toNat) : (c == d) = false := by
  refine beq_eq_false_iff_ne.mpr ?_
  rintro rfl
  exact h rfl

theorem isLineEnd_eq_separates {c : Char} (hc : 0x20 ≤ c.toNat) : isLineEnd c = separates c := by
  have hfeed : ('\n').toNat < 0x20 := by decide
  have hreturn : ('\r').toNat < 0x20 := by decide
  rw [isLineEnd, beq_eq_false_of_toNat_ne (d := '\n') (by omega),
    beq_eq_false_of_toNat_ne (d := '\r') (by omega)]
  rfl

theorem separates_control {c : Char} (hc : c.toNat < 0x20) : separates c = false := by
  have hline : 0x20 ≤ ('\u2028').toNat := by decide
  have hparagraph : 0x20 ≤ ('\u2029').toNat := by decide
  rw [separates, beq_eq_false_of_toNat_ne (d := '\u2028') (by omega),
    beq_eq_false_of_toNat_ne (d := '\u2029') (by omega)]
  rfl

theorem textPieces?_plain {c : Char} (hquote : c ≠ '"') (hescape : c ≠ '\\') (rest : List Char) :
    textPieces? '"' (c :: rest) =
      if isLineEnd c then none else (textPieces? '"' rest).map (withPiece (.char c)) := by
  rw [textPieces?]
  · simp [hquote, hescape]
  all_goals
    intros
    simp_all

theorem textPieces?_short {c d : Char} (h : (d, c) ∈ shortEscapes) (rest : List Char) :
    textPieces? '"' ('\\' :: d :: rest) = (textPieces? '"' rest).map (withPiece (.char c)) := by
  have hall : ∀ e ∈ shortEscapes,
      textPieces? '"' ('\\' :: e.1 :: rest) = (textPieces? '"' rest).map (withPiece (.char e.2)) := by
    simp only [shortEscapes, List.forall_mem_cons]
    refine ⟨rfl, rfl, rfl, rfl, rfl, rfl, rfl, fun e he => ?_⟩
    exact absurd he List.not_mem_nil
  exact hall (d, c) h

theorem hexAt?_control {c : Char} (hc : c.toNat < 0x20) :
    hexAt? 4 ['0', '0', Nat.digitChar (c.toNat / 16), Nat.digitChar (c.toNat % 16)] = some c.toNat := by
  generalize c.toNat = n at hc ⊢
  revert n
  decide

theorem textPieces?_unit {c : Char} (hc : c.toNat < 0x20) (rest : List Char) :
    textPieces? '"' ('\\' :: 'u' :: '0' :: '0' :: Nat.digitChar (c.toNat / 16) :: Nat.digitChar (c.toNat % 16) ::
      rest) = (textPieces? '"' rest).map (withPiece (.unit c.toNat)) := by
  rw [textPieces?, hexAt?_control hc]
  rfl

/-- One written character is read back, unless it is a separator. -/
theorem charsAt?_quotedChar (c : Char) (rest : List Char) :
    charsAt? '"' (quotedChar c ++ rest) =
      if separates c then none else (charsAt? '"' rest).map fun (s, rest) => (c :: s, rest) := by
  have hescaped := escaped_quotedChar c
  generalize quotedChar c = written at hescaped
  cases hescaped with
  | plain hquote hescape hcontrol =>
    have hpieces := textPieces?_plain hquote hescape rest
    rw [isLineEnd_eq_separates hcontrol] at hpieces
    cases hc : separates c with
    | true =>
      rw [hc, if_pos rfl] at hpieces
      rw [List.singleton_append, if_pos rfl, charsAt?, hpieces]
      rfl
    | false =>
      rw [hc, if_neg Bool.false_ne_true] at hpieces
      rw [if_neg Bool.false_ne_true]
      exact charsAt?_piece hpieces (Piece.standsFor_char c)
  | short h =>
    have hall : ∀ e ∈ shortEscapes, separates e.2 = false := by decide
    rw [hall _ h, if_neg Bool.false_ne_true]
    exact charsAt?_piece (textPieces?_short h rest) (Piece.standsFor_char c)
  | unit hc =>
    rw [separates_control hc, if_neg Bool.false_ne_true]
    exact charsAt?_piece (textPieces?_unit hc rest) (Piece.standsFor_unit hc)

theorem charsAt?_quoted (cs rest : List Char) :
    charsAt? '"' (cs.flatMap quotedChar ++ '"' :: rest) =
      if cs.any separates then none else some (cs, rest) := by
  induction cs with
  | nil => rfl
  | cons c cs ih =>
    rw [List.flatMap_cons, List.append_assoc, charsAt?_quotedChar, ih, List.any_cons]
    cases separates c with
    | true => rfl
    | false => cases cs.any separates <;> rfl

/-- Whether the text can be read back: no line or paragraph ends in it. -/
def holdsNoSeparator (s : String) : Bool := !s.toList.any separates

/-- **A quoted text is read back**, unless it holds a separator. -/
theorem textAt?_quoted (s : String) (rest : List Char) :
    textAt? '"' (s.toList.flatMap quotedChar ++ '"' :: rest) =
      if holdsNoSeparator s then some (s, rest) else none := by
  rw [textAt?_eq, charsAt?_quoted, holdsNoSeparator]
  cases s.toList.any separates with
  | true => rfl
  | false => simp

theorem quoted_append (s : String) (rest : List Char) :
    quoted s ++ rest = '"' :: (s.toList.flatMap quotedChar ++ '"' :: rest) := by
  simp [quoted]

theorem keyAt?_quoted (key : String) (rest : List Char) :
    keyAt? (quoted key ++ rest) = if holdsNoSeparator key then some (key, rest) else none := by
  rw [quoted_append, ← textAt?_quoted]
  rfl

theorem scalarAt?_quoted (s : String) (rest : List Char) :
    scalarAt? (quoted s ++ rest) = if holdsNoSeparator s then some (.text s, rest) else none := by
  have hread := textAt?_quoted s rest
  rw [quoted_append]
  show (textAt? '"' (s.toList.flatMap quotedChar ++ '"' :: rest)).map _ = _
  rw [hread]
  split_ifs <;> rfl

end LogQuery.Json

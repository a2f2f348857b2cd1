import LogQuery.Json.Relaxed
import LogQuery.Proofs.Number.ReadBack

/-!
# Proofs.Json.NumberText — the numbers of values read back

A number ends where a comma or a closing bracket follows. It is digits, with a point or an exponent if it is not
an integer by its form, and it never starts with a zero that another digit follows.

* `exists_writesMarked`: what is written for a magnitude, and the number that its digits are read as.
* `Follows`: what may stand after a value.
* `decimalChars?_append`: a number is read up to what follows it.
* `scalarAt?_integer`, `scalarAt?_real`: numbers are read back, integers if they fit into 64 bits.
-/

namespace LogQuery

/-! ## Exponents -/

namespace Number

/-- An exponent, if there is one, with its sign. -/
def exponentText : Option ℤ → List Char
  | none => []
  | some e => 'e' :: (if 0 ≤ e then '+' else '-') :: Nat.toDigits 10 e.natAbs

theorem toList_toString_int (i : ℤ) :
    (toString i).toList = (if 0 ≤ i then [] else ['-']) ++ Nat.toDigits 10 i.natAbs := by
  rw [Int.toString_eq_repr, Int.repr_eq_if]
  split_ifs with hi
  · rw [show i.toNat = i.natAbs by omega, Nat.repr, String.toList_ofList, List.nil_append]
  · rw [show (-i).toNat = i.natAbs by omega, String.toList_append, Nat.repr, String.toList_ofList,
      String.toList_ofList]

theorem all_isDigit_toDigits (n : ℕ) : (Nat.toDigits 10 n).all Char.isDigit = true :=
  List.all_eq_true.mpr fun _ => isDigit_of_mem_toDigits

theorem exponent?_exponentText (e : Option ℤ) : exponent? (exponentText e) = some (e.getD 0) := by
  cases e with
  | none => rfl
  | some e =>
    have hempty : (Nat.toDigits 10 e.natAbs).isEmpty = false := by simp
    by_cases he : 0 ≤ e
    · simp only [exponentText, he, if_true, exponent?, true_or, hempty, all_isDigit_toDigits, Bool.not_true,
        Bool.or_self, Bool.false_eq_true, if_false, digitsValue_toDigits, Option.getD_some]
      rw [Int.natAbs_of_nonneg he]
    · simp only [exponentText, he, if_false, exponent?, true_or, if_true, hempty, all_isDigit_toDigits,
        Bool.not_true, Bool.or_self, Bool.false_eq_true, digitsValue_toDigits, Option.getD_some]
      rw [Int.ofNat_natAbs_of_nonpos (by omega), neg_neg]

/-- A style that has no position for the point writes one digit before it, and a power of ten. -/
theorem write_scientific {style : DecimalStyle} {digits : ℕ} {power : ℤ} (hd : 0 < digits)
    (hstyle : style.positional (digitCount digits + power) = false) :
    ∃ p : Positional, ∃ e : ℤ, (style.write digits power).toList = p.chars ++ exponentText (some e) ∧
      p.NoLeadingZero ∧ digitsValue (p.whole ++ p.fraction) = digits ∧ e - p.fraction.length = power := by
  have hds : ∀ c ∈ Nat.toDigits 10 digits, c.isDigit = true := fun c => isDigit_of_mem_toDigits
  have hlen : 0 < (Nat.toDigits 10 digits).length := List.length_pos_iff.mpr Nat.toDigits_ne_nil
  have htne : (Nat.toDigits 10 digits).take 1 ≠ [] := by
    rw [← List.length_pos_iff, List.length_take]; omega
  unfold digitCount at hstyle
  refine ⟨⟨(Nat.toDigits 10 digits).take 1, (Nat.toDigits 10 digits).drop 1,
    fun c hc => hds c (List.mem_of_mem_take hc), fun c hc => hds c (List.mem_of_mem_drop hc), htne⟩,
    (Nat.toDigits 10 digits).length + power - 1, ?_, ?_, ?_, ?_⟩
  · have hdrop : (Nat.toDigits 10 digits).drop 1 = [] ↔ (Nat.toDigits 10 digits).length = 1 := by
      rw [List.drop_eq_nil_iff]; omega
    have hsign : (0 : ℤ) < (Nat.toDigits 10 digits).length + power ↔
        0 ≤ (Nat.toDigits 10 digits).length + power - 1 := by omega
    simp only [DecimalStyle.write, hstyle, Bool.false_eq_true, if_false, String.toList_ofList, Positional.chars,
      hdrop, hsign, toList_toString_int, exponentText]
    split_ifs <;> simp
  · refine .inr ?_
    rw [List.head?_take, if_neg Nat.one_ne_zero]
    exact head_toDigits hd
  · rw [List.take_append_drop, digitsValue_toDigits]
  · rw [List.length_drop]
    omega

theorem decimalOf_zero (m : Magnitude) (h : (decimalOf m).1 = 0) : (decimalOf m).2 = 0 := by
  unfold decimalOf at h ⊢
  cases hm : m.isZero with
  | true => rfl
  | false =>
    rw [hm, if_neg Bool.false_ne_true] at h
    exact absurd h (digits_pos_of_holds hm (shortest_holds hm)).ne'

/-- What is written for a magnitude in a structured value: a point or an exponent always stands there. -/
structure WritesMarked (m : Magnitude) (p : Positional) (e : Option ℤ) : Prop where
  chars : (jsonStyle.finite false m).toList = p.chars ++ exponentText e
  noLeadingZero : p.NoLeadingZero
  marked : p.fraction ≠ [] ∨ e ≠ none
  ofDecimal : ∀ negative, ofDecimal negative (digitsValue (p.whole ++ p.fraction))
    (e.getD 0 - p.fraction.length) = .finite negative m

theorem exists_writesMarked (m : Magnitude) : ∃ p e, WritesMarked m p e := by
  cases hstyle : jsonStyle.positional (digitCount (decimalOf m).1 + (decimalOf m).2) with
  | true =>
    obtain ⟨p, hchars, hvalue, hzero, hmark⟩ := exists_spells hstyle
    refine ⟨p, none, ⟨?_, hzero (decimalOf_zero m), .inl (hmark rfl), ofDecimal_of_value ?_⟩⟩
    · rw [finite_decimalOf, hchars, exponentText, List.append_nil]
    · rw [← hvalue, Positional.value, Option.getD_none, Int.zero_sub]
  | false =>
    -- a zero has a position in this style
    have hd : 0 < (decimalOf m).1 := by
      refine Nat.pos_of_ne_zero fun hd => ?_
      rw [hd, decimalOf_zero m hd] at hstyle
      exact absurd hstyle (by decide)
    obtain ⟨p, e, hchars, hzero, hdigits, hpower⟩ := write_scientific hd hstyle
    refine ⟨p, some e, ⟨?_, hzero, .inr (by simp), ofDecimal_of_value ?_⟩⟩
    · rw [finite_decimalOf, hchars]
    · rw [hdigits, Option.getD_some, hpower]

end Number

/-! ## Reading a number -/

namespace Json

open Number

/-- A comma or a closing bracket follows, or nothing. -/
def Follows (rest : List Char) : Prop := ∀ c ∈ rest.head?, c = ',' ∨ c = ']' ∨ c = '}'

theorem Follows.forall_head {rest : List Char} (h : Follows rest) {P : Char → Prop} (hcomma : P ',') (hbracket : P ']')
    (hbrace : P '}') : ∀ c ∈ rest.head?, P c := by
  intro c hc
  rcases h c hc with rfl | rfl | rfl
  exacts [hcomma, hbracket, hbrace]

theorem wholeDigits_append {whole tail : List Char} (hwhole : ∀ c ∈ whole, c.isDigit = true)
    (hzero : whole = ['0'] ∨ whole.head? ≠ some '0') (htail : ∀ c ∈ tail.head?, c.isDigit = false) :
    wholeDigits (whole ++ tail) = (whole, tail) := by
  rcases hzero with rfl | hzero
  · rfl
  · unfold wholeDigits
    split
    · rename_i cs heq
      cases whole with
      | nil =>
        have hdigit := htail '0' (by rw [List.nil_append] at heq; rw [heq]; rfl)
        exact absurd hdigit (by decide)
      | cons c whole =>
        obtain ⟨rfl, -⟩ := List.cons_eq_cons.mp heq
        exact absurd rfl hzero
    · exact span_isDigit hwhole htail

/-- A number is read up to what follows its digits and its exponent. -/
theorem decimalChars?_append {p : Positional} (hzero : p.NoLeadingZero) {tail : List Char}
    (htail : ∀ c ∈ tail.head?, c.isDigit = false ∧ c ≠ '.') :
    decimalChars? (p.chars ++ tail) = some (p.chars ++ (exponentChars tail).1,
      decide (p.fraction = []) && (exponentChars tail).1.isEmpty, (exponentChars tail).2) := by
  have hempty : p.whole.isEmpty = false := by simpa using p.whole_ne
  have hdigit : ∀ c ∈ tail.head?, c.isDigit = false := fun c hc => (htail c hc).1
  by_cases hf : p.fraction = []
  · have hwhole : wholeDigits (p.chars ++ tail) = (p.whole, tail) := by
      rw [Positional.chars, if_pos hf, List.append_nil]
      exact wholeDigits_append p.whole_digits hzero hdigit
    unfold decimalChars?
    rw [hwhole]
    cases tail with
    | nil => simp [hempty, hf, Positional.chars]
    | cons c rest =>
      have hc : c ≠ '.' := (htail c rfl).2
      simp [hc, hempty, hf, Positional.chars]
  · have hwhole : wholeDigits (p.chars ++ tail) = (p.whole, '.' :: (p.fraction ++ tail)) := by
      rw [Positional.chars, if_neg hf, List.append_assoc]
      refine wholeDigits_append p.whole_digits hzero fun c hc => ?_
      obtain rfl : '.' = c := by simpa using hc
      rfl
    have hspan : (p.fraction ++ tail).span Char.isDigit = (p.fraction, tail) :=
      span_isDigit p.fraction_digits hdigit
    unfold decimalChars?
    rw [hwhole]
    simp [-List.span_eq_takeWhile_dropWhile, hspan, hempty, hf, Positional.chars]

theorem exponentChars_append (e : Option ℤ) {rest : List Char} (hrest : Follows rest) :
    exponentChars (exponentText e ++ rest) = (exponentText e, rest) := by
  cases e with
  | none =>
    rw [exponentText, List.nil_append]
    cases rest with
    | nil => rfl
    | cons c rest =>
      have hc : ¬ (c = 'e' ∨ c = 'E') :=
        hrest.forall_head (P := fun c => ¬ (c = 'e' ∨ c = 'E')) (by decide) (by decide) (by decide) c rfl
      simp [exponentChars, hc]
  | some e =>
    have hspan : (Nat.toDigits 10 e.natAbs ++ rest).span Char.isDigit = (Nat.toDigits 10 e.natAbs, rest) :=
      span_isDigit (fun _ => isDigit_of_mem_toDigits) (hrest.forall_head (by decide) (by decide) (by decide))
    have hempty : (Nat.toDigits 10 e.natAbs).isEmpty = false := by simp
    by_cases he : 0 ≤ e
    · simp [-List.span_eq_takeWhile_dropWhile, exponentText, exponentChars, he, hspan, hempty]
    · simp [-List.span_eq_takeWhile_dropWhile, exponentText, exponentChars, he, hspan, hempty]

/-- What follows the digits of a number. -/
theorem head_exponentText (e : Option ℤ) {rest : List Char} (hrest : Follows rest) :
    ∀ c ∈ (exponentText e ++ rest).head?, c.isDigit = false ∧ c ≠ '.' ∧ c ≠ 'x' ∧ c ≠ 'X' := by
  cases e with
  | none => exact hrest.forall_head (by decide) (by decide) (by decide)
  | some e =>
    intro c hc
    obtain rfl : 'e' = c := by simpa [exponentText] using hc
    decide

/-- The integers in the range are read as themselves. -/
theorem decimalAt?_integer (negative : Bool) (n : ℕ) {rest : List Char} (hrest : Follows rest) :
    decimalAt? negative (Nat.toDigits 10 n ++ rest) =
      (ofInteger? (if negative then -(n : ℤ) else n)).map (·, rest) := by
  let p : Positional :=
    ⟨Nat.toDigits 10 n, [], fun _ => isDigit_of_mem_toDigits, by simp, Nat.toDigits_ne_nil⟩
  have hp : p.chars = Nat.toDigits 10 n := List.append_nil _
  have htail : ∀ c ∈ rest.head?, c.isDigit = false ∧ c ≠ '.' :=
    hrest.forall_head (by decide) (by decide) (by decide)
  have hread := decimalChars?_append (p := p) (noLeadingZero_toDigits n) htail
  have hexponent : exponentChars rest = ([], rest) := exponentChars_append none hrest
  rw [hexponent, hp, List.append_nil] at hread
  simp [decimalAt?, hread, p]

theorem ofChars?_marked {m : Magnitude} {p : Positional} {e : Option ℤ} (h : WritesMarked m p e) (negative : Bool) :
    ofChars? (if negative then '-' :: (p.chars ++ exponentText e) else p.chars ++ exponentText e) =
      some (.finite negative m) := by
  have htail : ∀ c ∈ (exponentText e).head?, c.isDigit = false ∧ c ≠ '.' := by
    intro c hc
    have hnil : Follows [] := by simp [Follows]
    have hhead := head_exponentText e hnil c (by rwa [List.append_nil])
    exact ⟨hhead.1, hhead.2.1⟩
  have hdecimal : decimal? negative (p.chars ++ exponentText e) = some (.finite negative m) := by
    rw [p.decimal?_append negative htail, exponent?_exponentText, Option.map_some, h.ofDecimal]
  obtain ⟨c, cs, hcs, hc⟩ := p.head_digit
  rw [hcs, List.cons_append] at hdecimal ⊢
  cases negative with
  | true =>
    show unsigned? true (c :: (cs ++ exponentText e)) = _
    rw [unsigned?_of_digit _ hc, hdecimal]
  | false => rw [if_neg Bool.false_ne_true, ofChars?_of_digit hc, unsigned?_of_digit _ hc, hdecimal]

theorem decimalAt?_marked {m : Magnitude} {p : Positional} {e : Option ℤ} (h : WritesMarked m p e)
    (negative : Bool) {rest : List Char} (hrest : Follows rest) :
    decimalAt? negative (p.chars ++ (exponentText e ++ rest)) = some (.real negative m, rest) := by
  have hform : (decide (p.fraction = []) && (exponentText e).isEmpty) = false := by
    rcases h.marked with hf | he
    · simp [hf]
    · obtain ⟨e, rfl⟩ := Option.ne_none_iff_exists'.mp he
      simp [exponentText]
  have htail : ∀ c ∈ (exponentText e ++ rest).head?, c.isDigit = false ∧ c ≠ '.' := fun c hc =>
    ⟨(head_exponentText e hrest c hc).1, (head_exponentText e hrest c hc).2.1⟩
  have hread := decimalChars?_append h.noLeadingZero htail
  rw [exponentChars_append e hrest, hform] at hread
  simp [decimalAt?, hread, ofChars?_marked h negative, ofNumber?]

/-! ## Numbers as values -/

/-- Whether the characters start with something else than a digit or a sign. -/
def startsWord : List Char → Bool
  | [] => false
  | c :: _ => !c.isDigit && c != '-'

/-- No word starts as a number does. -/
theorem wordAt?_number {words : List (List Char)} (hwords : words.all startsWord = true) {c : Char}
    (hc : c.isDigit = true ∨ c = '-') (cs : List Char) : wordAt? words (c :: cs) = none := by
  have hfind : words.find? (fun w => w.isPrefixOf (c :: cs)) = none := by
    refine List.find?_eq_none.mpr fun w hw hstarts => ?_
    have hword : startsWord w = true := List.all_eq_true.mp hwords w hw
    cases w with
    | nil => exact Bool.noConfusion hword
    | cons d ds =>
      obtain ⟨rfl, -⟩ := List.cons_prefix_cons.mp (List.isPrefixOf_iff_prefix.mp hstarts)
      rcases hc with hc | rfl
      · simp [startsWord, hc] at hword
      · exact Bool.noConfusion hword
  rw [wordAt?, hfind, Option.map_none]

theorem numberAt?_minus {c : Char} {cs : List Char} (hc : c.isDigit = true) :
    numberAt? ('-' :: c :: cs) = decimalAt? true (c :: cs) := by
  show ((wordAt? specialNumbers (c :: cs)).map (Json.null, ·) <|> decimalAt? true (c :: cs)) = _
  rw [wordAt?_number (by decide) (.inl hc)]
  rfl

theorem numberAt?_digit {c : Char} {cs : List Char} (hc : c.isDigit = true)
    (hcs : ∀ d ∈ cs.head?, d ≠ 'x' ∧ d ≠ 'X') : numberAt? (c :: cs) = decimalAt? false (c :: cs) := by
  have hne : ∀ d, d.isDigit = false → c ≠ d := by
    rintro d hd rfl
    rw [hd] at hc
    exact Bool.noConfusion hc
  unfold numberAt?
  split
  · rename_i heq
    obtain ⟨-, rfl⟩ := List.cons_eq_cons.mp heq
    exact absurd rfl (hcs 'x' rfl).1
  · rename_i heq
    obtain ⟨-, rfl⟩ := List.cons_eq_cons.mp heq
    exact absurd rfl (hcs 'X' rfl).2
  · rename_i heq
    exact absurd (List.cons_eq_cons.mp heq).1 (hne '+' rfl)
  · rename_i heq
    exact absurd (List.cons_eq_cons.mp heq).1 (hne '-' rfl)
  · rw [wordAt?_number (by decide) (.inl hc)]
    rfl

theorem scalarAt?_number {c : Char} (hc : c.isDigit = true ∨ c = '-') (cs : List Char) :
    scalarAt? (c :: cs) = numberAt? (c :: cs) := by
  have hne : ∀ d, d.isDigit = false → d ≠ '-' → c ≠ d := by
    rintro d hdigit hminus rfl
    rw [hdigit] at hc
    exact hc.elim Bool.noConfusion hminus
  unfold scalarAt?
  split
  · rename_i heq
    exact absurd (List.cons_eq_cons.mp heq).1 (hne '"' rfl (by decide))
  · rename_i heq
    exact absurd (List.cons_eq_cons.mp heq).1 (hne '\'' rfl (by decide))
  · rw [wordAt?_number (by decide) hc, wordAt?_number (by decide) hc, wordAt?_number (by decide) hc]
    rfl

theorem ne_x_of_digit_or_point {c : Char} (hc : c.isDigit = true ∨ c = '.') : c ≠ 'x' ∧ c ≠ 'X' := by
  constructor <;>
    · rintro rfl
      exact absurd hc (by decide)

theorem mem_head?_append {c : Char} {cs ds : List Char} (h : c ∈ (cs ++ ds).head?) : c ∈ cs ∨ c ∈ ds.head? := by
  cases cs with
  | nil => exact .inr h
  | cons d cs =>
    obtain rfl : d = c := by simpa using h
    exact .inl List.mem_cons_self

/-- A sign and digits are read as digits are, with the sign given. -/
theorem scalarAt?_signed (negative : Bool) {cs : List Char} {c : Char} {ds : List Char} (hcs : cs = c :: ds)
    (hc : c.isDigit = true) (hds : ∀ d ∈ ds.head?, d ≠ 'x' ∧ d ≠ 'X') :
    scalarAt? ((if negative then ['-'] else []) ++ cs) = decimalAt? negative cs := by
  subst hcs
  cases negative with
  | true =>
    show scalarAt? ('-' :: c :: ds) = _
    rw [scalarAt?_number (.inr rfl), numberAt?_minus hc]
  | false =>
    show scalarAt? (c :: ds) = _
    rw [scalarAt?_number (.inl hc), numberAt?_digit hc hds]

theorem head_integer (i : ℤ) : ∃ c cs, (toString i).toList = c :: cs ∧ (c.isDigit = true ∨ c = '-') := by
  obtain ⟨c, ds, hcs⟩ := List.exists_cons_of_ne_nil (Nat.toDigits_ne_nil (n := i.natAbs) (b := 10))
  rw [toList_toString_int, hcs]
  split_ifs
  · exact ⟨c, ds, rfl, .inl (isDigit_of_mem_toDigits (hcs ▸ List.mem_cons_self))⟩
  · exact ⟨'-', c :: ds, rfl, .inr rfl⟩

theorem toList_realText (negative : Bool) (m : Magnitude) :
    realText negative m = (if negative then ['-'] else []) ++ (jsonStyle.finite false m).toList := by
  have hsign : (if negative then "-" else "").toList = if negative then ['-'] else [] := by
    cases negative <;> rfl
  rw [realText, finite_sign, String.toList_append, hsign]

theorem head_real (negative : Bool) (m : Magnitude) :
    ∃ c cs, realText negative m = c :: cs ∧ (c.isDigit = true ∨ c = '-') := by
  obtain ⟨p, e, h⟩ := exists_writesMarked m
  obtain ⟨c, ds, hcs, hc⟩ := p.head_digit
  rw [toList_realText, h.chars, hcs]
  cases negative with
  | true => exact ⟨'-', _, rfl, .inr rfl⟩
  | false => exact ⟨c, _, rfl, .inl hc⟩

/-- Integers of 64 bits are read back, and no others. -/
theorem scalarAt?_integer (i : ℤ) {rest : List Char} (hrest : Follows rest) :
    scalarAt? ((toString i).toList ++ rest) = (ofInteger? i).map (·, rest) := by
  obtain ⟨c, ds, hcs⟩ := List.exists_cons_of_ne_nil (Nat.toDigits_ne_nil (n := i.natAbs) (b := 10))
  have hdigits : ∀ d ∈ c :: ds, d.isDigit = true := fun d hd => isDigit_of_mem_toDigits (hcs ▸ hd)
  have hds : ∀ d ∈ (ds ++ rest).head?, d ≠ 'x' ∧ d ≠ 'X' := by
    intro d hd
    rcases mem_head?_append hd with hd | hd
    · exact ne_x_of_digit_or_point (.inl (hdigits d (List.mem_cons_of_mem c hd)))
    · exact hrest.forall_head (P := fun d => d ≠ 'x' ∧ d ≠ 'X') (by decide) (by decide) (by decide) d hd
  have hsign : (if 0 ≤ i then [] else ['-']) = if decide (i < 0) then ['-'] else [] := by
    by_cases hi : 0 ≤ i
    · simp [hi]
    · simp [hi, not_le.mp hi]
  have hvalue : (if decide (i < 0) = true then -(i.natAbs : ℤ) else i.natAbs) = i := by
    by_cases hi : i < 0
    · rw [decide_eq_true hi, if_pos rfl]
      omega
    · rw [decide_eq_false hi, if_neg Bool.false_ne_true]
      omega
  rw [toList_toString_int, hsign, List.append_assoc,
    scalarAt?_signed _ (by rw [hcs, List.cons_append]) (hdigits c List.mem_cons_self) hds,
    decimalAt?_integer _ _ hrest, hvalue]

theorem scalarAt?_real (negative : Bool) (m : Magnitude) {rest : List Char} (hrest : Follows rest) :
    scalarAt? (realText negative m ++ rest) = some (.real negative m, rest) := by
  obtain ⟨p, e, h⟩ := exists_writesMarked m
  obtain ⟨c, ds, hcs, hc⟩ := p.head_digit
  have hds : ∀ d ∈ (ds ++ (exponentText e ++ rest)).head?, d ≠ 'x' ∧ d ≠ 'X' := by
    intro d hd
    rcases mem_head?_append hd with hd | hd
    · exact ne_x_of_digit_or_point (p.digit_or_point d (hcs ▸ List.mem_cons_of_mem c hd))
    · exact (head_exponentText e hrest d hd).2.2
  rw [toList_realText, h.chars, List.append_assoc, List.append_assoc,
    scalarAt?_signed _ (by rw [hcs, List.cons_append]) hc hds, decimalAt?_marked h negative hrest]

/-! ## The characters of numbers -/

theorem mem_integer {i : ℤ} {c : Char} (h : c ∈ (toString i).toList) : c.isDigit = true ∨ c = '-' := by
  rw [toList_toString_int] at h
  rcases List.mem_append.mp h with h | h
  · split_ifs at h
    · exact nomatch h
    · exact .inr (List.mem_singleton.mp h)
  · exact .inl (isDigit_of_mem_toDigits h)

theorem mem_exponentText {e : Option ℤ} {c : Char} (h : c ∈ exponentText e) :
    c.isDigit = true ∨ c ∈ ['e', '+', '-'] := by
  cases e with
  | none => exact nomatch h
  | some e =>
    rcases List.mem_cons.mp h with rfl | h
    · exact .inr (by decide)
    · rcases List.mem_cons.mp h with rfl | h
      · split_ifs <;> exact .inr (by decide)
      · exact .inl (isDigit_of_mem_toDigits h)

theorem mem_real {negative : Bool} {m : Magnitude} {c : Char} (h : c ∈ realText negative m) :
    c.isDigit = true ∨ c ∈ ['.', 'e', '+', '-'] := by
  obtain ⟨p, e, hwrites⟩ := exists_writesMarked m
  rw [toList_realText, hwrites.chars] at h
  rcases List.mem_append.mp h with h | h
  · cases negative with
    | true =>
      obtain rfl := List.mem_singleton.mp h
      exact .inr (by decide)
    | false => exact nomatch h
  · rcases List.mem_append.mp h with h | h
    · rcases p.digit_or_point c h with h | rfl
      exacts [.inl h, .inr (by decide)]
    · exact (mem_exponentText h).imp_right (List.mem_cons_of_mem _)

end Json

end LogQuery

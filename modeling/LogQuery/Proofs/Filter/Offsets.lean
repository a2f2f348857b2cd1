import LogQuery.Filter.Lexer
import Mathlib

/-!
# Proofs.Filter.Offsets — where tokens and errors stand in a text

Offsets count bytes, and reading takes characters. Every function of the lexer goes from a place to one behind
the characters that it takes, so that no offset is ever inside a character.

* `ReadError.At`, `ReadError.In`, `Fails`: the offsets that an error names, and errors of what can fail.
* `Place.Takes`, `Place.Holds`: the characters between two places, and characters at an offset ahead.
* `Advances`: reading goes ahead or fails at a character. It is proved for quoted texts and patterns, whose
  escapes take several characters at once.
* `Cut`, `Scans`, `scans_scan`: what is taken for a token, and where a token fails.
* `lex_ok`, `lex_error`, `lex_number`: the same of all tokens, by induction on the characters.
* `Slice`, `slice_of_holds`: the characters as a part of the text, between offsets in bytes.
-/

namespace LogQuery.Filter

/-! ## Errors and their positions -/

/-- The byte offset that an error names. -/
def ReadError.position? : ReadError → Option ℕ
  | .unexpected _ _ position | .unterminated _ position | .invalidEscape _ position | .tooDeep _ position =>
    some position
  | _ => none

/-- The offset that the error names, if any, is one of these. -/
def ReadError.At (S : Set ℕ) (err : ReadError) : Prop := ∀ position, err.position? = some position → position ∈ S

/-- The error is not that of the limit on nesting, and the offset that it names, if any, is one of these. -/
def ReadError.In (S : Set ℕ) : ReadError → Prop
  | .unexpected _ _ position | .unterminated _ position | .invalidEscape _ position => position ∈ S
  | .tooDeep _ _ => False
  | _ => True

theorem ReadError.In.at {S : Set ℕ} {err : ReadError} (h : err.In S) : err.At S := by
  intro position hposition
  cases err with
  | unexpected | unterminated | invalidEscape => exact Option.some.inj hposition ▸ h
  | tooDeep => exact h.elim
  | _ => exact nomatch hposition

theorem ReadError.In.mono {S T : Set ℕ} (hsub : S ⊆ T) {err : ReadError} (h : err.In S) : err.In T := by
  cases err with
  | unexpected | unterminated | invalidEscape => exact hsub h
  | tooDeep => exact h.elim
  | _ => trivial

/-- If reading fails, then with such an error. -/
def Fails {α : Type} (P : ReadError → Prop) (x : Except ReadError α) : Prop := ∀ err, x = .error err → P err

section

variable {α β : Type} {P Q : ReadError → Prop} {x : Except ReadError α} {err : ReadError}

@[simp] theorem fails_ok (a : α) : Fails P (.ok a : Except ReadError α) := fun _ h => nomatch h

@[simp] theorem fails_error : Fails P (.error err : Except ReadError α) ↔ P err :=
  ⟨fun h => h err rfl, fun h _ heq => Except.error.inj heq ▸ h⟩

theorem Fails.mono (h : Fails P x) (himp : ∀ err, P err → Q err) : Fails Q x := fun err herr => himp err (h err herr)

theorem Fails.map {f : α → β} (h : Fails P x) : Fails P (x.map f) := by
  cases x with
  | ok a => exact fails_ok _
  | error err => exact fails_error.mpr (h err rfl)

theorem Fails.bind {f : α → Except ReadError β} (hx : Fails P x) (hf : ∀ a, x = .ok a → Fails P (f a)) :
    Fails P (x >>= f) := by
  cases x with
  | ok a => exact hf a rfl
  | error err => exact fails_error.mpr (hx err rfl)

end

/-! ## Places -/

/-- Behind the characters `taken`, the place is `q`. -/
structure Place.Takes (p : Place) (taken : List Char) (q : Place) : Prop where
  rest : p.rest = taken ++ q.rest
  offset : q.offset = p.offset + width taken

/-- The characters `part` stand at this offset. -/
def Place.Holds (p : Place) (position : ℕ) (part : List Char) : Prop :=
  ∃ before rest, p.Takes before ⟨position, part ++ rest⟩

section

variable {p q r : Place} {as bs part : List Char} {position offset : ℕ} {c : Char} {cs : List Char}

theorem Place.Takes.refl (p : Place) : p.Takes [] p := ⟨rfl, rfl⟩

theorem Place.Takes.trans (h : p.Takes as q) (h' : q.Takes bs r) : p.Takes (as ++ bs) r where
  rest := by rw [h.rest, h'.rest, List.append_assoc]
  offset := by rw [h'.offset, h.offset, width_append, Nat.add_assoc]

/-- One character is taken. -/
theorem takes_char (offset : ℕ) (c : Char) (cs : List Char) :
    Place.Takes ⟨offset, c :: cs⟩ [c] ⟨offset + c.utf8Size, cs⟩ := ⟨rfl, rfl⟩

/-- A backslash is taken with the character behind it. -/
theorem takes_escape (offset : ℕ) (c : Char) (cs : List Char) :
    Place.Takes ⟨offset, '\\' :: c :: cs⟩ ['\\', c] ⟨offset + 1 + c.utf8Size, cs⟩ :=
  ⟨rfl, Nat.add_assoc offset 1 c.utf8Size⟩

theorem Place.Takes.holds (h : p.Takes as q) (hq : q.Holds position part) : p.Holds position part := by
  obtain ⟨before, rest, hbefore⟩ := hq
  exact ⟨as ++ before, rest, h.trans hbefore⟩

/-- What is taken stands in front. -/
theorem Place.Takes.holds_taken (h : p.Takes as q) : p.Holds p.offset as :=
  ⟨[], q.rest, h.rest, rfl⟩

theorem holds_char (offset : ℕ) (c : Char) (cs : List Char) : Place.Holds ⟨offset, c :: cs⟩ offset [c] :=
  (takes_char offset c cs).holds_taken

theorem Place.Holds.le (h : p.Holds position part) : p.offset ≤ position := by
  obtain ⟨before, rest, hbefore⟩ := h
  exact Nat.le.intro hbefore.offset.symm

end

/-! ## Quoted texts and patterns -/

/-- The offsets of characters from a place on. -/
def Place.ahead (p : Place) : Set ℕ := {position | ∃ c, p.Holds position [c]}

theorem Place.Takes.ahead {p q : Place} {taken : List Char} (h : p.Takes taken q) : q.ahead ⊆ p.ahead :=
  fun _ ⟨c, hc⟩ => ⟨c, h.holds hc⟩

theorem mem_ahead (offset : ℕ) (c : Char) (cs : List Char) : offset ∈ Place.ahead ⟨offset, c :: cs⟩ :=
  ⟨c, holds_char offset c cs⟩

/-- A text or a pattern is broken at one of these offsets. -/
inductive ReadError.Broken (S : Set ℕ) : ReadError → Prop where
  | unterminated {kind : Unclosed} {position : ℕ} (h : position ∈ S) : Broken S (.unterminated kind position)
  | invalidEscape {sequence : String} {position : ℕ} (h : position ∈ S) : Broken S (.invalidEscape sequence position)

theorem ReadError.Broken.in {S T : Set ℕ} (hsub : S ⊆ T) {err : ReadError} (h : err.Broken S) : err.In T := by
  cases h with
  | unterminated h => exact hsub h
  | invalidEscape h => exact hsub h

theorem ReadError.Broken.mono {S T : Set ℕ} (hsub : S ⊆ T) {err : ReadError} (h : err.Broken S) : err.Broken T := by
  cases h with
  | unterminated h => exact .unterminated (hsub h)
  | invalidEscape h => exact .invalidEscape (hsub h)

/-- Reading goes to a place ahead, or fails at a character ahead or where it started. -/
structure Advances {α : Type} (start : ℕ) (p : Place) (x : Except ReadError (α × Place)) : Prop where
  ok : ∀ {a q}, x = .ok (a, q) → ∃ taken, p.Takes taken q
  error : Fails (·.Broken (insert start p.ahead)) x

section

variable {α β : Type} {start offset : ℕ} {p q : Place} {taken : List Char}

theorem Advances.done (a : α) (h : p.Takes taken q) : Advances start p (.ok (a, q)) where
  ok heq := by
    obtain ⟨-, rfl⟩ := Prod.mk.inj (Except.ok.inj heq)
    exact ⟨taken, h⟩
  error := fails_ok _

theorem Advances.fail {err : ReadError} (h : err.Broken (insert start p.ahead)) :
    Advances start p (.error err : Except ReadError (α × Place)) where
  ok heq := nomatch heq
  error := fails_error.mpr h

/-- Reading goes on behind what was taken. -/
theorem Advances.after {x : Except ReadError (α × Place)} (hx : Advances start q x) (h : p.Takes taken q)
    (f : α × Place → β) : Advances start p (x >>= fun a => pure (f a, a.2)) where
  ok heq := by
    cases x with
    | error err => exact nomatch heq
    | ok a =>
      obtain ⟨-, rfl⟩ := Prod.mk.inj (Except.ok.inj heq)
      obtain ⟨more, hmore⟩ := hx.ok rfl
      exact ⟨_, h.trans hmore⟩
  error := (hx.error.mono fun _ => .mono (Set.insert_subset_insert h.ahead)).bind fun _ _ => fails_ok _

end

/-- Hexadecimal digits are single bytes. -/
theorem utf8Size_of_hexValue? {c : Char} {n : ℕ} (h : Text.hexValue? c = some n) : c.utf8Size = 1 := by
  rw [Char.utf8Size_eq_one_iff, UInt32.le_iff_toNat_le]
  have hvalue : c.val.toNat = c.toNat := rfl
  unfold Text.hexValue? at h
  split_ifs at h with hdigit hsmall hlarge
  · simp only [Char.isDigit, Bool.and_eq_true, decide_eq_true_eq, ge_iff_le, UInt32.le_iff_toNat_le] at hdigit
    exact hdigit.2.trans (by decide)
  · exact (UInt32.le_iff_toNat_le.mp hsmall.2).trans (by decide)
  · exact (UInt32.le_iff_toNat_le.mp hlarge.2).trans (by decide)

/-- An escape by a code point is six bytes. -/
theorem width_of_codeEscape? {h₁ h₂ h₃ h₄ image : Char} (h : codeEscape? [h₁, h₂, h₃, h₄] = some image) :
    width ['\\', 'u', h₁, h₂, h₃, h₄] = 6 := by
  simp only [codeEscape?, Option.bind_eq_bind, Option.bind_eq_some_iff, List.mapM_cons, List.mapM_nil,
    Option.pure_def] at h
  obtain ⟨-, -, digits, ⟨n₁, hn₁, ds₁, ⟨n₂, hn₂, ds₂, ⟨n₃, hn₃, ds₃, ⟨n₄, hn₄, -⟩, -⟩, -⟩, -⟩, -⟩ := h
  simp only [width, utf8Size_of_hexValue? hn₁, utf8Size_of_hexValue? hn₂, utf8Size_of_hexValue? hn₃,
    utf8Size_of_hexValue? hn₄]
  rfl

theorem advances_textFrom (quote : Char) (start offset : ℕ) (cs : List Char) :
    Advances start ⟨offset, cs⟩ (textFrom quote start offset cs) := by
  fun_induction textFrom quote start offset cs with
  | case1 => exact .fail (.unterminated (Set.mem_insert _ _))
  | case2 offset cs => exact .done _ (takes_char offset _ cs)
  | case3 offset => exact .fail (.unterminated (Set.mem_insert_of_mem _ (mem_ahead offset _ _)))
  | case4 offset c cs image _ _ ih => exact ih.after (takes_escape offset c cs) _
  | case5 offset h₁ h₂ h₃ h₄ cs image hcode _ _ ih =>
    have htaken : Place.Takes ⟨offset, '\\' :: 'u' :: h₁ :: h₂ :: h₃ :: h₄ :: cs⟩ ['\\', 'u', h₁, h₂, h₃, h₄]
        ⟨offset + 6, cs⟩ := ⟨rfl, by rw [width_of_codeEscape? hcode]⟩
    exact ih.after htaken _
  | case6 offset => exact .fail (.invalidEscape (Set.mem_insert_of_mem _ (mem_ahead offset _ _)))
  | case7 offset => exact .fail (.invalidEscape (Set.mem_insert_of_mem _ (mem_ahead offset _ _)))
  | case8 offset => exact .fail (.invalidEscape (Set.mem_insert_of_mem _ (mem_ahead offset _ _)))
  | case9 offset c cs _ _ ih => exact ih.after (takes_char offset c cs) _

theorem advances_patternFrom (start offset : ℕ) (cs : List Char) :
    Advances start ⟨offset, cs⟩ (patternFrom start offset cs) := by
  fun_induction patternFrom start offset cs with
  | case1 => exact .fail (.unterminated (Set.mem_insert _ _))
  | case2 offset cs => exact .done _ (takes_char offset _ cs)
  | case3 offset => exact .fail (.unterminated (Set.mem_insert _ _))
  | case4 offset c cs _ ih => exact ih.after (takes_escape offset c cs) _
  | case5 offset c cs _ _ ih => exact ih.after (takes_char offset c cs) _

/-! ## Names and numbers -/

theorem takes_nameAt (p : Place) : p.Takes (nameAt p).1 (nameAt p).2 :=
  ⟨List.takeWhile_append_dropWhile.symm, rfl⟩

theorem append_numberChars (afterE : Bool) (cs : List Char) :
    (numberChars afterE cs).1 ++ (numberChars afterE cs).2 = cs := by
  induction cs generalizing afterE with
  | nil => rfl
  | cons c cs ih =>
    simp only [numberChars]
    split_ifs
    · rw [List.cons_append, ih]
    · rfl

/-- The characters in front that can belong to a number. -/
theorem takes_numberChars (p : Place) : p.Takes (numberChars false p.rest).1
    ⟨p.offset + width (numberChars false p.rest).1, (numberChars false p.rest).2⟩ :=
  ⟨(append_numberChars false p.rest).symm, rfl⟩

/-! ## Tokens -/

/-- Whether what begins with the character is cut out of the text as it stands: a name, a word or a number. -/
def isCutStart (c : Char) : Bool := c == '#' || c.isAlpha || c == '_' || c.isDigit || c == '-'

/-- The token that begins with `c` and takes the characters `cs` behind it. -/
inductive Cut : Char → List Char → Token → Prop where
  | name {cs : List Char} : Cut '#' cs (.alias (String.ofList cs))
  | word {c : Char} {cs : List Char} (hc : (c.isAlpha || c == '_') = true) : Cut c cs (.ofWord (c :: cs))
  | number {c : Char} {cs : List Char} {n : Number} (hn : Number.ofChars? (c :: cs) = some n) : Cut c cs (.number n)
  | mark {c : Char} {cs : List Char} {t : Token} (hc : isCutStart c = false) : Cut c cs t

/-- What reading of a token gives that starts at `offset`: the token with the characters taken for it, or an error,
which names a character from there on or gives the characters of a number that is none. -/
structure Scans (offset : ℕ) (c : Char) (cs : List Char) (x : Except ReadError (Token × Place)) : Prop where
  ok : ∀ {t q}, x = .ok (t, q) → ∃ taken, Place.Takes ⟨offset + c.utf8Size, cs⟩ taken q ∧ Cut c taken t
  error : Fails (·.In (Place.ahead ⟨offset, c :: cs⟩)) x
  number : ∀ {part}, x = .error (.invalidNumber part) → Place.Holds ⟨offset, c :: cs⟩ offset part.toList

section

variable {offset : ℕ} {c : Char} {cs : List Char}

theorem Scans.done {t : Token} {taken : List Char} {q : Place}
    (htaken : Place.Takes ⟨offset + c.utf8Size, cs⟩ taken q) (ht : Cut c taken t) : Scans offset c cs (.ok (t, q)) where
  ok h := by
    obtain ⟨rfl, rfl⟩ := Prod.mk.inj (Except.ok.inj h)
    exact ⟨taken, htaken, ht⟩
  error := fails_ok _
  number h := nomatch h

/-- A token of one character. -/
theorem Scans.mark {t : Token} (hc : isCutStart c = false) :
    Scans offset c cs (.ok (t, ⟨offset + c.utf8Size, cs⟩)) :=
  .done (.refl _) (.mark hc)

theorem Scans.fail {found : String} {expected : Expectation} :
    Scans offset c cs (.error (.unexpected found expected offset)) where
  ok h := nomatch h
  error := fails_error.mpr (mem_ahead offset c cs)
  number h := nomatch Except.error.inj h

/-- A token of two characters or the one that its first character stands for. -/
theorem Scans.pairOr {next : Char} {long : Token} {short : Except ReadError (Token × Place)}
    (hc : isCutStart c = false) (hnext : next.utf8Size = 1) (hshort : Scans offset c cs short) :
    Scans offset c cs (pairOr next long short ⟨offset + c.utf8Size, cs⟩) := by
  unfold Filter.pairOr
  split
  · rename_i d ds hrest
    split_ifs with hd
    · have htaken : Place.Takes ⟨offset + c.utf8Size, cs⟩ [d] ⟨offset + c.utf8Size + 1, ds⟩ := ⟨hrest, by
        rw [hd, width, hnext]
        rfl⟩
      exact .done htaken (.mark hc)
    · exact hshort
  · exact hshort

/-- A quoted text or a pattern. -/
theorem Advances.scans {f : List Char × Place → Token × Place} {x : Except ReadError (List Char × Place)}
    (hx : Advances offset ⟨offset + c.utf8Size, cs⟩ x) (hc : isCutStart c = false) (hf : ∀ a, (f a).2 = a.2) :
    Scans offset c cs (x.map f) where
  ok := by
    intro t q h
    cases x with
    | error err => exact nomatch h
    | ok a =>
      obtain ⟨taken, htaken⟩ := hx.ok rfl
      have hq : a.2 = q := (hf a).symm.trans (congrArg Prod.snd (Except.ok.inj h))
      exact ⟨taken, hq ▸ htaken, .mark hc⟩
  error := by
    have hsub := Set.insert_subset (mem_ahead offset c cs) (takes_char offset c cs).ahead
    exact (hx.error.mono fun _ => ReadError.Broken.in hsub).map
  number := fun h => nomatch hx.error.map _ h

theorem scans_numberAt (offset : ℕ) (c : Char) (cs : List Char) :
    Scans offset c cs (numberAt c ⟨offset + c.utf8Size, cs⟩) := by
  have htaken := takes_numberChars ⟨offset + c.utf8Size, cs⟩
  unfold numberAt
  dsimp only
  split
  · rename_i n hn
    exact .done htaken (.number hn)
  · refine ⟨fun h => (nomatch h), fails_error.mpr trivial, fun h => ?_⟩
    obtain rfl := ReadError.invalidNumber.inj (Except.error.inj h)
    rw [String.toList_ofList]
    exact ((takes_char offset c cs).trans htaken).holds_taken

/-- **A token takes characters, and fails at one of them.** -/
theorem scans_scan (offset : ℕ) (c : Char) (cs : List Char) :
    Scans offset c cs (scan offset c ⟨offset + c.utf8Size, cs⟩) := by
  unfold scan
  split
  case h_1 | h_2 | h_3 | h_4 | h_5 => exact .mark rfl
  case h_6 | h_8 | h_9 => exact .pairOr rfl rfl (.mark rfl)
  case h_7 | h_10 | h_11 => exact .pairOr rfl rfl .fail
  case h_12 =>
    dsimp only
    split_ifs
    exacts [.fail, .done (takes_nameAt _) .name]
  case h_13 | h_14 => exact (advances_textFrom _ _ _ _).scans rfl fun _ => rfl
  case h_15 => exact (advances_patternFrom _ _ _).scans rfl fun _ => rfl
  case h_16 =>
    split_ifs
    exacts [scans_numberAt _ _ _, .fail]
  case h_17 =>
    split_ifs with hdigit halpha
    exacts [scans_numberAt _ _ _, .done (takes_nameAt _) (.word halpha), .fail]

end

/-! ## All tokens of a text -/

/-- The token stands at its position: from there on the text holds the characters taken for it, and the first of
them is no blank. -/
def Located.Stands (t : Located) (p : Place) : Prop :=
  ∃ c taken, p.Holds t.position (c :: taken) ∧ Text.isBlank c = false ∧ Cut c taken t.token

/-- **Tokens stand at increasing offsets.** -/
theorem lex_ok {offset : ℕ} {cs : List Char} {ts : List Located} (h : lex offset cs = .ok ts) :
    (ts.map Located.position).Pairwise (· < ·) ∧ ∀ t ∈ ts, t.Stands ⟨offset, cs⟩ := by
  fun_induction lex offset cs generalizing ts with
  | case1 =>
    obtain rfl := Except.ok.inj h
    exact ⟨List.Pairwise.nil, fun t ht => absurd ht List.not_mem_nil⟩
  | case2 offset c cs hblank ih =>
    obtain ⟨hincreasing, hstands⟩ := ih h
    refine ⟨hincreasing, fun t ht => ?_⟩
    obtain ⟨d, taken, hholds, hrest⟩ := hstands t ht
    exact ⟨d, taken, (takes_char offset c cs).holds hholds, hrest⟩
  | case3 => exact nomatch h
  | case4 offset c cs hblank t q hscan _ ih =>
    cases hmore : lex q.offset q.rest with
    | error err =>
      rw [hmore] at h
      exact nomatch h
    | ok more =>
      rw [hmore] at h
      obtain rfl := Except.ok.inj h
      obtain ⟨hincreasing, hstands⟩ := ih hmore
      obtain ⟨taken, htaken, hcut⟩ := (scans_scan offset c cs).ok hscan
      have hwhole := (takes_char offset c cs).trans htaken
      refine ⟨List.pairwise_cons.mpr ⟨fun position hposition => ?_, hincreasing⟩, fun u hu => ?_⟩
      · obtain ⟨u, hu, rfl⟩ := List.mem_map.mp hposition
        obtain ⟨d, more, hholds, -⟩ := hstands u hu
        have hle : q.offset ≤ u.position := hholds.le
        have hlt : offset < q.offset := by
          rw [hwhole.offset]
          exact Nat.lt_add_of_pos_right (Nat.add_pos_left c.utf8Size_pos _)
        exact lt_of_lt_of_le hlt hle
      · rcases List.mem_cons.mp hu with rfl | hu
        · exact ⟨c, taken, hwhole.holds_taken, by simpa using hblank, hcut⟩
        · obtain ⟨d, more, hholds, hrest⟩ := hstands u hu
          exact ⟨d, more, hwhole.holds hholds, hrest⟩

/-- **An error of the lexer stands at a character.** -/
theorem lex_error (offset : ℕ) (cs : List Char) : Fails (·.In (Place.ahead ⟨offset, cs⟩)) (lex offset cs) := by
  fun_induction lex offset cs with
  | case1 => exact fails_ok _
  | case2 offset c cs _ ih => exact ih.mono fun _ => .mono (takes_char offset c cs).ahead
  | case3 offset c cs _ err hscan => exact fails_error.mpr ((scans_scan offset c cs).error err hscan)
  | case4 offset c cs _ t q hscan _ ih =>
    obtain ⟨taken, htaken, -⟩ := (scans_scan offset c cs).ok hscan
    exact (ih.mono fun _ => .mono ((takes_char offset c cs).trans htaken).ahead).map

/-- The characters of a number that is none stand in the text. -/
theorem lex_number (offset : ℕ) (cs : List Char) :
    Fails (fun err => ∀ part, err = .invalidNumber part → ∃ position, Place.Holds ⟨offset, cs⟩ position part.toList)
      (lex offset cs) := by
  fun_induction lex offset cs with
  | case1 => exact fails_ok _
  | case2 offset c cs _ ih =>
    exact ih.mono fun _ h part hpart => (h part hpart).imp fun _ => (takes_char offset c cs).holds
  | case3 offset c cs _ err hscan =>
    refine fails_error.mpr fun part hpart => ⟨offset, (scans_scan offset c cs).number ?_⟩
    rw [hscan, hpart]
  | case4 offset c cs _ t q hscan _ ih =>
    obtain ⟨taken, htaken, -⟩ := (scans_scan offset c cs).ok hscan
    have hwhole := (takes_char offset c cs).trans htaken
    exact (ih.mono fun _ h part hpart => (h part hpart).imp fun _ => hwhole.holds).map

/-! ## Parts of a text -/

/-- The part of the text that starts at this byte offset. Both its ends lie between characters. -/
def Slice (text part : String) (position : ℕ) : Prop :=
  ∃ before after, text = before ++ part ++ after ∧ before.utf8ByteSize = position

theorem utf8ByteSize_ofList (cs : List Char) : (String.ofList cs).utf8ByteSize = width cs := by
  induction cs with
  | nil => rfl
  | cons c cs ih => rw [String.ofList_cons, String.utf8ByteSize_append, String.utf8ByteSize_singleton, ih, width]

section

variable {text part : String} {position : ℕ}

theorem slice_of_holds {cs : List Char} (h : Place.Holds ⟨0, text.toList⟩ position cs) :
    Slice text (String.ofList cs) position := by
  obtain ⟨before, rest, htaken⟩ := h
  refine ⟨String.ofList before, String.ofList rest, ?_, ?_⟩
  · rw [← String.ofList_append, ← String.ofList_append, List.append_assoc, ← htaken.rest, String.ofList_toList]
  · rw [utf8ByteSize_ofList]
    exact (htaken.offset.trans (Nat.zero_add _)).symm

theorem Slice.lt {c : Char} (h : Slice text (String.singleton c) position) : position < text.utf8ByteSize := by
  obtain ⟨before, after, rfl, rfl⟩ := h
  rw [String.utf8ByteSize_append, String.utf8ByteSize_append, String.utf8ByteSize_singleton]
  have hpos := c.utf8Size_pos
  omega

/-- The first character of a part stands where the part does. -/
theorem Slice.first {c : Char} {cs : List Char} (h : Slice text (String.ofList (c :: cs)) position) :
    Slice text (String.singleton c) position := by
  obtain ⟨before, after, rfl, rfl⟩ := h
  exact ⟨before, String.ofList cs ++ after, by rw [String.ofList_cons]; simp only [String.append_assoc], rfl⟩

end

end LogQuery.Filter

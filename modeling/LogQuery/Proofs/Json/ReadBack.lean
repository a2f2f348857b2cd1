import LogQuery.Proofs.Json.Fold
import LogQuery.Proofs.Json.NumberText
import LogQuery.Proofs.Json.Quoted

/-!
# Proofs.Json.ReadBack — values are read back from their text

The reader gives up on integers of more than 64 bits and on texts that hold a separator, and it puts the members
of objects in the order of their keys. Every other value is read back as it is.

* `itemsAt?_commas`: items between commas are read one by one.
* `readable`, `sorted`: whether a value can be read back, and what is read then.
* `valueAt?_scalar`, `valueAt?_array`, `valueAt?_object`, `valueAt?_tight`: a value is read up to what follows it.
* `ofRelaxedText?_compact`, `ofRelaxedText?_compact_eq_self_iff`: what is read from the text of a value, and when
  it is the value itself.
-/

namespace LogQuery.Json

/-! ## Items -/

/-- A token may start with the character: white space and comments do not. -/
def StartsToken (c : Char) : Prop := isSpace c = false ∧ c ≠ '/'

theorem isSpace_printable {c : Char} (h : 0x20 < c.toNat ∧ c.toNat < 0x7f) : isSpace c = false := by
  have hall : ∀ n < 0x7f, 0x20 < n → isSpace (Char.ofNat n) = false := by decide +kernel
  have := hall c.toNat h.2 h.1
  rwa [Char.ofNat_toNat] at this

theorem skip_of_startsToken {c : Char} (hc : StartsToken c) (cs : List Char) : skip (c :: cs) = c :: cs := by
  obtain ⟨hspace, hslash⟩ := hc
  unfold skip
  rw [skipIn]
  · rw [hspace, if_neg Bool.false_ne_true]
  all_goals
    intros
    simp_all

section Items

variable {α : Type} {close : Char} {item : List Char → Option (α × List Char)}

/-- The first token of an item does not close the list. -/
def StartsItem (close : Char) (cs : List Char) : Prop := ∃ c rest, cs = c :: rest ∧ StartsToken c ∧ c ≠ close

theorem StartsItem.append {cs : List Char} (h : StartsItem close cs) (rest : List Char) :
    StartsItem close (cs ++ rest) := by
  obtain ⟨c, ds, rfl, hc⟩ := h
  exact ⟨c, ds ++ rest, rfl, hc⟩

/-- One item is read, and the token after it decides how to go on. -/
theorem itemsAt?_item {cs after : List Char} {d : Char} {x : α} {ok : Bool} (hstart : StartsItem close cs)
    (hitem : item cs = if ok then some (x, d :: after) else none) (hd : StartsToken d) (fuel : ℕ) :
    Text.itemsAt? skip close true item true (fuel + 1) cs =
      if ok then
        if d = close then some ([x], after)
        else if d = ',' then
          (Text.itemsAt? skip close true item true fuel after).map fun (xs, after) => (x :: xs, after)
        else none
      else none := by
  obtain ⟨c, rest, rfl, hc, hclose⟩ := hstart
  rw [Text.itemsAt?, skip_of_startsToken hc]
  simp only [List.head?_cons, Bool.true_and, beq_iff_eq, Option.some.injEq, hclose, if_false, hitem]
  cases ok with
  | false => rfl
  | true =>
    simp only [if_true, Option.bind_eq_bind, Option.bind_some, skip_of_startsToken hd, List.head?_cons,
      Option.some.injEq, List.drop_one, List.tail_cons]
    split_ifs
    · rfl
    · cases Text.itemsAt? skip close true item true fuel after <;> rfl
    · rfl

variable {γ : Type} {text : γ → List Char} {ok : γ → Bool} {value : γ → α}

/-- If each item is read up to what follows it, then all are read up to the end of the list. -/
theorem itemsAt?_commas (hclose : StartsToken close) (hcomma : close ≠ ',') {rest : List Char}
    (hfollows : Follows (close :: rest)) {items : List γ} (hstart : ∀ x ∈ items, StartsItem close (text x))
    (hitem : ∀ x ∈ items, ∀ rest, Follows rest →
      item (text x ++ rest) = if ok x then some (value x, rest) else none) {fuel : ℕ} (hfuel : items.length < fuel) :
    Text.itemsAt? skip close true item true fuel (commas (items.map text) ++ close :: rest) =
      if items.all ok then some (items.map value, rest) else none := by
  induction items generalizing fuel with
  | nil =>
    obtain ⟨fuel, rfl⟩ := Nat.exists_eq_add_one_of_ne_zero (Nat.ne_zero_of_lt hfuel)
    rw [Text.itemsAt?]
    show (if true && (skip (close :: rest)).head? == some close then some ([], (skip (close :: rest)).drop 1)
      else _) = _
    rw [skip_of_startsToken hclose]
    simp
  | cons x items ih =>
    obtain ⟨fuel, rfl⟩ := Nat.exists_eq_add_one_of_ne_zero (Nat.ne_zero_of_lt hfuel)
    have hx := hitem x List.mem_cons_self
    have hstartx := hstart x List.mem_cons_self
    cases items with
    | nil =>
      have htext : commas ([x].map text) = text x := by simp [commas]
      rw [htext, itemsAt?_item (hstartx.append _) (hx (close :: rest) hfollows) hclose, if_pos rfl]
      simp
    | cons y items =>
      have htext : commas ((x :: y :: items).map text) ++ close :: rest =
          text x ++ ',' :: (commas ((y :: items).map text) ++ close :: rest) := by
        rw [List.map_cons, List.map_cons, commas_cons_cons, List.append_assoc]
        rfl
      have hmore := ih (fun z hz => hstart z (List.mem_cons_of_mem x hz))
        (fun z hz => hitem z (List.mem_cons_of_mem x hz)) (Nat.lt_of_succ_lt_succ hfuel)
      rw [htext, itemsAt?_item (hstartx.append _) (hx _ (by simp [Follows])) ⟨by decide, by decide⟩,
        if_neg hcomma.symm, if_pos rfl, hmore]
      show _ = if (ok x && (y :: items).all ok) = true then _ else _
      cases ok x with
      | false => rfl
      | true =>
        rw [Bool.true_and]
        cases (y :: items).all ok <;> rfl

/-- The length of the text bounds the number of items. -/
theorem itemsAt?_enclosed (hclose : StartsToken close) (hcomma : close ≠ ',') {rest : List Char}
    (hfollows : Follows (close :: rest)) {items : List γ} (hstart : ∀ x ∈ items, StartsItem close (text x))
    (hitem : ∀ x ∈ items, ∀ rest, Follows rest →
      item (text x ++ rest) = if ok x then some (value x, rest) else none) :
    Text.itemsAt? skip close true item true ((commas (items.map text) ++ close :: rest).length + 1)
        (commas (items.map text) ++ close :: rest) =
      if items.all ok then some (items.map value, rest) else none := by
  refine itemsAt?_commas hclose hcomma hfollows hstart hitem ?_
  have hne : ∀ p ∈ items.map text, p ≠ [] := by
    intro p hp
    obtain ⟨x, hx, rfl⟩ := List.mem_map.mp hp
    obtain ⟨c, cs, hcs, -⟩ := hstart x hx
    rw [hcs]
    exact List.cons_ne_nil c cs
  have hlength := length_le_commas hne
  rw [List.length_map] at hlength
  rw [List.length_append]
  omega

end Items

/-! ## What is read -/

/-- Whether a scalar can be read back. -/
def readableScalar : Json → Bool
  | .integer i => decide (-(2 ^ 63 : ℤ) ≤ i ∧ i < 2 ^ 63)
  | .text s => holdsNoSeparator s
  | _ => true

/-- Whether a value can be read back: its integers have 64 bits, and its texts and keys hold no separator. -/
def readable : Json → Bool :=
  fold readableScalar (fun items => items.all id) fun members => members.all fun m => holdsNoSeparator m.1 && m.2

/-- The value with the members of all its objects in the order of their keys. -/
def sorted : Json → Json := fold id array fun members => object (Keyed.ofList members).entries

theorem readable_scalar {x : Json} (hx : x.isScalar = true) : x.readable = readableScalar x := fold_scalar _ _ _ hx

theorem readable_array (items : List Json) : (array items).readable = items.all readable := by
  refine (fold_array _ _ _ items).trans ?_
  rw [List.all_map]
  rfl

theorem readable_object (members : List (String × Json)) :
    (object members).readable = members.all fun m => holdsNoSeparator m.1 && m.2.readable := by
  refine (fold_object _ _ _ members).trans ?_
  rw [List.all_map]
  rfl

theorem sorted_scalar {x : Json} (hx : x.isScalar = true) : x.sorted = x := fold_scalar _ _ _ hx

theorem sorted_array (items : List Json) : (array items).sorted = array (items.map sorted) := fold_array _ _ _ items

theorem sorted_object (members : List (String × Json)) :
    (object members).sorted = object (Keyed.ofList (members.map fun m => (m.1, m.2.sorted))).entries :=
  fold_object _ _ _ members

/-! ## Values -/

/-- What a scalar starts with. -/
def StartsScalar (c : Char) : Prop := (c.isDigit = true ∨ c = '-') ∨ c ∈ ['"', 'n', 't', 'f']

theorem head_scalar {x : Json} (hx : x.isScalar = true) : ∃ c cs, x.tight = c :: cs ∧ StartsScalar c := by
  rw [tight_scalar hx]
  cases x with
  | array | object => exact nomatch hx
  | null => exact ⟨'n', _, rfl, .inr (by decide)⟩
  | boolean b =>
    cases b
    · exact ⟨'f', _, rfl, .inr (by decide)⟩
    · exact ⟨'t', _, rfl, .inr (by decide)⟩
  | integer i =>
    obtain ⟨c, cs, hcs, hc⟩ := head_integer i
    exact ⟨c, cs, hcs, .inl hc⟩
  | real negative m =>
    obtain ⟨c, cs, hcs, hc⟩ := head_real negative m
    exact ⟨c, cs, hcs, .inl hc⟩
  | text s => exact ⟨'"', _, rfl, .inr (by decide)⟩

theorem StartsScalar.ne {c d : Char} (hc : StartsScalar c) (hdigit : d.isDigit = false)
    (hd : d ∉ ['-', '"', 'n', 't', 'f']) : c ≠ d := by
  rintro rfl
  rcases hc with (hc | hc) | hc
  · rw [hdigit] at hc
    exact Bool.noConfusion hc
  · exact hd (hc ▸ List.mem_cons_self)
  · exact hd (List.mem_cons_of_mem _ hc)

theorem StartsScalar.startsToken {c : Char} (hc : StartsScalar c) : StartsToken c := by
  refine ⟨isSpace_printable ?_, hc.ne (by decide) (by decide)⟩
  rcases hc with (hc | rfl) | hc
  · simp only [Char.isDigit, Bool.and_eq_true, decide_eq_true_eq] at hc
    have hlow : 48 ≤ c.toNat := hc.1
    have hhigh : c.toNat ≤ 57 := hc.2
    omega
  · decide
  · simp only [List.mem_cons, List.not_mem_nil, or_false] at hc
    rcases hc with rfl | rfl | rfl | rfl <;>
      decide

/-- A value starts with a token that closes nothing. -/
theorem startsItem_tight (x : Json) {close : Char} (hclose : close = ']' ∨ close = '}') :
    StartsItem close x.tight := by
  cases hx : x.isScalar with
  | true =>
    obtain ⟨c, cs, hcs, hc⟩ := head_scalar hx
    refine ⟨c, cs, hcs, hc.startsToken, ?_⟩
    rcases hclose with rfl | rfl <;>
      exact hc.ne (by decide) (by decide)
  | false =>
    cases x with
    | array items =>
      refine ⟨'[', _, tight_array items, ⟨by decide, by decide⟩, ?_⟩
      rcases hclose with rfl | rfl <;>
        decide
    | object members =>
      refine ⟨'{', _, tight_object members, ⟨by decide, by decide⟩, ?_⟩
      rcases hclose with rfl | rfl <;>
        decide
    | null | boolean | integer | real | text => exact nomatch hx

theorem scalarAt?_tight {x : Json} (hx : x.isScalar = true) {rest : List Char} (hrest : Follows rest) :
    scalarAt? (x.tight ++ rest) = if x.readable then some (x.sorted, rest) else none := by
  rw [sorted_scalar hx, tight_scalar hx, readable_scalar hx]
  cases x with
  | array | object => exact nomatch hx
  | null => rfl
  | boolean b => cases b <;> rfl
  | integer i =>
    show scalarAt? ((toString i).toList ++ rest) = _
    rw [scalarAt?_integer i hrest, ofInteger?, readableScalar]
    by_cases hi : -(2 ^ 63 : ℤ) ≤ i ∧ i < 2 ^ 63
    · rw [if_pos hi, decide_eq_true hi]
      rfl
    · rw [if_neg hi, decide_eq_false hi]
      rfl
  | real negative m => exact scalarAt?_real negative m hrest
  | text s => exact scalarAt?_quoted s rest

/-- A member is read up to what follows it, if its value is. -/
theorem memberAt?_tight {value : List Char → Option (Json × List Char)} {m : String × Json} {rest : List Char}
    (hvalue : value (m.2.tight ++ rest) = if m.2.readable then some (m.2.sorted, rest) else none) :
    memberAt? value (tightMember m ++ rest) =
      if holdsNoSeparator m.1 && m.2.readable then some ((m.1, m.2.sorted), rest) else none := by
  obtain ⟨key, x⟩ := m
  obtain ⟨c, cs, hcs, hc, -⟩ := startsItem_tight x (.inl rfl)
  have hskip : skip (x.tight ++ rest) = x.tight ++ rest := by
    rw [hcs]
    exact skip_of_startsToken hc _
  have hcolon : skip (':' :: (x.tight ++ rest)) = ':' :: (x.tight ++ rest) :=
    skip_of_startsToken ⟨by decide, by decide⟩ _
  have htext : tightMember (key, x) ++ rest = quoted key ++ ':' :: (x.tight ++ rest) := by
    simp [tightMember]
  rw [htext, memberAt?, keyAt?_quoted]
  cases holdsNoSeparator key with
  | false => rfl
  | true =>
    simp only [if_true, Option.bind_eq_bind, Option.bind_some, hcolon, hskip, hvalue, Bool.true_and]
    cases x.readable <;> rfl

theorem valueAt?_scalar {x : Json} (hx : x.isScalar = true) (levels : ℕ) {rest : List Char} (hrest : Follows rest) :
    valueAt? (levels + 1) (x.tight ++ rest) = if x.readable then some (x.sorted, rest) else none := by
  have hread := scalarAt?_tight hx hrest
  obtain ⟨c, cs, hcs, hc⟩ := head_scalar hx
  rw [hcs] at hread ⊢
  rw [← hread, List.cons_append, valueAt?]
  · intro ds h
    exact hc.ne (by decide) (by decide) (List.cons_eq_cons.mp h).1
  · intro ds h
    exact hc.ne (by decide) (by decide) (List.cons_eq_cons.mp h).1

/-- A list is read up to what follows it, if its items are. -/
theorem valueAt?_array {levels : ℕ} {items : List Json}
    (hitem : ∀ x ∈ items, ∀ rest, Follows rest →
      valueAt? levels (x.tight ++ rest) = if x.readable then some (x.sorted, rest) else none) (rest : List Char) :
    valueAt? (levels + 1) ((array items).tight ++ rest) =
      if (array items).readable then some ((array items).sorted, rest) else none := by
  have hclose : StartsToken ']' := ⟨by decide, by decide⟩
  have hfollows : Follows (']' :: rest) := by simp [Follows]
  have hitems := itemsAt?_enclosed hclose (by decide) hfollows (fun x _ => startsItem_tight x (.inl rfl)) hitem
  rw [tight_array, readable_array, sorted_array, List.cons_append, List.cons_append, List.append_assoc, valueAt?,
    List.singleton_append, hitems]
  cases items.all readable <;> rfl

/-- An object is read up to what follows it, if the values of its members are. -/
theorem valueAt?_object {levels : ℕ} {members : List (String × Json)}
    (hvalue : ∀ m ∈ members, ∀ rest, Follows rest →
      valueAt? levels (m.2.tight ++ rest) = if m.2.readable then some (m.2.sorted, rest) else none)
    (rest : List Char) :
    valueAt? (levels + 1) ((object members).tight ++ rest) =
      if (object members).readable then some ((object members).sorted, rest) else none := by
  have hstart : ∀ m ∈ members, StartsItem '}' (tightMember m) := by
    intro m _
    exact ⟨'"', _, by rw [tightMember, quoted_append], ⟨by decide, by decide⟩, by decide⟩
  have hclose : StartsToken '}' := ⟨by decide, by decide⟩
  have hfollows : Follows ('}' :: rest) := by simp [Follows]
  have hitems := itemsAt?_enclosed hclose (by decide) hfollows hstart fun m hm rest hrest =>
    memberAt?_tight (hvalue m hm rest hrest)
  rw [tight_object, readable_object, sorted_object, List.cons_append, List.cons_append, List.append_assoc, valueAt?,
    List.singleton_append]
  simp only [hitems]
  cases members.all fun m => holdsNoSeparator m.1 && m.2.readable <;> rfl

theorem length_tight_item {x : Json} {items : List Json} (hx : x ∈ items) :
    x.tight.length < (array items).tight.length := by
  have hlength := length_le_commas_of_mem (List.mem_map_of_mem (f := tight) hx)
  simp only [tight_array, List.length_append, List.length_cons]
  omega

theorem length_tight_value {m : String × Json} {members : List (String × Json)} (hm : m ∈ members) :
    m.2.tight.length < (object members).tight.length := by
  have hlength := length_le_commas_of_mem (List.mem_map_of_mem (f := tightMember) hm)
  simp only [tight_object, tightMember, List.length_append, List.length_cons] at hlength ⊢
  omega

/-- A value is read up to what follows it, if there are enough levels for its lists and objects. -/
theorem valueAt?_tight (x : Json) : ∀ levels rest, x.tight.length < levels → Follows rest →
    valueAt? levels (x.tight ++ rest) = if x.readable then some (x.sorted, rest) else none := by
  induction x using induct with
  | scalar x hx =>
    intro levels rest hlevels hrest
    obtain ⟨levels, rfl⟩ := Nat.exists_eq_add_one_of_ne_zero (Nat.ne_zero_of_lt hlevels)
    exact valueAt?_scalar hx levels hrest
  | array items ih =>
    intro levels rest hlevels _
    obtain ⟨levels, rfl⟩ := Nat.exists_eq_add_one_of_ne_zero (Nat.ne_zero_of_lt hlevels)
    refine valueAt?_array (fun x hx rest => ih x hx levels rest ?_) rest
    exact (length_tight_item hx).trans_le (Nat.le_of_lt_succ hlevels)
  | object members ih =>
    intro levels rest hlevels _
    obtain ⟨levels, rfl⟩ := Nat.exists_eq_add_one_of_ne_zero (Nat.ne_zero_of_lt hlevels)
    refine valueAt?_object (fun m hm rest => ih m hm levels rest ?_) rest
    exact (length_tight_value hm).trans_le (Nat.le_of_lt_succ hlevels)

/-- **What is read from the text of a value.** A value whose integers have 64 bits and whose texts hold no line or
paragraph separators is read back with its members in order; from the text of any other value nothing is read. -/
theorem ofRelaxedText?_compact (x : Json) :
    ofRelaxedText? x.compact = if x.readable then some x.sorted else none := by
  obtain ⟨c, cs, hcs, hc, -⟩ := startsItem_tight x (.inl rfl)
  have hskip : skip x.tight = x.tight := by
    rw [hcs]
    exact skip_of_startsToken hc _
  have hread := valueAt?_tight x (x.tight.length + 1) [] (Nat.lt_succ_self _) (by simp [Follows])
  rw [List.append_nil] at hread
  rw [ofRelaxedText?, toList_compact, ofRelaxedChars?, hskip, hread]
  cases x.readable <;> rfl

/-- The values that are read back as they are. -/
theorem ofRelaxedText?_compact_eq_self_iff {x : Json} :
    ofRelaxedText? x.compact = some x ↔ x.readable = true ∧ x.sorted = x := by
  rw [ofRelaxedText?_compact, Option.ite_none_right_eq_some, Option.some_inj]

end LogQuery.Json

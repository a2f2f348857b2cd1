import LogQuery.Proofs.Filter.RoundTrip
import LogQuery.Proofs.Filter.Single
import LogQuery.Proofs.Instant.Offset

/-!
# Proofs.Filter.Dates — dates that are written and read again

A text beside a field that holds dates is read as an instant, unless it is matched with as a pattern. The
instant is written as UTC, while the text may name an offset. So the reader accepts dates that it does not
accept again: those that the offset moves out of the years `0` to `9999`, by one day at most.

* `read_beside_dates_iff`: what a text beside a field that holds dates is read as.
* `read_date_iff`, `read_pattern`: what that is read as again.
* `date_canonical_reread`: which dates are read again, alone and in a comparison.
-/

namespace LogQuery.Filter

section

variable {r : Reader} {f : FieldRef} {op : Comparator} {l l' : Literal} {s : String}

/-! ## A text beside a field that holds dates -/

/-- Dates have an order, and a pattern arises only where it is matched with. -/
theorem allowed_against (swapped : Bool) (hf : f.type = .date) (h : Typed f op (.text s) l') :
    Allowed ((Operand.field f).against op l' swapped).left ((Operand.field f).against op l' swapped).op
      ((Operand.field f).against op l' swapped).right := by
  have hpattern : (Operand.literal l').isPattern = true → op = .matches := by
    intro hl
    cases h with
    | pattern hmatches => exact hmatches
    | date => exact Bool.noConfusion hl
    | plain => exact Bool.noConfusion hl
  have hordered : ∀ subject ∈ (Operand.field f).subject?, subject.2.isOrdered = true := by
    intro subject hsubject
    obtain rfl : (f.name, f.type) = subject := Option.some.inj hsubject
    exact congrArg FieldType.isOrdered hf
  have hfield : (Operand.field f).isPattern ≠ true := Bool.false_ne_true
  cases swapped with
  | false => exact ⟨fun hp => .inr (.inr (hpattern (hp.resolve_left hfield))), fun _ => hordered⟩
  | true =>
    refine ⟨fun hp => .inr (.inr ((mirrored_eq_matches op).mpr ?_)), fun _ => hordered⟩
    exact hpattern (hp.resolve_right hfield)

theorem names_against (swapped : Bool) (hf : r.Says op (.field f))
    (hl : ∀ op', (op' = .matches ↔ op = .matches) → r.Says op' (.literal l)) :
    r.Names (.comparison ((Operand.field f).against op l swapped)) := by
  cases swapped with
  | false => exact ⟨hf, hl op Iff.rfl⟩
  | true => exact ⟨hl op.mirrored (mirrored_eq_matches op), hf⟩

/-- A constant that is written as a text is read as a pattern that is matched with, or else as a date. -/
theorem read_beside_dates_iff (swapped : Bool) (hf : f.type = .date)
    (hnames : r.Names (.comparison ((Operand.field f).against op l swapped))) (hl : l.untyped op = .text s)
    {t : Node} : r.read (single ((Operand.field f).against op l swapped)).canonical = .ok t ↔
      ∃ l', Typed f op (.text s) l' ∧ t = single ((Operand.field f).against op l' swapped) := by
  rw [read_against_iff (fun l => Operand.noConfusion) swapped hnames, hl]
  constructor
  · rintro ⟨l', htyped, -, rfl⟩
    exact ⟨l', htyped, rfl⟩
  · rintro ⟨l', htyped, rfl⟩
    exact ⟨l', htyped, allowed_against swapped hf htyped, rfl⟩

/-- A date is read again if its canonical text is. -/
theorem read_date_iff (swapped : Bool) (hf : f.type = .date) (hnamed : r.Says op (.field f))
    (hop : op ≠ .matches) (d : Instant) {t : Node} :
    r.read (single ((Operand.field f).against op (.date d) swapped)).canonical = .ok t ↔
      ∃ d', Instant.ofText? d.canonical = some d' ∧
        t = single ((Operand.field f).against op (.date d') swapped) := by
  have hnames : r.Names (.comparison ((Operand.field f).against op (.date d) swapped)) :=
    names_against swapped hnamed fun _ _ => trivial
  rw [read_beside_dates_iff swapped hf hnames rfl]
  constructor
  · rintro ⟨l', h, rfl⟩
    cases h with
    | pattern hmatches => exact absurd hmatches hop
    | date _ _ hd => exact ⟨_, hd, rfl⟩
    | plain hplain => exact absurd hf (hplain _ rfl).2
  · rintro ⟨d', hd, rfl⟩
    exact ⟨.date d', .date hop hf hd, rfl⟩

/-- A pattern that is matched with is written as the text that it was read from. -/
theorem read_pattern (swapped : Bool) (hf : f.type = .date) (hnamed : r.Says .matches (.field f)) {p : Pattern}
    (hp : Pattern.ofSource? s = some p) :
    r.read (single ((Operand.field f).against .matches (.pattern p) swapped)).canonical =
      .ok (single ((Operand.field f).against .matches (.pattern p) swapped)) := by
  obtain ⟨rfl, hvalid⟩ := ofSource?_eq_some_iff.mp hp
  have hnames : r.Names (.comparison ((Operand.field f).against .matches (.pattern p) swapped)) :=
    names_against swapped hnamed fun _ hop => ⟨hvalid, .inl (hop.mpr rfl)⟩
  have huntyped : (Literal.pattern p).untyped .matches = .text p.source := by rw [Literal.untyped, if_pos rfl]
  exact (read_beside_dates_iff swapped hf hnames huntyped).mpr ⟨_, .pattern rfl hp, rfl⟩

end

/-! ## Reading dates again -/

/-- **Which dates are read again.** Of the dates that are read, those of the years `0` to `9999` are read from
their canonical text as the same instant, whatever offset, fraction or leap second the first text has. All
others are the last day of the year `-1` and the first day of the year `10000`, and their canonical text is
not read. A comparison of the text with a field that holds dates, on either side, is read, and what it is read
as is read again, as the same tree, under the same condition; and in every case where the text is matched with
as a pattern. -/
theorem date_canonical_reread {s : String} {d : Instant} (h : Instant.ofText? s = some d) :
    (Instant.ofText? d.canonical = if 0 ≤ d.date.year ∧ d.date.year ≤ 9999 then some d else none) ∧
    ((0 ≤ d.date.year ∧ d.date.year ≤ 9999) ∨ (d.date.year = -1 ∧ d.date.month = 12 ∧ d.date.day = 31) ∨
      (d.date.year = 10000 ∧ d.date.month = 1 ∧ d.date.day = 1)) ∧
    ∀ (r : Reader) f op swapped, f.type = .date → r.Says op (.field f) →
      (op ≠ .matches → r.read (single ((Operand.field f).against op (.text s) swapped)).canonical =
        .ok (single ((Operand.field f).against op (.date d) swapped))) ∧
      ∀ t, r.read (single ((Operand.field f).against op (.text s) swapped)).canonical = .ok t →
        ((∃ t', r.read t.canonical = .ok t') ↔ op = .matches ∨ (0 ≤ d.date.year ∧ d.date.year ≤ 9999)) ∧
        ∀ t', r.read t.canonical = .ok t' → t' = t := by
  have hcanonical := Instant.ofText?_canonical_ite d
  refine ⟨hcanonical, Instant.date_of_ofText? h, fun r f op swapped hf hnamed => ?_⟩
  have hnames : r.Names (.comparison ((Operand.field f).against op (.text s) swapped)) :=
    names_against swapped hnamed fun _ _ => trivial
  have hread := fun t => read_beside_dates_iff (t := t) swapped hf hnames rfl
  refine ⟨fun hop => (hread _).mpr ⟨_, .date hop hf h, rfl⟩, fun t ht => ?_⟩
  obtain ⟨l', htyped, rfl⟩ := (hread t).mp ht
  cases htyped with
  | pattern hop hp =>
    subst hop
    have hagain := read_pattern swapped hf hnamed hp
    refine ⟨iff_of_true ⟨_, hagain⟩ (.inl rfl), fun t' ht' => ?_⟩
    exact Except.ok.inj (ht'.symm.trans hagain)
  | date hop _ hd =>
    obtain rfl := Option.some.inj (h.symm.trans hd)
    have hagain : ∀ t', r.read (single ((Operand.field f).against op (.date d) swapped)).canonical = .ok t' ↔
        (0 ≤ d.date.year ∧ d.date.year ≤ 9999) ∧ t' = single ((Operand.field f).against op (.date d) swapped) := by
      intro t'
      simp [read_date_iff swapped hf hnamed hop, hcanonical, and_assoc]
    refine ⟨⟨?_, ?_⟩, fun t' ht' => ((hagain t').mp ht').2⟩
    · rintro ⟨t', ht'⟩
      exact .inr ((hagain t').mp ht').1
    · intro hyear
      exact ⟨_, (hagain _).mpr ⟨hyear.resolve_left hop, rfl⟩⟩
  | plain hplain => exact absurd hf (hplain _ rfl).2

/-- The middle of the leap second at the end of the year 2016. -/
def leapSecond : Instant := ⟨⟨2016, 12, 31, by decide⟩, 86399, 1500000000, by decide⟩

theorem date_canonical_reread_leapSecond :
    let r := Reader.mk dateCatalog none 64
    let t := single ((Operand.field ⟨"at", .date⟩).against .less (.date leapSecond) true)
    Instant.ofText? "2016-12-31T18:59:60.5-05:00" = some leapSecond ∧
      leapSecond.canonical = "2016-12-31T23:59:60.500Z" ∧
      Instant.ofText? leapSecond.canonical = some leapSecond ∧
      r.read "\"2016-12-31T18:59:60.5-05:00\" > at" = .ok t ∧ r.read t.canonical = .ok t := by
  intro r t
  have hdate : Instant.ofText? "2016-12-31T18:59:60.5-05:00" = some leapSecond := by cbv
  have hyear : 0 ≤ leapSecond.date.year ∧ leapSecond.date.year ≤ 9999 := by decide
  have hname : IsWord "at" := ⟨⟨'a', ['t'], rfl, by decide, List.forall_mem_singleton.mpr (by cbv)⟩, by cbv⟩
  obtain ⟨hcanonical, -, hread⟩ := date_canonical_reread hdate
  obtain ⟨htext, hagain⟩ := hread r ⟨"at", .date⟩ .less true rfl ⟨hname, rfl⟩
  have ht := htext (by decide)
  obtain ⟨t', ht'⟩ := (hagain t ht).1.mpr (.inr hyear)
  obtain rfl := (hagain t ht).2 t' ht'
  have hspelled : (single ((Operand.field ⟨"at", .date⟩).against .less (.text "2016-12-31T18:59:60.5-05:00")
      true)).canonical = "\"2016-12-31T18:59:60.5-05:00\" > at" := by cbv
  exact ⟨hdate, by cbv, hcanonical.trans (if_pos hyear), hspelled ▸ ht, ht'⟩

/-- An hour before the year `0`. -/
def beforeYearZero : Instant := ⟨⟨-1, 12, 31, by decide⟩, 82800, 0, by decide⟩

/-- A leap second at the end of the first minute of the year `10000`. -/
def afterYear9999 : Instant := ⟨⟨10000, 1, 1, by decide⟩, 59, 1000000000, by decide⟩

/-- At both ends of the years `0` to `9999` an offset leads to a date that is written with a sign. -/
theorem date_canonical_outer_days :
    let r := Reader.mk dateCatalog none 64
    let t := single ⟨.field ⟨"at", .date⟩, .equal, .literal (.date beforeYearZero)⟩
    Instant.ofText? "0000-01-01T00:00:00+01:00" = some beforeYearZero ∧
      Instant.ofText? beforeYearZero.canonical = none ∧
      Instant.ofText? "9999-12-31T23:59:60-00:01" = some afterYear9999 ∧
      Instant.ofText? afterYear9999.canonical = none ∧
      r.read "at == \"0000-01-01T00:00:00+01:00\"" = .ok t ∧
      t.canonical = "at == \"-0001-12-31T23:00:00Z\"" ∧
      r.read "at == \"-0001-12-31T23:00:00Z\"" = .error (.invalidValue "at"
        ("\"-0001-12-31T23:00:00Z\" is not a date in the canonical format " ++ dateFormat)) ∧
      ¬ ∀ s d, Instant.ofText? s = some d → Instant.ofText? d.canonical = some d := by
  intro r t
  have hbefore : Instant.ofText? "0000-01-01T00:00:00+01:00" = some beforeYearZero := by cbv
  have hnone : Instant.ofText? beforeYearZero.canonical = none := by cbv
  refine ⟨hbefore, hnone, by cbv, by cbv, by cbv, by cbv, by cbv, fun h => ?_⟩
  exact Option.some_ne_none beforeYearZero ((h _ _ hbefore).symm.trans hnone)

end LogQuery.Filter

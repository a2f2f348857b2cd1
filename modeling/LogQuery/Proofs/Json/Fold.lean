import LogQuery.Json
import Mathlib

/-!
# Proofs.Json.Fold — induction and recursion over values

A value is a tree whose nodes are lists and objects. A function on values that depends on the parts of a node
only through their results is a fold, and what is said of it is said for scalars, lists and objects.

* `induct`: what holds of scalars, and of lists and objects if it holds of their parts, holds of all values.
* `fold`: the recursion, with an equation for each kind of value.
* `tight`, `chars_tight`: the text without white space is a fold, whatever the depth.
-/

namespace LogQuery.Json

/-! ## Induction -/

/-- Whether the value is neither a list nor an object. -/
def isScalar : Json → Bool
  | .array _ => false
  | .object _ => false
  | _ => true

@[elab_as_elim]
theorem induct {P : Json → Prop} (scalar : ∀ x, x.isScalar = true → P x)
    (array : ∀ items, (∀ x ∈ items, P x) → P (.array items))
    (object : ∀ members : List (String × Json), (∀ m ∈ members, P m.2) → P (.object members)) (x : Json) :
    P x := by
  -- the last three statements are about lists of items, lists of members, and members
  refine @Json.rec P (fun items => ∀ x ∈ items, P x) (fun members => ∀ m ∈ members, P m.2) (fun m => P m.2)
    (scalar _ rfl) (fun _ => scalar _ rfl) (fun _ => scalar _ rfl) (fun _ _ => scalar _ rfl)
    (fun _ => scalar _ rfl) array object ?_ ?_ ?_ ?_ (fun _ _ ih => ih) x
  · intro y hy
    exact absurd hy List.not_mem_nil
  · intro y rest hfirst hrest z hz
    rcases List.mem_cons.mp hz with rfl | hz
    exacts [hfirst, hrest z hz]
  · intro m hm
    exact absurd hm List.not_mem_nil
  · intro m rest hfirst hrest z hz
    rcases List.mem_cons.mp hz with rfl | hz
    exacts [hfirst, hrest z hz]

/-! ## Recursion -/

section

variable {β : Type} (scalar : Json → β) (array : List β → β) (object : List (String × β) → β)

mutual

/-- The result of a value from the results of its parts. -/
def fold : Json → β
  | .array items => array (foldItems items)
  | .object members => object (foldMembers members)
  | x => scalar x

/-- The results of the items of a list. -/
def foldItems : List Json → List β
  | [] => []
  | x :: rest => fold x :: foldItems rest

/-- The results of the members of an object, under their keys. -/
def foldMembers : List (String × Json) → List (String × β)
  | [] => []
  | (key, x) :: rest => (key, fold x) :: foldMembers rest

end

theorem fold_scalar {x : Json} (hx : x.isScalar = true) : fold scalar array object x = scalar x := by
  cases x with
  | array | object => exact nomatch hx
  | null | boolean | integer | real | text => rfl

theorem fold_array (items : List Json) :
    fold scalar array object (.array items) = array (items.map (fold scalar array object)) := by
  have hitems : foldItems scalar array object items = items.map (fold scalar array object) := by
    induction items with
    | nil => rw [foldItems, List.map_nil]
    | cons x rest ih => rw [foldItems, ih, List.map_cons]
  rw [fold, hitems]

theorem fold_object (members : List (String × Json)) :
    fold scalar array object (.object members) =
      object (members.map fun m => (m.1, fold scalar array object m.2)) := by
  have hmembers : foldMembers scalar array object members =
      members.map fun m => (m.1, fold scalar array object m.2) := by
    induction members with
    | nil => rw [foldMembers, List.map_nil]
    | cons m rest ih => rw [foldMembers, ih, List.map_cons]
  rw [fold, hmembers]

end

/-! ## The text without white space -/

/-- Parts with commas between them. -/
def commas (parts : List (List Char)) : List Char := [','].intercalate parts

theorem commas_cons_cons (p q : List Char) (parts : List (List Char)) :
    commas (p :: q :: parts) = p ++ ',' :: commas (q :: parts) := by
  simp [commas]

theorem commas_cons (p : List Char) (parts : List (List Char)) :
    commas (p :: parts) = p ++ parts.flatMap (',' :: ·) := by
  induction parts generalizing p with
  | nil => simp [commas]
  | cons q parts ih => rw [commas_cons_cons, ih, List.flatMap_cons, List.cons_append]

theorem sum_length_le_commas (parts : List (List Char)) :
    (parts.map List.length).sum ≤ (commas parts).length := by
  cases parts with
  | nil => exact Nat.zero_le _
  | cons p parts =>
    rw [commas_cons]
    simp [List.length_flatMap]

theorem length_le_commas_of_mem {p : List Char} {parts : List (List Char)} (h : p ∈ parts) :
    p.length ≤ (commas parts).length :=
  (List.le_sum_of_mem (List.mem_map_of_mem h)).trans (sum_length_le_commas parts)

theorem length_le_commas {parts : List (List Char)} (h : ∀ p ∈ parts, p ≠ []) :
    parts.length ≤ (commas parts).length := by
  have hone : ∀ n ∈ parts.map List.length, 1 ≤ n := by
    intro n hn
    obtain ⟨p, hp, rfl⟩ := List.mem_map.mp hn
    exact List.length_pos_iff.mpr (h p hp)
  have hle := List.length_le_sum_of_one_le _ hone
  rw [List.length_map] at hle
  exact hle.trans (sum_length_le_commas parts)

/-- The text of a value without white space. -/
def tight : Json → List Char :=
  fold (chars .tight 0) (fun items => '[' :: commas items ++ [']'])
    (fun members => '{' :: commas (members.map fun m => quoted m.1 ++ ':' :: m.2) ++ ['}'])

/-- The text of a member without white space. -/
def tightMember (m : String × Json) : List Char := quoted m.1 ++ ':' :: m.2.tight

theorem tight_scalar {x : Json} (hx : x.isScalar = true) : x.tight = x.chars .tight 0 :=
  fold_scalar _ _ _ hx

theorem tight_array (items : List Json) :
    (array items).tight = '[' :: commas (items.map tight) ++ [']'] :=
  fold_array _ _ _ items

theorem tight_object (members : List (String × Json)) :
    (object members).tight = '{' :: commas (members.map tightMember) ++ ['}'] := by
  refine (fold_object _ _ _ members).trans ?_
  rw [List.map_map]
  rfl

theorem moreItems_tight {items : List Json} (h : ∀ x ∈ items, ∀ depth, x.chars .tight depth = x.tight)
    (depth : ℕ) : moreItems .tight depth items = (items.map tight).flatMap (',' :: ·) := by
  induction items with
  | nil => rw [moreItems]; rfl
  | cons x rest ih =>
    rw [moreItems, h x List.mem_cons_self, ih fun y hy => h y (List.mem_cons_of_mem x hy)]
    simp [Layout.lineBreak]

theorem moreMembers_tight {members : List (String × Json)}
    (h : ∀ m ∈ members, ∀ depth, m.2.chars .tight depth = m.2.tight) (depth : ℕ) :
    moreMembers .tight depth members = (members.map tightMember).flatMap (',' :: ·) := by
  induction members with
  | nil => rw [moreMembers]; rfl
  | cons m rest ih =>
    rw [moreMembers, h m List.mem_cons_self, ih fun n hn => h n (List.mem_cons_of_mem m hn)]
    simp [Layout.lineBreak, Layout.colon, tightMember]

/-- The depth makes no difference where no lines are broken. -/
theorem chars_tight (x : Json) : ∀ depth, x.chars .tight depth = x.tight := by
  induction x using induct with
  | scalar x hx =>
    intro depth
    rw [tight_scalar hx]
    cases x with
    | array | object => exact nomatch hx
    | null | boolean | integer | real | text => rw [chars, chars]
  | array items ih =>
    intro depth
    rw [tight_array, chars]
    cases items with
    | nil => rw [itemsChars]; rfl
    | cons x rest =>
      have hrest : ∀ y ∈ rest, ∀ depth, y.chars .tight depth = y.tight :=
        fun y hy => ih y (List.mem_cons_of_mem x hy)
      rw [itemsChars, ih x List.mem_cons_self, moreItems_tight hrest, List.map_cons, commas_cons]
      rfl
  | object members ih =>
    intro depth
    rw [tight_object, chars]
    cases members with
    | nil => rw [membersChars]; rfl
    | cons m rest =>
      have hrest : ∀ n ∈ rest, ∀ depth, n.2.chars .tight depth = n.2.tight :=
        fun n hn => ih n (List.mem_cons_of_mem m hn)
      rw [membersChars, ih m List.mem_cons_self, moreMembers_tight hrest, List.map_cons, commas_cons]
      simp [Layout.lineBreak, Layout.colon, tightMember]

theorem toList_compact (x : Json) : x.compact.toList = x.tight := by
  rw [compact, String.toList_ofList, chars_tight]

end LogQuery.Json

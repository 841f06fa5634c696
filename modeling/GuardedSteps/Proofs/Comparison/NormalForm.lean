import GuardedSteps.Value.Text
import Mathlib

/-!
Normal forms. The normal form of a value keeps what a comparison without flags looks at: the number that
a value stands for without the sign of a zero, the plain text of what is no number, the forms of the
elements without their order, and the form of the value of each key.
-/

namespace GuardedSteps

namespace Number

/-! ## The sign of zero -/

def unsignedZero (x : Float) : Float := if x == 0.0 then 0.0 else x

theorem beq_zero_iff {x : Float} : (x == 0.0) = true ↔ x = 0.0 ∨ x = -0.0 := by
  rw [Float.beq_iff_ne_nan_and_eq]
  constructor
  · rintro ⟨-, -, same | ⟨same, -⟩ | ⟨same, -⟩⟩
    · exact .inl same
    · exact .inl same
    · exact .inr same
  · intro zero
    have compared : (x == 0.0) = true := by rcases zero with rfl | rfl <;> decide +kernel
    exact Float.beq_iff_ne_nan_and_eq.mp compared

/-- Doubles are equal as numbers when they are the same but for the sign of a zero. -/
theorem beq_iff_unsignedZero_eq {x y : Float} (number : x.isNaN = false) :
    (x == y) = true ↔ unsignedZero x = unsignedZero y := by
  have zero : (0.0 == (0.0 : Float)) = true := by decide +kernel
  constructor
  · intro equal
    rcases Float.beq_iff_ne_nan_and_eq.mp equal with ⟨-, -, rfl | ⟨rfl, rfl⟩ | ⟨rfl, rfl⟩⟩
    · rfl
    · rfl
    · rfl
  · unfold unsignedZero
    split
    · next zeroX =>
      split
      · next zeroY =>
        intro _
        rcases beq_zero_iff.mp zeroX with rfl | rfl
        · rcases beq_zero_iff.mp zeroY with rfl | rfl <;> decide +kernel
        · rcases beq_zero_iff.mp zeroY with rfl | rfl <;> decide +kernel
      · next nonzero =>
        rintro rfl
        exact absurd zero nonzero
    · next nonzero =>
      split
      · rintro rfl
        exact absurd zero nonzero
      · rintro rfl
        simpa using number

end Number

namespace Comparison

/-! ## Rows without their order -/

/-- One row that stands for all the orders of a row. -/
noncomputable def unordered {α : Type} (row : List α) : List α := (Multiset.ofList row).toList

theorem unordered_eq_iff {α : Type} {row other : List α} :
    unordered row = unordered other ↔ row.Perm other := by
  constructor
  · intro same
    have forgotten := congrArg Multiset.ofList same
    rw [unordered, unordered, Multiset.coe_toList, Multiset.coe_toList] at forgotten
    exact Multiset.coe_eq_coe.mp forgotten
  · intro same
    rw [unordered, Multiset.coe_eq_coe.mpr same, unordered]

/-! ## Forms -/

inductive Form
  | number (value : Float)
  | text (text : String)
  | elements (forms : List Form)
  | entries (values : String → Option Form)

/-- The form of a value without parts. Blanks around a text count unless it is expected. -/
def scalarForm (expected : Bool) (value : Value) : Form :=
  match value.asNumber with
  | .ok (some x) => .number (Number.unsignedZero x)
  | _ => .text (if expected then Text.trimmed value.plain else value.plain)

mutual
/-- The normal form of a value on one of the two sides of a comparison. -/
noncomputable def form (expected : Bool) : Value → Form
  | .collection _ items => .elements (unordered (formsOf expected items))
  | .mapping entries => .entries (formAt expected entries)
  | value => scalarForm expected value

noncomputable def formsOf (expected : Bool) : List Value → List Form
  | [] => []
  | item :: rest => form expected item :: formsOf expected rest

noncomputable def formAt (expected : Bool) : List (Value × Value) → String → Option Form
  | [], _ => none
  | (key, value) :: rest, name =>
    if Value.sameKey key (.text name) then some (form expected value) else formAt expected rest name
end

/-! ## The forms of values without parts -/

def IsScalar : Value → Prop
  | .collection _ _ | .mapping _ => False
  | _ => True

theorem form_scalar {value : Value} (isScalar : IsScalar value) (expected : Bool) :
    form expected value = scalarForm expected value := by
  cases value with
  | collection => exact isScalar.elim
  | mapping => exact isScalar.elim
  | _ => rw [form] <;> simp

theorem scalarForm_ne_elements {expected : Bool} {value : Value} {forms : List Form} :
    scalarForm expected value ≠ .elements forms := by
  unfold scalarForm
  split <;> simp

theorem scalarForm_ne_entries {expected : Bool} {value : Value} {values : String → Option Form} :
    scalarForm expected value ≠ .entries values := by
  unfold scalarForm
  split <;> simp

/-! ## The forms of values with parts -/

theorem formsOf_eq_map (expected : Bool) (items : List Value) :
    formsOf expected items = items.map (form expected) := by
  induction items with
  | nil => rfl
  | cons item rest induction => rw [formsOf, induction, List.map_cons]

theorem form_collection_eq_iff {shape other : Shape} {items others : List Value} :
    form false (.collection shape items) = form true (.collection other others) ↔
      (items.map (form false)).Perm (others.map (form true)) := by
  rw [form, form, Form.elements.injEq, unordered_eq_iff, formsOf_eq_map, formsOf_eq_map]

def keyed (entries : List (String × Value)) : List (Value × Value) :=
  entries.map fun entry => (.text entry.1, entry.2)

theorem forall_mem_keyed {property : Value × Value → Prop} {entries : List (String × Value)} :
    (∀ entry ∈ keyed entries, property entry) ↔ ∀ entry ∈ entries, property (.text entry.1, entry.2) :=
  List.forall_mem_map

theorem sameKey_text {name other : String} : Value.sameKey (.text name) (.text other) = (other == name) := by
  rw [Value.sameKey, Bool.eq_iff_iff, beq_iff_eq, beq_iff_eq, eq_comm]

theorem lookup_of_mem {entries : List (String × Value)} (distinct : (entries.map (·.1)).Nodup)
    {entry : String × Value} (member : entry ∈ entries) : entries.lookup entry.1 = some entry.2 := by
  induction entries with
  | nil => cases member
  | cons first rest induction =>
      rcases List.nodup_cons.mp distinct with ⟨new, others⟩
      rw [List.lookup_cons]
      rcases List.mem_cons.mp member with rfl | inside
      · simp
      · have different : (entry.1 == first.1) = false := by
          rw [beq_eq_false_iff_ne]
          intro same
          exact new (List.mem_map.mpr ⟨entry, inside, same⟩)
        rw [different]
        exact induction others inside

theorem mem_of_lookup {entries : List (String × Value)} {name : String} {value : Value}
    (found : entries.lookup name = some value) : (name, value) ∈ entries := by
  rcases List.lookup_eq_some_iff.mp found with ⟨before, behind, rfl, -⟩
  simp

theorem entryAt?_keyed (entries : List (String × Value)) (name : String) :
    Value.entryAt? (keyed entries) (.text name) =
      (entries.lookup name).map fun value => (.text name, value) := by
  unfold Value.entryAt? keyed
  induction entries with
  | nil => rfl
  | cons entry rest induction =>
      rcases entry with ⟨key, value⟩
      rw [List.map_cons, List.find?_cons, List.lookup_cons, sameKey_text]
      cases same : name == key with
      | true =>
          rw [beq_iff_eq.mp same]
          rfl
      | false => exact induction

theorem formAt_keyed (expected : Bool) (entries : List (String × Value)) (name : String) :
    formAt expected (keyed entries) name = (entries.lookup name).map (form expected) := by
  induction entries with
  | nil => rfl
  | cons entry rest induction =>
      rcases entry with ⟨key, value⟩
      change (if _ then _ else formAt expected (keyed rest) name) = _
      rw [induction, List.lookup_cons, sameKey_text]
      cases name == key with
      | true => rfl
      | false => rfl

theorem form_mapping_eq_iff {entries others : List (String × Value)} :
    form false (.mapping (keyed entries)) = form true (.mapping (keyed others)) ↔
      ∀ name, (entries.lookup name).map (form false) = (others.lookup name).map (form true) := by
  rw [form, form, Form.entries.injEq, funext_iff]
  simp only [formAt_keyed]

end Comparison

end GuardedSteps

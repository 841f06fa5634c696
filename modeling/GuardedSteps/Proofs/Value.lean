import GuardedSteps.Value.Basic

/-!
Induction on the parts of a value. What holds of a value whenever it holds of its elements, of the
values of its entries and of its fields, holds of every value.
-/

namespace GuardedSteps

namespace Value

theorem sizeOf_lt_of_mem_pairs {κ : Type} [SizeOf κ] {pairs : List (κ × Value)} {pair : κ × Value}
    (member : pair ∈ pairs) : sizeOf pair.2 < sizeOf pairs := by
  have inside := List.sizeOf_lt_of_mem member
  rcases pair with ⟨label, value⟩
  rw [Prod.mk.sizeOf_spec] at inside
  change sizeOf value < sizeOf pairs
  omega

@[elab_as_elim]
theorem byParts {motive : Value → Prop} (null : motive .null) (flag : ∀ value, motive (.flag value))
    (integer : ∀ value, motive (.integer value)) (double : ∀ value, motive (.double value))
    (text : ∀ value, motive (.text value)) (bytes : ∀ values, motive (.bytes values))
    (collection : ∀ shape items, (∀ item ∈ items, motive item) → motive (.collection shape items))
    (mapping : ∀ entries, (∀ entry ∈ entries, motive entry.2) → motive (.mapping entries))
    (object : ∀ fields, (∀ field ∈ fields, motive field.2) → motive (.object fields)) :
    (value : Value) → motive value
  | .null => null
  | .flag value => flag value
  | .integer value => integer value
  | .double value => double value
  | .text value => text value
  | .bytes values => bytes values
  | .collection shape items => collection shape items fun item _ =>
    byParts null flag integer double text bytes collection mapping object item
  | .mapping entries => mapping entries fun entry _ =>
    byParts null flag integer double text bytes collection mapping object entry.2
  | .object fields => object fields fun field _ =>
    byParts null flag integer double text bytes collection mapping object field.2
termination_by value => sizeOf value
decreasing_by
  · have smaller := List.sizeOf_lt_of_mem ‹_ ∈ items›
    rw [Value.collection.sizeOf_spec]
    omega
  · have smaller := sizeOf_lt_of_mem_pairs ‹_ ∈ entries›
    rw [Value.mapping.sizeOf_spec]
    omega
  · have smaller := sizeOf_lt_of_mem_pairs ‹_ ∈ fields›
    rw [Value.object.sizeOf_spec]
    omega

end Value

end GuardedSteps

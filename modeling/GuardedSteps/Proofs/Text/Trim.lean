import GuardedSteps.Text.Blank

/-!
Trimming. What is trimmed of a text are the blanks at both its ends, and nothing else.
-/

namespace GuardedSteps

namespace Text

theorem dropWhile_isBlank {cs : List Char} (front : ∀ c ∈ cs.head?, isBlank c = false) :
    cs.dropWhile isBlank = cs := by
  cases cs with
  | nil => rfl
  | cons c rest =>
      have solid : isBlank c = false := front c rfl
      simp [solid]

theorem trim_eq_self {cs : List Char} (front : ∀ c ∈ cs.head?, isBlank c = false)
    (back : ∀ c ∈ cs.getLast?, isBlank c = false) : trim cs = cs := by
  have back : ∀ c ∈ cs.reverse.head?, isBlank c = false := by simpa using back
  unfold trim trimStart trimEnd
  rw [dropWhile_isBlank front, dropWhile_isBlank back, List.reverse_reverse]

/-- One text is another without the blanks at both ends. -/
structure Stripped (cs part : List Char) : Prop where
  around : ∃ left right, cs = left ++ part ++ right ∧
    (∀ c ∈ left, isBlank c = true) ∧ ∀ c ∈ right, isBlank c = true
  front : ∀ c ∈ part.head?, isBlank c = false
  back : ∀ c ∈ part.getLast?, isBlank c = false

theorem front_of_trimStart {cs : List Char} {c : Char} (first : c ∈ (trimStart cs).head?) :
    isBlank c = false := by
  have solid := List.head?_dropWhile_not isBlank cs
  rw [trimStart, Option.mem_def] at first
  simpa [first] using solid

theorem trimStart_append (cs : List Char) :
    ∃ left, cs = left ++ trimStart cs ∧ ∀ c ∈ left, isBlank c = true :=
  ⟨cs.takeWhile isBlank, List.takeWhile_append_dropWhile.symm, fun _ member =>
    List.all_eq_true.mp List.all_takeWhile _ member⟩

theorem trimEnd_eq (cs : List Char) : trimEnd cs = (trimStart cs.reverse).reverse := rfl

theorem trimEnd_append (cs : List Char) :
    ∃ right, cs = trimEnd cs ++ right ∧ ∀ c ∈ right, isBlank c = true := by
  rcases trimStart_append cs.reverse with ⟨left, whole, blank⟩
  refine ⟨left.reverse, ?_, by simpa using blank⟩
  have reversed := congrArg List.reverse whole
  simpa [trimEnd_eq] using reversed

theorem stripped_trim (cs : List Char) : Stripped cs (trim cs) := by
  rcases trimStart_append cs with ⟨left, whole, leftBlank⟩
  rcases trimEnd_append (trimStart cs) with ⟨right, kept, rightBlank⟩
  constructor
  · refine ⟨left, right, ?_, leftBlank, rightBlank⟩
    rw [trim, List.append_assoc, ← kept, ← whole]
  · intro c first
    have kept : (trimStart cs).head? = some c := by
      rw [kept, List.head?_append]
      exact Option.or_eq_some_iff.mpr (.inl first)
    exact front_of_trimStart kept
  · intro c last
    have last : c ∈ (trimStart (trimStart cs).reverse).head? := by
      simpa [trim, trimEnd_eq] using last
    exact front_of_trimStart last

theorem exists_trim_cons {c : Char} {rest : List Char} (solid : isBlank c = false) :
    ∃ others, trim (c :: rest) = c :: others := by
  have start : trimStart (c :: rest) = c :: rest := dropWhile_isBlank (by simpa using solid)
  rcases trimEnd_append (c :: rest) with ⟨right, kept, blank⟩
  rw [trim, start]
  cases front : trimEnd (c :: rest) with
  | nil =>
      rw [front, List.nil_append] at kept
      cases (blank c (kept ▸ List.mem_cons_self)).symm.trans solid
  | cons first others =>
      rw [front] at kept
      cases kept
      exact ⟨others, rfl⟩

/-! A blank at either end is trimmed away, whatever the rest is. -/

theorem trim_cons_of_blank {c : Char} (blank : isBlank c = true) (cs : List Char) :
    trim (c :: cs) = trim cs := by
  have start : trimStart (c :: cs) = trimStart cs := by simp [trimStart, blank]
  rw [trim, trim, start]

theorem trim_concat_of_blank {c : Char} (blank : isBlank c = true) (cs : List Char) :
    trim (cs ++ [c]) = trim cs := by
  have last (front : List Char) : trimEnd (front ++ [c]) = trimEnd front := by simp [trimEnd, blank]
  rw [trim, trimStart, List.dropWhile_append]
  split
  · next gone =>
    have empty : trimStart cs = [] := List.isEmpty_iff.mp gone
    simp [trim, empty, blank]
  · exact last (trimStart cs)

theorem trim_blank_append {left : List Char} (blank : ∀ c ∈ left, isBlank c = true) (cs : List Char) :
    trim (left ++ cs) = trim cs := by
  induction left with
  | nil => rfl
  | cons c left induction =>
      rw [List.cons_append, trim_cons_of_blank (blank c List.mem_cons_self)]
      exact induction fun d member => blank d (List.mem_cons_of_mem c member)

theorem trim_append_blank {right : List Char} (blank : ∀ c ∈ right, isBlank c = true) (cs : List Char) :
    trim (cs ++ right) = trim cs := by
  induction right generalizing cs with
  | nil => rw [List.append_nil]
  | cons c right induction =>
      have rest := induction (fun d member => blank d (List.mem_cons_of_mem c member)) (cs ++ [c])
      rw [List.append_cons, rest, trim_concat_of_blank (blank c List.mem_cons_self)]

/-- What is left without the blanks at both ends is what trimming leaves. -/
theorem Stripped.trim_eq {cs part : List Char} (stripped : Stripped cs part) : trim cs = part := by
  rcases stripped.around with ⟨left, right, rfl, leftBlank, rightBlank⟩
  rw [trim_append_blank rightBlank, trim_blank_append leftBlank,
    trim_eq_self stripped.front stripped.back]

theorem trim_trim (cs : List Char) : trim (trim cs) = trim cs :=
  trim_eq_self (stripped_trim cs).front (stripped_trim cs).back

end Text

end GuardedSteps

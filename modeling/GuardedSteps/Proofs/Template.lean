import GuardedSteps.Proofs.Text.Trim
import GuardedSteps.Template
import Mathlib.Data.List.Forall2

/-!
Templates are filled in one pass. A template that is written as a row of texts without braces and of
placeholders is taken apart into just these, blanks inside the braces apart. So each placeholder gives
way to the plain text of its value, once: braces that a value brings in are never looked at again.
-/

namespace GuardedSteps

namespace Template

open Text

/-! ## Placeholders -/

theorem isBrace_of_isBlank {c : Char} (blank : isBlank c = true) : isBrace c = false := by
  have other : c ≠ '\x7b' ∧ c ≠ '\x7d' := by
    constructor <;> rintro rfl <;> revert blank <;> decide
  simp [isBrace, other]

theorem placeholder?_eq_some_iff {cs path behind : List Char} :
    placeholder? cs = some (path, behind) ↔ ∃ inner, inner ≠ [] ∧ (∀ c ∈ inner, isBrace c = false) ∧
      path = pathInside inner ∧ cs = opening ++ (inner ++ (closing ++ behind)) := by
  simp only [placeholder?, Option.bind_eq_bind, Option.bind_eq_some_iff, after?_eq_some_iff]
  constructor
  · rintro ⟨rest, rfl, rear, stop, found⟩
    split at found <;> simp only [Option.some.injEq, Prod.mk.injEq, reduceCtorEq] at found
    next something =>
      rcases found with ⟨rfl, rfl⟩
      have inside : ∀ c ∈ rest.takeWhile (!isBrace ·), isBrace c = false := fun c member => by
        simpa using List.all_eq_true.mp List.all_takeWhile c member
      refine ⟨rest.takeWhile (!isBrace ·), by simpa using something, inside, rfl, ?_⟩
      rw [← stop, List.takeWhile_append_dropWhile]
  · rintro ⟨inner, something, inside, rfl, rfl⟩
    have taken : (inner ++ (closing ++ behind)).takeWhile (!isBrace ·) = inner := by
      rw [List.takeWhile_append_of_pos (by simpa using inside)]
      simp [closing, isBrace]
    have left : (inner ++ (closing ++ behind)).dropWhile (!isBrace ·) = closing ++ behind := by
      rw [List.dropWhile_append_of_pos (by simpa using inside)]
      simp [closing, isBrace]
    exact ⟨_, rfl, behind, left, by simp [taken, something]⟩

theorem placeholder?_append {cs path behind : List Char}
    (found : placeholder? cs = some (path, behind)) (rest : List Char) :
    placeholder? (cs ++ rest) = some (path, behind ++ rest) := by
  rcases placeholder?_eq_some_iff.mp found with ⟨inner, something, inside, rfl, rfl⟩
  exact placeholder?_eq_some_iff.mpr ⟨inner, something, inside, rfl, by simp⟩

theorem placeholder?_cons {c : Char} (plain : isBrace c = false) (cs : List Char) :
    placeholder? (c :: cs) = none := by
  have other : '\x7b' ≠ c := by
    rintro rfl
    revert plain
    decide
  simp [placeholder?, opening, after?, other]

/-! ## Written templates -/

/-- A part of a template as it is written. -/
inductive Part
  | literal (text : List Char)
  /-- A name between double braces, with what surrounds it there. -/
  | placeholder (left name right : List Char)

namespace Part

def text : Part → List Char
  | literal text => text
  | placeholder left name right => opening ++ (left ++ name ++ right ++ closing)

/-- A literal has no braces. A placeholder has a name without braces and without blanks at its ends,
and nothing but blanks around it. -/
inductive Formed : Part → Prop
  | literal {text : List Char} (plain : ∀ c ∈ text, isBrace c = false) : Formed (.literal text)
  | placeholder {left name right : List Char} (leftBlank : ∀ c ∈ left, isBlank c = true)
      (rightBlank : ∀ c ∈ right, isBlank c = true) (named : name ≠ [])
      (plain : ∀ c ∈ name, isBrace c = false) (front : ∀ c ∈ name.head?, isBlank c = false)
      (back : ∀ c ∈ name.getLast?, isBlank c = false) : Formed (.placeholder left name right)

def pieces : Part → List Piece
  | literal text => text.map .literal
  | placeholder _ name _ => [.placeholder name]

/-- What stands in place of a part once it is filled: a literal as it is, and the plain text of the
value that a name leads to. -/
inductive FilledAs (bindings : Variables) : Part → List Char → Prop
  | literal (text : List Char) : FilledAs bindings (.literal text) text
  | placeholder {left name right : List Char} {value : Value} {text : String}
      (leads : bindings.getOrSelf (String.ofList name) = .ok value)
      (plain : value.asText = .ok text) :
      FilledAs bindings (.placeholder left name right) text.toList

theorem Formed.placeholder? {left name right : List Char}
    (formed : (Part.placeholder left name right).Formed) (behind : List Char) :
    Template.placeholder? ((Part.placeholder left name right).text ++ behind) = some (name, behind) := by
  cases formed with
  | placeholder leftBlank rightBlank named plain front back =>
      have kept : trim (left ++ name ++ right) = name :=
        Stripped.trim_eq ⟨⟨left, right, rfl, leftBlank, rightBlank⟩, front, back⟩
      refine placeholder?_eq_some_iff.mpr ⟨left ++ name ++ right, by simp [named], ?_, ?_, ?_⟩
      · intro c member
        simp only [List.mem_append] at member
        rcases member with (member | member) | member
        · exact isBrace_of_isBlank (leftBlank c member)
        · exact plain c member
        · exact isBrace_of_isBlank (rightBlank c member)
      · rw [pathInside, kept, if_neg (by simpa using named)]
      · simp [text]

end Part

/-! ## Taking a template apart -/

theorem pieces_cons {c : Char} (plain : isBrace c = false) (cs : List Char) :
    pieces (c :: cs) = .literal c :: pieces cs := by
  rw [pieces]
  split
  · next found => cases (placeholder?_cons plain cs).symm.trans found
  · rfl

theorem pieces_of_placeholder? {cs path behind : List Char}
    (found : placeholder? cs = some (path, behind)) :
    pieces cs = .placeholder path :: pieces behind := by
  rw [pieces]
  split
  · next other =>
    cases found.symm.trans other
    rfl
  · next none => cases found.symm.trans none

theorem pieces_plain_append {text : List Char} (plain : ∀ c ∈ text, isBrace c = false)
    (behind : List Char) :
    pieces (text ++ behind) = text.map .literal ++ pieces behind := by
  induction text with
  | nil => rfl
  | cons c text induction =>
      rw [List.cons_append, pieces_cons (plain c List.mem_cons_self),
        induction fun d member => plain d (List.mem_cons_of_mem c member)]
      rfl

theorem Part.Formed.pieces_append {part : Part} (formed : part.Formed) (behind : List Char) :
    Template.pieces (part.text ++ behind) = part.pieces ++ Template.pieces behind := by
  cases part with
  | literal text =>
      cases formed with
      | literal plain => exact pieces_plain_append plain behind
  | placeholder left name right => exact pieces_of_placeholder? (formed.placeholder? behind)

/-- A written template is read as its parts. -/
theorem pieces_written {parts : List Part} (formed : ∀ part ∈ parts, part.Formed) :
    pieces (parts.flatMap Part.text) = parts.flatMap Part.pieces := by
  induction parts with
  | nil => simp [pieces, placeholder?, opening, after?]
  | cons part parts induction =>
      have own := formed part List.mem_cons_self
      have rest := induction fun other member => formed other (List.mem_cons_of_mem part member)
      rw [List.flatMap_cons, own.pieces_append, rest, List.flatMap_cons]

/-! ## Filling -/

def FilledWith (bindings : Variables) (ps : List Piece) (text : List Char) : Prop :=
  ∃ rows, ps.mapM (fillPiece bindings) = .ok rows ∧ rows.flatten = text

theorem FilledWith.append {bindings : Variables} {ps others : List Piece} {text more : List Char}
    (filled : FilledWith bindings ps text) (behind : FilledWith bindings others more) :
    FilledWith bindings (ps ++ others) (text ++ more) := by
  rcases filled with ⟨rows, filled, rfl⟩
  rcases behind with ⟨others, behind, rfl⟩
  exact ⟨rows ++ others, by rw [List.mapM_append, filled, behind]; rfl, List.flatten_append⟩

theorem filledWith_literals (bindings : Variables) (text : List Char) :
    FilledWith bindings (text.map .literal) text := by
  induction text with
  | nil => exact ⟨[], rfl, rfl⟩
  | cons c text induction =>
      have one : FilledWith bindings [.literal c] [c] := ⟨[[c]], rfl, rfl⟩
      exact one.append induction

theorem plainText_of_asText {value : Value} {text : String} (plain : value.asText = .ok text) :
    plainText value = .ok text := by
  rw [plainText, plain]

theorem valueAt_of_leads {bindings : Variables} {name : List Char} {value : Value}
    (leads : bindings.getOrSelf (String.ofList name) = .ok value) :
    valueAt bindings name = .ok value := by
  rw [valueAt, leads]

theorem filledWith_placeholder {bindings : Variables} {name : List Char} {value : Value} {text : String}
    (leads : bindings.getOrSelf (String.ofList name) = .ok value) (plain : value.asText = .ok text) :
    FilledWith bindings [.placeholder name] text.toList := by
  have filled : fillPiece bindings (.placeholder name) = .ok text.toList := by
    rw [fillPiece, valueAt_of_leads leads]
    change (plainText value >>= fun text => pure text.toList) = _
    rw [plainText_of_asText plain]
    rfl
  exact ⟨[text.toList], by rw [List.mapM_cons, filled]; rfl, List.append_nil _⟩

theorem Part.FilledAs.pieces {bindings : Variables} {part : Part} {text : List Char}
    (filled : part.FilledAs bindings text) : FilledWith bindings part.pieces text := by
  cases filled with
  | literal => exact filledWith_literals bindings text
  | placeholder leads plain => exact filledWith_placeholder leads plain

theorem filledWith_parts {bindings : Variables} {parts : List Part} {texts : List (List Char)}
    (filled : List.Forall₂ (Part.FilledAs bindings) parts texts) :
    FilledWith bindings (parts.flatMap Part.pieces) texts.flatten := by
  induction filled with
  | nil => exact filledWith_literals bindings []
  | cons own _ induction => exact own.pieces.append induction

theorem fill_of_filledWith {bindings : Variables} {cs text : List Char}
    (filled : FilledWith bindings (pieces cs) text) : fill bindings cs = .ok (String.ofList text) := by
  rcases filled with ⟨rows, filled, rfl⟩
  rw [fill, filled]
  rfl

/-- A template of parts is filled with what its parts are filled with. -/
theorem fill_written {bindings : Variables} {parts : List Part} {texts : List (List Char)}
    (formed : ∀ part ∈ parts, part.Formed)
    (filled : List.Forall₂ (Part.FilledAs bindings) parts texts) :
    fill bindings (parts.flatMap Part.text) = .ok (String.ofList texts.flatten) := by
  apply fill_of_filledWith
  rw [pieces_written formed]
  exact filledWith_parts filled

/-! ## Templates that are a single placeholder -/

def IsPlaceholder (name cs : List Char) : Prop :=
  ∃ left right, (Part.placeholder left name right).Formed ∧ cs = (Part.placeholder left name right).text

theorem IsPlaceholder.fill {bindings : Variables} {name cs : List Char} {value : Value} {text : String}
    (single : IsPlaceholder name cs) (leads : bindings.getOrSelf (String.ofList name) = .ok value)
    (plain : value.asText = .ok text) : Template.fill bindings cs = .ok text := by
  rcases single with ⟨left, right, formed, rfl⟩
  have alone : ∀ part ∈ [Part.placeholder left name right], part.Formed := by simpa using formed
  have filled := fill_written alone (.cons (.placeholder leads plain) .nil)
  simpa using filled

theorem whole?_eq_some_iff {cs path : List Char} :
    whole? cs = some path ↔ placeholder? (trim cs) = some (path, []) := by
  rw [whole?]
  split
  · next found => simp [found]
  · next other =>
    constructor
    · intro found
      cases found
    · intro found
      cases other _ found

theorem IsPlaceholder.whole? {name cs : List Char} (single : IsPlaceholder name (trim cs)) :
    Template.whole? cs = some name := by
  rcases single with ⟨left, right, formed, text⟩
  have alone := formed.placeholder? []
  rw [List.append_nil] at alone
  rw [whole?_eq_some_iff, text, alone]

theorem placeholder_mem_pieces {cs path : List Char} (whole : whole? cs = some path) :
    .placeholder path ∈ pieces cs := by
  rcases (stripped_trim cs).around with ⟨left, right, split, blank, -⟩
  have found := placeholder?_append (whole?_eq_some_iff.mp whole) right
  rw [split, List.append_assoc, pieces_plain_append fun c member => isBrace_of_isBlank (blank c member),
    pieces_of_placeholder? found]
  exact List.mem_append_right _ List.mem_cons_self

theorem trim_of_pathInside {inner : List Char} (something : pathInside inner ≠ [])
    (front : ∀ c ∈ (pathInside inner).head?, isBlank c = false) : trim inner = pathInside inner := by
  by_cases empty : trim inner = []
  · rcases (stripped_trim inner).around with ⟨left, right, split, leftBlank, rightBlank⟩
    rw [empty, List.append_nil] at split
    have blank : ∀ c ∈ inner, isBlank c = true := by
      rw [split]
      simpa [or_imp, forall_and] using And.intro leftBlank rightBlank
    rcases List.exists_cons_of_ne_nil something with ⟨c, rest, path⟩
    have solid : isBlank c = false := front c (by rw [path]; rfl)
    have member : c ∈ inner := by
      have inside : pathInside inner = inner.drop (inner.length - 1) := by simp [pathInside, empty]
      exact List.mem_of_mem_drop (inside ▸ path ▸ List.mem_cons_self)
    cases (blank c member).symm.trans solid
  · simp [pathInside, empty]

/-- A written template that stands for a value is one of its placeholders, blanks around it apart. -/
theorem exists_placeholder_of_whole? {parts : List Part} {path : List Char}
    (formed : ∀ part ∈ parts, part.Formed) (whole : whole? (parts.flatMap Part.text) = some path) :
    (∃ left right, Part.placeholder left path right ∈ parts) ∧
      IsPlaceholder path (trim (parts.flatMap Part.text)) := by
  have listed := placeholder_mem_pieces whole
  rw [pieces_written formed, List.mem_flatMap] at listed
  rcases listed with ⟨part, member, own⟩
  cases part with
  | literal text => simp [Part.pieces] at own
  | placeholder left name right =>
      cases List.mem_singleton.mp own
      refine ⟨⟨left, right, member⟩, ?_⟩
      rcases placeholder?_eq_some_iff.mp (whole?_eq_some_iff.mp whole) with
        ⟨inner, something, inside, shape, text⟩
      cases formed _ member with
      | placeholder _ _ named plain front back =>
          rw [shape] at named front
          have kept := (trim_of_pathInside named front).trans shape.symm
          rcases (stripped_trim inner).around with ⟨left, right, split, leftBlank, rightBlank⟩
          rw [kept] at split
          refine ⟨left, right, .placeholder leftBlank rightBlank (shape ▸ named) plain
            (shape ▸ front) back, ?_⟩
          rw [text, split, List.append_nil]
          rfl

theorem exists_value_of_mem {bindings : Variables} {parts : List Part} {texts : List (List Char)}
    (filled : List.Forall₂ (Part.FilledAs bindings) parts texts) {left name right : List Char}
    (member : Part.placeholder left name right ∈ parts) :
    ∃ value text, bindings.getOrSelf (String.ofList name) = .ok value ∧ value.asText = .ok text := by
  induction filled with
  | nil => cases member
  | cons own _ induction =>
      cases member with
      | head =>
          cases own with
          | placeholder leads plain => exact ⟨_, _, leads, plain⟩
      | tail _ member => exact induction member

/-! ## What templates stand for -/

def flagText (bindings : Variables) (template : String) : Except Fault String :=
  (resolveFlag bindings template).map ("?" ++ ·)

theorem resolveFlag_of_resolve {bindings : Variables} {template : String} {value : Value} {text : String}
    (stands : resolve bindings template = .ok value) (plain : value.asText = .ok text) :
    resolveFlag bindings template = .ok text := by
  rw [resolveFlag, stands]
  exact plainText_of_asText plain

theorem flagText_of_resolve {bindings : Variables} {template : String} {value : Value} {text : String}
    (stands : resolve bindings template = .ok value) (plain : value.asText = .ok text) :
    flagText bindings template = .ok ("?" ++ text) := by
  rw [flagText, resolveFlag_of_resolve stands plain]
  rfl

theorem resolve_of_whole? {bindings : Variables} {cs path : List Char} (whole : whole? cs = some path) :
    resolve bindings (String.ofList cs) = valueAt bindings path := by
  rw [resolve, String.toList_ofList, whole]

theorem resolve_of_fill {bindings : Variables} {cs : List Char} {text : String}
    (several : whole? cs = none) (filled : fill bindings cs = .ok text) :
    resolve bindings (String.ofList cs) = .ok (.text text) := by
  rw [resolve, String.toList_ofList, several]
  change (fill bindings cs).map Value.text = _
  rw [filled]
  rfl

theorem resolveFlag_of_plain {bindings : Variables} {text : String}
    (plain : ∀ c ∈ text.toList, isBrace c = false) : resolveFlag bindings text = .ok text := by
  have inner : ∀ c ∈ trim text.toList, isBrace c = false := by
    rcases (stripped_trim text.toList).around with ⟨left, right, whole, -, -⟩
    intro c member
    exact plain c (by rw [whole]; simp [member])
  have several : whole? text.toList = none := by
    unfold whole?
    cases trimmed : trim text.toList with
    | nil => rfl
    | cons c rest => rw [placeholder?_cons (inner c (by simp [trimmed]))]
  have filled : fill bindings text.toList = .ok text := by
    have formed : ∀ part ∈ [Part.literal text.toList], part.Formed :=
      List.forall_mem_singleton.mpr (.literal plain)
    have filled : List.Forall₂ (Part.FilledAs bindings) [.literal text.toList] [text.toList] :=
      .cons (.literal _) .nil
    simpa [Part.text] using fill_written formed filled
  have stands := resolve_of_fill several filled
  rw [String.ofList_toList] at stands
  exact resolveFlag_of_resolve stands rfl

/-- Substitution is a single pass. A template written as literals without braces and as placeholders, in
any order, is filled with the literals as they are and with the plain texts of the values. It stands for
this text, and for the flag that it makes with a question mark in front; only when nothing but blanks is
around a single placeholder does it stand for the value itself, and for the flag of this value alone. -/
theorem resolve_written {bindings : Variables} {parts : List Part} {texts : List (List Char)}
    (formed : ∀ part ∈ parts, part.Formed)
    (filled : List.Forall₂ (Part.FilledAs bindings) parts texts) :
    fill bindings (parts.flatMap Part.text) = .ok (String.ofList texts.flatten) ∧
    (∀ name, IsPlaceholder name (trim (parts.flatMap Part.text)) →
      ∃ value text, bindings.getOrSelf (String.ofList name) = .ok value ∧ value.asText = .ok text ∧
        resolve bindings (String.ofList (parts.flatMap Part.text)) = .ok value ∧
        fill bindings (trim (parts.flatMap Part.text)) = .ok text ∧
        flagText bindings (String.ofList (parts.flatMap Part.text)) = .ok ("?" ++ text)) ∧
    ((∀ name, ¬ IsPlaceholder name (trim (parts.flatMap Part.text))) →
      resolve bindings (String.ofList (parts.flatMap Part.text)) =
        .ok (.text (String.ofList texts.flatten)) ∧
      flagText bindings (String.ofList (parts.flatMap Part.text)) =
        .ok ("?" ++ String.ofList texts.flatten)) := by
  have whole := fill_written formed filled
  refine ⟨whole, ?_, ?_⟩
  · intro name single
    have found := single.whole?
    rcases exists_placeholder_of_whole? formed found with ⟨⟨front, back, member⟩, -⟩
    rcases exists_value_of_mem filled member with ⟨value, text, leads, plain⟩
    have stands := (resolve_of_whole? found).trans (valueAt_of_leads leads)
    exact ⟨value, text, leads, plain, stands, single.fill leads plain, flagText_of_resolve stands plain⟩
  · intro several
    have none : whole? (parts.flatMap Part.text) = none := by
      cases found : whole? (parts.flatMap Part.text) with
      | none => rfl
      | some path => exact absurd (exists_placeholder_of_whole? formed found).2 (several path)
    have stands := resolve_of_fill none whole
    exact ⟨stands, flagText_of_resolve stands rfl⟩

theorem resolve_written_braces :
    resolve [("user", .text "\x7b\x7bon\x7d\x7d"), ("on", .flag true)]
        " \x7b\x7b user\x7d\x7d\x7b\x7bon\t\x7d\x7d\n" =
      .ok (.text " \x7b\x7bon\x7d\x7dtrue\n") ∧
    flagText [("on", .flag true)] " \x7b\x7bon\x7d\x7d\n" = .ok "?true" := by
  have blank (c : Char) (member : c ∈ [' ', '\t']) : isBlank c = true := by
    rcases List.mem_pair.mp member with rfl | rfl <;> decide
  have space : (Part.literal [' ']).Formed := .literal (by simp [isBrace])
  have line : (Part.literal ['\n']).Formed := .literal (by simp [isBrace])
  have user : (Part.placeholder [' '] ['u', 's', 'e', 'r'] []).Formed :=
    .placeholder (by simp [blank]) nofun nofun (by simp [isBrace]) (fun c first => by cases first; decide)
      fun c last => by cases last; decide
  have switch (right : List Char) (blank : ∀ c ∈ right, isBlank c = true) :
      (Part.placeholder [] ['o', 'n'] right).Formed :=
    .placeholder nofun blank nofun (by simp [isBrace]) (fun c first => by cases first; decide)
      fun c last => by cases last; decide
  constructor
  · have formed : ∀ part ∈ [Part.literal [' '], .placeholder [' '] ['u', 's', 'e', 'r'] [],
        .placeholder [] ['o', 'n'] ['\t'], .literal ['\n']], part.Formed := by
      simp [space, line, user, switch ['\t'] (by simp [blank])]
    have filled : List.Forall₂
        (Part.FilledAs [("user", .text "\x7b\x7bon\x7d\x7d"), ("on", .flag true)])
        [.literal [' '], .placeholder [' '] ['u', 's', 'e', 'r'] [], .placeholder [] ['o', 'n'] ['\t'],
          .literal ['\n']]
        [[' '], "\x7b\x7bon\x7d\x7d".toList, "true".toList, ['\n']] :=
      .cons (.literal _) (.cons (.placeholder rfl rfl) (.cons (.placeholder rfl rfl)
        (.cons (.literal _) .nil)))
    refine ((resolve_written formed filled).2.2 fun name single => ?_).1
    have none : whole? " \x7b\x7b user\x7d\x7d\x7b\x7bon\t\x7d\x7d\n".toList = none := by decide +kernel
    cases none.symm.trans single.whole?
  · have formed : ∀ part ∈ [Part.literal [' '], .placeholder [] ['o', 'n'] [], .literal ['\n']],
        part.Formed := by
      simp [space, line, switch [] nofun]
    have filled : List.Forall₂ (Part.FilledAs [("on", .flag true)])
        [.literal [' '], .placeholder [] ['o', 'n'] [], .literal ['\n']]
        [[' '], "true".toList, ['\n']] :=
      .cons (.literal _) (.cons (.placeholder rfl rfl) (.cons (.literal _) .nil))
    rcases (resolve_written formed filled).2.1 ['o', 'n'] ⟨[], [], switch [] nofun, by decide⟩ with
      ⟨value, text, leads, plain, -, -, flag⟩
    cases leads
    cases plain
    exact flag

end Template

end GuardedSteps

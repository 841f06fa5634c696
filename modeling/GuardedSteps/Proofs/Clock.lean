import GuardedSteps.Clock
import Mathlib

/-!
Pauses on a clock. From a reading on, a row of pauses may come to an end before a deadline, whatever
time passes between them; then a poll that opens at the reading does. On a steady clock all rows do. A
clock that counts whole milliseconds is steady.
-/

namespace GuardedSteps

namespace ClockTime

variable {T : Type} [ClockTime T]

def NotBefore (earlier other : T) : Prop := less other earlier = false

/-- A pause of some milliseconds, or of what remains if that is less, from the first reading to the
second. It is made while the deadline has not come. -/
def Pause (deadline before after : T) : Prop :=
  isOver (since deadline before) = false ∧
    ∃ millis interval, 0 < millis ∧ ofMillis millis = .ok interval ∧
      after = later before (lesser interval (since deadline before))

section

variable {K : Type} [Preorder K]

/-- From a reading on, no row of pauses before a deadline is endless, whatever time passes between them,
and no pause moves the clock back. Something holds of each reading at which the row goes on. -/
inductive Expires (seconds : T → K) (deadline : T) (starts : T → Prop) : T → Prop
  | intro {before : T} (here : starts before)
      (forward : ∀ reading after, seconds before ≤ seconds reading → Pause deadline reading after →
        seconds reading ≤ seconds after)
      (further : ∀ reading after, seconds before ≤ seconds reading → Pause deadline reading after →
        Expires seconds deadline starts after) :
      Expires seconds deadline starts before

/-- A clock on which every row of pauses comes to an end before a deadline. -/
structure Steady (seconds : T → K) : Prop where
  forward : ∀ deadline before after : T, Pause deadline before after → seconds before ≤ seconds after
  ends : ∀ deadline : T, WellFounded fun after before : T =>
    ∃ reading, seconds before ≤ seconds reading ∧ Pause deadline reading after

theorem Steady.expires {seconds : T → K} (steady : Steady seconds) (deadline : T) {starts : T → Prop}
    (always : ∀ reading, starts reading) (opened : T) : Expires seconds deadline starts opened := by
  induction opened using (steady.ends deadline).induction with
  | _ before induction =>
      apply Expires.intro (always before)
      · intro reading after _ pause
        exact steady.forward deadline reading after pause
      · intro reading after waited pause
        exact induction after ⟨reading, waited, pause⟩

end

/-- Of a positive number of milliseconds something remains. -/
class Lasting (T : Type) [ClockTime T] : Prop where
  lasting : ∀ {millis : Int} {span : T}, 0 < millis → ofMillis millis = .ok span → isOver span = false

/-- Before a reading that is not behind the deadline something remains until the deadline. -/
class Timely (T : Type) [ClockTime T] : Prop where
  early : ∀ {reading switch deadline : T}, less reading switch = true → NotBefore switch deadline →
    isOver (since deadline reading) = false

theorem isOver_lesser {first second : T} (lasts : isOver first = false)
    (remains : isOver second = false) : isOver (lesser first second) = false := by
  unfold lesser
  split
  · exact remains
  · exact lasts

/-! ## Whole milliseconds -/

instance : ClockTime Int where
  start := 0
  ofMillis millis := .ok millis
  later reading span := reading + span
  since reading earlier := reading - earlier
  isOver span := span ≤ 0
  less first second := first < second
  wholeMillis span := .ok span

theorem pause_int {deadline before after : Int} (pause : Pause deadline before after) :
    before < after ∧ before < deadline := by
  rcases pause with ⟨remains, millis, interval, positive, measured, rfl⟩
  cases measured
  have unreached : before < deadline := by simpa [isOver, since] using remains
  have least : 0 < lesser millis (deadline - before) := by
    unfold lesser
    split
    · omega
    · exact positive
  change before < before + lesser millis (deadline - before) ∧ _
  omega

theorem steady_int : Steady (id : Int → Int) where
  forward _ _ _ pause := Int.le_of_lt (pause_int pause).1
  ends deadline := by
    -- What is left until the deadline becomes less with every pause.
    apply Subrelation.wf (r := InvImage (· < ·) fun reading : Int => (deadline - reading).toNat)
    · rintro after before ⟨reading, passed, pause⟩
      have moved := pause_int pause
      have waited : before ≤ reading := passed
      change (deadline - after).toNat < (deadline - before).toNat
      omega
    · exact InvImage.wf _ Nat.lt_wfRel.wf

end ClockTime

end GuardedSteps

import GuardedSteps.Proofs.Run.Register

/-!
Cancellation. It stops the steps that are waiting, which never run afterwards, and no others: a delay that
is started later is not affected, wherever it is started. A step behind a delay runs at most once, and it
does run if it wakes up without having been cancelled.
-/

namespace GuardedSteps

variable {T A M : Type}

structure Waits (serial : Nat) (past : List (Occurrence A)) : Prop where
  started : .started serial ∈ past
  undropped : .dropped serial ∉ past
  unentered : .entered serial ∉ past

/-- What is true of cancellations and delayed steps in every chronicle. -/
structure Precise (past : List (Occurrence A)) : Prop where
  /-- A step that waits when delays are cancelled does not run later, and no action is called in it. -/
  stops : ∀ before behind serial, past = before ++ .cancelled :: behind → Waits serial before →
    .entered serial ∉ behind ∧ ∀ action, .called (some serial) action ∉ behind
  /-- A step is only dropped if delays have been cancelled since its own delay was started. -/
  spares : ∀ before between behind serial,
    past = before ++ .started serial :: (between ++ .dropped serial :: behind) → .cancelled ∈ between
  /-- A step that has run does not wake up again. -/
  once : ∀ before behind serial, past = before ++ .entered serial :: behind →
    .entered serial ∉ behind ∧ .dropped serial ∉ behind

namespace Register

/-! ## What stays as it is -/

theorem Path.mem_waiting {first second : Register} {past : List (Occurrence A)} {serial : Nat}
    (path : Path first past second) (waits : serial ∈ first.waiting) (undropped : .dropped serial ∉ past)
    (unentered : .entered serial ∉ past) : serial ∈ second.waiting := by
  induction path with
  | nil => exact waits
  | cons step path induction =>
      simp only [List.mem_cons, not_or] at undropped unentered
      refine induction ?_ undropped.2 unentered.2
      cases step with
      | started => exact List.mem_append_left _ waits
      | cancelled => exact waits
      | dropped =>
          have other := undropped.1
          exact List.mem_filter.mpr ⟨waits, by simpa using other⟩
      | entered =>
          have other := unentered.1
          exact List.mem_filter.mpr ⟨waits, by simpa using other⟩
      | called => exact waits

theorem Path.mem_waiting_of_waits {first second : Register} {past : List (Occurrence A)} {serial : Nat}
    (path : Path first past second) (waits : Waits serial past) : serial ∈ second.waiting := by
  rcases List.append_of_mem waits.started with ⟨before, behind, rfl⟩
  have undropped := waits.undropped
  have unentered := waits.unentered
  simp only [List.mem_append, List.mem_cons, not_or] at undropped unentered
  rcases path.split with ⟨middle, _, path⟩
  cases path with
  | cons step path =>
      cases step with
      | started =>
          exact path.mem_waiting (List.mem_append_right _ List.mem_cons_self) undropped.2.2 unentered.2.2

/-- A delay that has been cancelled stays so. Its step does not run, and no action is called in it. -/
theorem Path.unentered_of_stopped {first second : Register} {past : List (Occurrence A)} {serial : Nat}
    (path : Path first past second) (stopped : serial ∈ first.stopped) :
    .entered serial ∉ past ∧ ∀ action, .called (some serial) action ∉ past := by
  induction path with
  | nil => exact ⟨nofun, nofun⟩
  | cons step path induction =>
      cases step with
      | started => simpa using induction stopped
      | cancelled => simpa using induction (List.mem_append_left _ stopped)
      | dropped => simpa using induction stopped
      | entered waits unstopped =>
          have different := ne_of_mem_of_not_mem stopped unstopped
          simpa [different] using induction stopped
      | @called thread action runs =>
          have different : some serial ≠ thread := by
            rintro rfl
            exact (runs serial rfl).unstopped stopped
          simpa [different] using induction stopped

theorem Path.stopped_eq {first second : Register} {past : List (Occurrence A)}
    (path : Path first past second) (kept : .cancelled ∉ past) : second.stopped = first.stopped := by
  induction path with
  | nil => rfl
  | cons step path induction =>
      simp only [List.mem_cons, not_or] at kept
      rw [induction kept.2]
      cases step with
      | cancelled => exact absurd rfl kept.1
      | _ => rfl

theorem Path.unwoken {first second : Register} {past : List (Occurrence A)} {serial : Nat}
    (path : Path first past second) (started : serial < first.next) (woken : serial ∉ first.waiting) :
    .entered serial ∉ past ∧ .dropped serial ∉ past := by
  induction path with
  | nil => exact ⟨nofun, nofun⟩
  | @cons first _ _ _ _ step path induction =>
      have taken (other : Nat) : serial ∉ (first.taken other).waiting :=
        fun member => woken (List.mem_filter.mp member).1
      cases step with
      | started =>
          have unwoken : serial ∉ first.started.waiting := by
            simp [Register.started, woken, Nat.ne_of_lt started]
          simpa using induction (Nat.lt_succ_of_lt started) unwoken
      | cancelled => simpa using induction started woken
      | dropped waits =>
          have different := ne_of_mem_of_not_mem waits woken
          simpa [different.symm] using induction started (taken _)
      | entered waits =>
          have different := ne_of_mem_of_not_mem waits woken
          simpa [different.symm] using induction started (taken _)
      | called => simpa using induction started woken

/-! ## Precise chronicles -/

theorem Path.precise {first last : Register} {past : List (Occurrence A)} (path : Path first past last)
    (exact : first.Exact) : Precise past where
  stops before behind serial parts waits := by
    subst parts
    rcases path.split with ⟨middle, front, path⟩
    have waiting := front.mem_waiting_of_waits waits
    cases path with
    | cons step path =>
        cases step with
        | cancelled =>
            refine path.unentered_of_stopped (List.mem_append.mpr ?_)
            by_cases stopped : serial ∈ middle.stopped
            · exact .inl stopped
            · exact .inr ((front.exact exact).mem_pending_iff.mpr ⟨waiting, stopped⟩)
  spares before between behind serial parts := by
    subst parts
    rcases path.split with ⟨middle, front, path⟩
    have fresh : middle.next ∉ middle.stopped := fun member =>
      Nat.lt_irrefl _ ((front.exact exact).stopped_lt _ member)
    by_contra kept
    cases path with
    | cons step path =>
        cases step with
        | started =>
            rcases path.split with ⟨later, meanwhile, path⟩
            cases path with
            | cons step path =>
                cases step with
                | dropped waits stopped =>
                    rw [meanwhile.stopped_eq kept] at stopped
                    exact fresh stopped
  once before behind serial parts := by
    subst parts
    rcases path.split with ⟨middle, front, path⟩
    cases path with
    | cons step path =>
        cases step with
        | entered waits =>
            exact path.unwoken ((front.exact exact).waiting_lt _ waits) (by simp [Register.taken])

end Register

/-! ## Rows of deeds -/

theorem Deed.chronicleAll_append [ClockTime T] {actions : Actions T A M}
    (own : Option Nat → A → World T A M → List (Occurrence A)) {bound : Nat} {front : List (Deed A)}
    (rest : List (Deed A)) {world middle : World T A M}
    (passed : Deed.performAll bound actions front world = some (.ok (), middle)) :
    Deed.chronicleAll bound actions own (front ++ rest) world =
      Deed.chronicleAll bound actions own front world ++
        Deed.chronicleAll bound actions own rest middle := by
  induction front generalizing world with
  | nil =>
      cases passed
      rw [Deed.chronicleAll]
      rfl
  | cons deed front induction =>
      rw [Deed.performAll] at passed
      unfold Effect.andThen at passed
      split at passed
      · next reached first =>
        simp only [List.cons_append, Deed.chronicleAll, first, induction passed, List.append_assoc]
      · cases passed
      · cases passed

theorem World.exists_wakeChronicle [ClockTime T] {actions : Actions T A M}
    {own : Option Nat → A → World T A M → List (Occurrence A)} (bound : Nat) {serial : Nat}
    {world : World T A M} (waits : serial ∈ world.register.waiting) (unstopped : serial ∉ world.stopped) :
    ∃ behind, world.wakeChronicle bound actions own serial = .entered serial :: behind := by
  rcases List.mem_map.mp waits with ⟨waiting, member, same⟩
  cases found : world.waiting.find? (·.serial == serial) with
  | none => simpa [same] using List.find?_eq_none.mp found waiting member
  | some delayed =>
      unfold World.wakeChronicle
      simp only [found, List.contains_iff_mem, if_neg unstopped]
      exact ⟨_, rfl⟩

/-- In every row of deeds, in whatever way it ends, cancellation is precise. A step that wakes up and has
not been cancelled runs, exactly once. The calls of the chronicle are those that the actions see. -/
theorem Deed.precise_performAll [ClockTime T] {actions : Actions T A M}
    {own : Option Nat → A → World T A M → List (Occurrence A)} (lawful : actions.Lawful own) {bound : Nat}
    {deeds : List (Deed A)} {world after : World T A M} {ended : Except Failure Unit}
    (undelayed : world.Undelayed)
    (ran : Deed.performAll bound actions deeds world = some (ended, after)) :
    Precise (Deed.chronicleAll bound actions own deeds world) ∧
      (∀ front serial later middle, deeds = front ++ .wake serial :: later →
        Deed.performAll bound actions front world = some (.ok (), middle) →
          Waits serial (Deed.chronicleAll bound actions own front world) → serial ∉ middle.stopped →
            ∃ behind, Deed.chronicleAll bound actions own deeds world =
              Deed.chronicleAll bound actions own front world ++ .entered serial :: behind ∧
                .entered serial ∉ behind) ∧
      ∀ seen, actions.Remember own seen → seen after.memory = seen world.memory ++
        Occurrence.calls (Deed.chronicleAll bound actions own deeds world) := by
  have precise : Precise (Deed.chronicleAll bound actions own deeds world) :=
    (Deed.path_performAll lawful undelayed.exact ran).precise undelayed.exact
  refine ⟨precise, fun front serial later middle parts passed waits unstopped => ?_,
    fun seen remember => remember.seen_performAll ran⟩
  have front_path := Deed.path_performAll lawful undelayed.exact passed
  rcases World.exists_wakeChronicle bound (front_path.mem_waiting_of_waits waits) unstopped with
    ⟨run, woken⟩
  have whole := Deed.chronicleAll_append own (.wake serial :: later) passed
  rw [← parts, Deed.chronicleAll, Deed.chronicle, woken, List.cons_append] at whole
  exact ⟨_, whole, (precise.once _ _ serial whole).1⟩

theorem remember_impatient : impatient.Remember impatientOwn id := by
  intro thread cancels world ended after ran
  cases cancels with
  | true =>
      cases ran
      rfl
  | false =>
      cases ran
      rfl

theorem Deed.precise_lateCancellation :
    ∃ ended after, Deed.performAll 9 impatient lateCancellation undelayedWorld = some (ended, after) ∧
      after.memory = [true] ∧ Precise [.started 0, .entered 0, .started 1, .started 2, .entered 2,
        .called (some 2) true, .cancelled, .dropped 1, .started 3] ∧
      ∃ behind, Deed.chronicleAll 9 impatient impatientOwn lateCancellation undelayedWorld =
        .started 0 :: .entered 0 :: behind ∧ .entered 0 ∉ behind := by
  have finished : (Deed.performAll 9 impatient lateCancellation undelayedWorld).isSome := by decide +kernel
  rcases Option.isSome_iff_exists.mp finished with ⟨⟨ended, after⟩, ran⟩
  have begun : (Deed.performAll 9 impatient (lateCancellation.take 1) undelayedWorld).map
      (fun passed => (passed.1.isOk, passed.2.stopped)) = some (true, []) := by decide +kernel
  rcases Option.map_eq_some_iff.mp begun with ⟨⟨passed, middle⟩, front, same⟩
  cases passed with
  | error failure => cases same
  | ok =>
      have unstopped : middle.stopped = [] := congrArg Prod.snd same
      have single : Deed.chronicleAll 9 impatient impatientOwn (lateCancellation.take 1) undelayedWorld =
        [.started 0] := by decide +kernel
      rcases Deed.precise_performAll lawful_impatient undelayed_undelayedWorld ran with
        ⟨precise, runs, calls⟩
      have waits : Waits 0 [(.started 0 : Occurrence Bool)] := ⟨by decide, by decide, by decide⟩
      rw [chronicle_lateCancellation] at precise
      rcases runs (lateCancellation.take 1) 0 (lateCancellation.drop 2) middle rfl front (single ▸ waits)
        (by simp [unstopped]) with ⟨behind, whole, once⟩
      rw [single] at whole
      have seen := calls id remember_impatient
      rw [chronicle_lateCancellation] at seen
      exact ⟨ended, after, ran, seen, precise, behind, whole, once⟩

end GuardedSteps

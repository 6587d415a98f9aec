import PackageVitals.Proofs.Course

/-!
# What programs ensure

An action is put together by going on after a success, so a course of it
ends at the first failure or is made of a course of each part
(`Action.course_bind_iff`).

A program **ensures** a property of its result if every course ends with
it in which all replies are of a given class (`Program.Ensures`). The class
is the assumption on the outside: that there is a response or a broken
exchange, and nothing else, say. What is ensured is found part by part, as
for programs that run one after the other, also for programs that run at
once. The assumption can also be a list of steps out of which all those of
the course are (`Program.EnsuresIn`): what is ensured within the steps of a
run is true of the run and of all that is part of it.
-/

namespace PackageVitals

/-! ## Courses of actions -/

namespace Action

@[simp] theorem attempt_pure (a : α) : (pure a : Action α).attempt = .done (.ok a) := rfl

@[simp] theorem attempt_ofAttempt (p : Program (Except Failure α)) :
    (ofAttempt p).attempt = p := rfl

@[simp] theorem attempt_ofExcept (e : Except Failure α) : (ofExcept e).attempt = .done e := rfl

@[simp] theorem attempt_fail (f : Failure) : (fail f : Action α).attempt = .done (.error f) := rfl

@[simp] theorem attempt_note (n : Notice) :
    (note n).attempt = .note n (.done (.ok ())) := rfl

@[simp] theorem attempt_say (severity : Severity) (text : String) :
    (say severity text).attempt = .note { severity, text } (.done (.ok ())) := rfl

@[simp] theorem attempt_now : now.attempt = .now fun t => .done (.ok t) := rfl

@[simp] theorem attempt_sleep (d : Seconds) :
    (sleep d).attempt = .sleep d (.done (.ok ())) := rfl

@[simp] theorem attempt_send (q : Request) : (send q).attempt = .send q .done := rfl

theorem attempt_lift (p : Program α) :
    attempt (ExceptT.lift p) = p.andThen fun a => .done (.ok a) := rfl

/-- Going on after an action: nothing follows a failure. -/
theorem attempt_bind (x : Action α) (f : α → Action β) :
    (x >>= f).attempt = x.attempt.andThen fun
      | .ok a => (f a).attempt
      | .error e => .done (.error e) := by
  show x.attempt.andThen _ = _
  congr 1
  funext e
  cases e <;> rfl

theorem bind_assoc (x : Action α) (f : α → Action β) (g : β → Action γ) :
    x >>= f >>= g = x >>= fun a => f a >>= g := by
  show (x >>= f >>= g).attempt = (x >>= fun a => f a >>= g).attempt
  rw [attempt_bind, attempt_bind, attempt_bind, Program.andThen_assoc]
  congr 1
  funext e
  cases e with
  | ok a => exact (attempt_bind (f a) g).symm
  | error f => rfl

theorem attempt_map (f : α → β) (x : Action α) :
    (f <$> x).attempt = x.attempt.andThen fun e => .done (e.map f) := by
  show x.attempt.andThen _ = _
  congr 1
  funext e
  cases e <;> rfl

/-- **A course of one action after the other** ends with the failure of the
first, or goes on with the second. -/
theorem course_bind_iff {x : Action α} {f : α → Action β} {l : List Step}
    {o : Except Failure β} :
    Course (x >>= f).attempt l o ↔
      (∃ e, Course x.attempt l (.error e) ∧ o = .error e) ∨
        ∃ a l₁ l₂, l = l₁ ++ l₂ ∧ Course x.attempt l₁ (.ok a) ∧ Course (f a).attempt l₂ o := by
  rw [attempt_bind, course_andThen_iff]
  constructor
  · rintro ⟨e | a, l₁, l₂, rfl, h₁, h₂⟩
    · obtain ⟨rfl, rfl⟩ := course_done_iff.mp h₂
      exact .inl ⟨e, by simpa using h₁, rfl⟩
    · exact .inr ⟨a, l₁, l₂, rfl, h₁, h₂⟩
  · rintro (⟨e, h, rfl⟩ | ⟨a, l₁, l₂, rfl, h₁, h₂⟩)
    · exact ⟨.error e, l, [], by simp, h, .done _⟩
    · exact ⟨.ok a, l₁, l₂, rfl, h₁, h₂⟩

/-- An action that cannot fail goes on. -/
theorem course_lift_bind_iff {p : Program α} {f : α → Action β} {l : List Step}
    {o : Except Failure β} :
    Course (attempt (ExceptT.lift p >>= f)) l o ↔
      ∃ a l₁ l₂, l = l₁ ++ l₂ ∧ Course p l₁ a ∧ Course (f a).attempt l₂ o := by
  have h : attempt (ExceptT.lift p >>= f) = p.andThen fun a => (f a).attempt := by
    rw [attempt_bind, attempt_lift, Program.andThen_assoc]
    rfl
  rw [h, course_andThen_iff]

@[simp] theorem course_ofExcept_bind_iff {e : Except Failure α} {f : α → Action β}
    {l : List Step} {o : Except Failure β} :
    Course (ofExcept e >>= f).attempt l o ↔
      (∃ c, e = .error c ∧ l = [] ∧ o = .error c) ∨
        ∃ a, e = .ok a ∧ Course (f a).attempt l o := by
  cases e with
  | error c => simp [attempt_bind]
  | ok a => simp [attempt_bind]

@[simp] theorem course_note_bind_iff {n : Notice} {f : Unit → Action β} {l : List Step}
    {o : Except Failure β} :
    Course (note n >>= f).attempt l o ↔
      ∃ l', l = .noted n :: l' ∧ Course (f ()).attempt l' o := by
  rw [attempt_bind]
  exact course_note_iff

@[simp] theorem course_say_bind_iff {severity : Severity} {text : String} {f : Unit → Action β}
    {l : List Step} {o : Except Failure β} :
    Course (say severity text >>= f).attempt l o ↔
      ∃ l', l = .noted { severity, text } :: l' ∧ Course (f ()).attempt l' o :=
  course_note_bind_iff

end Action

/-! ## What every course ensures -/

/-- Whether every reply in a course is of a class. -/
def Replied (P : Reply → Prop) (l : List Step) : Prop :=
  ∀ q r, .exchanged q r ∈ l → P r

section Replied

variable {P : Reply → Prop} {l l₁ l₂ : List Step}

@[simp] theorem replied_append : Replied P (l₁ ++ l₂) ↔ Replied P l₁ ∧ Replied P l₂ := by
  simp only [Replied, List.mem_append, or_imp, forall_and]

theorem Replied.of_cons {x : Step} (h : Replied P (x :: l)) : Replied P l :=
  fun q r hr => h q r (List.mem_cons_of_mem x hr)

/-- Programs that run at once get replies of a class if each of them does. -/
theorem Interleaved.replied {ls : List (List Step)} (h : Interleaved ls l) (hl : Replied P l) :
    ∀ l' ∈ ls, Replied P l' :=
  fun l' hl' q r hr => hl q r (h.mem_iff.mpr ⟨l', hl', hr⟩)

end Replied

/-- **What a program ensures** if all replies are of a class: a property
of its result. -/
def Program.Ensures (P : Reply → Prop) (Q : α → Prop) (p : Program α) : Prop :=
  ∀ l a, Course p l a → Replied P l → Q a

namespace Program

variable {P : Reply → Prop} {Q : α → Prop}

theorem Ensures.mono {Q' : α → Prop} {p : Program α} (h : p.Ensures P Q) (hQ : ∀ a, Q a → Q' a) :
    p.Ensures P Q' :=
  fun l a hc hl => hQ a (h l a hc hl)

/-- The fewer replies there can be, the more is ensured. -/
theorem Ensures.restrict {P' : Reply → Prop} {p : Program α} (h : p.Ensures P Q)
    (hP : ∀ r, P' r → P r) : p.Ensures P' Q :=
  fun l a hc hl => h l a hc fun q r hr => hP r (hl q r hr)

@[simp] theorem ensures_done {a : α} : (done a).Ensures P Q ↔ Q a := by
  constructor
  · intro h
    exact h [] a (.done a) (fun q r hr => absurd hr (by simp))
  · rintro h l b hc -
    obtain ⟨rfl, rfl⟩ := course_done_iff.mp hc
    exact h

theorem Ensures.send {q : Request} {next : Reply → Program α}
    (h : ∀ r, P r → (next r).Ensures P Q) : (send q next).Ensures P Q := by
  intro l a hc hl
  obtain ⟨r, l', rfl, hc'⟩ := course_send_iff.mp hc
  exact h r (hl q r (by simp)) l' a hc' hl.of_cons

theorem Ensures.sleep {d : Seconds} {next : Program α} (h : next.Ensures P Q) :
    (sleep d next).Ensures P Q := by
  intro l a hc hl
  obtain ⟨l', rfl, hc'⟩ := course_sleep_iff.mp hc
  exact h l' a hc' hl.of_cons

theorem Ensures.note {n : Notice} {next : Program α} (h : next.Ensures P Q) :
    (note n next).Ensures P Q := by
  intro l a hc hl
  obtain ⟨l', rfl, hc'⟩ := course_note_iff.mp hc
  exact h l' a hc' hl.of_cons

theorem Ensures.now {next : Timestamp → Program α} (h : ∀ t, (next t).Ensures P Q) :
    (now next).Ensures P Q := by
  intro l a hc hl
  obtain ⟨t, l', rfl, hc'⟩ := course_now_iff.mp hc
  exact h t l' a hc' hl.of_cons

theorem Ensures.pause {next : Program α} (h : next.Ensures P Q) : (pause next).Ensures P Q :=
  fun l a hc hl => h l a (course_pause_iff.mp hc) hl

theorem Ensures.turn {next : Bool → Program α} (h : ∀ b, (next b).Ensures P Q) :
    (turn next).Ensures P Q := by
  intro l a hc hl
  obtain ⟨b, hc'⟩ := course_turn_iff.mp hc
  exact h b l a hc' hl

/-- What the first of two programs ensures is there for the second. -/
theorem Ensures.andThen {R : β → Prop} {p : Program β} {f : β → Program α} (hp : p.Ensures P R)
    (hf : ∀ b, R b → (f b).Ensures P Q) : (p.andThen f).Ensures P Q := by
  intro l a hc hl
  obtain ⟨b, l₁, l₂, rfl, h₁, h₂⟩ := course_andThen_iff.mp hc
  obtain ⟨hl₁, hl₂⟩ := replied_append.mp hl
  exact hf b (hp l₁ b h₁ hl₁) l₂ a h₂ hl₂

/-- Two programs at once ensure what each of them does. -/
theorem Ensures.both {R : β → Prop} {p : Program α} {q : Program β} (hp : p.Ensures P Q)
    (hq : q.Ensures P R) : (both p q).Ensures P fun r => Q r.1 ∧ R r.2 := by
  rintro l ⟨a, b⟩ hc hl
  obtain ⟨l₁, l₂, h₁, h₂, h⟩ := course_both hc
  exact ⟨hp l₁ a h₁ fun q r hr => hl q r (h.mem_iff.mpr (.inl hr)),
    hq l₂ b h₂ fun q r hr => hl q r (h.mem_iff.mpr (.inr hr))⟩

end Program

namespace Action

variable {P : Reply → Prop} {Q : Except Failure β → Prop}

/-- An action goes on with what the first one ensures, and fails as it
does. -/
theorem ensures_bind {R : α → Prop} {x : Action α} {f : α → Action β}
    (hx : x.attempt.Ensures P fun
      | .ok a => R a
      | .error e => Q (.error e))
    (hf : ∀ a, R a → (f a).attempt.Ensures P Q) : (x >>= f).attempt.Ensures P Q := by
  rw [attempt_bind]
  refine hx.andThen fun e he => ?_
  cases e with
  | error e => exact Program.ensures_done.mpr he
  | ok a => exact hf a he

/-- An action goes on with what a program ensures that cannot fail. -/
theorem ensures_lift_bind {R : α → Prop} {p : Program α} {f : α → Action β}
    (hp : p.Ensures P R) (hf : ∀ a, R a → (f a).attempt.Ensures P Q) :
    (attempt (ExceptT.lift p >>= f)).Ensures P Q := by
  intro l o hc hl
  obtain ⟨a, l₁, l₂, rfl, h₁, h₂⟩ := course_lift_bind_iff.mp hc
  obtain ⟨hl₁, hl₂⟩ := replied_append.mp hl
  exact hf a (hp l₁ a h₁ hl₁) l₂ o h₂ hl₂

/-- **Whether an action is never cancelled** where all replies are of a
class. -/
def Uncancelled (P : Reply → Prop) (a : Action α) : Prop :=
  a.attempt.Ensures P fun o => o ≠ .error .cancelled

/-- **What an action yields** where all replies are of a class: a property
of its result, if it does not fail. -/
def Yields (P : Reply → Prop) (Q : α → Prop) (a : Action α) : Prop :=
  a.attempt.Ensures P fun o => ∀ v, o = .ok v → Q v

namespace Yields

variable {Q : α → Prop}

@[simp] theorem ofExcept_iff {e : Except Failure α} :
    Yields P Q (ofExcept e) ↔ ∀ v, e = .ok v → Q v :=
  Program.ensures_done

@[simp] theorem pure_iff {a : α} : Yields P Q (Pure.pure a : Action α) ↔ Q a :=
  ofExcept_iff.trans (by simp)

@[simp] theorem fail {f : Failure} : Yields P Q (Action.fail f : Action α) :=
  ofExcept_iff.mpr (by simp)

theorem trivial (a : Action α) : Yields P (fun _ => True) a :=
  fun _ _ _ _ _ _ => True.intro

/-- An action goes on with what the first one yields. -/
theorem bind {R : β → Prop} {x : Action β} {f : β → Action α} (hx : Yields P R x)
    (hf : ∀ b, R b → Yields P Q (f b)) : Yields P Q (x >>= f) := by
  refine ensures_bind (R := R) (hx.mono fun e he => ?_) hf
  cases e with
  | ok b => exact he b rfl
  | error g => simp

theorem mono {R : α → Prop} {x : Action α} (hx : Yields P Q x) (h : ∀ a, Q a → R a) :
    Yields P R x :=
  Program.Ensures.mono hx fun _ ho v hv => h v (ho v hv)

end Yields

end Action

/-! ## Courses within some steps -/

/-- **What a program ensures within some steps**: a property of its result, if no other
steps are taken. -/
def Program.EnsuresIn (steps : List Step) (Q : α → Prop) (p : Program α) : Prop :=
  ∀ l a, Course p l a → l ⊆ steps → Q a

namespace Program

variable {steps : List Step} {Q : α → Prop}

@[simp] theorem ensuresIn_done {a : α} : (done a).EnsuresIn steps Q ↔ Q a := by
  constructor
  · intro h
    exact h [] a (.done a) (List.nil_subset _)
  · rintro h l b hc -
    obtain ⟨rfl, rfl⟩ := course_done_iff.mp hc
    exact h

/-- What is ensured where all replies are of a class is ensured within steps that have
no others. -/
theorem Ensures.within {P : Reply → Prop} {p : Program α} (h : p.Ensures P Q)
    (hsteps : Replied P steps) : p.EnsuresIn steps Q :=
  fun l a hc hl => h l a hc fun q r hr => hsteps q r (hl hr)

theorem EnsuresIn.note {n : Notice} {next : Program α} (h : next.EnsuresIn steps Q) :
    (Program.note n next).EnsuresIn steps Q := by
  intro l a hc hl
  obtain ⟨l', rfl, hc'⟩ := course_note_iff.mp hc
  exact h l' a hc' fun x hx => hl (List.mem_cons_of_mem _ hx)

theorem EnsuresIn.andThen {R : β → Prop} {p : Program β} {f : β → Program α}
    (hp : p.EnsuresIn steps R) (hf : ∀ b, R b → (f b).EnsuresIn steps Q) :
    (p.andThen f).EnsuresIn steps Q := by
  intro l a hc hl
  obtain ⟨b, l₁, l₂, rfl, h₁, h₂⟩ := course_andThen_iff.mp hc
  obtain ⟨hl₁, hl₂⟩ := List.append_subset.mp hl
  exact hf b (hp l₁ b h₁ hl₁) l₂ a h₂ hl₂

theorem EnsuresIn.both {R : β → Prop} {p : Program α} {q : Program β}
    (hp : p.EnsuresIn steps Q) (hq : q.EnsuresIn steps R) :
    (Program.both p q).EnsuresIn steps fun r => Q r.1 ∧ R r.2 := by
  rintro l ⟨a, b⟩ hc hl
  obtain ⟨l₁, l₂, h₁, h₂, h⟩ := course_both hc
  exact ⟨hp l₁ a h₁ fun x hx => hl (h.mem_iff.mpr (.inl hx)),
    hq l₂ b h₂ fun x hx => hl (h.mem_iff.mpr (.inr hx))⟩

end Program

namespace Action

/-- **Whether an action is not cancelled within some steps.** -/
def UncancelledIn (steps : List Step) (x : Action α) : Prop :=
  x.attempt.EnsuresIn steps fun o => o ≠ .error .cancelled

/-- What is never cancelled is not cancelled within any steps. -/
theorem Uncancelled.within {steps : List Step} {P : Reply → Prop} {x : Action α}
    (h : Uncancelled P x) (hsteps : Replied P steps) : UncancelledIn steps x :=
  Program.Ensures.within h hsteps

namespace UncancelledIn

variable {steps : List Step}

/-- The fewer steps there are, the less can be cancelled. -/
theorem restrict {steps' : List Step} {x : Action α} (hx : UncancelledIn steps x)
    (h : steps' ⊆ steps) : UncancelledIn steps' x :=
  fun l o hc hl => hx l o hc (List.Subset.trans hl h)

theorem ofExcept {e : Except Failure α} (h : e ≠ .error .cancelled) :
    UncancelledIn steps (Action.ofExcept e) :=
  Program.ensuresIn_done.mpr h

theorem pure (a : α) : UncancelledIn steps (Pure.pure a : Action α) :=
  Program.ensuresIn_done.mpr (by simp)

theorem say (severity : Severity) (text : String) :
    UncancelledIn steps (Action.say severity text) :=
  Program.EnsuresIn.note (Program.ensuresIn_done.mpr (by simp))

theorem bind {x : Action α} {f : α → Action β} (hx : UncancelledIn steps x)
    (hf : ∀ a, UncancelledIn steps (f a)) : UncancelledIn steps (x >>= f) := by
  show Program.EnsuresIn steps _ (x >>= f).attempt
  rw [attempt_bind]
  refine hx.andThen fun e he => ?_
  cases e with
  | ok a => exact hf a
  | error f => exact Program.ensuresIn_done.mpr (by simpa using he)

theorem map (f : α → β) {x : Action α} (hx : UncancelledIn steps x) :
    UncancelledIn steps (f <$> x) := by
  show Program.EnsuresIn steps _ (f <$> x).attempt
  rw [attempt_map]
  refine hx.andThen fun e he => Program.ensuresIn_done.mpr ?_
  cases e with
  | ok a => simp [Except.map]
  | error g => simpa [Except.map] using he

/-- What an action goes on with that cannot fail. -/
theorem lift_bind {Q : α → Prop} {p : Program α} {f : α → Action β} (hp : p.EnsuresIn steps Q)
    (hf : ∀ a, Q a → UncancelledIn steps (f a)) : UncancelledIn steps (ExceptT.lift p >>= f) := by
  intro l o hc hl
  obtain ⟨a, l₁, l₂, rfl, h₁, h₂⟩ := course_lift_bind_iff.mp hc
  obtain ⟨hl₁, hl₂⟩ := List.append_subset.mp hl
  exact hf a (hp l₁ a h₁ hl₁) l₂ o h₂ hl₂

end UncancelledIn

end Action

/-! ## What runs ensure -/

namespace World

/-- Whether every reply of a world is of a class. -/
def Replies (P : Reply → Prop) (w : World σ) : Prop :=
  ∀ q s, P (w.reply q s).1

theorem replied_log {P : Reply → Prop} {w : World σ} (h : w.Replies P) (p : Program α) (s : σ) :
    Replied P (w.log p s) := by
  induction p generalizing s with
  | done a => exact fun q r hr => absurd hr (by simp [log])
  | send q next ih =>
    intro q' r hr
    rcases List.mem_cons.mp hr with he | hr
    · obtain ⟨rfl, rfl⟩ := Step.exchanged.inj he
      exact h q' s
    · exact ih _ _ q' r hr
  | sleep d next ih => exact fun q r hr => ih s q r (by simpa [log] using hr)
  | note n next ih => exact fun q r hr => ih s q r (by simpa [log] using hr)
  | now next ih => exact fun q r hr => ih _ _ q r (by simpa [log] using hr)
  | pause next ih => exact ih s
  | turn next ih => exact ih _ _

/-- Running one action after the other: a success is what the second goes on
with. -/
theorem run_bind_of_ok {w : World σ} {x : Action α} {f : α → Action β} {s : σ} {a : α}
    (h : (w.run x.attempt s).value = .ok a) :
    (w.run (x >>= f).attempt s).value = (w.run (f a).attempt (w.run x.attempt s).state).value ∧
      (w.run (x >>= f).attempt s).state =
        (w.run (f a).attempt (w.run x.attempt s).state).state := by
  rw [Action.attempt_bind, run_andThen]
  dsimp only
  rw [h]
  exact ⟨rfl, rfl⟩

/-- Nothing follows a failure. -/
theorem run_bind_of_error {w : World σ} {x : Action α} {f : α → Action β} {s : σ} {e : Failure}
    (h : (w.run x.attempt s).value = .error e) :
    (w.run (x >>= f).attempt s).value = .error e := by
  rw [Action.attempt_bind, run_andThen]
  dsimp only
  rw [h]
  rfl

/-- What a program ensures holds of its runs. -/
theorem run_of_ensures {P : Reply → Prop} {Q : α → Prop} {w : World σ} (hw : w.Replies P)
    {p : Program α} (h : p.Ensures P Q) (s : σ) : Q (w.run p s).value :=
  h _ _ (w.course_log p s) (replied_log hw p s)

/-- What is not cancelled within the steps of a run is not cancelled in it. -/
theorem ne_cancelled_of_within {w : World σ} {x : Action α} {s : σ}
    (h : Action.UncancelledIn (w.log x.attempt s) x) :
    (w.run x.attempt s).value ≠ .error .cancelled :=
  h _ _ (w.course_log x.attempt s) (List.Subset.refl _)

end World

end PackageVitals

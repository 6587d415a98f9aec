import Mathlib.Data.List.Forall2
import PackageVitals.Program.World

/-!
# Courses of a program

A program is a tree of what can happen, and a **course** is one way
through it: the steps that were taken with the outside, each request with
the reply it got, and the result they led to. A course says nothing about
whose turn it was, so the courses of two programs at once are the
interleavings of their courses (`course_both`), and those of several are
the interleavings of all of theirs (`course_gather`).

Every run is a course (`World.course_log`). What holds of every course
therefore holds in every world, under every order in which programs that
run at once can take turns, and it is proved by taking a course apart where
the program was put together (`course_andThen_iff`, `Action.course_bind_iff`).
-/

namespace PackageVitals

/-- **A step** that a program takes with the outside. -/
inductive Step where
  /-- A request was sent and got a reply. -/
  | exchanged (q : Request) (r : Reply)
  /-- Time was slept away. -/
  | slept (d : Seconds)
  /-- A notice was logged. -/
  | noted (n : Notice)
  /-- The clock was read. -/
  | told (t : Timestamp)

namespace Step

/-- What the outside can see of a step. -/
def event? : Step → Option Event
  | exchanged q _ => some (.sent q)
  | slept d => some (.slept d)
  | noted n => some (.noted n)
  | told _ => none

end Step

/-- **A course of a program**: the steps of one way through it and the
result at its end. -/
inductive Course : Program α → List Step → α → Prop
  | done (a : α) : Course (.done a) [] a
  | send {q : Request} {next : Reply → Program α} {r : Reply} {l : List Step} {a : α} :
      Course (next r) l a → Course (.send q next) (.exchanged q r :: l) a
  | sleep {d : Seconds} {next : Program α} {l : List Step} {a : α} :
      Course next l a → Course (.sleep d next) (.slept d :: l) a
  | note {n : Notice} {next : Program α} {l : List Step} {a : α} :
      Course next l a → Course (.note n next) (.noted n :: l) a
  | now {next : Timestamp → Program α} {t : Timestamp} {l : List Step} {a : α} :
      Course (next t) l a → Course (.now next) (.told t :: l) a
  | pause {next : Program α} {l : List Step} {a : α} :
      Course next l a → Course (.pause next) l a
  | turn {next : Bool → Program α} {b : Bool} {l : List Step} {a : α} :
      Course (next b) l a → Course (.turn next) l a

/-! ## Taking courses apart -/

section Nodes

variable {l : List Step} {a : α}

@[simp] theorem course_done_iff {b : α} : Course (.done b) l a ↔ l = [] ∧ a = b := by
  constructor
  · rintro ⟨⟩
    exact ⟨rfl, rfl⟩
  · rintro ⟨rfl, rfl⟩
    exact .done _

@[simp] theorem course_send_iff {q : Request} {next : Reply → Program α} :
    Course (.send q next) l a ↔
      ∃ r l', l = .exchanged q r :: l' ∧ Course (next r) l' a := by
  constructor
  · rintro ⟨⟩
    exact ⟨_, _, rfl, ‹_›⟩
  · rintro ⟨r, l', rfl, h⟩
    exact .send h

@[simp] theorem course_sleep_iff {d : Seconds} {next : Program α} :
    Course (.sleep d next) l a ↔ ∃ l', l = .slept d :: l' ∧ Course next l' a := by
  constructor
  · rintro ⟨⟩
    exact ⟨_, rfl, ‹_›⟩
  · rintro ⟨l', rfl, h⟩
    exact .sleep h

@[simp] theorem course_note_iff {n : Notice} {next : Program α} :
    Course (.note n next) l a ↔ ∃ l', l = .noted n :: l' ∧ Course next l' a := by
  constructor
  · rintro ⟨⟩
    exact ⟨_, rfl, ‹_›⟩
  · rintro ⟨l', rfl, h⟩
    exact .note h

@[simp] theorem course_now_iff {next : Timestamp → Program α} :
    Course (.now next) l a ↔ ∃ t l', l = .told t :: l' ∧ Course (next t) l' a := by
  constructor
  · rintro ⟨⟩
    exact ⟨_, _, rfl, ‹_›⟩
  · rintro ⟨t, l', rfl, h⟩
    exact .now h

@[simp] theorem course_pause_iff {next : Program α} :
    Course (.pause next) l a ↔ Course next l a := by
  constructor
  · rintro ⟨⟩
    assumption
  · exact .pause

@[simp] theorem course_turn_iff {next : Bool → Program α} :
    Course (.turn next) l a ↔ ∃ b, Course (next b) l a := by
  constructor
  · rintro ⟨⟩
    exact ⟨_, ‹_›⟩
  · rintro ⟨b, h⟩
    exact .turn h

end Nodes

/-- Doing one thing after the other puts their courses one after the
other. -/
theorem Course.andThen {p : Program α} {f : α → Program β} {l l' : List Step} {a : α} {b : β}
    (hp : Course p l a) (hf : Course (f a) l' b) : Course (p.andThen f) (l ++ l') b := by
  induction hp with
  | done a => exact hf
  | send _ ih => exact .send (ih hf)
  | sleep _ ih => exact .sleep (ih hf)
  | note _ ih => exact .note (ih hf)
  | now _ ih => exact .now (ih hf)
  | pause _ ih => exact .pause (ih hf)
  | turn _ ih => exact .turn (ih hf)

/-- **A course of one program after the other** is a course of the first
and then one of the second. -/
theorem course_andThen_iff {p : Program α} {f : α → Program β} {l : List Step} {b : β} :
    Course (p.andThen f) l b ↔
      ∃ a l₁ l₂, l = l₁ ++ l₂ ∧ Course p l₁ a ∧ Course (f a) l₂ b := by
  constructor
  · intro h
    induction p generalizing l with
    | done a => exact ⟨a, [], l, rfl, .done a, h⟩
    | send q next ih =>
      obtain ⟨r, l', rfl, h'⟩ := course_send_iff.mp h
      obtain ⟨a, l₁, l₂, rfl, h₁, h₂⟩ := ih r h'
      exact ⟨a, _, l₂, rfl, .send h₁, h₂⟩
    | sleep d next ih =>
      obtain ⟨l', rfl, h'⟩ := course_sleep_iff.mp h
      obtain ⟨a, l₁, l₂, rfl, h₁, h₂⟩ := ih h'
      exact ⟨a, _, l₂, rfl, .sleep h₁, h₂⟩
    | note n next ih =>
      obtain ⟨l', rfl, h'⟩ := course_note_iff.mp h
      obtain ⟨a, l₁, l₂, rfl, h₁, h₂⟩ := ih h'
      exact ⟨a, _, l₂, rfl, .note h₁, h₂⟩
    | now next ih =>
      obtain ⟨t, l', rfl, h'⟩ := course_now_iff.mp h
      obtain ⟨a, l₁, l₂, rfl, h₁, h₂⟩ := ih t h'
      exact ⟨a, _, l₂, rfl, .now h₁, h₂⟩
    | pause next ih =>
      obtain ⟨a, l₁, l₂, rfl, h₁, h₂⟩ := ih (course_pause_iff.mp h)
      exact ⟨a, _, l₂, rfl, .pause h₁, h₂⟩
    | turn next ih =>
      obtain ⟨b, h⟩ := course_turn_iff.mp h
      obtain ⟨a, l₁, l₂, rfl, h₁, h₂⟩ := ih b h
      exact ⟨a, _, l₂, rfl, .turn h₁, h₂⟩
  · rintro ⟨a, l₁, l₂, rfl, h₁, h₂⟩
    exact h₁.andThen h₂

/-! ## Interleavings -/

/-- **An interleaving of two lists**: a list of what is in either, that
keeps the order of each. -/
inductive Interleaves : List α → List α → List α → Prop
  | nil : Interleaves [] [] []
  | left {a : α} {xs ys zs : List α} :
      Interleaves xs ys zs → Interleaves (a :: xs) ys (a :: zs)
  | right {a : α} {xs ys zs : List α} :
      Interleaves xs ys zs → Interleaves xs (a :: ys) (a :: zs)

namespace Interleaves

theorem nil_left (xs : List α) : Interleaves [] xs xs := by
  induction xs with
  | nil => exact .nil
  | cons a xs ih => exact .right ih

theorem nil_right (xs : List α) : Interleaves xs [] xs := by
  induction xs with
  | nil => exact .nil
  | cons a xs ih => exact .left ih

/-- What is in an interleaving is in one of the two lists. -/
theorem mem_iff {xs ys zs : List α} (h : Interleaves xs ys zs) {a : α} :
    a ∈ zs ↔ a ∈ xs ∨ a ∈ ys := by
  induction h with
  | nil => simp
  | left _ ih => rw [List.mem_cons, List.mem_cons, ih, or_assoc]
  | right _ ih => rw [List.mem_cons, List.mem_cons, ih, or_left_comm]

end Interleaves

/-- **An interleaving of several lists.** -/
inductive Interleaved : List (List α) → List α → Prop
  | nil : Interleaved [] []
  | cons {xs ys zs : List α} {ls : List (List α)} :
      Interleaves xs ys zs → Interleaved ls ys → Interleaved (xs :: ls) zs

namespace Interleaved

/-- What is in an interleaving is in one of the lists. -/
theorem mem_iff {ls : List (List α)} {zs : List α} (h : Interleaved ls zs) {a : α} :
    a ∈ zs ↔ ∃ l ∈ ls, a ∈ l := by
  induction h with
  | nil => simp
  | cons h _ ih => simp [h.mem_iff, ih]

end Interleaved

/-! ## Courses of programs that run at once -/

/-- Whoever's turn it is, one of the two goes on. -/
theorem course_choice {p q : Program α} {l : List Step} {a : α}
    (h : Course (.turn fun mine => if mine then p else q) l a) : Course p l a ∨ Course q l a := by
  obtain ⟨mine, h⟩ := course_turn_iff.mp h
  cases mine with
  | true => exact .inl h
  | false => exact .inr h

/-- Weaving a program into another one gives interleavings, if going on
with the other one does and ending alone does nothing else. -/
theorem course_weave {p : Program α} {first : Program β → Program (α × β)}
    {alone : β → Program (α × β)}
    (hfirst : ∀ q l a b, Course (first q) l (a, b) →
      ∃ l₁ l₂, Course p l₁ a ∧ Course q l₂ b ∧ Interleaves l₁ l₂ l)
    (halone : ∀ b' l a b, Course (alone b') l (a, b) → Course p l a ∧ b = b')
    {q : Program β} {l : List Step} {a : α} {b : β}
    (h : Course (Program.weave first alone q) l (a, b)) :
    ∃ l₁ l₂, Course p l₁ a ∧ Course q l₂ b ∧ Interleaves l₁ l₂ l := by
  -- Wherever the second program is, the turn can go to the first one.
  induction q generalizing l with
  | done b' =>
    obtain ⟨hp, rfl⟩ := halone b' l a b h
    exact ⟨l, [], hp, .done b, .nil_right l⟩
  | send s next ih =>
    rcases course_choice h with h | h
    · exact hfirst _ l a b h
    · obtain ⟨r, l', rfl, h'⟩ := course_send_iff.mp h
      obtain ⟨l₁, l₂, h₁, h₂, hl⟩ := ih r h'
      exact ⟨l₁, _, h₁, .send h₂, .right hl⟩
  | sleep d next ih =>
    rcases course_choice h with h | h
    · exact hfirst _ l a b h
    · obtain ⟨l', rfl, h'⟩ := course_sleep_iff.mp h
      obtain ⟨l₁, l₂, h₁, h₂, hl⟩ := ih h'
      exact ⟨l₁, _, h₁, .sleep h₂, .right hl⟩
  | note n next ih =>
    rcases course_choice h with h | h
    · exact hfirst _ l a b h
    · obtain ⟨l', rfl, h'⟩ := course_note_iff.mp h
      obtain ⟨l₁, l₂, h₁, h₂, hl⟩ := ih h'
      exact ⟨l₁, _, h₁, .note h₂, .right hl⟩
  | now next ih =>
    rcases course_choice h with h | h
    · exact hfirst _ l a b h
    · obtain ⟨t, l', rfl, h'⟩ := course_now_iff.mp h
      obtain ⟨l₁, l₂, h₁, h₂, hl⟩ := ih t h'
      exact ⟨l₁, _, h₁, .now h₂, .right hl⟩
  | pause next ih =>
    rcases course_choice h with h | h
    · exact hfirst _ l a b h
    · obtain ⟨l₁, l₂, h₁, h₂, hl⟩ := ih (course_pause_iff.mp h)
      exact ⟨l₁, _, h₁, .pause h₂, hl⟩
  | turn next ih =>
    rcases course_choice h with h | h
    · exact hfirst _ l a b h
    · obtain ⟨b', h⟩ := course_turn_iff.mp h
      obtain ⟨l₁, l₂, h₁, h₂, hl⟩ := ih b' h
      exact ⟨l₁, _, h₁, .turn h₂, hl⟩

/-- Ending alone is taking the whole course alone. -/
theorem course_pairWith {p : Program α} {b b' : β} {l : List Step} {a : α}
    (h : Course (p.andThen fun a => .done (a, b')) l (a, b)) : Course p l a ∧ b = b' := by
  obtain ⟨a', l₁, l₂, rfl, h₁, h₂⟩ := course_andThen_iff.mp h
  obtain ⟨rfl, hab⟩ := course_done_iff.mp h₂
  obtain ⟨rfl, rfl⟩ := Prod.mk.inj hab
  exact ⟨by simpa using h₁, rfl⟩

/-- **A course of two programs at once interleaves their courses**, and
has both of their results. -/
theorem course_both {p : Program α} {q : Program β} {l : List Step} {a : α} {b : β}
    (h : Course (Program.both p q) l (a, b)) :
    ∃ l₁ l₂, Course p l₁ a ∧ Course q l₂ b ∧ Interleaves l₁ l₂ l := by
  induction p generalizing q l a b with
  | done a' =>
    obtain ⟨b', l₁, l₂, rfl, h₁, h₂⟩ := course_andThen_iff.mp h
    obtain ⟨rfl, hab⟩ := course_done_iff.mp h₂
    obtain ⟨rfl, rfl⟩ := Prod.mk.inj hab
    exact ⟨[], l₁, .done a, h₁, by simpa using Interleaves.nil_left l₁⟩
  | send s next ih =>
    refine course_weave (fun q l a b h => ?_) (fun b' l a b h => course_pairWith h) h
    obtain ⟨r, l', rfl, h'⟩ := course_send_iff.mp h
    obtain ⟨l₁, l₂, h₁, h₂, hl⟩ := ih r h'
    exact ⟨_, l₂, .send h₁, h₂, .left hl⟩
  | sleep d next ih =>
    refine course_weave (fun q l a b h => ?_) (fun b' l a b h => course_pairWith h) h
    obtain ⟨l', rfl, h'⟩ := course_sleep_iff.mp h
    obtain ⟨l₁, l₂, h₁, h₂, hl⟩ := ih h'
    exact ⟨_, l₂, .sleep h₁, h₂, .left hl⟩
  | note n next ih =>
    refine course_weave (fun q l a b h => ?_) (fun b' l a b h => course_pairWith h) h
    obtain ⟨l', rfl, h'⟩ := course_note_iff.mp h
    obtain ⟨l₁, l₂, h₁, h₂, hl⟩ := ih h'
    exact ⟨_, l₂, .note h₁, h₂, .left hl⟩
  | now next ih =>
    refine course_weave (fun q l a b h => ?_) (fun b' l a b h => course_pairWith h) h
    obtain ⟨t, l', rfl, h'⟩ := course_now_iff.mp h
    obtain ⟨l₁, l₂, h₁, h₂, hl⟩ := ih t h'
    exact ⟨_, l₂, .now h₁, h₂, .left hl⟩
  | pause next ih =>
    refine course_weave (fun q l a b h => ?_) (fun b' l a b h => course_pairWith h) h
    obtain ⟨l₁, l₂, h₁, h₂, hl⟩ := ih (course_pause_iff.mp h)
    exact ⟨_, l₂, .pause h₁, h₂, hl⟩
  | turn next ih =>
    refine course_weave (fun q l a b h => ?_) (fun b' l a b h => course_pairWith h) h
    obtain ⟨b', h⟩ := course_turn_iff.mp h
    obtain ⟨l₁, l₂, h₁, h₂, hl⟩ := ih b' h
    exact ⟨_, l₂, .turn h₁, h₂, hl⟩

/-- **One call** of a program: what happened in it and what it came to. -/
structure Call (α : Type) where
  /-- The steps. -/
  log : List Step
  /-- The result. -/
  result : α

/-- Whether a call is one of a program. -/
def Call.IsOf (c : Call α) (p : Program α) : Prop :=
  Course p c.log c.result

/-- Every call of some programs is one of one of them. -/
theorem exists_isOf {calls : List (Call α)} {ps : List (Program α)}
    (h : List.Forall₂ Call.IsOf calls ps) {c : Call α} (hc : c ∈ calls) : ∃ p ∈ ps, c.IsOf p := by
  induction h with
  | nil => exact absurd hc List.not_mem_nil
  | cons hp _ ih =>
    rcases List.mem_cons.mp hc with rfl | hc
    · exact ⟨_, List.mem_cons_self, hp⟩
    · obtain ⟨p, hmem, hcp⟩ := ih hc
      exact ⟨p, List.mem_cons_of_mem _ hmem, hcp⟩

/-- **A course of several programs at once interleaves one call of each**,
and has their results in the order of the programs. -/
theorem course_gather {ps : List (Program α)} {l : List Step} {as : List α}
    (h : Course (Program.gather ps) l as) :
    ∃ calls : List (Call α), List.Forall₂ Call.IsOf calls ps ∧
      Interleaved (calls.map Call.log) l ∧ as = calls.map Call.result := by
  induction ps generalizing l as with
  | nil =>
    obtain ⟨rfl, rfl⟩ := course_done_iff.mp h
    exact ⟨[], .nil, .nil, rfl⟩
  | cons p ps ih =>
    obtain ⟨⟨a, rest⟩, l₁, l₂, rfl, h₁, h₂⟩ := course_andThen_iff.mp h
    obtain ⟨rfl, rfl⟩ := course_done_iff.mp h₂
    obtain ⟨lp, lr, hp, hr, hl⟩ := course_both h₁
    obtain ⟨calls, hcalls, hlogs, rfl⟩ := ih hr
    refine ⟨⟨lp, a⟩ :: calls, .cons hp hcalls, ?_, rfl⟩
    rw [List.append_nil]
    exact .cons hl hlogs

/-! ## Runs are courses -/

namespace World

/-- The steps of a run. -/
def log (w : World σ) : Program α → σ → List Step
  | .done _, _ => []
  | .send q next, s => let r := w.reply q s; .exchanged q r.1 :: w.log (next r.1) r.2
  | .sleep d next, s => .slept d :: w.log next s
  | .note n next, s => .noted n :: w.log next s
  | .now next, s => let r := w.clock s; .told r.1 :: w.log (next r.1) r.2
  | .pause next, s => w.log next s
  | .turn next, s => let r := w.turn s; w.log (next r.1) r.2

/-- **Every run is a course.** -/
theorem course_log (w : World σ) (p : Program α) (s : σ) :
    Course p (w.log p s) (w.run p s).value := by
  induction p generalizing s with
  | done a => exact .done a
  | send q next ih => exact .send (ih _ _)
  | sleep d next ih => exact .sleep (ih s)
  | note n next ih => exact .note (ih s)
  | now next ih => exact .now (ih _ _)
  | pause next ih => exact .pause (ih s)
  | turn next ih => exact .turn (ih _ _)

/-- The events of a run are what the outside can see of its steps. -/
theorem events_run (w : World σ) (p : Program α) (s : σ) :
    (w.run p s).events = (w.log p s).filterMap Step.event? := by
  induction p generalizing s with
  | done a => rfl
  | send q next ih => simp [run, log, Outcome.after, Step.event?, ih]
  | sleep d next ih => simp [run, log, Outcome.after, Step.event?, ih]
  | note n next ih => simp [run, log, Outcome.after, Step.event?, ih]
  | now next ih => exact ih _ _
  | pause next ih => exact ih s
  | turn next ih => exact ih _ _

end World

end PackageVitals

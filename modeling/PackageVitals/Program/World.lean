import PackageVitals.Program

/-!
# Worlds

A world answers a program: it replies to requests, tells the time, and
says whose turn it is. What it answers may depend on what it was asked
before, which is its state. Running a program against a world gives the
program's result and the **events** that the outside could see, in their
order.
-/

namespace PackageVitals

/-- **An event** that the outside can see. -/
inductive Event where
  /-- A request was sent. -/
  | sent (q : Request)
  /-- Time was slept away. -/
  | slept (d : Seconds)
  /-- A notice was logged. -/
  | noted (n : Notice)
  deriving DecidableEq, Inhabited

/-- **A world** with a state. -/
structure World (σ : Type) where
  /-- The reply to a request. -/
  reply : Request → σ → Reply × σ
  /-- The reading of the clock. -/
  clock : σ → Timestamp × σ
  /-- Whether the first of two programs goes on. -/
  turn : σ → Bool × σ

/-- **What a run came to**: the result, the events and the state left. -/
structure Outcome (σ α : Type) where
  /-- The result. -/
  value : α
  /-- The events in their order. -/
  events : List Event
  /-- The state of the world afterwards. -/
  state : σ

namespace Outcome

/-- The outcome with an event put in front. -/
def after (e : Event) (o : Outcome σ α) : Outcome σ α :=
  { o with events := e :: o.events }

/-- The requests of a run. -/
def requests (o : Outcome σ α) : List Request :=
  o.events.filterMap fun | .sent q => some q | _ => none

/-- The sleeps of a run. -/
def sleeps (o : Outcome σ α) : List Seconds :=
  o.events.filterMap fun | .slept d => some d | _ => none

/-- The notices of a run. -/
def notices (o : Outcome σ α) : List Notice :=
  o.events.filterMap fun | .noted n => some n | _ => none

end Outcome

namespace World

/-- **Runs a program against a world.** -/
def run (w : World σ) : Program α → σ → Outcome σ α
  | .done a, s => ⟨a, [], s⟩
  | .send q next, s => let r := w.reply q s; (w.run (next r.1) r.2).after (.sent q)
  | .sleep d next, s => (w.run next s).after (.slept d)
  | .note n next, s => (w.run next s).after (.noted n)
  | .now next, s => let r := w.clock s; w.run (next r.1) r.2
  | .pause next, s => w.run next s
  | .turn next, s => let r := w.turn s; w.run (next r.1) r.2

@[simp] theorem run_done (w : World σ) (a : α) (s : σ) : w.run (.done a) s = ⟨a, [], s⟩ := rfl

/-- Running one program after the other is running their composition. -/
theorem run_andThen (w : World σ) (p : Program α) (f : α → Program β) (s : σ) :
    w.run (p.andThen f) s =
      let o := w.run p s
      let o' := w.run (f o.value) o.state
      ⟨o'.value, o.events ++ o'.events, o'.state⟩ := by
  induction p generalizing s with
  | done a => rfl
  | send q next ih => simp [Program.andThen, run, ih, Outcome.after]
  | sleep d next ih => simp [Program.andThen, run, ih, Outcome.after]
  | note n next ih => simp [Program.andThen, run, ih, Outcome.after]
  | now next ih => simp [Program.andThen, run, ih]
  | pause next ih => simp [Program.andThen, run, ih]
  | turn next ih => simp [Program.andThen, run, ih]

end World

end PackageVitals

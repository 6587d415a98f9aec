import PackageVitals.Program.World

/-!
# The order of programs that run at once

A world that always lets the first of two programs go on runs them **in
order**: the second starts when the first has ended. In such a world two
programs at once are the two programs one after the other
(`World.run_both`), and several programs at once are all of them in their
order (`World.run_gather`).
-/

namespace PackageVitals

/-- The outcome of one run followed by another, with both results. -/
def Outcome.pair (o : Outcome σ α) (next : σ → Outcome σ β) : Outcome σ (α × β) :=
  let o' := next o.state
  ⟨(o.value, o'.value), o.events ++ o'.events, o'.state⟩

namespace World

/-- **A world that runs programs in order.** -/
def InOrder (w : World σ) : Prop :=
  ∀ s, w.turn s = (true, s)

/-- Runs several programs one after another. -/
def runAll (w : World σ) : List (Program α) → σ → Outcome σ (List α)
  | [], s => ⟨[], [], s⟩
  | p :: ps, s =>
    let o := (w.run p s).pair (w.runAll ps)
    ⟨o.value.1 :: o.value.2, o.events, o.state⟩

variable {w : World σ}

theorem run_weave (h : w.InOrder) (first : Program β → Program γ) (alone : β → Program γ)
    (q : Program β) (s : σ) (hq : ∀ b, q ≠ .done b) :
    w.run (Program.weave first alone q) s = w.run (first q) s := by
  cases q with
  | done b => exact absurd rfl (hq b)
  | send r next => simp [Program.weave, run, h s]
  | sleep d next => simp [Program.weave, run, h s]
  | note n next => simp [Program.weave, run, h s]
  | now next => simp [Program.weave, run, h s]
  | pause next => simp [Program.weave, run, h s]
  | turn next => simp [Program.weave, run, h s]

/-- Running a program whose result is paired with a given one. -/
theorem run_pairWith (p : Program α) (b : β) (s : σ) :
    w.run (p.andThen fun a => .done (a, b)) s = (w.run p s).pair fun s' => ⟨b, [], s'⟩ := by
  simp [run_andThen, Outcome.pair]

/-- **In order, two programs at once are one after the other.** -/
theorem run_both (h : w.InOrder) (p : Program α) (q : Program β) (s : σ) :
    w.run (Program.both p q) s = (w.run p s).pair (w.run q) := by
  by_cases hq : ∃ b, q = .done b
  · obtain ⟨b, rfl⟩ := hq
    cases p with
    | done a => rfl
    | send r next => exact run_pairWith (.send r next) b s
    | sleep d next => exact run_pairWith (.sleep d next) b s
    | note n next => exact run_pairWith (.note n next) b s
    | now next => exact run_pairWith (.now next) b s
    | pause next => exact run_pairWith (.pause next) b s
    | turn next => exact run_pairWith (.turn next) b s
  · have hq' : ∀ b, q ≠ .done b := fun b e => hq ⟨b, e⟩
    induction p generalizing s with
    | done a => simp [Program.both, run_andThen, Outcome.pair]
    | send r next ih => simp [Program.both, run_weave h _ _ q s hq', run, ih, Outcome.after,
        Outcome.pair]
    | sleep d next ih => simp [Program.both, run_weave h _ _ q s hq', run, ih, Outcome.after,
        Outcome.pair]
    | note n next ih => simp [Program.both, run_weave h _ _ q s hq', run, ih, Outcome.after,
        Outcome.pair]
    | now next ih => simp [Program.both, run_weave h _ _ q s hq', run, ih, Outcome.pair]
    | pause next ih => simp [Program.both, run_weave h _ _ q s hq', run, ih, Outcome.pair]
    | turn next ih => simp [Program.both, run_weave h _ _ q s hq', run, ih, Outcome.pair]

/-- **In order, several programs at once are all of them in turn.** -/
theorem run_gather (h : w.InOrder) (ps : List (Program α)) (s : σ) :
    w.run (Program.gather ps) s = w.runAll ps s := by
  induction ps generalizing s with
  | nil => rfl
  | cons p ps ih => simp [Program.gather, runAll, run_andThen, run_both h, Outcome.pair, ih]

end World

end PackageVitals

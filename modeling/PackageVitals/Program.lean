import PackageVitals.Exchange
import PackageVitals.Time.Timestamp

/-!
# Programs

Everything in this library that talks to the outside is a **program**: a
tree whose nodes are the things that can happen – a request is sent, time
is slept away, a notice is logged, the clock is read – and whose branches
are the ways the outside can respond. A program does nothing by itself. It
is run against a world (`World.run`), and as it is a value it can be run
against two worlds and compared, or woven together with another program in
every possible order (`Program.both`).

Two nodes exist for that last purpose: `pause` gives others a chance to go
on, and `turn` asks the world which of two programs goes on next.

A program that can fail is an `Action`. A failure is a result like any
other and undoes nothing that has happened before it.
-/

namespace PackageVitals

/-- **A length of time** in seconds. -/
inductive Seconds where
  /-- A whole number of seconds. -/
  | whole (n : Int)
  /-- A number of seconds in double precision. -/
  | exact (x : Double)
  deriving DecidableEq, Inhabited

/-- A length of time as shown to people. -/
def Seconds.text : Seconds → String
  | whole n => Text.integer n
  | exact x => x.text

/-- How much a notice matters. -/
inductive Severity where
  | debug | info | warning | error
  deriving DecidableEq, Inhabited

/-- The failure that a notice reports, and how. -/
inductive Cause where
  /-- There is none. -/
  | none
  /-- The failure ends the text. -/
  | stated (f : Failure)
  /-- The failure is attached to the text. -/
  | attached (f : Failure)
  deriving DecidableEq, Inhabited

/-- **A notice** in the log. -/
structure Notice where
  /-- How much it matters. -/
  severity : Severity
  /-- What it says. -/
  text : String
  /-- The failure behind it. -/
  cause : Cause := .none
  deriving DecidableEq, Inhabited

/-- **A program** with a result. -/
inductive Program (α : Type) where
  /-- Ends with a result. -/
  | done (value : α)
  /-- Sends a request and goes on with what it gets. -/
  | send (q : Request) (next : Reply → Program α)
  /-- Sleeps. -/
  | sleep (d : Seconds) (next : Program α)
  /-- Logs a notice. -/
  | note (n : Notice) (next : Program α)
  /-- Reads the clock. -/
  | now (next : Timestamp → Program α)
  /-- Lets other programs go on. -/
  | pause (next : Program α)
  /-- Asks which of two programs goes on: the first, if the answer is
  true. -/
  | turn (next : Bool → Program α)

namespace Program

/-- Goes on with another program. -/
def andThen (p : Program α) (f : α → Program β) : Program β :=
  match p with
  | done a => f a
  | send q next => send q fun r => (next r).andThen f
  | sleep d next => sleep d (next.andThen f)
  | note n next => note n (next.andThen f)
  | now next => now fun t => (next t).andThen f
  | pause next => pause (next.andThen f)
  | turn next => turn fun b => (next b).andThen f

instance : Monad Program where
  pure := done
  bind := andThen

@[simp] theorem done_andThen (a : α) (f : α → Program β) : (done a).andThen f = f a := rfl

@[simp] theorem andThen_done (p : Program α) : p.andThen done = p := by
  induction p with
  | done a => rfl
  | send q next ih => simp [andThen, ih]
  | sleep d next ih => simp [andThen, ih]
  | note n next ih => simp [andThen, ih]
  | now next ih => simp [andThen, ih]
  | pause next ih => simp [andThen, ih]
  | turn next ih => simp [andThen, ih]

theorem andThen_assoc (p : Program α) (f : α → Program β) (g : β → Program γ) :
    (p.andThen f).andThen g = p.andThen fun a => (f a).andThen g := by
  induction p with
  | done a => rfl
  | send q next ih => simp [andThen, ih]
  | sleep d next ih => simp [andThen, ih]
  | note n next ih => simp [andThen, ih]
  | now next ih => simp [andThen, ih]
  | pause next ih => simp [andThen, ih]
  | turn next ih => simp [andThen, ih]

/-- A program of one node. -/
def logging (n : Notice) : Program Unit :=
  note n (done ())

/-- Weaves a program into the turns of another one. `first` is what
happens if the other program goes on, and `alone` how it goes on once this
one has ended. -/
def weave (first : Program β → Program γ) (alone : β → Program γ) : Program β → Program γ
  | done b => alone b
  | send q next => turn fun l =>
    if l then first (send q next) else send q fun r => weave first alone (next r)
  | sleep d next => turn fun l =>
    if l then first (sleep d next) else sleep d (weave first alone next)
  | note n next => turn fun l =>
    if l then first (note n next) else note n (weave first alone next)
  | now next => turn fun l =>
    if l then first (now next) else now fun t => weave first alone (next t)
  | pause next => turn fun l =>
    if l then first (pause next) else pause (weave first alone next)
  | turn next => turn fun l =>
    if l then first (turn next) else turn fun b => weave first alone (next b)

/-- **Two programs at once.** At every step the world says which of the
two goes on, so that a world is free to run them in any order; when one
has ended the other goes on alone. -/
def both : Program α → Program β → Program (α × β)
  | done a => fun q => q.andThen fun b => done (a, b)
  | send s next => weave (fun q => send s fun r => both (next r) q)
      fun b => (send s next).andThen fun a => done (a, b)
  | sleep d next => weave (fun q => sleep d (both next q))
      fun b => (sleep d next).andThen fun a => done (a, b)
  | note n next => weave (fun q => note n (both next q))
      fun b => (note n next).andThen fun a => done (a, b)
  | now next => weave (fun q => now fun t => both (next t) q)
      fun b => (now next).andThen fun a => done (a, b)
  | pause next => weave (fun q => pause (both next q))
      fun b => (pause next).andThen fun a => done (a, b)
  | turn next => weave (fun q => turn fun l => both (next l) q)
      fun b => (turn next).andThen fun a => done (a, b)

/-- **Several programs at once**, with their results in the order of the
programs. -/
def gather : List (Program α) → Program (List α)
  | [] => done []
  | p :: ps => (both p (gather ps)).andThen fun r => done (r.1 :: r.2)

end Program

/-- **A program that can fail.** -/
abbrev Action := ExceptT Failure Program

namespace Action

/-- The program of an action, which ends with what the action came to. -/
def attempt (a : Action α) : Program (Except Failure α) :=
  a.run

/-- The action of a program that ends with what an action came to. -/
def ofAttempt (p : Program (Except Failure α)) : Action α :=
  ExceptT.mk p

/-- A result or a failure as an action. -/
def ofExcept (e : Except Failure α) : Action α :=
  ExceptT.mk (.done e)

/-- Fails. -/
def fail (f : Failure) : Action α :=
  ofExcept (.error f)

/-- Logs a notice. -/
def note (n : Notice) : Action Unit :=
  ExceptT.lift (.logging n)

/-- Logs a text. -/
def say (severity : Severity) (text : String) : Action Unit :=
  note { severity, text }

/-- Reads the clock. -/
def now : Action Timestamp :=
  ExceptT.lift (.now .done)

/-- Sleeps. -/
def sleep (d : Seconds) : Action Unit :=
  ExceptT.lift (.sleep d (.done ()))

/-- Sends a request; to get no response is to fail. -/
def send (q : Request) : Action Response :=
  ofAttempt (.send q .done)

/-- Two actions at once. Neither is cut short by a failure of the other. -/
def both (a : Action α) (b : Action β) : Program (Except Failure α × Except Failure β) :=
  Program.both a.attempt b.attempt

end Action

end PackageVitals

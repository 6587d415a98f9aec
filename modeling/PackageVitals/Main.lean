import PackageVitals.CommandLine
import PackageVitals.Report.Layout
import PackageVitals.Time.Plain
import Std.Time.Zoned

/-!
# The program

Runs a command line against the real world: the environment, the clock, the
terminal and the directory one is in. The world of this program has no
network, so every request breaks down; a transport is a reply function and
nothing else, and takes the place of `offline`. The program takes for
granted that everything can be shown and written, and what the real place
refuses ends it while it is done.
-/

namespace PackageVitals.Main

/-- The reply of a world without a network. -/
def offline (_ : Request) : IO Reply :=
  return .error (.transport .connect "no network transport")

/-- The time on the clock. -/
def clock : IO Timestamp := do
  let t ← Std.Time.Timestamp.now
  let micros := Int.fdiv t.toNanosecondsSinceUnixEpoch.val 1000
  return (Timestamp.ofInstant? (Timestamp.epoch + micros)).getD default

/-- Sleeps; a length of time that cannot be slept is none. -/
def rest (d : Seconds) : IO Unit :=
  let x : Double := match d with
    | .whole n => .ofInt n
    | .exact x => x
  IO.sleep (((x.floor?).getD 0).toNat * 1000).toUInt32

/-- Performs a program with a transport, and collects its notices. -/
def perform (reply : Request → IO Reply) : Program α → IO (α × List Notice)
  | .done a => return (a, [])
  | .send q next => do perform reply (next (← reply q))
  | .sleep d next => do
    rest d
    perform reply next
  | .note n next => do
    let r ← perform reply next
    return (r.1, n :: r.2)
  | .now next => do perform reply (next (← clock))
  | .pause next => perform reply next
  | .turn next => perform reply (next true)

/-- The variables that are set. -/
def environment : IO Environment := do
  let found ← Settings.variableNames.mapM fun name => do
    return (← IO.getEnv name).map fun value => (name, value)
  return found.filterMap id

/-- Does what a run does. -/
def finish (r : Run) (notices : List Notice) : IO UInt32 := do
  for n in notices do
    if n.isLogged r.level then IO.eprintln n.line
  for d in r.deeds do
    match d with
    | .shown p => IO.println p.text
    | .complained text => IO.eprintln (Printed.line text).text
    | .written path text => IO.FS.writeFile path text
  if let some f := r.failure then IO.eprintln f.description
  return r.exitCode.toUInt32

end PackageVitals.Main

/-- Runs the command line. -/
def main (words : List String) : IO UInt32 := do
  let env ← PackageVitals.Main.environment
  let (r, notices) ← PackageVitals.Main.perform PackageVitals.Main.offline
    (PackageVitals.Run.ofWordsAt .anywhere env words)
  PackageVitals.Main.finish r notices

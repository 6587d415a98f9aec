import PackageVitals.Program
import PackageVitals.Report
import PackageVitals.Settings

/-!
# Layout of reports

How printed things and notices look on a terminal without colours: markup
is left out, and the columns of a table are padded to a common width.
-/

namespace PackageVitals

namespace Printed

/-- A text without its markup: what stands in brackets is left out. -/
def withoutMarkup (inside : Bool) : List Char → List Char
  | [] => []
  | c :: rest =>
    if c == '[' then withoutMarkup true rest
    else if c == ']' then withoutMarkup false rest
    else if inside then withoutMarkup true rest
    else c :: withoutMarkup false rest

/-- A text padded with spaces on the right. -/
def padTo (width : Nat) (s : String) : String :=
  s ++ String.ofList (List.replicate (width - s.length) ' ')

/-- The width of each column of some rows. -/
def widths : List (List String) → List Nat
  | [] => []
  | row :: rest =>
    let below := widths rest
    let here := row.map String.length
    (List.zipWith max here below) ++ here.drop below.length ++ below.drop here.length

/-- A row with its cells padded. -/
def rowText (ws : List Nat) (row : List String) : String :=
  "  ".intercalate (List.zipWith padTo ws row)

/-- **A printed thing as text.** -/
def text : Printed → String
  | line s => String.ofList (withoutMarkup false s.toList)
  | json s => s
  | table title columns rows =>
    let ws := widths (columns :: rows)
    "\n".intercalate (title.toList ++ (columns :: rows).map (rowText ws))

end Printed

/-- How much a severity matters, as a number. -/
def Severity.rank : Severity → Nat
  | .debug => 10
  | .info => 20
  | .warning => 30
  | .error => 40

/-- The least rank that is logged at a level. -/
def LogLevel.rank : LogLevel → Nat
  | .critical | .fatal => 50
  | .error => 40
  | .warn | .warning => 30
  | .info => 20
  | .debug => 10
  | .notset => 0

/-- Whether a notice is logged at a level. -/
def Notice.isLogged (n : Notice) (l : LogLevel) : Bool :=
  l.rank ≤ n.severity.rank

/-- A notice as a line of the log. -/
def Notice.line (n : Notice) : String :=
  n.text ++ match n.cause with
    | .none => ""
    | .stated f => ": " ++ f.description
    | .attached f => " (" ++ f.description ++ ")"

end PackageVitals

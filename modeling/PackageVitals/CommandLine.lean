import PackageVitals.Aggregation
import PackageVitals.CommandLine.Arguments
import PackageVitals.Json.Writer
import PackageVitals.Record.Stored
import PackageVitals.Registry.Standard
import PackageVitals.Report

/-!
# The command line

There are two commands. `analyze` analyzes one or more packages of one
ecosystem, namespace and version, and shows the records as reports or as
JSON; it may write the JSON to a file as well. `version` says which version
of the program this is.

A command is run at a **place**, which has a terminal to print on and a
directory to write files in. Either may refuse what it is asked for: a
terminal cannot show a text whose markup it cannot make sense of, and a
file needs a directory. What is to be done is done in order, and what is
refused ends the run there (`Run.perform`).

Running a command is a program whose result says everything that is done:
what is printed, what is complained about, which files are written, how
much is logged, and how the run exits. A command line that is not
understood is answered with the exit code 2.
-/

namespace PackageVitals

/-- **What is asked for** on the command line. -/
inductive Command where
  /-- To analyze packages. -/
  | analyze (identities : List Identity) (output : Option String) (asJson verbose : Bool)
  /-- To say the version. -/
  | version
  /-- To be helped. -/
  | help
  deriving Inhabited

namespace Command

/-- The option for help, which every command has. -/
def helpOption : CommandOption := ⟨"--help", none, false⟩

/-- The options of `analyze`. -/
def analyzeOptions : List CommandOption := [
  ⟨"--type", some 't', true⟩,
  ⟨"--namespace", some 'n', true⟩,
  ⟨"--version", some 'v', true⟩,
  ⟨"--output", some 'o', true⟩,
  ⟨"--json", none, false⟩,
  ⟨"--verbose", none, false⟩,
  helpOption]

/-- The command that the words after `analyze` ask for. -/
def ofAnalyze? (words : List String) : Option Command := do
  let a ← Arguments.sort analyzeOptions words
  if a.has "--help" then return .help
  else
    let ecosystem ← a.value? "--type"
    if a.words.isEmpty then none
    else
      let identity (name : String) : Identity :=
        ⟨Text.lowerCase ecosystem, name, a.value? "--namespace", a.value? "--version"⟩
      return .analyze (a.words.map identity) (a.value? "--output") (a.has "--json")
        (a.has "--verbose")

/-- The command that the words after `version` ask for. -/
def ofVersion? (words : List String) : Option Command := do
  let a ← Arguments.sort [helpOption] words
  if a.has "--help" then return .help
  else if a.words.isEmpty then return .version
  else none

/-- The command with a name. -/
def ofName? (name : String) (words : List String) : Option Command :=
  if name == "analyze" then ofAnalyze? words
  else if name == "version" then ofVersion? words
  else none

/-- **The command that a command line asks for.** -/
def ofWords? : List String → Option Command
  | "--" :: name :: words => ofName? name words
  | "--help" :: rest => if onlyHelp rest then some .help else none
  | name :: words => ofName? name words
  | [] => none
where
  /-- Whether the options before a command are understood. -/
  onlyHelp : List String → Bool
    | "--help" :: rest => onlyHelp rest
    | "--" :: _ => true
    | w :: _ => w.toList.head? != some '-' || w == "-"
    | [] => true

end Command

/-- **Something that a run does.** -/
inductive Deed where
  /-- It prints something. -/
  | shown (p : Printed)
  /-- It prints a line on the side. -/
  | complained (text : String)
  /-- It writes a file of a path, with a text. -/
  | written (path text : String)
  deriving DecidableEq, Inhabited

/-- **Where a program is run**: what its terminal and its directory refuse. -/
structure Place where
  /-- Why something cannot be shown, if it cannot. -/
  unshown? : Printed → Option Failure
  /-- Why a file of a path cannot be written, if it cannot. -/
  unwritten? : String → Option Failure

namespace Place

/-- Why something cannot be done, if it cannot. -/
def refusal? (place : Place) : Deed → Option Failure
  | .shown p => place.unshown? p
  | .complained text => place.unshown? (.line text)
  | .written path _ => place.unwritten? path

/-- An empty directory, and a terminal that shows everything. -/
def emptyDirectory : Place where
  unshown? _ := none
  unwritten? path :=
    if path == "." || path == ".." || path == "/" then some .isDirectory
    else if path.toList.contains '/' then some .missingDirectory
    else none

/-- A place that refuses nothing. -/
def anywhere : Place where
  unshown? _ := none
  unwritten? _ := none

end Place

/-- **What running a command came to.** -/
structure Run where
  /-- The exit code. -/
  exitCode : Nat := 0
  /-- What was done, in order. -/
  deeds : List Deed := []
  /-- How much is logged. -/
  level : LogLevel := .warning
  /-- The failure that ended the run early. -/
  failure : Option Failure := none
  deriving Inhabited

namespace Run

/-- What is printed. -/
def printed (r : Run) : List Printed :=
  r.deeds.filterMap fun | .shown p => some p | _ => none

/-- What is printed on the side. -/
def complaints (r : Run) : List String :=
  r.deeds.filterMap fun | .complained text => some text | _ => none

/-- The files that are written, with their texts. -/
def files (r : Run) : List (String × String) :=
  r.deeds.filterMap fun | .written path text => some (path, text) | _ => none

/-- The run with a failure at its end. -/
def failed (r : Run) (f : Failure) : Run :=
  { r with exitCode := 1, failure := some f }

/-- **Does something** at a place, unless the run has come to an end. -/
def perform (place : Place) (r : Run) (d : Deed) : Run :=
  if r.failure.isSome then r
  else match place.refusal? d with
    | none => { r with deeds := r.deeds ++ [d] }
    | some f => r.failed f

/-- Does several things one after another. -/
def performAll (place : Place) (r : Run) (ds : List Deed) : Run :=
  ds.foldl (perform place) r

/-- The version of the program. -/
def versionText : String := "0.1.0"

/-- The text of a problem with the configuration. -/
def problemText (p : ConfigProblem) : String :=
  "[red]" ++ (p.message?).getD "ValidationError" ++ "[/red]"

/-- The data of records: the only one, or the list of them. -/
def dataOf (records : List Record) : Json :=
  match records with
  | [r] => r.stored
  | rs => .arr (rs.map Record.stored)

/-- A path as it is written: without empty parts and parts of one dot. -/
def pathText (s : String) : String :=
  let parts := (Text.splitAll '/' s.toList).filter fun p => !p.isEmpty && p != ['.']
  let body := String.ofList (List.intercalate ['/'] parts)
  if ['/'].isPrefixOf s.toList then "/" ++ body else if body.isEmpty then "." else body

/-- What is said of a file that was written. -/
def saved (path : String) : Printed :=
  .line ("\n[green]Saved to " ++ path ++ "[/green]")

/-- What is done with records: they are shown, and written to a file where
one is asked for. -/
def presentation (records : List Record) (output : Option String) (asJson : Bool) : List Deed :=
  let data := dataOf records
  let shown := if asJson then [Printed.json data.compact] else records.flatMap Report.ofRecord
  shown.map .shown ++ match output with
    | none => []
    | some path => [.written (pathText path) data.pretty, .shown (saved (pathText path))]

/-- Presents records, if they can be stored and written. -/
def present (place : Place) (r : Run) (records : List Record) (output : Option String)
    (asJson : Bool) : Run :=
  if records.all Record.isStorable && (dataOf records).isWritable then
    r.performAll place (presentation records output asJson)
  else r.failed .badValue

/-- The complaint that nothing applies to an ecosystem. -/
def unsupportedText (i : Identity) : String :=
  "[yellow]No analyzer supports type '" ++ i.ecosystem ++ "'[/yellow]"

/-- What is complained about before packages are analyzed: that nothing
applies to the first of them. -/
def complaintsAbout (g : Registry) (identities : List Identity) : List String :=
  match identities.head? with
  | some i => if g.covers i then [] else [unsupportedText i]
  | none => []

/-- Analyzes packages and shows what was found. -/
def analyze (place : Place) (identities : List Identity) (settings : Settings)
    (output : Option String) (asJson verbose : Bool) : Program Run := do
  let g := Registry.standard settings
  let level := if verbose then .debug else settings.logLevel.main
  let r := performAll place { level } ((complaintsAbout g identities).map .complained)
  if r.failure.isSome then return r
  match ← (g.analyzeMany identities).attempt with
  | .ok records => return r.present place records output asJson
  | .error f => return r.failed f

/-- **Runs a command** at a place. -/
def ofCommand (place : Place) (env : Environment) : Command → Program Run
  | .help => return {}
  | .version => return perform place {} (.shown (.line ("pkghealth v" ++ versionText)))
  | .analyze identities output asJson verbose =>
    match Settings.ofEnvironment env with
    | .error p => return { perform place {} (.complained (problemText p)) with exitCode := 1 }
    | .ok settings => analyze place identities settings output asJson verbose

/-- **Runs a command line** at a place, in an environment. -/
def ofWordsAt (place : Place) (env : Environment) (words : List String) : Program Run :=
  match Command.ofWords? words with
  | none => return { exitCode := 2 }
  | some c => ofCommand place env c

/-- Runs a command line where nothing is but the program. -/
def ofWords (env : Environment) (words : List String) : Program Run :=
  ofWordsAt .emptyDirectory env words

end Run

end PackageVitals

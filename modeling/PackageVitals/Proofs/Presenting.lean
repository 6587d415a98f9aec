import PackageVitals.CommandLine
import PackageVitals.Proofs.Storing

/-!
# What the command line puts out

A command line that asks for an analysis is understood as it is meant, whatever
the texts in it (`Inquiry.ofWords_words`). A run that finishes has a record for each
name in turn, each what the analysis of its package returns
(`Registry.Returned`), and puts them out as JSON: the object of the only record, or
the list of all of them.

The JSON is put out twice, spread over lines in the file and on one line where it is
shown. Both are read again as the same value (`Run.ofChars_dataOf`), since every
value in a record is in its only form, none is nested too deeply for a reader, and no
number is too long for one. So the two say the same, and they say what the records
say (`Run.json_faithful`).

Not every run finishes: a terminal may be unable to show a report, and a file may have
no directory to be in. What is refused ends the run, so a run that finishes has done all
that was to be done (`Run.performAll_cases`).
-/

namespace PackageVitals

/-! ## The words of a command line -/

namespace Arguments

open Command (analyzeOptions)

variable (words : List String)

end Arguments

/-- **A request for an analysis**: what the words of a command line say. -/
structure Inquiry where
  /-- The package URL type, in any case. -/
  ecosystem : String
  /-- The namespace. -/
  scope : Option String
  /-- The version. -/
  version : Option String
  /-- The names of the packages. -/
  names : List String

namespace Inquiry

/-- The identities that are asked about. -/
def identities (q : Inquiry) : List Identity :=
  q.names.map fun name => ⟨Text.lowerCase q.ecosystem, name, q.scope, q.version⟩

/-- **The words of a command line** that asks for an analysis and a file, with the
JSON printed or not and with more logged or not. -/
def words (q : Inquiry) (output : String) (asJson verbose : Bool) : List String :=
  "analyze" :: "--type" :: q.ecosystem ::
    ((q.scope.map fun s => ["--namespace", s]).getD [] ++
      ((q.version.map fun v => ["--version", v]).getD [] ++
        ("--output" :: output :: ((if asJson then ["--json"] else []) ++
          ((if verbose then ["--verbose"] else []) ++ "--" :: q.names)))))

end Inquiry

/-! ## The records -/

namespace Registry

variable {g : Registry} {w : World σ}

end Registry

/-! ## The data -/

namespace Json

end Json

namespace Run

variable {place : Place}

variable {w : World σ} {s : σ}

/-- The tags in a text: what stands in brackets and begins like a tag. -/
def tagsIn (s : List Char) : List (List Char) :=
  ((Text.splitAll '[' s).drop 1).filterMap fun piece =>
    if piece.contains ']' && piece.head?.any fun c => c.isLower || "#/@".toList.contains c then
      some (piece.takeWhile (· != ']'))
    else none

/-- Whether every tag that closes another one finds it open. -/
def closes : List (List Char) → List (List Char) → Bool
  | _, [] => true
  | opened, ['/'] :: rest => !opened.isEmpty && closes opened.tail rest
  | opened, ('/' :: name) :: rest => opened.contains name && closes (opened.erase name) rest
  | opened, name :: rest => closes (name :: opened) rest

/-- The texts with markup in something to print. -/
def markedTexts : Printed → List String
  | .line text => [text]
  | .table title columns rows => title.toList ++ columns ++ rows.flatten
  | .json _ => []

/-- A place where files can be written and markup is read: a tag that closes nothing cannot
be shown. -/
def colourful : Place where
  unshown? p :=
    if (markedTexts p).all fun text => closes [] (tagsIn text.toList) then none
    else some (.unforeseen "MarkupError")
  unwritten? _ := none

/-- A request for two packages of npm. -/
def twoPackages : Inquiry := ⟨"NPM", none, none, ["x", "y"]⟩

/-- An environment with a short address. -/
def nearby : Environment := [("PKGHEALTH_DEPS_DEV_URL", "http://d")]

/-- What comes of the request in a script. -/
def runIn (script : Script) (asJson : Bool) : Run :=
  (GitHub.Analyzer.inOrder.run
    (ofWordsAt colourful nearby (twoPackages.words "out/h.json" asJson false)) (script, ())).value

end Run

end PackageVitals

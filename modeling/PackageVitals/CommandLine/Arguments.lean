/-!
# Command line arguments

A command line is a list of words. Words that start with a dash are
options: a long one takes its value after an equals sign or from the next
word, short ones can be joined and the last of them takes the rest of the
word as its value. Two dashes alone end the options. An option that is
given again replaces its value.

The outer command line has no options but the one for help and ends at the
name of a command; the options of a command may stand anywhere after its
name.
-/

namespace PackageVitals

/-- **An option** of a command. -/
structure CommandOption where
  /-- The long name, with its dashes. -/
  long : String
  /-- The letter of the short name. -/
  short : Option Char
  /-- Whether the option takes a value. -/
  takesValue : Bool
  deriving DecidableEq, Inhabited

/-- **The words of a command line, sorted.** -/
structure Arguments where
  /-- The options with their values, in the order in which they stand. A
  flag has an empty value. -/
  options : List (String × String)
  /-- The other words. -/
  words : List String
  deriving Inhabited

namespace Arguments

/-- No words. -/
def empty : Arguments := ⟨[], []⟩

/-- Adds a word. -/
def addWord (w : String) (a : Arguments) : Arguments :=
  { a with words := w :: a.words }

/-- Adds an option in front. -/
def addOption (name value : String) (a : Arguments) : Arguments :=
  { a with options := (name, value) :: a.options }

/-- The last value of an option. -/
def value? (a : Arguments) (name : String) : Option String :=
  (a.options.reverse.find? (·.1 == name)).map (·.2)

/-- Whether an option is given. -/
def has (a : Arguments) (name : String) : Bool :=
  (a.value? name).isSome

/-- The name before an equals sign, and the value after it. -/
def splitValue (w : List Char) : List Char × Option (List Char) :=
  match w.dropWhile (· != '=') with
  | [] => (w, none)
  | _ :: value => (w.takeWhile (· != '='), some value)

/-- **What a word that starts with a dash says**: options with their
values, and possibly an option whose value is the next word. -/
structure Given where
  /-- The options with their values. -/
  options : List (String × String)
  /-- The option that waits for its value. -/
  waiting : Option String

/-- Reads joined short options. -/
def readJoined? (options : List CommandOption) : List Char → Option Given
  | [] => some ⟨[], none⟩
  | c :: rest =>
    match options.find? (·.short == some c) with
    | none => none
    | some o =>
      if !o.takesValue then
        (readJoined? options rest).map fun g => { g with options := (o.long, "") :: g.options }
      else if rest.isEmpty then some ⟨[], some o.long⟩
      else some ⟨[(o.long, String.ofList rest)], none⟩

/-- Reads a long option, given its name and the value after an equals
sign. -/
def readLong? (o : CommandOption) (value : Option (List Char)) : Option Given :=
  match o.takesValue, value with
  | true, some v => some ⟨[(o.long, String.ofList v)], none⟩
  | true, none => some ⟨[], some o.long⟩
  | false, some _ => none
  | false, none => some ⟨[(o.long, "")], none⟩

/-- Reads a word that starts with a dash. -/
def readOption? (options : List CommandOption) (w : List Char) : Option Given :=
  let (name, value) := splitValue w
  match options.find? (·.long == String.ofList name) with
  | some o => readLong? o value
  | none =>
    if "--".toList.isPrefixOf w then none else readJoined? options (w.drop 1)

/-- Whether a word stands for options: a dash and something after it. -/
def isOption (w : List Char) : Bool :=
  w.head? == some '-' && 1 < w.length

/-- Sorts words, the first of which is the value of the option that waits
for one. -/
def sortFrom (options : List CommandOption) : Option String → List String → Option Arguments
  | none, [] => some empty
  | some _, [] => none
  | some o, w :: rest => (sortFrom options none rest).map (addOption o w)
  | none, w :: rest =>
    if w == "--" then some ⟨[], rest⟩
    else if isOption w.toList then
      match readOption? options w.toList with
      | none => none
      | some g => (sortFrom options g.waiting rest).map fun a =>
        { a with options := g.options ++ a.options }
    else (sortFrom options none rest).map (addWord w)

/-- **Sorts the words of a command**; a word that is no option of it, or an
option without its value, is an error. -/
def sort (options : List CommandOption) (words : List String) : Option Arguments :=
  sortFrom options none words

end Arguments

end PackageVitals

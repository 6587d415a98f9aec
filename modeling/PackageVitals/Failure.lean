/-!
# Failures

Everything that can go wrong between a provider's answer and a health
record, by cause. What a layer does about a failure depends on its cause
alone, so the classes that the layers agree on are predicates here: an
**exchange** failed (`Failure.isExchange`), or a **value** was not what its
text promised (`Failure.isValue`). A cancellation is neither: it is the
wish of whoever runs the program, and no layer keeps it to itself.
-/

namespace PackageVitals

/-- What is wrong with a field that was to be stored. -/
inductive Complaint where
  /-- The field is required and absent. -/
  | absent
  /-- An object was expected. -/
  | notObject
  /-- A text was expected. -/
  | notText
  /-- A list was expected. -/
  | notList
  /-- A whole number was expected. -/
  | notWhole
  /-- The text is no whole number. -/
  | wholeText
  /-- The number is an infinity or not a number. -/
  | notFinite
  /-- The number has a fraction. -/
  | fraction
  /-- The whole number is too large to be taken from what it was given as. -/
  | tooLarge
  /-- A number was expected. -/
  | notNumber
  /-- The text is no number. -/
  | numberText
  /-- A flag was expected. -/
  | notFlag
  /-- The text or number is no flag. -/
  | flagText
  /-- A point in time was expected. -/
  | notTime
  /-- The text is neither a point in time nor a date. -/
  | timeText
  /-- The point in time is none that the calendar has. -/
  | beyondCalendar
  /-- The value is none of the names allowed. -/
  | notListed
  /-- The number has to be greater than a bound. -/
  | notAbove
  /-- The number has to be a bound or greater. -/
  | below
  deriving DecidableEq, Inhabited

/-- **A refused field**: where it stands and what is wrong with it. -/
structure Issue where
  /-- The members and positions that lead to the field. -/
  path : List String
  /-- What is wrong. -/
  complaint : Complaint
  deriving DecidableEq, Inhabited

/-- The same issue seen from an enclosing field. -/
def Issue.under (step : String) (i : Issue) : Issue :=
  { i with path := step :: i.path }

/-- How an exchange with a server broke down before there was an answer. -/
inductive TransportFault where
  | connect | connectTimeout | readTimeout | writeTimeout | poolTimeout | timeout
  | read | write | close | network
  | localProtocol | remoteProtocol | protocol | proxy | unsupportedProtocol
  | decoding | tooManyRedirects | transport | request
  deriving DecidableEq, Inhabited

/-- What is wrong with the configuration. -/
inductive ConfigProblem where
  /-- A pair of the system map is malformed. -/
  | badMapping (pair : String)
  /-- A log level is unknown. -/
  | unknownLevel (name : String)
  /-- Some settings are refused. -/
  | refused (issues : List Issue)
  /-- A problem that is not described. -/
  | unspecified
  deriving DecidableEq, Inhabited

/-- **A failure**, by cause. -/
inductive Failure where
  /-- The exchange broke down before there was an answer. -/
  | transport (fault : TransportFault) (message : String)
  /-- The answer's status is not one of success. -/
  | status (code : Nat)
  /-- The exchange failed in a way that is not described. -/
  | exchange
  /-- The address cannot be sent to. -/
  | malformedUrl
  /-- The bytes are no text. -/
  | undecodable
  /-- The text cannot be sent in a header. -/
  | unencodable
  /-- The text is no JSON. -/
  | malformedJson
  /-- The JSON text is nested too deeply. -/
  | tooDeep
  /-- An object lacks a member. -/
  | missingMember (name : String)
  /-- The value cannot be walked, indexed, searched or compared. -/
  | wrongShape
  /-- The value has no members, or is not the text it had to be. -/
  | unsupported
  /-- The text does not write a value of the kind expected. -/
  | badValue
  /-- The number is too large. -/
  | outOfRange
  /-- Some fields are refused. -/
  | invalid (issues : List Issue)
  /-- The configuration is unusable. -/
  | misconfigured (problem : ConfigProblem)
  /-- The run was cancelled from outside. -/
  | cancelled
  /-- A file's directory does not exist. -/
  | missingDirectory
  /-- What should be a file is a directory. -/
  | isDirectory
  /-- A failure that this library neither causes nor handles. -/
  | unforeseen (name : String)
  deriving DecidableEq, Inhabited

namespace Failure

/-- A failure in a few words. -/
def description : Failure → String
  | transport _ message => "the exchange broke down: " ++ message
  | status code => "the server answered with status " ++ toString code
  | exchange => "the exchange failed"
  | malformedUrl => "the address cannot be sent to"
  | undecodable => "the body is not text"
  | unencodable => "a header cannot be sent"
  | malformedJson => "the body is not JSON"
  | tooDeep => "the body is nested too deeply"
  | missingMember name => "the member '" ++ name ++ "' is missing"
  | wrongShape => "a value has the wrong shape"
  | unsupported => "a value is of the wrong kind"
  | badValue => "a text does not write the value expected"
  | outOfRange => "a number is too large"
  | invalid _ => "some fields are refused"
  | misconfigured _ => "the configuration is unusable"
  | cancelled => "the run was cancelled"
  | missingDirectory => "the directory does not exist"
  | isDirectory => "the file is a directory"
  | unforeseen name => name

/-- Whether there was no answer at all. -/
def isTransport : Failure → Bool
  | transport .. => true
  | _ => false

/-- Whether the exchange with the server failed. -/
def isExchange : Failure → Bool
  | transport .. | status _ | exchange => true
  | _ => false

/-- Whether a value was not what its text promised. -/
def isValue : Failure → Bool
  | undecodable | unencodable | malformedJson | badValue | invalid _ | misconfigured _ => true
  | _ => false

/-- Whether an answer had an unexpected shape: a member is missing, a
value is of the wrong kind, or its text is wrong. -/
def isShape : Failure → Bool
  | missingMember _ | wrongShape => true
  | f => f.isValue

/-- Whether a failed signal is replaced by its default. -/
def isProviderFault (f : Failure) : Bool :=
  f.isExchange || f.isShape

/-- Whether the failure is the wish of whoever runs the program. -/
def isCancellation : Failure → Bool
  | cancelled => true
  | _ => false

end Failure

end PackageVitals

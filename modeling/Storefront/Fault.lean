import Storefront.Text.Quoted
/-!
# Faults

Everything that can stop an operation, as causes. `Fault.message` is the only place where the
wording of a fault is decided.
-/

namespace Storefront

/-- One step from a record to a part of it. -/
inductive Step where
  | field (name : String)
  | item (position : Nat)
  deriving DecidableEq, Repr

/-- What is wrong with one part of a record. -/
inductive IssueKind where
  | missing
  | stringType
  | stringTooShort
  | floatType
  | floatParsing
  | intType
  | intParsing
  | intParsingSize
  | intFromFloat
  | finiteNumber
  | boolType
  | boolParsing
  | listType
  | setType
  | dictType
  | modelType
  | enumeration
  | moment
  | unknownKind
  | atLeast
  | atMost
  | above
  | tooShort
  | refused
  | jsonInvalid
  | attributesType
  deriving DecidableEq, Repr

/-- The word for an issue. -/
def IssueKind.label : IssueKind → String
  | .missing => "missing"
  | .stringType => "string_type"
  | .stringTooShort => "string_too_short"
  | .floatType => "float_type"
  | .floatParsing => "float_parsing"
  | .intType => "int_type"
  | .intParsing => "int_parsing"
  | .intParsingSize => "int_parsing_size"
  | .intFromFloat => "int_from_float"
  | .finiteNumber => "finite_number"
  | .boolType => "bool_type"
  | .boolParsing => "bool_parsing"
  | .listType => "list_type"
  | .setType => "set_type"
  | .dictType => "dict_type"
  | .modelType => "model_type"
  | .enumeration => "enum"
  | .moment => "datetime"
  | .unknownKind => "union_tag_invalid"
  | .atLeast => "greater_than_equal"
  | .atMost => "less_than_equal"
  | .above => "greater_than"
  | .tooShort => "too_short"
  | .refused => "value_error"
  | .jsonInvalid => "json_invalid"
  | .attributesType => "model_attributes_type"

/-- A part of a record and what is wrong with it. -/
structure Issue where
  path : List Step
  kind : IssueKind
  deriving DecidableEq, Repr

/-- A step as text. -/
def Step.text : Step → String
  | .field name => name
  | .item position => toString position

/-- An issue as text: the path, a colon and the word for the issue. -/
def Issue.text (issue : Issue) : String :=
  ".".intercalate (issue.path.map Step.text) ++ ":" ++ issue.kind.label

/-- Why a vendor's row is no listing. -/
inductive ListingGap where
  | noIdentifier
  | noName
  deriving DecidableEq, Repr

/-- A cause that stops an operation. -/
inductive Fault where
  /-- A record does not have the form it must have. -/
  | invalid (issues : List Issue)
  /-- A vendor's row lacks what every listing needs. -/
  | rejectedListing (gap : ListingGap)
  /-- A request that no feed answers. -/
  | badRequest (reason : String)
  /-- Text that is no number. -/
  | unreadableFloat (text : String)
  /-- Text that is no whole number. -/
  | unreadableInt (text : String)
  /-- A value of a kind that is never a number. -/
  | notAFloat (kind : String)
  /-- A value of a kind that is never a whole number. -/
  | notAnInt (kind : String)
  /-- A whole number beyond the largest float. -/
  | beyondFloats
  /-- An infinite number where a whole number is needed. -/
  | infiniteInt
  /-- An undefined number where a whole number is needed. -/
  | undefinedInt
  /-- Two values without a common order. -/
  | unordered (operator left right : String)
  /-- Two moments of which one has no offset, compared. -/
  | mixedOffsetsCompared
  /-- Two moments of which one has no offset, subtracted. -/
  | mixedOffsetsSubtracted
  /-- A moment outside the calendar. -/
  | outsideCalendar
  /-- A number of days that no span of time has. -/
  | spanTooLong (days : Int)
  /-- A number of days beyond machine integers. -/
  | spanBeyondMachine
  /-- A value of a kind that cannot be looked up by. -/
  | unhashable (kind : String)
  /-- A value of a kind that has no lower case. -/
  | noLowercase (kind : String)
  /-- A division by zero. -/
  | dividedByZero
  /-- An interleaving pattern without places. -/
  | emptyPattern
  /-- A vector has no place for an entry. -/
  | outsideVector
  /-- A key that a table does not have. -/
  | unknownKey (key : String)
  /-- A vector index that does not exist. -/
  | unknownIndex (name : String)
  /-- A reason code that does not exist. -/
  | unknownReason (name : String)
  /-- A log level that does not exist. -/
  | unknownLevel (name : String)
  /-- A list inside a list of so many values that should be a vector. -/
  | notFlat (length : Nat)
  /-- A collaborator that cannot answer, with its own words. -/
  | unavailable (reason : String)
  /-- A collaborator that did not answer in time. -/
  | timedOut
  /-- The embedding service failed. -/
  | embeddingFailed (reason : String)
  /-- The remote database cannot be reached with the configured settings. -/
  | databaseUnreachable (reason : String)
  /-- A setting that cannot be read from its source. -/
  | unreadableSetting (name : String)
  deriving DecidableEq, Repr

/-- The text of a fault. -/
def Fault.message : Fault → String
  | .invalid issues => "; ".intercalate (issues.map Issue.text)
  | .rejectedListing .noIdentifier => "Normalization failed: missing item id"
  | .rejectedListing .noName => "Normalization failed: missing name"
  | .badRequest reason => reason
  | .unreadableFloat text => "could not convert string to float: " ++ Text.quoted text
  | .unreadableInt text => "invalid literal for int() with base 10: " ++ Text.quoted text
  | .notAFloat kind => "float() argument must be a string or a real number, not '" ++ kind ++ "'"
  | .notAnInt kind =>
    "int() argument must be a string, a bytes-like object or a real number, not '" ++ kind ++ "'"
  | .beyondFloats => "int too large to convert to float"
  | .infiniteInt => "cannot convert float infinity to integer"
  | .undefinedInt => "cannot convert float NaN to integer"
  | .unordered operator left right =>
    "'" ++ operator ++ "' not supported between instances of '" ++ left ++ "' and '" ++ right ++ "'"
  | .mixedOffsetsCompared => "can't compare offset-naive and offset-aware datetimes"
  | .mixedOffsetsSubtracted => "can't subtract offset-naive and offset-aware datetimes"
  | .outsideCalendar => "date value out of range"
  | .spanTooLong days =>
    "days=" ++ toString days ++ "; must have magnitude <= 999999999"
  | .spanBeyondMachine => "Python int too large to convert to C int"
  | .unhashable kind => "unhashable type: '" ++ kind ++ "'"
  | .noLowercase kind => "'" ++ kind ++ "' object has no attribute 'lower'"
  | .dividedByZero => "float division by zero"
  | .emptyPattern => "integer modulo by zero"
  | .outsideVector => "list assignment index out of range"
  | .unknownKey key => Text.quoted key
  | .unknownIndex name => "Unknown vector index: " ++ name
  | .unknownReason name => Text.quoted name ++ " is not a valid ReasonCode"
  | .unknownLevel name => "module 'logging' has no attribute " ++ Text.quoted name
  | .notFlat length =>
    "setting an array element with a sequence. The requested array has an inhomogeneous shape " ++
      "after 1 dimensions. The detected shape was (" ++ toString length ++
      ",) + inhomogeneous part."
  | .unavailable reason => reason
  | .timedOut => "timed out"
  | .embeddingFailed reason => reason
  | .databaseUnreachable reason => reason
  | .unreadableSetting name =>
    "error parsing value for field \"" ++ name ++ "\" from source \"EnvSettingsSource\""

end Storefront

import Storefront.Numeral
/-!
# Command-line arguments

Long options with or without a value. A name may be cut short as long as it fits one option only,
a value follows the name or an equals sign, and of repeated options the last one counts. What looks
like an option is no value, unless it is a negative number or holds a blank. Help that is asked for
before anything else goes wrong is given, whatever strange arguments stand around; two dashes end
the options.
-/

namespace Storefront.Command

/-- What an option takes. -/
inductive Takes where
  | nothing
  | number
  | oneOf (choices : List String)

/-- An option: its name without the dashes, and what it takes. -/
structure Spec where
  name : String
  takes : Takes

/-- The value of an option on the command line. -/
inductive Given where
  | flag
  | number (value : Int)
  | choice (value : String)

/-- Why a command line is not followed. -/
inductive Stop where
  /-- Help is asked for. -/
  | help
  /-- The command line is not understood. -/
  | misuse
  deriving DecidableEq, Repr

/-- What an argument is. -/
inductive Argument where
  | value
  | option (spec : Option Spec) (attached : Option String)
  | unclear

/-- Whether an argument is a negative number. -/
def isNegativeNumber (text : String) : Bool :=
  match text.toList with
  | '-' :: body =>
    let (whole, rest) := Numeral.takeDigits body
    match rest with
    | [] => !whole.isEmpty
    | '.' :: places =>
      match Numeral.takeDigits places with
      | (_ :: _, []) => true
      | _ => false
    | _ => false
  | _ => false

/-- The option that asks for help. -/
def helpSpec : Spec := ⟨"help", .nothing⟩

/-- The options that a name may stand for: the one with this very name, or all it is a beginning
of. -/
def candidates (specs : List Spec) (name : String) : List Spec :=
  match specs.find? (·.name == name) with
  | some spec => [spec]
  | none => specs.filter fun spec => spec.name.startsWith name

/-- What the short form of asking for help says: the letter may be repeated, also after an equals
sign, and anything else is attached to the option as a value. -/
def shortHelp (argument : String) : Argument :=
  let body := argument.toList.drop 2
  let repeated := match body with
    | '=' :: letters => letters
    | letters => letters
  let isPlain := repeated.all (· == 'h') && (body.isEmpty || !repeated.isEmpty)
  .option (some helpSpec) (if isPlain then none else some (String.ofList body))

/-- What an argument is, given the options there are. -/
def classify (specs : List Spec) (argument : String) : Argument :=
  if !argument.startsWith "-" || argument == "-" then .value
  else if argument.startsWith "-h" then shortHelp argument
  else
    let (name, attached) :=
      match argument.splitOn "=" with
      | [name] => (name, none)
      | name :: rest => (name, some ("=".intercalate rest))
      | [] => (argument, none)
    let found := if name.startsWith "--" then candidates specs (name.drop 2).toString else []
    match found with
    | [spec] => .option (some spec) attached
    | _ :: _ => .unclear
    | [] =>
      if isNegativeNumber argument || argument.contains ' ' then .value else .option none none

/-- The value of an option. -/
def readValue (takes : Takes) (text : String) : Except Stop Given :=
  match takes with
  | .nothing => .error .misuse
  | .number =>
    match Numeral.freeInt? text with
    | some value => .ok (.number value)
    | none => .error .misuse
  | .oneOf choices => if choices.contains text then .ok (.choice text) else .error .misuse

/-- A command line with a strange argument before the rest: it is misused, but help asked for in
the rest is still given. -/
def withStrange (rest : Except Stop (List (String × Given))) :
    Except Stop (List (String × Given)) :=
  match rest with
  | .error stop => .error stop
  | .ok _ => .error .misuse

/-- Read the options of a command line, in order. -/
def readOptions (specs : List Spec) : List String → Except Stop (List (String × Given))
  | [] => .ok []
  | argument :: rest =>
    match classify specs argument with
    | .option (some spec) attached =>
      match spec.takes, attached with
      | .nothing, none =>
        if spec.name == helpSpec.name then .error .help
        else (readOptions specs rest).map ((spec.name, .flag) :: ·)
      | takes, some text =>
        match readValue takes text with
        | .ok given => (readOptions specs rest).map ((spec.name, given) :: ·)
        | .error stop => .error stop
      | takes, none =>
        match rest with
        | [] => .error .misuse
        | text :: after =>
          match classify specs text with
          | .value =>
            match readValue takes text with
            | .ok given => (readOptions specs after).map ((spec.name, given) :: ·)
            | .error stop => .error stop
          | _ => .error .misuse
    | _ => withStrange (readOptions specs rest)

/-- Read a command line; an argument that may be several options is found out first. -/
def readCommandLine (specs : List Spec) (arguments : List String) :
    Except Stop (List (String × Given)) :=
  let all := helpSpec :: specs
  let isUnclear (argument : String) := match classify all argument with
    | .unclear => true
    | _ => false
  let options := arguments.takeWhile (· != "--")
  if options.any isUnclear then .error .misuse
  else if options.length < arguments.length then withStrange (readOptions all options)
  else readOptions all options

/-- The number that the last option of a name has. -/
def number? (given : List (String × Given)) (name : String) : Option Int :=
  match given.reverse.lookup name with
  | some (.number value) => some value
  | _ => none

/-- The choice that the last option of a name has. -/
def choice? (given : List (String × Given)) (name : String) : Option String :=
  match given.reverse.lookup name with
  | some (.choice value) => some value
  | _ => none

/-- Whether an option is given. -/
def isGiven (given : List (String × Given)) (name : String) : Bool := given.any (·.1 == name)

end Storefront.Command

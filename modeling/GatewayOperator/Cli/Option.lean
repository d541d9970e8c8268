/-!
# Options on a command line

A command takes options by their long names, each at most once; an option takes a value, in the same
word after an equals sign or as the next word, or none. A value is checked when the next option
settles it. What the command line leaves open is taken from variables of the environment.
-/

namespace GatewayOperator

/-- Why a command line is not carried out; two of these only ask for help or the version. -/
inductive UsageError where
  | displayHelp
  | displayVersion
  | displayHelpOnMissingCommand
  | invalidValue
  | unknownArgument
  | invalidSubcommand
  | tooManyValues
  | argumentConflict
  | valueValidation
  deriving DecidableEq, Repr

/-- The exit code of a command line that is not carried out. -/
def UsageError.exitCode : UsageError → Nat
  | .displayHelp | .displayVersion => 0
  | _ => 2

/-- An option of a command. -/
structure OptionSpec where
  name : String
  /-- the variable that is read where the option is not given -/
  variableName : String
  takesValue : Bool := true
  /-- why a value is refused, if it is -/
  refuses : String → Option UsageError := fun _ => none

/-- A word of a command line. -/
inductive Word where
  /-- two dashes alone: everything after them is an operand -/
  | separator
  /-- two dashes, a name and perhaps a value after an equals sign -/
  | long (name : String) (value : Option String)
  /-- a dash and letters -/
  | short (letters : List Char)
  | operand (text : String)
  deriving DecidableEq, Repr

/-- Read a word; a dash alone is an operand. -/
def Word.ofText (s : String) : Word :=
  match s.toList with
  | ['-', '-'] => .separator
  | '-' :: '-' :: cs =>
    match cs.dropWhile (· ≠ '=') with
    | _ :: value => .long (String.ofList (cs.takeWhile (· ≠ '='))) (some (String.ofList value))
    | [] => .long (String.ofList cs) none
  | '-' :: c :: cs => .short (c :: cs)
  | _ => .operand s

namespace OptionSpec

/-- The options read so far. -/
structure Progress where
  /-- values by the names of their options -/
  values : List (String × String) := []
  /-- the last option, which is not settled yet, with its value -/
  pending : Option (OptionSpec × Option String) := none

namespace Progress

/-- Give an option a value. -/
def assign (p : Progress) (o : OptionSpec) (value : String) : Except UsageError Progress :=
  if (p.values.lookup o.name).isSome then .error .argumentConflict
  else
    match o.refuses value with
    | some e => .error e
    | none => .ok { p with values := p.values ++ [(o.name, value)] }

/-- Settle the last option. -/
def settle (p : Progress) : Except UsageError Progress :=
  match p.pending with
  | none => .ok p
  | some (_, none) => .error .invalidValue
  | some (o, some value) => { p with pending := none }.assign o value

/-- Whether the next word may be the value of the last option. -/
def awaiting? (p : Progress) : Option OptionSpec :=
  match p.pending with
  | some (o, none) => some o
  | _ => none

/-- Settle the last option, then ask for help. -/
def help (p : Progress) : Except UsageError Progress :=
  match p.settle with
  | .ok _ => .error .displayHelp
  | .error e => .error e

/-- An option by its long name. -/
def long (options : List OptionSpec) (name : String) (value : Option String) (p : Progress) :
    Except UsageError Progress :=
  match options.find? (fun o => o.name == name), value with
  | none, none => if name = "help" then p.help else .error .unknownArgument
  | none, some _ => if name = "help" then .error .tooManyValues else .error .unknownArgument
  | some o, none =>
    match p.settle with
    | .error e => .error e
    | .ok p => if o.takesValue then .ok { p with pending := some (o, none) } else p.assign o "true"
  | some o, some value =>
    if o.takesValue then
      match p.settle with
      | .error e => .error e
      | .ok p => p.assign o value
    else .error .tooManyValues

end Progress

/-- Read the words after a command, up to the end. -/
def readWords (options : List OptionSpec) : List String → Progress → Except UsageError Progress
  | [], p => p.settle
  | s :: rest, p =>
    match Word.ofText s with
    | .separator => if rest.isEmpty then p.settle else .error .unknownArgument
    | .long name value =>
      match p.long options name value with
      | .ok p => readWords options rest p
      | .error e => .error e
    | .short letters =>
      if letters.head? = some 'h' then
        match p.help with
        | .ok p => readWords options rest p
        | .error e => .error e
      else .error .unknownArgument
    | .operand text =>
      match p.awaiting? with
      | some o => readWords options rest { p with pending := some (o, some text) }
      | none => .error .unknownArgument

/-- Take from the environment what the command line left open. -/
def readEnvironment (environment : String → Option String) :
    List OptionSpec → Progress → Except UsageError Progress
  | [], p => .ok p
  | o :: rest, p =>
    match p.values.lookup o.name, environment o.variableName with
    | none, some value =>
      match p.assign o value with
      | .ok p => readEnvironment environment rest p
      | .error e => .error e
    | _, _ => readEnvironment environment rest p

/-- The values of a command's options, by their names. -/
def read (options : List OptionSpec) (environment : String → Option String) (words : List String) :
    Except UsageError (List (String × String)) := do
  let p ← readWords options words {}
  let p ← readEnvironment environment options p
  pure p.values

end OptionSpec

end GatewayOperator

import GatewayOperator.Cli.Option

/-!
# Commands

The operator is run, tells its version, or tells about a namespace. `Command.ofArguments` reads a
command from the words of a command line and the environment.
-/

namespace GatewayOperator

/-- How log lines are written. -/
inductive LogFormat where
  | plain
  | json
  deriving DecidableEq, Repr

/-- The options of a run. -/
structure RunOptions where
  ns : String
  /-- the directory of the definitions to install -/
  crdDir : Option String
  /-- whether to work only while holding the lease -/
  leaderElect : Bool
  logFormat : LogFormat
  httpPort : UInt16
  deriving DecidableEq, Repr

inductive Command where
  | run (options : RunOptions)
  | version
  | info (ns : String)
  deriving DecidableEq, Repr

namespace Command

/-- The namespace of the operator where none is given. -/
def defaultNamespace : String := "higress-system"

/-- The port of the operator's HTTP interface where none is given. -/
def defaultPort : UInt16 := 8080

/-! ## Values -/

/-- The path of a directory; an empty one is refused. -/
def refusesPath (s : String) : Option UsageError := if s = "" then some .invalidValue else none

/-- Whether an option without a value is given. -/
def refusesFlag (s : String) : Option UsageError :=
  if s = "true" ∨ s = "false" then none else some .invalidValue

/-- The format of a word. -/
def logFormat? (s : String) : Option LogFormat :=
  if s = "plain" then some .plain else if s = "json" then some .json else none

def refusesFormat (s : String) : Option UsageError :=
  if (logFormat? s).isSome then none else some .invalidValue

/-- A decimal number with an optional sign. -/
def integer? (s : String) : Option Int :=
  let number (cs : List Char) : Option Nat :=
    if cs.isEmpty || !cs.all Char.isDigit then none
    else some (cs.foldl (fun acc c => acc * 10 + (c.toNat - '0'.toNat)) 0)
  match s.toList with
  | '-' :: cs => (number cs).map fun n => -(n : Int)
  | '+' :: cs => (number cs).map fun n => (n : Int)
  | cs => (number cs).map fun n => (n : Int)

/-- The port of a number. -/
def port? (s : String) : Option UInt16 :=
  match integer? s with
  | some n => if 0 ≤ n ∧ n < 65536 then some n.toNat.toUInt16 else none
  | none => none

def refusesPort (s : String) : Option UsageError :=
  if (port? s).isSome then none else some .valueValidation

/-! ## Options -/

def namespaceOption : OptionSpec := { name := "namespace", variableName := "OPERATOR_NAMESPACE" }

def runOptions : List OptionSpec :=
  [namespaceOption,
   { name := "crd-dir", variableName := "CRD_DIR", refuses := refusesPath },
   { name := "leader-elect", variableName := "LEADER_ELECT", takesValue := false,
     refuses := refusesFlag },
   { name := "log-format", variableName := "LOG_FORMAT", refuses := refusesFormat },
   { name := "http-port", variableName := "HTTP_PORT", refuses := refusesPort }]

/-- The variables that the options are read from. -/
def variableNames : List String := runOptions.map (·.variableName)

/-- The options of a run by their values. -/
def runOptionsOf (values : List (String × String)) : RunOptions where
  ns := (values.lookup "namespace").getD defaultNamespace
  crdDir := values.lookup "crd-dir"
  leaderElect := values.lookup "leader-elect" == some "true"
  logFormat := ((values.lookup "log-format").bind logFormat?).getD .plain
  httpPort := ((values.lookup "http-port").bind port?).getD defaultPort

/-! ## Commands -/

/-- The names of the commands; help is one of them. -/
def names : List String := ["run", "version", "info", "help"]

/-- Help on a command: there are no commands below it. -/
def helpOn : List String → UsageError
  | [] => .displayHelp
  | [name] => if names.contains name then .displayHelp else .invalidSubcommand
  | _ => .invalidSubcommand

/-- A command with the words after its name. -/
def ofName (environment : String → Option String) (words : List String) :
    String → Except UsageError Command
  | "run" => (OptionSpec.read runOptions environment words).map fun vs => .run (runOptionsOf vs)
  | "version" => (OptionSpec.read [] environment words).map fun _ => .version
  | "info" => (OptionSpec.read [namespaceOption] environment words).map fun vs =>
      .info (runOptionsOf vs).ns
  | "help" => .error (helpOn words)
  | _ => .error .invalidSubcommand

/-- A word ahead of all commands that is none. -/
def misplaced : Word → UsageError
  | .long "help" none => .displayHelp
  | .long "version" none => .displayVersion
  | .long "help" (some _) => .tooManyValues
  | .long "version" (some _) => .tooManyValues
  | .short ('h' :: _) => .displayHelp
  | .short ('V' :: _) => .displayVersion
  | .operand _ => .invalidSubcommand
  | _ => .unknownArgument

/-- The command of the words after the program's name. A separator turns commands into operands,
which none takes. -/
def ofArguments (environment : String → Option String) : List String → Except UsageError Command
  | [] => .error .displayHelpOnMissingCommand
  | s :: rest =>
    match Word.ofText s with
    | .separator =>
      match rest with
      | [] => .error .displayHelpOnMissingCommand
      | name :: _ => .error (if names.contains name then .unknownArgument else .invalidSubcommand)
    | .operand name => ofName environment rest name
    | word => .error (misplaced word)

end Command

end GatewayOperator

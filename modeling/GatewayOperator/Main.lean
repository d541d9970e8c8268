import GatewayOperator.Cli.Command
import GatewayOperator.Rest.Answer

/-!
# The operator's command line

Reads a command from the arguments and the environment and prints what it comes to.
-/

open GatewayOperator

/-- What a command prints. -/
def commandLines : Command → List String
  | .version => ["Higress Operator v" ++ operatorVersion]
  | .info ns => ["Namespace: " ++ ns]
  | .run o =>
    ["Starting Higress Operator v" ++ operatorVersion, "Namespace: " ++ o.ns,
      "CRD directory: " ++ o.crdDir.getD "(none)",
      "Leader election: " ++ (if o.leaderElect then "enabled" else "disabled"),
      "HTTP port: " ++ toString o.httpPort.toNat]

/-- What is said about a command line that is not carried out. -/
def usageLine : UsageError → String
  | .displayVersion => "Higress Operator v" ++ operatorVersion
  | .invalidValue => "error: a value is missing or not one of the possible values"
  | .unknownArgument => "error: unexpected argument"
  | .invalidSubcommand => "error: unrecognized subcommand"
  | .tooManyValues => "error: an option takes no value"
  | .argumentConflict => "error: an option cannot be used multiple times"
  | .valueValidation => "error: a value is not a port"
  | .displayHelp | .displayHelpOnMissingCommand => "Usage: <run|version|info|help> [options]"

/-- The values of the variables that are set. -/
def readVariables : List String → IO (List (String × String))
  | [] => pure []
  | name :: rest => do
    let value ← IO.getEnv name
    let others ← readVariables rest
    pure (match value with
      | some v => (name, v) :: others
      | none => others)

def main (arguments : List String) : IO UInt32 := do
  let environment ← readVariables Command.variableNames
  match Command.ofArguments (fun name => environment.lookup name) arguments with
  | .ok command =>
    for line in commandLines command do
      IO.println line
    pure 0
  | .error e =>
    IO.eprintln (usageLine e)
    pure e.exitCode.toUInt32

import SharedRing.Notice.Json
import SharedRing.Program

/-!
The command line. Its first argument names the program to run, the others are the program's own.
The program runs on a host of its own, without objects at first. Its log goes to standard output,
as JSON in production and as plain lines otherwise.
-/

namespace SharedRing

def Program.ofName? : String → Option Program
  | "producer" => some .producer
  | "consumer" => some .consumer
  | _ => none

def Program.usage : Program → String
  | .producer => CommandLine.usage "producer" CommandLine.Key.ofProducer
  | .consumer => CommandLine.usage "consumer" CommandLine.Key.ofConsumer

def variableNames : List String :=
  "ENVIRONMENT" :: "RUST_LOG" ::
    (CommandLine.Key.ofProducer ++ [CommandLine.Key.pollInterval]).map CommandLine.Key.variableName

def readVariables : IO Variables := do
  let entries ← variableNames.mapM fun name => do
    return (← IO.getEnv name).map fun value => (name, value.toUTF8.data)
  return entries.filterMap id

def noticeLine (d : Deployment) (n : Notice) : String :=
  match d with
  | .production => n.toJson
  | .development => n.line

end SharedRing

open SharedRing in
def main (args : List String) : IO UInt32 := do
  match args with
  | [] =>
      IO.eprintln "the first argument is producer or consumer"
      return 2
  | name :: rest =>
      match Program.ofName? name with
      | none =>
          IO.eprintln "the first argument is producer or consumer"
          return 2
      | some p =>
          let (outcome, _) := p.run rest (← readVariables) (fun _ => .zero) .empty
          if outcome.showsHelp then IO.print p.usage
          for n in outcome.log do
            IO.println (noticeLine outcome.deployment n)
          IO.eprint outcome.errorText
          return UInt32.ofNat outcome.exitCode

import SharedRing.CommandLine.Parser

/-!
What the programs say about their command lines.
-/

namespace SharedRing.CommandLine

def Refusal.message : Refusal → String
  | help => "help was asked for"
  | unknownArgument => "unexpected argument"
  | missingValue => "an option has no value"
  | unwantedValue => "help takes no value"
  | repeatedOption => "an option cannot be used more than once"
  | badValue => "invalid value for an option"
  | notText => "the value of a variable is not text"

def usage (program : String) (keys : List Key) : String :=
  let line (k : Key) : String := s!"  --{k.flag} <VALUE>  (or {k.variableName})\n"
  s!"Usage: {program} [OPTIONS]\n\n" ++ String.join (keys.map line) ++ "  -h, --help\n"

end SharedRing.CommandLine

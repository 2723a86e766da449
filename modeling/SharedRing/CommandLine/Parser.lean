import SharedRing.CommandLine.Option

/-!
Reading a command line. Options take one value each, behind an equals sign or as the next
argument. A value in an argument of its own is converted only when the next option or the end is
reached, so that an argument that is not known is reported first. Variables stand in for options
that are not on the command line.
-/

namespace SharedRing.CommandLine

/-- Why a command line gives no settings; a request for help is one of the reasons. -/
inductive Refusal where
  | help
  | unknownArgument
  | missingValue
  | unwantedValue
  | repeatedOption
  | badValue
  | notText
  deriving DecidableEq, Repr

abbrev Values := List (Key × Value)

/-- An option that was met and not looked at yet, with its value if that was met too. -/
abbrev Pending := Option (Key × Option String)

def assign (vs : Values) (k : Key) (s : String) : Except Refusal Values :=
  if (vs.lookup k).isSome then .error .repeatedOption
  else
    match k.value? s with
    | none => .error .badValue
    | some v => .ok (vs ++ [(k, v)])

def settle (vs : Values) : Pending → Except Refusal Values
  | none => .ok vs
  | some (_, none) => .error .missingValue
  | some (k, some s) => assign vs k s

def splitEquals (cs : List Char) : List Char × Option (List Char) :=
  match cs.dropWhile (· != '=') with
  | [] => (cs, none)
  | _ :: rest => (cs.takeWhile (· != '='), some rest)

inductive Argument where
  /-- Two dashes: no more options follow. -/
  | ends
  | long (flag : String) (value? : Option String)
  /-- One dash and at least one letter. -/
  | short (first : Char)
  | plain (s : String)
  deriving DecidableEq, Repr

def Argument.ofString (s : String) : Argument :=
  match s.toList with
  | ['-', '-'] => ends
  | '-' :: '-' :: cs =>
      let (flag, value?) := splitEquals cs
      long (String.ofList flag) (value?.map String.ofList)
  | '-' :: c :: _ => short c
  | _ => plain s

def parseArguments (keys : List Key) : List String → Values → Pending → Except Refusal Values
  | [], vs, pending => settle vs pending
  | arg :: rest, vs, pending =>
      match Argument.ofString arg with
      | .ends => if rest.isEmpty then settle vs pending else .error .unknownArgument
      | .long flag value? =>
          if flag = "help" then
            if value?.isSome then .error .unwantedValue
            else
              match settle vs pending with
              | .error e => .error e
              | .ok _ => .error .help
          else
            match keys.find? (·.flag = flag) with
            | none => .error .unknownArgument
            | some k =>
                match settle vs pending with
                | .error e => .error e
                | .ok vs =>
                    match value? with
                    | none => parseArguments keys rest vs (some (k, none))
                    | some s =>
                        match assign vs k s with
                        | .error e => .error e
                        | .ok vs => parseArguments keys rest vs none
      | .short c =>
          if c = 'h' then
            match settle vs pending with
            | .error e => .error e
            | .ok _ => .error .help
          else .error .unknownArgument
      | .plain s =>
          match pending with
          -- the value waits there for the next option or the end
          | some (k, none) => parseArguments keys rest vs (some (k, some s))
          | _ => .error .unknownArgument

def addVariables (env : Variables) : List Key → Values → Except Refusal Values
  | [], vs => .ok vs
  | k :: rest, vs =>
      if (vs.lookup k).isSome then addVariables env rest vs
      else
        match env.value? k.variableName with
        | none => addVariables env rest vs
        | some bytes =>
            match Variables.decode? bytes with
            | none => .error .notText
            | some s =>
                match assign vs k s with
                | .error e => .error e
                | .ok vs => addVariables env rest vs

def parse (keys : List Key) (argv : List String) (env : Variables) :
    Except Refusal Values :=
  match parseArguments keys argv [] none with
  | .error e => .error e
  | .ok vs => addVariables env keys vs

namespace Values

def text (vs : Values) (k : Key) (default : String) : String :=
  match vs.lookup k with
  | some (.text s) => s
  | _ => default

def count? (vs : Values) (k : Key) : Option Nat :=
  match vs.lookup k with
  | some (.count n) => some n
  | _ => none

def rate (vs : Values) (k : Key) (default : Binary64) : Binary64 :=
  match vs.lookup k with
  | some (.rate x) => x
  | _ => default

end Values

end SharedRing.CommandLine

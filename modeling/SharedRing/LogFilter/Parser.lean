import SharedRing.Binary64.Numeral
import SharedRing.LogFilter.Basic
import SharedRing.Pattern.Parser
import SharedRing.Text.Alphanumeric
import SharedRing.Text.Blank
import SharedRing.Text.Digits
import SharedRing.Text.Offset
import SharedRing.Variables

/-!
Reading filters. Directives are separated by commas and empty ones are skipped. One is a verbosity
alone, a target alone, or a target with a span or field in brackets and a verbosity behind an
equals sign, each part of which may be missing. A value for which a field is asked is a number or
a pattern. A filter with a directive that cannot be read is not understood.
-/

namespace SharedRing

def Verbosity.ofText? (s : String) : Option Verbosity :=
  match Text.count? s with
  | some n => all[n]?
  | none => all.find? (fun v => v.word = String.ofList (s.toList.map Char.toLower))

namespace Directive

/-- A character of a directive without the blanks around it, and its place there. The parts of a
directive are cut at such places out of the directive as given, so blanks in front leave few
directives their meaning. -/
abbrev Mark := Nat × Char

/-- Reads the verbosity from a place on; nothing stands for all notices. -/
def verbosityFrom? (cs : List Char) (start : Nat) : Option Verbosity :=
  match Text.dropBytes? start cs with
  | none => none
  | some [] => some .trace
  | some level => Verbosity.ofText? (String.ofList level)

def ofWord (cs : List Char) : Directive :=
  match Verbosity.ofText? (String.ofList cs) with
  | some v => ⟨none, none, false, v⟩
  | none => ⟨some (String.ofList cs), none, false, .trace⟩

def afterBracket? (cs : List Char) : List Mark → Option Verbosity
  | [] => some .trace
  | (i, m) :: _ => if m = '=' then verbosityFrom? cs (i + 1) else none

/-- The value that a field is asked for, if it is: what stands between its first two equals
signs. -/
def wanted? (field : List Char) : Option (List Char) :=
  match field.dropWhile (· ≠ '=') with
  | [] => none
  | _ :: cs => some (cs.takeWhile (· ≠ '='))

def isComparable (value : List Char) : Bool :=
  (Binary64.ofDecimal? (String.ofList value)).isSome || Pattern.isValid value

/-- Reads a field from a place on, with the braces around it, the closing bracket and what follows.
A field for which a value is asked is one of spans. -/
def ofField? (cs : List Char) (target : Option String) (inSpan : Bool) (start : Nat)
    (ms : List Mark) : Option Directive :=
  match ms.dropWhile (·.2 ≠ '\x7d') with
  | (i, _) :: (_, m) :: ms =>
      match Text.slice? start i cs with
      | none => none
      | some field =>
          let value := wanted? field
          if field.isEmpty || m ≠ ']' || !value.all isComparable then none
          else
            (afterBracket? cs ms).map (fun v =>
              ⟨target, some (String.ofList field), inSpan || value.isSome, v⟩)
  | _ => none

def ofBracket? (cs : List Char) (target : Option String) (start : Nat) (ms : List Mark) :
    Option Directive :=
  match ms.dropWhile (fun m => m.2 ≠ ']' && m.2 ≠ '\x7b') with
  | [] => none
  | (i, m) :: ms =>
      if m = ']' then (afterBracket? cs ms).map (fun v => ⟨target, none, true, v⟩)
      else ofField? cs target (start ≠ i) (i + 1) ms

def startsWord (c : Char) : Bool := c = '-' || c = ':' || c = '_' || Text.isAlphanumeric c

def parse? (cs : List Char) : Option Directive :=
  match Text.withOffsets 0 (Text.trim cs) with
  | [] => none
  | (_, c) :: ms =>
      if c = '[' then ofBracket? cs none 1 ms
      else if !startsWord c then none
      else
        match ms.dropWhile (fun m => m.2 ≠ '=' && m.2 ≠ '[') with
        | [] => some (ofWord cs)
        | (i, m) :: ms =>
            match Text.takeBytes? i cs with
            | none => none
            | some word =>
                let target := some (String.ofList word)
                if m = '[' then ofBracket? cs target (i + 1) ms
                else (verbosityFrom? cs (i + 1)).map (fun v => ⟨target, none, false, v⟩)

end Directive

namespace LogFilter

def parse? (s : String) : Option LogFilter :=
  ((s.splitOn ",").filter (· ≠ "")).mapM (fun d => Directive.parse? d.toList)

/-- What the variables ask for; a filter that is not set or not understood is the standard one. -/
def ofVariables (v : Variables) : LogFilter :=
  ((v.text? "RUST_LOG").bind parse?).getD standard

end LogFilter

end SharedRing

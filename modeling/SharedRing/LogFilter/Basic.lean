import SharedRing.Notice

/-!
Which notices a log takes. A filter is a list of directives, each about the notices of some
targets or with some field. Of the directives that apply to a notice the most specific one
decides how severe it has to be, and a notice to which none applies is left out.
-/

namespace SharedRing

inductive Verbosity where
  | off
  | error
  | warn
  | info
  | debug
  | trace
  deriving DecidableEq, Repr

namespace Verbosity

def rank : Verbosity → Nat
  | off => 0
  | error => 1
  | warn => 2
  | info => 3
  | debug => 4
  | trace => 5

def word : Verbosity → String
  | off => "off"
  | error => "error"
  | warn => "warn"
  | info => "info"
  | debug => "debug"
  | trace => "trace"

def all : List Verbosity := [off, error, warn, info, debug, trace]

def admits (v : Verbosity) (l : Level) : Bool := l.rank ≤ v.rank

end Verbosity

structure Directive where
  /-- What the target of a notice has to begin with. -/
  target : Option String
  /-- A field that a notice has to have. -/
  field : Option String
  /-- About what is reported inside of a span. No notice is. -/
  inSpan : Bool
  verbosity : Verbosity
  deriving DecidableEq, Repr

namespace Directive

def applies (d : Directive) (n : Notice) : Bool :=
  !d.inSpan && d.target.all (fun t => t.toList.isPrefixOf n.target.toList) &&
    d.field.all (fun f => n.fieldNames.contains f)

def targetSize (d : Directive) : Nat := (d.target.map (fun t => t.utf8ByteSize + 1)).getD 0

/-- Whether a field decides before another one: any before none, and the greater before the
smaller. -/
def fieldLe : Option String → Option String → Bool
  | none, _ => true
  | some _, none => false
  | some f, some g => !(g < f)

/-- The second directive is as specific as the first or more so. A longer target counts more than
any field. -/
def isAtMost (d e : Directive) : Bool :=
  d.targetSize < e.targetSize || (d.targetSize = e.targetSize && fieldLe d.field e.field)

end Directive

abbrev LogFilter := List Directive

namespace LogFilter

def decisive? (f : LogFilter) (n : Notice) : Option Directive :=
  f.foldl
    (fun best d =>
      if d.applies n && best.all (·.isAtMost d) then some d else best)
    none

def takes (f : LogFilter) (n : Notice) : Bool :=
  (f.decisive? n).any (·.verbosity.admits n.level)

def standard : LogFilter := [⟨none, none, false, .info⟩]

end LogFilter

end SharedRing

import SharedRing.Text.Blank
import SharedRing.Variables

/-!
How a program is deployed, which decides the form of its log.
-/

namespace SharedRing

inductive Deployment where
  | development
  | production
  deriving DecidableEq, Repr

namespace Deployment

def text : Deployment → String
  | development => "development"
  | production => "production"

/-- Two words mean production, in any case of letters and with blanks around them; no letter
outside of ASCII has one of theirs as its lower case. All else means development. -/
def ofText (s : String) : Deployment :=
  let word := String.ofList ((Text.trim s.toList).map Char.toLower)
  if word = "production" || word = "prod" then production else development

def ofVariables (v : Variables) : Deployment :=
  match v.text? "ENVIRONMENT" with
  | none => development
  | some s => ofText s

end Deployment

end SharedRing

import SharedRing.Name
import SharedRing.Ring.Basic

/-!
What can go wrong between a name and a ring, and the wording of each error. An error of a system
call keeps its cause; an error of the ring keeps the ring's own error.
-/

namespace SharedRing

inductive OsError where
  | notFound
  | noMemory
  | accessDenied
  | isDirectory
  | invalidArgument
  deriving DecidableEq, Repr

namespace OsError

def code : OsError → Nat
  | notFound => 2
  | noMemory => 12
  | accessDenied => 13
  | isDirectory => 21
  | invalidArgument => 22

def symbol : OsError → String
  | notFound => "ENOENT"
  | noMemory => "ENOMEM"
  | accessDenied => "EACCES"
  | isDirectory => "EISDIR"
  | invalidArgument => "EINVAL"

def text : OsError → String
  | notFound => "No such file or directory"
  | noMemory => "Cannot allocate memory"
  | accessDenied => "Permission denied"
  | isDirectory => "Is a directory"
  | invalidArgument => "Invalid argument"

def ofCode? (n : Nat) : Option OsError :=
  [notFound, noMemory, accessDenied, isDirectory, invalidArgument].find? (·.code = n)

def message (e : OsError) : String := s!"{e.text} (os error {e.code})"

def symbolMessage (e : OsError) : String := s!"{e.symbol}: {e.text}"

end OsError

inductive Cause where
  | os (e : OsError)
  | sizeTooLarge
  | beyondObject (requested held : Nat)
  | other (text : String)
  deriving DecidableEq, Repr

def Cause.message : Cause → String
  | os e => e.message
  | sizeTooLarge => "number too large to fit in target type"
  | beyondObject requested held => s!"requested {requested} bytes but the object holds {held}"
  | other text => text

/-- An error of opening or creating a segment or a channel. `invalidName` holds the name as it
was given, all others hold the normalized one. -/
inductive ChannelError where
  | creationFailed (name : String) (cause : Cause)
  | mappingFailed (name : String) (cause : Cause)
  | openFailed (name : String) (cause : Cause)
  | truncateFailed (name : String) (size : Nat) (cause : Cause)
  | invalidName (name : String) (error : NameError)
  | invalidRing (error : RingError)
  deriving DecidableEq, Repr

namespace ChannelError

def message : ChannelError → String
  | creationFailed name cause => s!"Failed to create shared memory '{name}': {cause.message}"
  | mappingFailed name cause => s!"Failed to map shared memory '{name}': {cause.message}"
  | openFailed name cause => s!"Failed to open shared memory '{name}': {cause.message}"
  | truncateFailed name size cause =>
      s!"Failed to resize shared memory '{name}' to {size} bytes: {cause.message}"
  | invalidName name error => s!"Invalid shared memory name '{name}': {error.reason}"
  | invalidRing error => s!"Ring buffer error: {error.message}"

def source? : ChannelError → Option String
  | creationFailed _ cause => some cause.message
  | mappingFailed _ cause => some cause.message
  | openFailed _ cause => some cause.message
  | truncateFailed _ _ cause => some cause.message
  | invalidName _ _ => none
  | invalidRing error => some error.message

def ringError? : ChannelError → Option RingError
  | invalidRing error => some error
  | _ => none

def chain (e : ChannelError) : List String := e.message :: e.source?.toList

end ChannelError

end SharedRing

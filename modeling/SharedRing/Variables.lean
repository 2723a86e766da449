import SharedRing.Bytes

/-!
The variables that a program is started with. Their values are bytes, which need not be text.
-/

namespace SharedRing

abbrev Variables := List (String × Bytes)

namespace Variables

def value? (v : Variables) (name : String) : Option Bytes := v.lookup name

def decode? (bytes : Bytes) : Option String := String.fromUTF8? ⟨bytes⟩

def text? (v : Variables) (name : String) : Option String := (v.value? name).bind decode?

end Variables

end SharedRing

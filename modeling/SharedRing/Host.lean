import SharedRing.Memory
import SharedRing.Notice

/-!
The host: shared objects, the names that refer to them, and what has been reported. A name refers
to at most one object. Removing a name, or giving it to a new object, leaves the old object to
those who have it mapped; so objects are kept, in the order of their creation, and known by their
place in it.
-/

namespace SharedRing

abbrev ObjectId := Nat

structure SharedObject where
  size : Nat
  memory : Memory

/-- The calls of a creation that the system turns down for reasons of its own, whatever they ask
for. -/
structure Refusals where
  openNew : Option OsError
  resize : Option Cause
  map : Option Cause

def Refusals.none : Refusals := ⟨.none, .none, .none⟩

structure Host where
  objects : Array SharedObject
  names : List (String × ObjectId)
  /-- The oldest first. -/
  notices : Array Notice
  refusals : Refusals
  /-- The names that the host was asked to remove, the latest first. -/
  removals : List String

namespace Host

def empty : Host := ⟨#[], [], #[], .none, []⟩

def report (h : Host) (n : Notice) : Host := { h with notices := h.notices.push n }

def reportAll (h : Host) (ns : List Notice) : Host := { h with notices := h.notices ++ ns }

/-! ### Objects -/

def object? (h : Host) (id : ObjectId) : Option SharedObject := h.objects[id]?

/-- The bytes of an object; all zero when there is none. -/
def memory (h : Host) (id : ObjectId) : Memory :=
  ((h.object? id).map SharedObject.memory).getD .zeroed

def held (h : Host) (id : ObjectId) : Nat := ((h.object? id).map SharedObject.size).getD 0

def setMemory (h : Host) (id : ObjectId) (m : Memory) : Host :=
  { h with objects := h.objects.modify id (fun o => { o with memory := m }) }

theorem memory_setMemory {h : Host} {id : ObjectId} {m : Memory} (hid : id < h.objects.size) :
    (h.setMemory id m).memory id = m := by
  simp [memory, object?, setMemory, Array.getElem_modify, hid]

theorem memory_of_size_le {h : Host} {id : ObjectId} (hid : h.objects.size ≤ id) :
    h.memory id = .zeroed := by
  simp [memory, object?, hid]

/-! ### Names -/

def maxObjectName : Nat := 254

/-- What the host makes of a normalized name: it ignores all leading slashes. -/
def objectName (name : String) : String :=
  String.ofList (name.toList.dropWhile (· = '/'))

def isDots (name : String) : Bool := name = "." || name = ".."

def isRefused (name : String) : Bool :=
  name.isEmpty || maxObjectName < name.utf8ByteSize || name.toList.contains '/' || isDots name

def find? (h : Host) (name : String) : Option ObjectId := h.names.lookup (objectName name)

def unbind (h : Host) (name : String) : Host :=
  { h with names := h.names.filter (fun e => e.1 != objectName name) }

def recordRemoval (h : Host) (name : String) : Host := { h with removals := name :: h.removals }

/-- Removes a name and tells whether it referred to an object. The names of directories are
refused with a warning, but every request goes on record. -/
def unlink (h : Host) (name : String) : Bool × Host :=
  let h := h.recordRemoval name
  if isDots (objectName name) then (false, h.report (.unlinkFailed name .isDirectory))
  else ((h.find? name).isSome, h.unbind name)

/-! ### Creating and opening -/

/-- Sizes from here on cannot be written as a file length. -/
def sizeLimit : Nat := 9223372036854775808

/-- Sizes from here on find no room in an address space. -/
def mapLimit : Nat := 4611686018427387904

def openNew (h : Host) (name : String) : Except OsError (ObjectId × Host) :=
  if isRefused (objectName name) then .error .invalidArgument
  else
    match h.refusals.openNew with
    | some e => .error e
    | none =>
        let id := h.objects.size
        .ok (id, { h with
          objects := h.objects.push ⟨0, .zeroed⟩
          names := (objectName name, id) :: h.names })

def openExisting (h : Host) (name : String) : Except OsError ObjectId :=
  if isRefused (objectName name) then .error .invalidArgument
  else
    match h.find? name with
    | none => .error .notFound
    | some id => .ok id

def resize (h : Host) (id : ObjectId) (size : Nat) : Except Cause Host :=
  if sizeLimit ≤ size then .error .sizeTooLarge
  else
    match h.refusals.resize with
    | some cause => .error cause
    | none => .ok { h with objects := h.objects.modify id (fun o => { o with size := size }) }

def map (size : Nat) : Except Cause Unit :=
  if mapLimit ≤ size then .error (.os .noMemory) else .ok ()

def mapNew (h : Host) (size : Nat) : Except Cause Unit :=
  match h.refusals.map with
  | some cause => .error cause
  | none => map size

/-- Creates an object of `size` zero bytes under a name, which until then may refer to another
one. A failure after the name was taken removes the name. -/
def create (h : Host) (name : String) (size : Nat) : Except ChannelError ObjectId × Host :=
  let (_, h) := h.unlink name
  match h.openNew name with
  | .error e => (.error (.creationFailed name (.os e)), h)
  | .ok (id, h) =>
      -- the name refers to the new object by now
      match h.resize id size with
      | .error cause => (.error (.truncateFailed name size cause), (h.unlink name).2)
      | .ok h =>
          match h.mapNew size with
          | .error cause => (.error (.mappingFailed name cause), (h.unlink name).2)
          | .ok () => (.ok id, h)

/-- Finds the object of a name and how many bytes of it to map: as many as the hint says, or all
for a hint of zero. -/
def attach (h : Host) (name : String) (hint : Nat) : Except ChannelError (ObjectId × Nat) :=
  match h.openExisting name with
  | .error e => .error (.openFailed name (.os e))
  | .ok id =>
      let size := if hint = 0 then h.held id else hint
      if h.held id < size then .error (.mappingFailed name (.beyondObject size (h.held id)))
      else
        match map size with
        | .error cause => .error (.mappingFailed name cause)
        | .ok () => .ok (id, size)

end Host

end SharedRing

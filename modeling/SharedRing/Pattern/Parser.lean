import SharedRing.Pattern.CharClass
import SharedRing.Text.Alphanumeric

/-!
Patterns that text can be matched with. A pattern is a choice between branches, each a row of
items that may be repeated: atoms, classes and groups. Groups may have a name, which no other group
of the pattern has, and may set flags; flags can be set for the rest of a group as well. A pattern
stands in braces itself, so that no count in braces can be complete. Whether a pattern can be read
is all that is asked here.
-/

namespace SharedRing.Pattern

structure OpenGroup where
  mode : Mode
  /-- The finished branches. -/
  branches : Parts
  /-- The items of the branch that is being read. -/
  items : Parts
  /-- The depth of the last item, if that can be repeated. -/
  last : Option Nat
  deriving DecidableEq, Repr

namespace OpenGroup

def empty (m : Mode) : OpenGroup := ⟨m, .empty, .empty, none⟩

def push (g : OpenGroup) (depth : Nat) : OpenGroup :=
  { g with items := g.items.push depth, last := some depth }

/-- Flags are an item too, but none that can be repeated. -/
def setMode (g : OpenGroup) (m : Mode) : OpenGroup :=
  { g with mode := m, items := g.items.push 0, last := none }

def repeatLast? (g : OpenGroup) : Option OpenGroup :=
  g.last.map (fun d =>
    { g with items := ⟨g.items.count, max g.items.depth (d + 1)⟩, last := some (d + 1) })

def endBranch (g : OpenGroup) : OpenGroup :=
  { g with branches := g.branches.push g.items.total, items := .empty, last := none }

def depth (g : OpenGroup) : Nat := g.endBranch.branches.total

end OpenGroup

inductive Item where
  /-- An atom or a class. -/
  | part (depth : Nat)
  | repeated
  | branch
  | flags (m : Mode)
  | opening (m : Mode) (name : Option (List Char))
  | closing
  deriving DecidableEq, Repr

def isName : List Char → Bool
  | [] => false
  | c :: cs =>
      (c = '_' || Text.isAlphabetic c) &&
        cs.all (fun c =>
          c = '_' || c = '.' || c = '[' || c = ']' || Text.isAlphanumeric c)

def groupName? (m : Mode) (cs : List Char) : Option (Item × List Char) :=
  let name := cs.takeWhile (· ≠ '>')
  match cs.dropWhile (· ≠ '>') with
  | [] => none
  | _ :: rest => if isName name then some (.opening m (some name), rest) else none

/-- Reads flags and the sign that ends them: a colon opens a group with them. -/
def groupFlags? (m : Mode) (cs : List Char) : Option (Item × List Char) :=
  let flags := cs.takeWhile (fun c => c ≠ ':' && c ≠ ')')
  match cs.dropWhile (fun c => c ≠ ':' && c ≠ ')') with
  | [] => none
  | c :: rest =>
      match m.change? flags with
      | none => none
      | some m =>
          if c = ':' then some (.opening m none, rest)
          else if flags.isEmpty then none
          else some (.flags m, rest)

def openGroup? (m : Mode) (cs : List Char) : Option (Item × List Char) :=
  match m.skip cs with
  | '?' :: 'P' :: '<' :: cs => groupName? m cs
  | '?' :: '<' :: cs => groupName? m cs
  | '?' :: cs => groupFlags? m cs
  | cs => some (.opening m none, cs)

/-- A question mark behind the sign of a repetition belongs to it. -/
def dropLazy : List Char → List Char
  | '?' :: cs => cs
  | cs => cs

/-- Reads the item that begins with the given character. An opening brace begins none. -/
def item? (m : Mode) (c : Char) (cs : List Char) : Option (Item × List Char) :=
  match c with
  | '(' => openGroup? m cs
  | ')' => some (.closing, cs)
  | '|' => some (.branch, cs)
  | '*' | '+' | '?' => some (.repeated, dropLazy cs)
  | '\x7b' => none
  | '[' =>
      match openClass? m cs with
      | none => none
      | some cs => (charClass? m [] .empty cs).map (fun r => (.part r.1, r.2))
  | c =>
      match atom? m c cs with
      | none => none
      | some (a, cs) => if a.isUsable m then some (.part 0, cs) else none

structure Reading where
  names : List (List Char)
  outer : List OpenGroup
  group : OpenGroup
  deriving DecidableEq, Repr

namespace Reading

def empty : Reading := ⟨[], [], .empty .initial⟩

def step? (r : Reading) : Item → Option Reading
  | .part d => some { r with group := r.group.push d }
  | .repeated => r.group.repeatLast?.map (fun g => { r with group := g })
  | .branch => some { r with group := r.group.endBranch }
  | .flags m => some { r with group := r.group.setMode m }
  | .opening m name =>
      if name.any r.names.contains then none
      else some ⟨name.toList ++ r.names, r.group :: r.outer, .empty m⟩
  | .closing =>
      match r.outer with
      | [] => none
      | g :: outer => some ⟨r.names, outer, g.push (r.group.depth + 1)⟩

def isComplete (r : Reading) : Bool := r.outer.isEmpty && r.group.depth ≤ depthLimit

end Reading

theorem length_groupName?_le {m : Mode} {i : Item} {cs rest : List Char}
    (h : groupName? m cs = some (i, rest)) : rest.length ≤ cs.length := by
  have hd := (List.dropWhile_sublist (l := cs) (· ≠ '>')).length_le
  simp only [groupName?] at h
  split at h
  · contradiction
  · next heq =>
      rw [heq, List.length_cons] at hd
      split at h
      · cases h
        omega
      · contradiction

theorem length_groupFlags?_le {m : Mode} {i : Item} {cs rest : List Char}
    (h : groupFlags? m cs = some (i, rest)) : rest.length ≤ cs.length := by
  have hd := (List.dropWhile_sublist (l := cs) (fun c => c ≠ ':' && c ≠ ')')).length_le
  simp only [groupFlags?] at h
  split at h
  · contradiction
  · next heq =>
      rw [heq, List.length_cons] at hd
      split at h
      · contradiction
      · split at h
        · cases h
          omega
        · split at h
          · contradiction
          · cases h
            omega

theorem length_openGroup?_le {m : Mode} {i : Item} {cs rest : List Char}
    (h : openGroup? m cs = some (i, rest)) : rest.length ≤ cs.length := by
  have hs := m.length_skip_le cs
  unfold openGroup? at h
  split at h
  · next heq =>
      have := length_groupName?_le h
      simp only [heq, List.length_cons] at hs
      omega
  · next heq =>
      have := length_groupName?_le h
      simp only [heq, List.length_cons] at hs
      omega
  · next heq =>
      have := length_groupFlags?_le h
      simp only [heq, List.length_cons] at hs
      omega
  · cases h
    exact hs

theorem length_dropLazy_le (cs : List Char) : (dropLazy cs).length ≤ cs.length := by
  unfold dropLazy
  split
  · simp
  · exact Nat.le_refl _

theorem length_item?_le {m : Mode} {c : Char} {i : Item} {cs rest : List Char}
    (h : item? m c cs = some (i, rest)) : rest.length ≤ cs.length := by
  unfold item? at h
  split at h
  · exact length_openGroup?_le h
  · cases h
    exact Nat.le_refl _
  · cases h
    exact Nat.le_refl _
  iterate 3
    cases h
    exact length_dropLazy_le cs
  · contradiction
  · split at h
    · contradiction
    · next heq =>
        obtain ⟨r, hr, he⟩ := Option.map_eq_some_iff.1 h
        cases he
        exact Nat.le_trans (length_charClass?_le hr) (length_openClass?_le heq)
  · split at h
    · contradiction
    · next heq =>
        split at h
        · cases h
          exact length_atom?_le heq
        · contradiction

theorem length_item?_lt {m : Mode} {c : Char} {i : Item} {cs next rest : List Char}
    (hs : m.skip cs = c :: next) (h : item? m c next = some (i, rest)) :
    rest.length < cs.length := by
  have h₁ := m.length_skip_le cs
  have h₂ := length_item?_le h
  rw [hs, List.length_cons] at h₁
  omega

def read? (r : Reading) (cs : List Char) : Option Reading :=
  match _hs : r.group.mode.skip cs with
  | [] => some r
  | c :: next =>
      match _hi : item? r.group.mode c next with
      | none => none
      | some (i, rest) => (r.step? i).bind (fun r₁ => read? r₁ rest)
termination_by cs.length
decreasing_by exact length_item?_lt _hs _hi

def isValid (cs : List Char) : Bool := (read? .empty cs).any (·.isComplete)

end SharedRing.Pattern

import SharedRing.Pattern.Atom
import SharedRing.Pattern.Nesting

/-!
Classes of characters in brackets. Their members are characters, ranges of them, kinds, sets with
a name between colons, and further classes; a doubled ampersand, dash or tilde combines what is on
its sides. Dashes in front of all members are members, and so is a closing bracket that comes
first.
-/

namespace SharedRing.Pattern

inductive Place where
  | first
  /-- With only dashes in front of it. -/
  | leading
  | inner
  deriving DecidableEq, Repr

structure OpenClass where
  /-- The depth of what stands in front of the last operator. -/
  left : Option Nat
  /-- The members behind it. -/
  parts : Parts
  place : Place
  deriving DecidableEq, Repr

namespace OpenClass

def empty : OpenClass := ⟨none, .empty, .first⟩

def push (o : OpenClass) (depth : Nat) (place : Place) : OpenClass :=
  { o with parts := o.parts.push depth, place := place }

/-- The depth of what was read. Operators are applied from the left. -/
def depth (o : OpenClass) : Nat :=
  match o.left with
  | none => o.parts.total
  | some d => max d o.parts.total + 1

def combine (o : OpenClass) : OpenClass := ⟨some o.depth, .empty, .inner⟩

end OpenClass

inductive ClassItem where
  | dash
  | member
  | operator
  | opening
  | closing
  deriving DecidableEq, Repr

def setNames : List String :=
  ["alnum", "alpha", "ascii", "blank", "cntrl", "digit", "graph", "lower", "print", "punct",
    "space", "upper", "word", "xdigit"]

def setName? (cs : List Char) : Option (List Char) :=
  match cs.dropWhile (· ≠ ':') with
  | ':' :: ']' :: rest =>
      if setNames.contains (String.ofList (cs.takeWhile (· ≠ ':'))) then some rest else none
  | _ => none

/-- Reads a named set behind its opening bracket: whether it is negated, and what follows. -/
def namedSet? : List Char → Option (Bool × List Char)
  | ':' :: '^' :: cs => (setName? cs).map (fun rest => (true, rest))
  | ':' :: cs => (setName? cs).map (fun rest => (false, rest))
  | _ => none

/-- Whether a named set can be a member. Among bytes its complement would take parts of
characters. -/
def takesSet (m : Mode) (negated : Bool) : Bool := if m.unicode then !m.anyCase else !negated

/-- Reads what may follow an opening bracket. Among bytes the negation of a class would take parts
of characters. -/
def openClass? (m : Mode) (cs : List Char) : Option (List Char) :=
  match m.skip cs with
  | '^' :: cs => if m.unicode then some cs else none
  | cs => some cs

def member? (m : Mode) (c : Char) (cs : List Char) : Option (Atom × List Char) :=
  match if c = '\\' then escape? m cs else some (.char c, cs) with
  | none => none
  | some (a, cs) => if a.isMember m then some (a, cs) else none

/-- Whether a range ends with the second of two atoms when it begins with the first. -/
def isRange (a b : Atom) : Bool :=
  match a.char?, b.char? with
  | some x, some y => x ≤ y
  | _, _ => false

/-- Reads a member, or a range if a dash follows that neither ends the class nor is doubled. -/
def members? (m : Mode) (c : Char) (cs : List Char) : Option (List Char) :=
  match member? m c cs with
  | none => none
  | some (a, cs) =>
      match m.skip cs with
      | '-' :: cs =>
          if m.next? cs = some ']' ∨ m.next? cs = some '-' then some ('-' :: cs)
          else
            match m.skip cs with
            | [] => none
            | c :: cs =>
                match member? m c cs with
                | none => none
                | some (b, cs) => if isRange a b then some cs else none
      | cs => some cs

def classItem? (m : Mode) (p : Place) (c : Char) (cs : List Char) :
    Option (ClassItem × List Char) :=
  if c = '-' ∧ p ≠ .inner then
    if (Atom.char c).isMember m then some (.dash, cs) else none
  else if c = ']' then
    if p ≠ .first then some (.closing, cs)
    else if (Atom.char c).isMember m then some (.member, cs) else none
  else if c = '[' then
    match namedSet? cs with
    | some (negated, cs) =>
        if takesSet m negated then some (.member, cs) else none
    | none => (openClass? m cs).map (fun cs => (.opening, cs))
  else if (c = '&' ∨ c = '-' ∨ c = '~') ∧ cs.head? = some c then some (.operator, cs.tail)
  else (members? m c cs).map (fun cs => (.member, cs))

theorem length_setName?_le {cs rest : List Char} (h : setName? cs = some rest) :
    rest.length ≤ cs.length := by
  have hd := (List.dropWhile_sublist (l := cs) (· ≠ ':')).length_le
  unfold setName? at h
  split at h
  · next heq =>
      rw [heq] at hd
      split at h
      · cases h
        simp only [List.length_cons] at hd
        omega
      · contradiction
  · contradiction

theorem length_namedSet?_le {negated : Bool} {cs rest : List Char}
    (h : namedSet? cs = some (negated, rest)) : rest.length ≤ cs.length := by
  unfold namedSet? at h
  split at h
  · obtain ⟨r, hr, he⟩ := Option.map_eq_some_iff.1 h
    cases he
    have := length_setName?_le hr
    simp only [List.length_cons]
    omega
  · obtain ⟨r, hr, he⟩ := Option.map_eq_some_iff.1 h
    cases he
    have := length_setName?_le hr
    simp only [List.length_cons]
    omega
  · contradiction

theorem length_openClass?_le {m : Mode} {cs rest : List Char}
    (h : openClass? m cs = some rest) : rest.length ≤ cs.length := by
  have hs := m.length_skip_le cs
  unfold openClass? at h
  split at h
  · next heq =>
      rw [heq, List.length_cons] at hs
      split at h
      · cases h
        omega
      · contradiction
  · cases h
    exact hs

theorem length_member?_le {m : Mode} {c : Char} {a : Atom} {cs rest : List Char}
    (h : member? m c cs = some (a, rest)) : rest.length ≤ cs.length := by
  unfold member? at h
  split at h
  · contradiction
  · next heq =>
      split at h
      · cases h
        split at heq
        · exact length_escape?_le heq
        · cases heq
          exact Nat.le_refl _
      · contradiction

theorem length_members?_le {m : Mode} {c : Char} {cs rest : List Char}
    (h : members? m c cs = some rest) : rest.length ≤ cs.length := by
  unfold members? at h
  split at h
  · contradiction
  · next a cs₁ heq =>
      have h₁ := length_member?_le heq
      have h₂ := m.length_skip_le cs₁
      split at h
      · next cs₂ heq₂ =>
          rw [heq₂, List.length_cons] at h₂
          split at h
          · cases h
            simp only [List.length_cons]
            omega
          · have h₃ := m.length_skip_le cs₂
            split at h
            · contradiction
            · next c₃ cs₃ heq₃ =>
                rw [heq₃, List.length_cons] at h₃
                split at h
                · contradiction
                · next heq₄ =>
                    have h₄ := length_member?_le heq₄
                    split at h
                    · cases h
                      omega
                    · contradiction
      · cases h
        omega

theorem length_classItem?_le {m : Mode} {p : Place} {c : Char} {i : ClassItem}
    {cs rest : List Char} (h : classItem? m p c cs = some (i, rest)) :
    rest.length ≤ cs.length := by
  unfold classItem? at h
  split at h
  · split at h
    · cases h
      exact Nat.le_refl _
    · contradiction
  split at h
  · split at h
    · cases h
      exact Nat.le_refl _
    · split at h
      · cases h
        exact Nat.le_refl _
      · contradiction
  split at h
  · split at h
    · next heq =>
        split at h
        · cases h
          exact length_namedSet?_le heq
        · contradiction
    · obtain ⟨r, hr, he⟩ := Option.map_eq_some_iff.1 h
      cases he
      exact length_openClass?_le hr
  split at h
  · cases h
    simp
  · obtain ⟨r, hr, he⟩ := Option.map_eq_some_iff.1 h
    cases he
    exact length_members?_le hr

theorem length_classItem?_lt {m : Mode} {p : Place} {c : Char} {i : ClassItem}
    {cs next rest : List Char} (hs : m.skip cs = c :: next)
    (h : classItem? m p c next = some (i, rest)) : rest.length < cs.length := by
  have h₁ := m.length_skip_le cs
  have h₂ := length_classItem?_le h
  rw [hs, List.length_cons] at h₁
  omega

/-- Reads a class of which the opening bracket was read, within the classes in `outer`. The depth
of the outermost of them is returned. -/
def charClass? (m : Mode) (outer : List OpenClass) (o : OpenClass) (cs : List Char) :
    Option (Nat × List Char) :=
  match _hs : m.skip cs with
  | [] => none
  | c :: next =>
      match _hi : classItem? m o.place c next with
      | none => none
      | some (.dash, rest) => charClass? m outer (o.push 0 .leading) rest
      | some (.member, rest) => charClass? m outer (o.push 0 .inner) rest
      | some (.operator, rest) => charClass? m outer o.combine rest
      | some (.opening, rest) => charClass? m (o :: outer) .empty rest
      | some (.closing, rest) =>
          match outer with
          | [] => some (o.depth + 1, rest)
          | o₁ :: outer => charClass? m outer (o₁.push (o.depth + 1) .inner) rest
termination_by cs.length
decreasing_by all_goals exact length_classItem?_lt _hs _hi

theorem length_charClass?_le {m : Mode} {outer : List OpenClass} {o : OpenClass}
    {cs rest : List Char} {d : Nat} (h : charClass? m outer o cs = some (d, rest)) :
    rest.length ≤ cs.length := by
  fun_induction charClass? m outer o cs with
  | case1 | case2 => contradiction
  | case3 _ _ _ _ _ hs _ hi ih | case4 _ _ _ _ _ hs _ hi ih | case5 _ _ _ _ _ hs _ hi ih
  | case6 _ _ _ _ _ hs _ hi ih | case8 _ _ _ _ hs _ hi _ _ ih =>
      exact Nat.le_trans (ih h) (Nat.le_of_lt (length_classItem?_lt hs hi))
  | case7 _ _ _ _ hs _ hi =>
      cases h
      exact Nat.le_of_lt (length_classItem?_lt hs hi)

end SharedRing.Pattern

import SharedRing.Pattern.Mode

/-!
The smallest items of a pattern. A backslash takes the meaning from the sign behind it or gives
one to a letter. No table of Unicode is at hand, so an item that needs one cannot be used: letters
in any case, kinds of characters and the edges of words. Neither can one that takes a part of a
character, as an item about bytes does if it takes more than ASCII.
-/

namespace SharedRing.Pattern

inductive Atom where
  | char (c : Char)
  /-- A character given by two hexadecimal digits, or the byte of that value. -/
  | byte (c : Char)
  | any
  /-- Digits, blanks or the characters of words, or all that are not. -/
  | kind (negated : Bool)
  /-- An edge of a line or of the text. -/
  | edge
  /-- An edge of a word, or a place that is none. -/
  | wordEdge
  deriving DecidableEq, Repr

namespace Atom

def isUsable (m : Mode) : Atom → Bool
  | char _ => !(m.unicode && m.anyCase)
  | byte c => if m.unicode then !m.anyCase else c.toNat < 128
  | any => m.unicode
  | kind negated => !m.unicode && !negated
  | edge => true
  | wordEdge => !m.unicode

def isMember (m : Mode) : Atom → Bool
  | char c | byte c => if m.unicode then !m.anyCase else c.toNat < 128
  | kind negated => !m.unicode && !negated
  | any | edge | wordEdge => false

def char? : Atom → Option Char
  | char c | byte c => some c
  | _ => none

end Atom

def hexDigit? (c : Char) : Option Nat :=
  if '0' ≤ c ∧ c ≤ '9' then some (c.toNat - '0'.toNat)
  else if 'a' ≤ c ∧ c ≤ 'f' then some (c.toNat - 'a'.toNat + 10)
  else if 'A' ≤ c ∧ c ≤ 'F' then some (c.toNat - 'A'.toNat + 10)
  else none

/-- The number that a given count of hexadecimal digits makes behind the digits of `n`. -/
def hexNumber? (m : Mode) : Nat → Nat → List Char → Option (Nat × List Char)
  | 0, n, cs => some (n, cs)
  | k + 1, n, cs =>
      match m.skip cs with
      | [] => none
      | c :: cs =>
          match hexDigit? c with
          | none => none
          | some d => hexNumber? m k (16 * n + d) cs

def hexChar? (m : Mode) (size : Nat) (cs : List Char) : Option (Char × List Char) :=
  match hexNumber? m size 0 cs with
  | none => none
  | some (n, cs) => if n.isValidChar then some (Char.ofNat n, cs) else none

def Atom.ofEscaped? : Char → Option Atom
  | 'a' => some (.char '\x07')
  | 'f' => some (.char '\x0c')
  | 't' => some (.char '\t')
  | 'n' => some (.char '\n')
  | 'r' => some (.char '\r')
  | 'v' => some (.char '\x0b')
  | 'd' | 's' | 'w' => some (.kind false)
  | 'D' | 'S' | 'W' => some (.kind true)
  | 'A' | 'z' => some .edge
  | 'b' | 'B' | '<' | '>' => some .wordEdge
  | c => if c.toNat < 128 && !c.isAlphanum then some (.char c) else none

def escape? (m : Mode) : List Char → Option (Atom × List Char)
  | [] => none
  | 'x' :: cs => (hexChar? m 2 cs).map (fun r => (.byte r.1, r.2))
  | 'u' :: cs => (hexChar? m 4 cs).map (fun r => (.char r.1, r.2))
  | 'U' :: cs => (hexChar? m 8 cs).map (fun r => (.char r.1, r.2))
  | c :: cs => (Atom.ofEscaped? c).map (fun a => (a, cs))

def atom? (m : Mode) (c : Char) (cs : List Char) : Option (Atom × List Char) :=
  match c with
  | '\\' => escape? m cs
  | '.' => some (.any, cs)
  | '^' | '$' => some (.edge, cs)
  | c => some (.char c, cs)

theorem length_hexNumber?_le {m : Mode} {k n v : Nat} {cs rest : List Char}
    (h : hexNumber? m k n cs = some (v, rest)) : rest.length ≤ cs.length := by
  induction k generalizing n cs with
  | zero =>
      simp only [hexNumber?, Option.some.injEq, Prod.mk.injEq] at h
      simp [h.2]
  | succ k ih =>
      have hs := m.length_skip_le cs
      simp only [hexNumber?] at h
      split at h
      · contradiction
      · next heq =>
          rw [heq, List.length_cons] at hs
          split at h
          · contradiction
          · have := ih h
            omega

theorem length_hexChar?_le {m : Mode} {k : Nat} {c : Char} {cs rest : List Char}
    (h : hexChar? m k cs = some (c, rest)) : rest.length ≤ cs.length := by
  simp only [hexChar?] at h
  split at h
  · contradiction
  · next heq =>
      split at h
      · simp only [Option.some.injEq, Prod.mk.injEq] at h
        rw [← h.2]
        exact length_hexNumber?_le heq
      · contradiction

theorem length_escape?_le {m : Mode} {a : Atom} {cs rest : List Char}
    (h : escape? m cs = some (a, rest)) : rest.length ≤ cs.length := by
  unfold escape? at h
  split at h
  · contradiction
  iterate 3
    obtain ⟨r, hr, he⟩ := Option.map_eq_some_iff.1 h
    cases he
    have := length_hexChar?_le hr
    simp only [List.length_cons]
    omega
  obtain ⟨b, _, he⟩ := Option.map_eq_some_iff.1 h
  cases he
  simp

theorem length_atom?_le {m : Mode} {a : Atom} {c : Char} {cs rest : List Char}
    (h : atom? m c cs = some (a, rest)) : rest.length ≤ cs.length := by
  unfold atom? at h
  split at h
  · exact length_escape?_le h
  all_goals
    cases h
    exact Nat.le_refl _

end SharedRing.Pattern

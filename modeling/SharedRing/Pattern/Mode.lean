import SharedRing.Text.Blank

/-!
What the flags of a pattern decide about the characters behind them. With the flag for spacing on,
blanks do not count between the items of a pattern, and neither do comments, which reach from a
number sign to the end of the line.
-/

namespace SharedRing.Pattern

structure Mode where
  /-- A letter stands for both of its cases. -/
  anyCase : Bool
  /-- Items are about characters; otherwise they are about bytes. -/
  unicode : Bool
  spaced : Bool
  deriving DecidableEq, Repr

/-- The text behind blanks and comments; `inComment` is set within a comment. -/
def skipBlanks (inComment : Bool) : List Char → List Char
  | [] => []
  | c :: cs =>
      if inComment then skipBlanks (c ≠ '\n') cs
      else if Text.isBlank c then skipBlanks false cs
      else if c = '#' then skipBlanks true cs
      else c :: cs

theorem length_skipBlanks_le (inComment : Bool) (cs : List Char) :
    (skipBlanks inComment cs).length ≤ cs.length := by
  induction cs generalizing inComment with
  | nil => simp [skipBlanks]
  | cons c cs ih =>
      have h₁ := ih (decide (c ≠ '\n'))
      have h₂ := ih false
      have h₃ := ih true
      simp only [skipBlanks]
      split
      · simp only [List.length_cons]; omega
      · split
        · simp only [List.length_cons]; omega
        · split
          · simp only [List.length_cons]; omega
          · exact Nat.le_refl _

namespace Mode

def initial : Mode := ⟨false, true, false⟩

def skip (m : Mode) (cs : List Char) : List Char := if m.spaced then skipBlanks false cs else cs

theorem length_skip_le (m : Mode) (cs : List Char) : (m.skip cs).length ≤ cs.length := by
  unfold skip
  split
  · exact length_skipBlanks_le false cs
  · exact Nat.le_refl _

/-- The character behind the blanks, and behind a number sign if one is there. A comment is not
skipped as a whole here. -/
def next? (m : Mode) (cs : List Char) : Option Char :=
  if m.spaced then
    match cs.dropWhile Text.isBlank with
    | '#' :: cs => (cs.dropWhile Text.isBlank).head?
    | cs => cs.head?
  else cs.head?

/-- Takes one sign of a list of flags; the flags behind a minus sign are taken back. -/
def flag? (m : Mode) (on : Bool) : Char → Option (Mode × Bool)
  | '-' => some (m, false)
  | 'i' => some ({ m with anyCase := on }, on)
  | 'u' => some ({ m with unicode := on }, on)
  | 'x' => some ({ m with spaced := on }, on)
  -- about lines, the point and how much is taken, which does not matter to reading
  | 'm' | 's' | 'U' | 'R' => some (m, on)
  | _ => none

def flags? : Mode → Bool → List Char → Option Mode
  | m, _, [] => some m
  | m, on, c :: cs =>
      match m.flag? on c with
      | none => none
      | some (m, on) => flags? m on cs

/-- The mode behind a list of flags. No sign stands in it twice and the minus sign not at its
end. -/
def change? (m : Mode) (cs : List Char) : Option Mode :=
  if cs.Nodup ∧ cs.getLast? ≠ some '-' then m.flags? true cs else none

end Mode

end SharedRing.Pattern

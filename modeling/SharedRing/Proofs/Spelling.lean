import SharedRing.Proofs.Vacancy

/-!
Which names are valid, what they become, and which spellings mean the same name. A name is invalid
only when it has no body or holds a NUL; of all others as much is kept as fits, and the name that a
channel was created under is the one that is removed again (`normalize_decides`). One slash is taken
off and one is put in front, so names with two slashes or more keep all of them, and do not mean
what they mean with one slash less (`one_slash_iff`).
-/

namespace SharedRing

open Host

namespace Name

variable {name n body : String}

/-! ### Bodies -/

def HasSlashes (k : Nat) (name : String) : Prop := List.replicate k '/' <+: name.toList

instance (k : Nat) (name : String) : Decidable (HasSlashes k name) :=
  inferInstanceAs (Decidable (_ <+: _))

def IsBody (body name : String) : Prop :=
  name = "/" ++ body ∨ name = body ∧ ¬HasSlashes 1 name

theorem toList_slash (s : String) : ("/" ++ s).toList = '/' :: s.toList := by
  rw [String.toList_append]
  rfl

theorem hasSlashes_succ {k : Nat} : HasSlashes (k + 1) ("/" ++ name) ↔ HasSlashes k name := by
  rw [HasSlashes, toList_slash, List.replicate_succ]
  exact List.prefix_cons_inj '/'

theorem exists_eq_slash (h : HasSlashes 1 name) : ∃ rest, name = "/" ++ rest := by
  obtain ⟨rest, hrest⟩ := h
  refine ⟨String.ofList rest, ?_⟩
  rw [← String.toList_inj, toList_slash, String.toList_ofList, ← hrest]
  rfl

theorem hasSlashes_one_iff {c : Char} {cs : List Char} (h : name.toList = c :: cs) :
    HasSlashes 1 name ↔ c = '/' := by
  rw [HasSlashes, h, List.replicate_one, List.cons_prefix_cons, eq_comm]
  exact and_iff_left List.nil_prefix

theorem hasSlashes_two_iff {c : Char} {cs : List Char} (h : name.toList = '/' :: c :: cs) :
    HasSlashes 2 name ↔ c = '/' := by
  have hname : name = "/" ++ String.ofList (c :: cs) := by
    rw [← String.toList_inj, toList_slash, String.toList_ofList, h]
  rw [hname, hasSlashes_succ]
  exact hasSlashes_one_iff String.toList_ofList

theorem dropSlash_of_plain (h : ¬HasSlashes 1 name) : dropSlash name.toList = name.toList := by
  unfold dropSlash
  split
  · rename_i cs hcs
    exact absurd ⟨cs, hcs.symm⟩ h
  · rfl

theorem IsBody.toList_eq (h : IsBody body name) : body.toList = dropSlash name.toList := by
  rcases h with rfl | ⟨rfl, hplain⟩
  · rw [toList_slash]
    rfl
  · exact (dropSlash_of_plain hplain).symm

theorem IsBody.ofList_eq (h : IsBody body name) :
    String.ofList ('/' :: dropSlash name.toList) = "/" ++ body := by
  rw [← String.toList_inj, toList_slash, String.toList_ofList, h.toList_eq]

theorem dropSlash_eq_nil_iff : dropSlash name.toList = [] ↔ name = "" ∨ name = "/" := by
  have hslash : "/".toList = ['/'] := rfl
  rw [← String.toList_inj, ← String.toList_inj, String.toList_empty, hslash]
  cases name.toList with
  | nil => simp [dropSlash]
  | cons c cs =>
      by_cases hc : c = '/'
      · subst hc
        simp [dropSlash]
      · simp [dropSlash, hc]

/-! ### Validity -/

theorem normalize_eq_containsNul_iff :
    normalize name = .error .containsNul ↔ '\x00' ∈ name.toList := by
  rw [normalize_eq]
  by_cases hnul : '\x00' ∈ name.toList
  · simp [hnul]
  · rw [if_neg hnul]
    split <;> simp [hnul]

theorem normalize_eq_empty_iff : normalize name = .error .empty ↔ name = "" ∨ name = "/" := by
  rw [normalize_eq, ← dropSlash_eq_nil_iff]
  by_cases hnul : '\x00' ∈ name.toList
  · have hbody : dropSlash name.toList ≠ [] := by
      intro hempty
      rcases dropSlash_eq_nil_iff.1 hempty with rfl | rfl
      · exact absurd hnul (by decide)
      · exact absurd hnul (by decide)
    simp [hnul, hbody]
  · rw [if_neg hnul]
    split <;> simp [*]

/-! ### What is removed -/

/-- The name under which a segment or a channel was created is the one that is removed, whoever
removes it, and the only one. -/
structure Removes (name n : String) : Prop where
  /-- A segment has the normalized name, -/
  created : ∀ h size s h', Segment.create h name size = (.ok s, h') → s.name = n
  /-- which stays the same when it is normalized again. -/
  removed : ∀ h, Segment.remove h n = (h.unlink n).2
  /-- A channel whose ring could not be made removes it, -/
  failed : ∀ h requested s h₁ e h₂,
    Segment.create h name (min (requested + Header.size) Producer.maxSpan) = (.ok s, h₁) →
    Binding.new s .producer h₁ = (.error e, h₂) →
    Producer.create h name requested = (.error (.invalidRing e),
      ((h₂.report (.cannotHost n requested (.invalidRing e))).unlink n).2)
  /-- and so does one that is destroyed, open -/
  destroyed : ∀ h requested p h', Producer.create h name requested = (.ok p, h') →
    ∀ h₁, (p.destroy h₁).2.names = (h₁.unlink n).2.names
  /-- or closed. -/
  destroyedClosed : ∀ h requested p h', Producer.create h name requested = (.ok p, h') →
    ∀ h₁ h₂, ((p.close h₁).1.destroy h₂).2 = (h₂.unlink n).2

theorem removes_of_normalize (hn : normalize name = .ok n) : Removes name n := by
  have hagain := normalize_normalize hn
  have hsegment (h : Host) (size : Nat) (s : Segment) (h' : Host)
      (hc : Segment.create h name size = (.ok s, h')) : s.name = n := by
    obtain ⟨-, hname, -⟩ := Segment.of_create_ok hc
    rw [hn] at hname
    exact (Except.ok.inj hname).symm
  have hremove (h : Host) : Segment.remove h n = (h.unlink n).2 := by
    rw [Segment.remove, hagain]
  refine ⟨hsegment, hremove, ?_, ?_, ?_⟩
  · intro h requested s h₁ e h₂ hc hnew
    have hname := hsegment _ _ _ _ hc
    simp only [Producer.create, hc, hnew, hname, hremove]
  · intro h requested p h' hc h₁
    obtain ⟨r, hp, hname, -⟩ := Producer.of_create_ok hc
    rw [hn] at hname
    cases hname
    rw [hp]
    simp only [Producer.destroy, Producer.destroy_created, Bool.false_eq_true, if_false]
    split <;> rfl
  · intro h requested p h' hc h₁ h₂
    obtain ⟨r, hp, hname, -⟩ := Producer.of_create_ok hc
    rw [hn] at hname
    cases hname
    rw [hp]
    simp only [Producer.close, Producer.destroy, Bool.false_eq_true, if_false, hremove]

/-- What becomes of a name. It is invalid just when it holds a NUL, is empty or is one slash; then
nothing is created or attached under it. Any other becomes the longest beginning of a slash and its
body that takes at most 255 bytes, which is its own normal form and the name that is removed again.
At most three bytes less are kept than there is room for, and the search for the boundary to cut at
never passes the start of a text. -/
theorem normalize_decides (name : String) :
    ((∃ e, normalize name = .error e) ↔ '\x00' ∈ name.toList ∨ name = "" ∨ name = "/") ∧
    (∀ e, normalize name = .error e → ∀ h size,
      Segment.create h name size = (.error (.invalidName name e), h) ∧
      Segment.attach h name size = .error (.invalidName name e)) ∧
    (∀ body n, IsBody body name → normalize name = .ok n →
      IsLongestStart n ("/" ++ body) 255 ∧ (n ≠ "/" ++ body → 252 ≤ n.utf8ByteSize) ∧ n ≠ "/" ∧
      normalize n = .ok n ∧ Removes name n) ∧
    ∀ text limit, ∃ p, lastBoundary? text limit = some p := by
  refine ⟨?_, ?_, ?_, ?_⟩
  · rw [← normalize_eq_containsNul_iff, ← normalize_eq_empty_iff]
    constructor
    · rintro ⟨e, he⟩
      cases e with
      | containsNul => exact Or.inl he
      | empty => exact Or.inr he
    · rintro (he | he)
      · exact ⟨_, he⟩
      · exact ⟨_, he⟩
  · intro e he h size
    simp only [Segment.create, Segment.attach, he]
    exact ⟨trivial, trivial⟩
  · intro body n hbody hn
    obtain ⟨-, hempty, hcut⟩ := normalize_eq_ok_iff.1 hn
    have hfirst : n ≠ "/" := by
      rintro rfl
      cases hdrop : dropSlash name.toList with
      | nil => exact hempty hdrop
      | cons c cs =>
          rw [hdrop] at hcut
          obtain ⟨rest, -, hlist⟩ := hcut.eq_slash_cons
          cases hlist
    rw [hbody.ofList_eq] at hcut
    refine ⟨hcut, ?_, hfirst, normalize_normalize hn, removes_of_normalize hn⟩
    intro hne
    have hroom := hcut.lt_size_add hne
    rw [maxSize] at hroom
    omega
  · intro text limit
    exact ⟨_, lastBoundary?_eq text limit⟩

/-- The 255th byte is in the middle of a character of two bytes. -/
theorem normalize_decides_straddling :
    let name := String.ofList ('a' :: List.replicate 200 'é')
    let n := String.ofList ('/' :: 'a' :: List.replicate 126 'é')
    normalize name = .ok n ∧ n.utf8ByteSize = 254 ∧ IsLongestStart n ("/" ++ name) 255 ∧
      normalize n = .ok n ∧ Removes name n := by
  intro name n
  have hsize : n.utf8ByteSize = 254 := by decide +kernel
  have hgiven : name.toList = 'a' :: List.replicate 200 'é' := String.toList_ofList
  have hkept : n.toList = '/' :: 'a' :: List.replicate 126 'é' := String.toList_ofList
  clear_value name n
  have hplain : ¬HasSlashes 1 name := by
    rw [HasSlashes, hgiven]
    rintro ⟨rest, hrest⟩
    cases hrest
  have hrest : '/' :: name.toList = n.toList ++ List.replicate 74 'é' := by
    rw [hgiven, hkept, List.cons_append, List.cons_append, List.replicate_append_replicate]
  have hn : normalize name = .ok n := by
    rw [normalize_eq_ok_iff, dropSlash_of_plain hplain, isLongestStart_iff, String.toList_ofList,
      hrest, hsize]
    refine ⟨?_, ?_, List.prefix_append _ _, by decide, ?_⟩
    · rw [hgiven, List.mem_cons, List.mem_replicate]
      decide
    · rw [hgiven]
      exact List.cons_ne_nil _ _
    · intro c rest hc
      cases List.append_cancel_left hc
      decide
  obtain ⟨hcut, -, -, hagain, hremoves⟩ :=
    (normalize_decides name).2.2.1 name n (Or.inr ⟨rfl, hplain⟩) hn
  exact ⟨hn, hsize, hcut, hagain, hremoves⟩

/-! ### Leading slashes -/

def Agree (a b : String) : Prop :=
  (∃ e e', normalize a = .error e ∧ normalize b = .error e') ∨
    ∃ n, normalize a = .ok n ∧ normalize b = .ok n

theorem agree_of_eq {a b : String} (h : normalize a = normalize b) : Agree a b := by
  cases hb : normalize b with
  | error e => exact Or.inl ⟨e, e, h.trans hb, hb⟩
  | ok n => exact Or.inr ⟨n, h.trans hb, hb⟩

theorem mem_slash_iff : '\x00' ∈ ("/" ++ name).toList ↔ '\x00' ∈ name.toList := by
  rw [toList_slash, List.mem_cons]
  exact or_iff_right (by decide)

/-- A name without a leading slash may be given one. -/
theorem normalize_slash_of_plain (h : ¬HasSlashes 1 name) :
    normalize ("/" ++ name) = normalize name := by
  have hdrop : dropSlash ("/" ++ name).toList = dropSlash name.toList := by
    rw [toList_slash, dropSlash_of_plain h]
    rfl
  simp only [normalize_eq, hdrop, mem_slash_iff]

theorem normalize_slash_eq_ok_iff (hnul : '\x00' ∉ body.toList) :
    normalize ("/" ++ body) = .ok n ↔ body ≠ "" ∧ IsLongestStart n ("/" ++ body) maxSize := by
  have hbody : IsBody body ("/" ++ body) := Or.inl rfl
  rw [normalize_eq_ok_iff, hbody.ofList_eq, mem_slash_iff, ← hbody.toList_eq]
  simp [hnul]

/-- A list that begins like itself one place later consists of one character. -/
theorem eq_replicate_of_starts {c : Char} {cs ds : List Char} (h : ds <+: cs)
    (hnext : ds <+: c :: cs) : ds = List.replicate ds.length c := by
  induction ds generalizing cs with
  | nil => rfl
  | cons d ds ih =>
      obtain ⟨rfl, hds⟩ := List.cons_prefix_cons.1 hnext
      cases cs with
      | nil => exact absurd (List.prefix_nil.1 h) (List.cons_ne_nil _ _)
      | cons c' cs =>
          obtain ⟨rfl, hds'⟩ := List.cons_prefix_cons.1 h
          rw [List.length_cons, List.replicate_succ, ← ih hds' hds]

def slashes (k : Nat) : String := String.ofList (List.replicate k '/')

theorem utf8ByteSize_slashes (k : Nat) : (slashes k).utf8ByteSize = k := by
  induction k with
  | zero => rfl
  | succ k ih =>
      have hpush : slashes (k + 1) = (slashes k).push '/' := by
        rw [← String.toList_inj, String.toList_push, slashes, slashes, String.toList_ofList,
          String.toList_ofList, List.replicate_succ']
      rw [hpush, String.utf8ByteSize_push, ih]
      rfl

theorem isLongestStart_slashes {k : Nat} (h : HasSlashes k name) :
    IsLongestStart (slashes k) name k := by
  rw [isLongestStart_iff, slashes, String.toList_ofList, ← slashes, utf8ByteSize_slashes]
  exact ⟨h, Nat.le_refl k, fun c _ _ => Nat.lt_add_of_pos_right c.utf8Size_pos⟩

theorem HasSlashes.slash {k : Nat} (h : HasSlashes k name) : HasSlashes k ("/" ++ name) := by
  obtain ⟨rest, hrest⟩ := h
  refine ⟨'/' :: rest, ?_⟩
  rw [toList_slash, ← hrest, ← List.cons_append, ← List.replicate_succ, List.replicate_succ',
    List.append_assoc]
  rfl

/-- What a text keeps with one slash more in front and without is slashes, as many as fit. -/
theorem hasSlashes_of_isLongestStart {k : Nat} (hn : IsLongestStart n name k)
    (hslash : IsLongestStart n ("/" ++ name) k) : HasSlashes k name := by
  have hstarts := hslash.starts
  rw [toList_slash] at hstarts
  have hall : n = slashes n.toList.length := by
    rw [slashes, ← eq_replicate_of_starts hn.starts hstarts, String.ofList_toList]
  generalize n.toList.length = j at hall
  subst hall
  have hle : j ≤ k := by
    rw [← utf8ByteSize_slashes j]
    exact hn.size_le
  have hkept : HasSlashes j name := by
    have hstarts := hn.starts
    rwa [slashes, String.toList_ofList] at hstarts
  rcases Nat.eq_or_lt_of_le hle with rfl | hlt
  · exact hkept
  · -- one more would fit
    have hmore := hslash.longest (slashes (j + 1))
    rw [slashes, slashes, String.toList_ofList, String.toList_ofList, ← slashes,
      utf8ByteSize_slashes] at hmore
    have hlonger := (hmore (hasSlashes_succ.2 hkept) hlt).length_le
    rw [List.length_replicate, List.length_replicate] at hlonger
    exact absurd hlonger (Nat.not_succ_le_self j)

/-- A name that begins with a slash means the same with one more only if no slash is kept of those
that are not. -/
theorem agree_slash_of_slash (hnul : '\x00' ∉ body.toList) :
    Agree ("/" ++ body) ("/" ++ ("/" ++ body)) ↔ HasSlashes maxSize ("/" ++ body) := by
  have hfirst (n : String) := normalize_slash_eq_ok_iff (n := n) hnul
  have hsecond (n : String) := normalize_slash_eq_ok_iff (n := n) (mt mem_slash_iff.1 hnul)
  have hne (s : String) : "/" ++ s ≠ "" := by
    rw [Ne, ← String.toList_inj, toList_slash]
    exact List.cons_ne_nil _ _
  constructor
  · rintro (⟨-, e, -, he⟩ | ⟨n, hn, hn'⟩)
    · have hok := (hsecond _).2 ⟨hne body, isLongestStart_truncate _ _⟩
      rw [hok] at he
      cases he
    · exact hasSlashes_of_isLongestStart ((hfirst n).1 hn).2 ((hsecond n).1 hn').2
  · intro hslashes
    refine Or.inr ⟨slashes maxSize, (hfirst _).2 ⟨?_, isLongestStart_slashes hslashes⟩,
      (hsecond _).2 ⟨hne body, isLongestStart_slashes hslashes.slash⟩⟩
    rintro rfl
    have hlength := hslashes.length_le
    rw [List.length_replicate, toList_slash] at hlength
    exact absurd hlength (by decide)

/-- Which names have the one leading slash that they should have. All begin with one, and of those
that were given with two or more all are kept. So a name means the same with a slash more in front
if it had none, and hardly any other does: only what is rejected in both spellings, and what begins
with as many slashes as a name can have bytes. -/
theorem one_slash_iff (name : String) :
    (∀ n, normalize name = .ok n →
      HasSlashes 1 n ∧ (¬HasSlashes 2 n ↔ ¬HasSlashes 2 name)) ∧
    (Agree name ("/" ++ name) ↔
      '\x00' ∈ name.toList ∨ ¬HasSlashes 1 name ∨ HasSlashes 255 name) := by
  refine ⟨?_, ?_⟩
  · intro n hn
    obtain ⟨-, hempty, hcut⟩ := normalize_eq_ok_iff.1 hn
    cases hdrop : dropSlash name.toList with
    | nil => exact absurd hdrop hempty
    | cons c cs =>
        rw [hdrop] at hcut
        obtain ⟨rest, -, hlist⟩ := hcut.eq_slash_cons
        refine ⟨⟨c :: rest, hlist.symm⟩, not_congr ?_⟩
        rw [hasSlashes_two_iff hlist]
        by_cases hplain : HasSlashes 1 name
        · obtain ⟨body, rfl⟩ := exists_eq_slash hplain
          have hgiven : ("/" ++ body).toList = '/' :: c :: cs := by
            rw [toList_slash, IsBody.toList_eq (Or.inl rfl), hdrop]
          rw [hasSlashes_two_iff hgiven]
        · rw [dropSlash_of_plain hplain] at hdrop
          have hone := hasSlashes_one_iff hdrop
          have htwo : ¬HasSlashes 2 name := fun h => hplain (List.IsPrefix.trans ⟨['/'], rfl⟩ h)
          exact iff_of_false (mt hone.2 hplain) htwo
  · by_cases hnul : '\x00' ∈ name.toList
    · have hfirst := normalize_eq_containsNul_iff.2 hnul
      have hsecond := normalize_eq_containsNul_iff.2 (mem_slash_iff.2 hnul)
      exact iff_of_true (agree_of_eq (hfirst.trans hsecond.symm)) (Or.inl hnul)
    · by_cases hplain : HasSlashes 1 name
      · obtain ⟨body, rfl⟩ := exists_eq_slash hplain
        rw [agree_slash_of_slash (mt mem_slash_iff.2 hnul), or_iff_right hnul,
          or_iff_right (not_not_intro hplain)]
        exact Iff.rfl
      · exact iff_of_true (agree_of_eq (normalize_slash_of_plain hplain).symm)
          (Or.inr (Or.inl hplain))

/-- A name without a leading slash. -/
theorem one_slash_iff_plain :
    normalize "a" = .ok "/a" ∧ HasSlashes 1 "/a" ∧ ¬HasSlashes 2 "/a" ∧ Agree "a" ("/" ++ "a") := by
  have hname : normalize "a" = .ok "/a" := rfl
  obtain ⟨hslashes, hagree⟩ := one_slash_iff "a"
  obtain ⟨hone, htwo⟩ := hslashes "/a" hname
  exact ⟨hname, hone, htwo.2 (by decide), hagree.2 (Or.inr (Or.inl (by decide)))⟩

/-- A name with two keeps both, and is another one than that with one. -/
theorem two_slashes_kept :
    normalize ("/" ++ "/a") = .ok "//a" ∧ HasSlashes 2 "//a" ∧ ¬Agree "/a" ("/" ++ "/a") := by
  have hone : normalize "/a" = .ok "/a" := rfl
  have htwo : normalize ("/" ++ "/a") = .ok "//a" := rfl
  refine ⟨htwo, by decide, ?_⟩
  rintro (⟨e, -, he, -⟩ | ⟨n, hn, hn'⟩)
  · rw [hone] at he
    cases he
  · rw [hone] at hn
    rw [htwo, ← hn] at hn'
    exact absurd (Except.ok.inj hn') (by decide)

end Name

end SharedRing

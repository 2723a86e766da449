import SharedRing.Name

/-!
A normalized name is its own normal form (`normalize_normalize`). Normalizing puts a slash in front
of a body and keeps the longest beginning of that which fits (`IsLongestStart`): the search for the
last boundary always finds one (`lastBoundary?_eq`), and no more is cut off than the boundaries
force. Of a normalized name the slash is dropped and put back, and there is nothing left to cut.
-/

namespace SharedRing.Name

open String

variable {s t u : String} {p : Pos.Raw} {n : Nat}

/-! ### Cutting a text -/

theorem pos?_of_isValid (hp : p.IsValid s) : s.pos? p = some (s.pos p hp) := by
  simp [pos?, Slice.pos?, pos, hp]

theorem pos?_of_not_isValid (hp : ¬p.IsValid s) : s.pos? p = none := by
  simp [pos?, Slice.pos?, hp]

/-- Looking for a boundary downwards comes to the last one, at byte 0 if there is none before. -/
theorem lastBoundary?_eq (s : String) (n : Nat) : lastBoundary? s n = some (s.posLE ⟨n⟩) := by
  induction n with
  | zero =>
      have hzero : (⟨0⟩ : Pos.Raw).IsValid s := Pos.Raw.isValid_zero
      rw [lastBoundary?, pos?_of_isValid hzero, posLE_eq_pos hzero]
  | succ n ih =>
      rw [lastBoundary?]
      by_cases hp : (⟨n + 1⟩ : Pos.Raw).IsValid s
      · rw [pos?_of_isValid hp, posLE_eq_pos hp]
      · rw [pos?_of_not_isValid hp]
        dsimp only
        rw [ih, eq_comm, Option.some_inj, posLE_eq_iff]
        refine ⟨Std.le_trans offset_posLE_le (Nat.le_succ n), ?_⟩
        intro q hq
        have hne : q.offset.byteIdx ≠ n + 1 := by
          intro heq
          apply hp
          rw [← heq]
          exact q.isValid
        have hle : q.offset.byteIdx ≤ n + 1 := hq
        rw [le_posLE_iff, Pos.Raw.le_iff]
        exact Nat.le_of_lt_succ (Nat.lt_of_le_of_ne hle hne)

/-- `t` is the longest beginning of `s` that takes at most `n` bytes. -/
structure IsLongestStart (t s : String) (n : Nat) : Prop where
  starts : t.toList <+: s.toList
  size_le : t.utf8ByteSize ≤ n
  longest : ∀ u : String, u.toList <+: s.toList → u.utf8ByteSize ≤ n → u.toList <+: t.toList

theorem exists_append_of_starts (h : u.toList <+: s.toList) : ∃ rest, s = u ++ rest := by
  obtain ⟨rest, hrest⟩ := h
  refine ⟨String.ofList rest, ?_⟩
  rw [← String.toList_inj, String.toList_append, String.toList_ofList, hrest]

/-- A beginning that is not smaller is the whole. -/
theorem eq_of_starts (h : u.toList <+: s.toList) (hsize : s.utf8ByteSize ≤ u.utf8ByteSize) :
    u = s := by
  obtain ⟨rest, rfl⟩ := exists_append_of_starts h
  have hrest : rest = "" := by
    rw [utf8ByteSize_append] at hsize
    rw [← utf8ByteSize_eq_zero_iff]
    omega
  rw [hrest, String.append_empty]

theorem isLongestStart_self (h : s.utf8ByteSize ≤ n) : IsLongestStart s s n :=
  ⟨List.prefix_refl _, h, fun _ hu _ => hu⟩

theorem IsLongestStart.unique (ht : IsLongestStart t s n) (hu : IsLongestStart u s n) :
    t = u := by
  have htu := hu.longest t ht.starts ht.size_le
  have hut := ht.longest u hu.starts hu.size_le
  exact String.toList_inj.1 (htu.eq_of_length_le hut.length_le)

theorem utf8ByteSize_add_le {c : Char} {tail : List Char} (h : u.toList = t.toList ++ c :: tail) :
    t.utf8ByteSize + c.utf8Size ≤ u.utf8ByteSize := by
  have hu : u = t.push c ++ String.ofList tail := by
    rw [← String.toList_inj, h, String.toList_append, toList_push, String.toList_ofList,
      List.append_assoc]
    rfl
  rw [hu, utf8ByteSize_append, utf8ByteSize_push]
  exact Nat.le_add_right _ _

/-- The longest beginning is one behind which there is no room for another character. -/
theorem isLongestStart_iff :
    IsLongestStart t s n ↔
      t.toList <+: s.toList ∧ t.utf8ByteSize ≤ n ∧
        ∀ c rest, s.toList = t.toList ++ c :: rest → n < t.utf8ByteSize + c.utf8Size := by
  constructor
  · intro ht
    refine ⟨ht.starts, ht.size_le, ?_⟩
    intro c rest hrest
    apply Nat.lt_of_not_le
    intro hfits
    have hstarts : (t.push c).toList <+: s.toList := by
      rw [hrest, toList_push]
      exact ⟨rest, List.append_assoc ..⟩
    have hlonger := (ht.longest _ hstarts (by rwa [utf8ByteSize_push])).length_le
    rw [toList_push, List.length_append] at hlonger
    exact Nat.not_succ_le_self _ hlonger
  · rintro ⟨hstarts, hsize, hfull⟩
    refine ⟨hstarts, hsize, ?_⟩
    intro u hu hfits
    rcases List.prefix_or_prefix_of_prefix hu hstarts with hshorter | ⟨tail, htail⟩
    · exact hshorter
    · cases tail with
      | nil => exact ⟨[], by rw [← htail, List.append_nil, List.append_nil]⟩
      | cons c tail =>
          obtain ⟨rest, hrest⟩ := hu
          rw [← htail, List.append_assoc] at hrest
          have hroom := hfull c (tail ++ rest) hrest.symm
          have hsize := utf8ByteSize_add_le htail.symm
          omega

/-- A character has at most four bytes, so at most three are given away. -/
theorem IsLongestStart.lt_size_add (ht : IsLongestStart t s n) (hne : t ≠ s) :
    n < t.utf8ByteSize + 4 := by
  obtain ⟨-, -, hfull⟩ := isLongestStart_iff.1 ht
  obtain ⟨rest, hrest⟩ := ht.starts
  cases rest with
  | nil =>
      rw [List.append_nil, String.toList_inj] at hrest
      exact absurd hrest hne
  | cons c rest =>
      have hroom := hfull c rest hrest.symm
      have hc := c.utf8Size_le_four
      omega

theorem isLongestStart_truncate (s : String) (n : Nat) : IsLongestStart (truncate s n) s n := by
  rw [truncate]
  split
  · rename_i hfits
    exact isLongestStart_self hfits
  · have hsplits := (s.posLE ⟨n⟩).splits
    rw [lastBoundary?_eq, Option.getD_some]
    generalize (s.sliceTo (s.posLE ⟨n⟩)).copy = cut at hsplits
    have hstarts : cut.toList <+: s.toList := by
      rw [hsplits.eq_append, String.toList_append]
      exact List.prefix_append _ _
    have hoffset : (s.posLE ⟨n⟩).offset = cut.rawEndPos := hsplits.offset_eq_rawEndPos
    refine ⟨hstarts, ?_, ?_⟩
    · have hle : (s.posLE ⟨n⟩).offset ≤ ⟨n⟩ := offset_posLE_le
      rw [hoffset] at hle
      exact hle
    · intro u hu hsize
      -- a beginning that fits ends on a boundary, and the search stops there or later
      obtain ⟨rest, hrest⟩ := exists_append_of_starts hu
      have hvalid := Pos.Raw.isValid_iff_exists_append.2 ⟨u, rest, hrest, rfl⟩
      have hbefore : s.pos u.rawEndPos hvalid ≤ s.posLE ⟨n⟩ := le_posLE_iff.2 hsize
      have hle : u.rawEndPos ≤ cut.rawEndPos := by
        rw [← hoffset]
        exact hbefore
      rcases List.prefix_or_prefix_of_prefix hu hstarts with hshorter | hlonger
      · exact hshorter
      · obtain rfl := eq_of_starts hlonger hle
        exact List.prefix_refl _

/-! ### Normalizing -/

variable {name : String}

theorem subset_of_dropSlash (cs : List Char) : dropSlash cs ⊆ cs := by
  unfold dropSlash
  split
  · exact List.subset_cons_self _ _
  · exact List.Subset.refl _

theorem normalize_eq (name : String) :
    normalize name =
      if '\x00' ∈ name.toList then .error .containsNul
      else if dropSlash name.toList = [] then .error .empty
      else .ok (truncate (String.ofList ('/' :: dropSlash name.toList)) maxSize) := by
  simp only [normalize, List.contains_iff_mem, List.isEmpty_iff]

/-- A name that has a body becomes a slash and as much of the body as fits. -/
theorem normalize_eq_ok_iff :
    normalize name = .ok t ↔
      '\x00' ∉ name.toList ∧ dropSlash name.toList ≠ [] ∧
        IsLongestStart t (String.ofList ('/' :: dropSlash name.toList)) maxSize := by
  have hcut := isLongestStart_truncate (String.ofList ('/' :: dropSlash name.toList)) maxSize
  rw [normalize_eq]
  by_cases hnul : '\x00' ∈ name.toList
  · simp [hnul]
  · by_cases hempty : dropSlash name.toList = []
    · simp [hnul, hempty]
    · rw [if_neg hnul, if_neg hempty, Except.ok.injEq]
      constructor
      · rintro rfl
        exact ⟨hnul, hempty, hcut⟩
      · rintro ⟨-, -, ht⟩
        exact hcut.unique ht

/-- The slash and a character behind it always fit. -/
theorem IsLongestStart.eq_slash_cons {c : Char} {cs : List Char}
    (ht : IsLongestStart t (String.ofList ('/' :: c :: cs)) maxSize) :
    ∃ rest, rest <+: cs ∧ t.toList = '/' :: c :: rest := by
  have hlist : ("/".push c).toList = ['/', c] := toList_push ..
  have hfits : ("/".push c).utf8ByteSize ≤ maxSize := by
    have hc := c.utf8Size_le_four
    have hslash : "/".utf8ByteSize = 1 := rfl
    rw [utf8ByteSize_push, hslash, maxSize]
    omega
  have hstarts := ht.starts
  have hpair := ht.longest ("/".push c)
  rw [hlist, String.toList_ofList] at hpair
  obtain ⟨rest, hrest⟩ := hpair ⟨cs, rfl⟩ hfits
  rw [String.toList_ofList, ← hrest] at hstarts
  exact ⟨rest, (List.prefix_append_right_inj ['/', c]).1 hstarts, hrest.symm⟩

theorem normalize_normalize {name n : String} (h : normalize name = .ok n) :
    normalize n = .ok n := by
  obtain ⟨hnul, hbody, hn⟩ := normalize_eq_ok_iff.1 h
  have hsub := subset_of_dropSlash name.toList
  cases hdrop : dropSlash name.toList with
  | nil => exact absurd hdrop hbody
  | cons c cs =>
      rw [hdrop] at hn hsub
      obtain ⟨rest, hrest, hlist⟩ := hn.eq_slash_cons
      have hdropped : dropSlash n.toList = c :: rest := by
        rw [hlist]
        rfl
      refine normalize_eq_ok_iff.2 ⟨?_, ?_, ?_⟩
      · intro hmem
        rw [hlist] at hmem
        rcases List.mem_cons.1 hmem with hslash | hmem
        · exact absurd hslash (by decide)
        · have hinner : c :: rest <+: c :: cs := (List.prefix_cons_inj c).2 hrest
          exact hnul (hsub (hinner.subset hmem))
      · rw [hdropped]
        exact List.cons_ne_nil _ _
      · rw [hdropped, ← hlist, String.ofList_toList]
        exact isLongestStart_self hn.size_le

end SharedRing.Name

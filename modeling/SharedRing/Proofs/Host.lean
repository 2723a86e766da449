import SharedRing.Proofs.Name
import SharedRing.Segment

/-!
What operations on names, objects and segments leave alone. Most of them keep every byte of every
object and bring in no name (`Host.Keeps`); an object that a failed creation leaves behind is of
zeros and has no name, so a failure counts among them. A creation that succeeds adds one object,
behind all others and under its name (`Host.Adds`).

The names are looked at one by one: an operation is confined to a name when all other names keep
their objects, and the objects their sizes (`Host.Confined`). Bytes do not matter for this.
-/

namespace SharedRing

theorem Array.modify_push_size {α : Type} (xs : Array α) (x : α) (f : α → α) :
    (xs.push x).modify xs.size f = xs.push (f x) := by
  apply Array.ext_getElem?
  intro i
  rw [Array.getElem?_modify, Array.getElem?_push, Array.getElem?_push]
  by_cases hi : i = xs.size
  · simp [hi]
  · rw [if_neg hi, if_neg hi, if_neg (Ne.symm hi)]

/-- A call that gives something, known by what is read off it. -/
theorem exists_ok_of_map_eq {ε α β σ : Type} {res : Except ε α × σ} {f : α → β} {b : β}
    (h : res.1.toOption.map f = some b) : ∃ a s, res = (.ok a, s) ∧ f a = b := by
  obtain ⟨found, s⟩ := res
  cases found with
  | error e => cases h
  | ok a => exact ⟨a, s, rfl, Option.some.inj h⟩

namespace Host

variable {h h' h'' : Host} {name : String} {id : ObjectId} {m : Memory} {o : SharedObject}
  {size : Nat}

def NamesExist (h : Host) : Prop := ∀ e ∈ h.names, e.2 < h.objects.size

/-! ### What is kept -/

structure Grows (h h' : Host) : Prop where
  size_le : h.objects.size ≤ h'.objects.size
  held : ∀ id, id < h.objects.size → h'.held id = h.held id

theorem Grows.refl (h : Host) : h.Grows h := ⟨Nat.le_refl _, fun _ _ => rfl⟩

theorem Grows.trans (hg : h.Grows h') (hg' : h'.Grows h'') : h.Grows h'' where
  size_le := Nat.le_trans hg.size_le hg'.size_le
  held id hid :=
    (hg'.held id (Nat.lt_of_lt_of_le hid hg.size_le)).trans (hg.held id hid)

/-- The objects are as they were, what is new holds zeros, and no name is new. -/
structure Keeps (h h' : Host) : Prop extends h.Grows h' where
  memory : ∀ id, h'.memory id = h.memory id
  names : h'.names ⊆ h.names

theorem Keeps.of_objects (ho : h'.objects = h.objects) (hn : h'.names ⊆ h.names) : h.Keeps h' where
  size_le := Nat.le_of_eq (congrArg Array.size ho.symm)
  memory id := by simp only [Host.memory, object?, ho]
  held id _ := by simp only [Host.held, object?, ho]
  names := hn

theorem Keeps.refl (h : Host) : h.Keeps h := .of_objects rfl (List.Subset.refl _)

theorem Keeps.trans (hk : h.Keeps h') (hk' : h'.Keeps h'') : h.Keeps h'' where
  toGrows := hk.toGrows.trans hk'.toGrows
  memory id := (hk'.memory id).trans (hk.memory id)
  names := List.Subset.trans hk'.names hk.names

theorem keeps_report (h : Host) (n : Notice) : h.Keeps (h.report n) :=
  .of_objects rfl (List.Subset.refl _)

theorem keeps_unbind (h : Host) (name : String) : h.Keeps (h.unbind name) :=
  .of_objects rfl List.filter_sublist.subset

theorem keeps_recordRemoval (h : Host) (name : String) : h.Keeps (h.recordRemoval name) :=
  .of_objects rfl (List.Subset.refl _)

@[simp] theorem notices_recordRemoval (h : Host) (name : String) :
    (h.recordRemoval name).notices = h.notices := rfl

@[simp] theorem find?_recordRemoval (h : Host) (name n : String) :
    (h.recordRemoval name).find? n = h.find? n := rfl

theorem keeps_unlink (h : Host) (name : String) : h.Keeps (h.unlink name).2 := by
  rw [unlink]
  refine (keeps_recordRemoval h name).trans ?_
  split
  · exact keeps_report _ _
  · exact keeps_unbind _ _

/-! ### Storing -/

@[simp] theorem size_setMemory : (h.setMemory id m).objects.size = h.objects.size :=
  Array.size_modify

@[simp] theorem held_setMemory (i : ObjectId) : (h.setMemory id m).held i = h.held i := by
  simp only [held, object?, setMemory, Array.getElem?_modify]
  split
  · cases h.objects[i]? <;> rfl
  · rfl

theorem memory_setMemory_of_ne {i : ObjectId} (hi : i ≠ id) :
    (h.setMemory id m).memory i = h.memory i := by
  simp only [memory, object?, setMemory, Array.getElem?_modify, if_neg (Ne.symm hi)]

theorem grows_setMemory (h : Host) (id : ObjectId) (m : Memory) : h.Grows (h.setMemory id m) :=
  ⟨Nat.le_of_eq size_setMemory.symm, fun i _ => held_setMemory i⟩

/-- Bytes that are stored where they are already change nothing. -/
theorem setMemory_memory (h : Host) (id : ObjectId) : h.setMemory id (h.memory id) = h := by
  have hobjects : h.objects.modify id (fun o => { o with memory := h.memory id }) = h.objects := by
    apply Array.ext
    · simp
    · intro i _ hi
      rw [Array.getElem_modify]
      split
      · rename_i hid
        have hmemory : h.memory id = h.objects[i].memory := by simp [memory, object?, hid, hi]
        exact congrArg (SharedObject.mk h.objects[i].size) hmemory
      · rfl
  rw [setMemory, hobjects]

theorem keeps_setMemory (h : Host) (id : ObjectId) : h.Keeps (h.setMemory id (h.memory id)) := by
  rw [setMemory_memory]
  exact .refl h

/-! ### What names stand for -/

/-- What the host makes of a name as it is given; nothing of an invalid one. -/
def objectName? (name : String) : Option String := (Name.normalize name).toOption.map objectName

def binding (h : Host) (n : String) : Option (ObjectId × Nat) :=
  (h.names.lookup n).map fun id => (id, h.held id)

/-- The objects keep their sizes, and all names but the one given keep their objects. -/
structure Confined (h h' : Host) (n? : Option String) : Prop extends h.Grows h' where
  lookup : ∀ n, n? ≠ some n → h'.names.lookup n = h.names.lookup n
  exist : h.NamesExist → h'.NamesExist

namespace Confined

variable {n? : Option String} {n : String}

theorem of_keeps (hk : h.Keeps h')
    (hlookup : ∀ n, n? ≠ some n → h'.names.lookup n = h.names.lookup n) : h.Confined h' n? where
  toGrows := hk.toGrows
  lookup := hlookup
  exist hnames e he := Nat.lt_of_lt_of_le (hnames e (hk.names he)) hk.size_le

theorem refl (h : Host) (n? : Option String) : h.Confined h n? :=
  .of_keeps (.refl h) fun _ _ => rfl

theorem trans (hc : h.Confined h' n?) (hc' : h'.Confined h'' n?) : h.Confined h'' n? where
  toGrows := hc.toGrows.trans hc'.toGrows
  lookup n hn := (hc'.lookup n hn).trans (hc.lookup n hn)
  exist hnames := hc'.exist (hc.exist hnames)

/-- What is confined to no name at all is confined to any. -/
theorem of_none (hc : h.Confined h' none) (n? : Option String) : h.Confined h' n? :=
  ⟨hc.toGrows, fun n _ => hc.lookup n (by simp), hc.exist⟩

theorem binding_eq (hc : h.Confined h' n?) (hnames : h.NamesExist) (hn : n? ≠ some n) :
    h'.binding n = h.binding n := by
  rw [binding, binding, hc.lookup n hn]
  cases hfind : h.names.lookup n with
  | none => rfl
  | some id =>
      obtain ⟨front, back, hsplit, -⟩ := List.lookup_eq_some_iff.1 hfind
      have hid : id < h.objects.size := hnames (n, id) (by rw [hsplit]; simp)
      rw [Option.map_some, Option.map_some, hc.held id hid]

end Confined

theorem confined_report (h : Host) (notice : Notice) (n? : Option String) :
    h.Confined (h.report notice) n? :=
  .of_keeps (keeps_report _ _) fun _ _ => rfl

theorem confined_reportAll (h : Host) (ns : List Notice) (n? : Option String) :
    h.Confined (h.reportAll ns) n? :=
  .of_keeps (.of_objects rfl (List.Subset.refl _)) fun _ _ => rfl

theorem confined_setMemory (h : Host) (id : ObjectId) (m : Memory) (n? : Option String) :
    h.Confined (h.setMemory id m) n? where
  toGrows := grows_setMemory ..
  lookup _ _ := rfl
  exist hnames e he := by
    rw [size_setMemory]
    exact hnames e he

theorem lookup_unbind (h : Host) (name n : String) :
    (h.unbind name).names.lookup n =
      if n = objectName name then none else h.names.lookup n := by
  show (h.names.filter _).lookup n = _
  induction h.names with
  | nil => simp
  | cons e names ih =>
      obtain ⟨k, id⟩ := e
      by_cases hk : k = objectName name
      · rw [List.filter_cons_of_neg (by simp [hk]), ih]
        split
        · rfl
        · rename_i hn
          rw [List.lookup_cons, beq_false_of_ne (by rwa [hk])]
      · rw [List.filter_cons_of_pos (by simpa using hk), List.lookup_cons, List.lookup_cons, ih]
        by_cases hn : n = k
        · subst hn
          simp [hk]
        · simp [beq_false_of_ne hn]

theorem confined_unlink (h : Host) (name : String) :
    h.Confined (h.unlink name).2 (some (objectName name)) := by
  refine .of_keeps (keeps_unlink h name) fun n hn => ?_
  rw [unlink]
  split
  · rfl
  · refine (lookup_unbind (h.recordRemoval name) name n).trans (if_neg ?_)
    rintro rfl
    exact hn rfl

theorem isDots_of_admitted (hname : isRefused (objectName name) = false) :
    isDots (objectName name) = false := by
  rw [isRefused] at hname
  simp only [Bool.or_eq_false_iff] at hname
  exact hname.2

/-- Nothing can be opened under a name that was removed. -/
theorem openExisting_unlink (h : Host) (name : String) :
    ∃ e, (h.unlink name).2.openExisting name = .error e := by
  rw [openExisting]
  split
  · exact ⟨_, rfl⟩
  · rename_i hname
    have hdots := isDots_of_admitted (Bool.eq_false_iff.2 hname)
    have hfind : (h.unlink name).2.find? name = none := by
      simp only [unlink, hdots, find?, Bool.false_eq_true, if_false]
      rw [lookup_unbind, if_pos rfl]
    rw [hfind]
    exact ⟨_, rfl⟩

/-! ### Creating -/

structure Adds (h h' : Host) (name : String) (o : SharedObject) : Prop where
  admitted : isRefused (objectName name) = false
  objects : h'.objects = h.objects.push o
  names : ∃ names, names ⊆ h.names ∧ h'.names = (objectName name, h.objects.size) :: names
  others : ∀ n, n ≠ objectName name → h'.names.lookup n = h.names.lookup n

namespace Adds

theorem memory_new (ha : h.Adds h' name o) : h'.memory h.objects.size = o.memory := by
  simp [memory, object?, ha.objects]

theorem held_new (ha : h.Adds h' name o) : h'.held h.objects.size = o.size := by
  simp [held, object?, ha.objects]

theorem memory_old (ha : h.Adds h' name o) (hid : id ≠ h.objects.size) :
    h'.memory id = h.memory id := by
  simp only [memory, object?, ha.objects, Array.getElem?_push, if_neg hid]

theorem held_old (ha : h.Adds h' name o) (hid : id ≠ h.objects.size) : h'.held id = h.held id := by
  simp only [held, object?, ha.objects, Array.getElem?_push, if_neg hid]

/-- Only the object's own name is new. -/
theorem mem_names (ha : h.Adds h' name o) {e : String × ObjectId} (he : e ∈ h'.names) :
    e = (objectName name, h.objects.size) ∨ e ∈ h.names := by
  obtain ⟨names, hsub, hnames⟩ := ha.names
  rw [hnames] at he
  rcases List.mem_cons.1 he with he | he
  · exact Or.inl he
  · exact Or.inr (hsub he)

theorem modify (ha : h.Adds h' name o) (f : SharedObject → SharedObject) :
    h.Adds { h' with objects := h'.objects.modify h.objects.size f } name (f o) where
  admitted := ha.admitted
  objects := by simp only [ha.objects, Array.modify_push_size]
  names := ha.names
  others := ha.others

theorem report (ha : h.Adds h' name o) (n : Notice) : h.Adds (h'.report n) name o :=
  ⟨ha.admitted, ha.objects, ha.names, ha.others⟩

theorem grows (ha : h.Adds h' name o) : h.Grows h' where
  size_le := by
    rw [ha.objects, Array.size_push]
    omega
  held id hid := ha.held_old (Nat.ne_of_lt hid)

theorem confined (ha : h.Adds h' name o) : h.Confined h' (some (objectName name)) where
  toGrows := ha.grows
  lookup n hn := ha.others n fun heq => hn (congrArg some heq.symm)
  exist hnames e he := by
    rw [ha.objects, Array.size_push]
    rcases ha.mem_names he with rfl | he
    · exact Nat.lt_succ_self _
    · exact Nat.lt_succ_of_lt (hnames e he)

theorem find?_eq (ha : h.Adds h' name o) : h'.find? name = some h.objects.size := by
  obtain ⟨names, -, hnames⟩ := ha.names
  rw [find?, hnames, List.lookup_cons_self]

/-- When the name is removed again, what is left is an object that nothing refers to. -/
theorem unlink (ha : h.Adds h' name o) (ho : o.memory = .zeroed) : h.Keeps (h'.unlink name).2 := by
  have hdots := isDots_of_admitted ha.admitted
  obtain ⟨names, hsub, hnames⟩ := ha.names
  have hunlink : (h'.unlink name).2 = (h'.recordRemoval name).unbind name := by
    simp [Host.unlink, hdots]
  rw [hunlink]
  have hkeeps := (keeps_recordRemoval h' name).trans (keeps_unbind _ name)
  refine ⟨ha.grows.trans hkeeps.toGrows, ?_, ?_⟩
  · intro id
    show h'.memory id = h.memory id
    by_cases hid : id = h.objects.size
    · rw [hid, ha.memory_new, ho, memory_of_size_le (Nat.le_refl _)]
    · exact ha.memory_old hid
  · show h'.names.filter _ ⊆ h.names
    rw [hnames, List.filter_cons_of_neg (by simp)]
    exact List.Subset.trans List.filter_sublist.subset hsub

end Adds

theorem objects_unlink (h : Host) (name : String) : (h.unlink name).2.objects = h.objects := by
  rw [unlink]
  split <;> rfl

theorem openNew_cases (h : Host) (name : String) :
    (∃ e, h.openNew name = .error e) ∨
      ∃ h', h.openNew name = .ok (h.objects.size, h') ∧ h.Adds h' name ⟨0, .zeroed⟩ := by
  rw [openNew]
  split
  · exact Or.inl ⟨_, rfl⟩
  · rename_i hname
    split
    · exact Or.inl ⟨_, rfl⟩
    · refine Or.inr ⟨_, rfl, by simpa using hname, rfl, ⟨h.names, List.Subset.refl _, rfl⟩, ?_⟩
      intro n hn
      rw [List.lookup_cons, beq_false_of_ne hn]

theorem resize_cases (h : Host) (id : ObjectId) (size : Nat) :
    (∃ cause, h.resize id size = .error cause) ∨
      h.resize id size =
        .ok { h with objects := h.objects.modify id fun o => { o with size := size } } := by
  rw [resize]
  split
  · exact Or.inl ⟨_, rfl⟩
  · split
    · exact Or.inl ⟨_, rfl⟩
    · exact Or.inr rfl

theorem mapNew_cases (h : Host) (size : Nat) :
    (∃ cause, h.mapNew size = .error cause) ∨ h.mapNew size = .ok () ∧ size < mapLimit := by
  rw [mapNew]
  split
  · exact Or.inl ⟨_, rfl⟩
  · rw [map]
    split
    · exact Or.inl ⟨_, rfl⟩
    · exact Or.inr ⟨rfl, by omega⟩

inductive CreationError (name : String) (size : Nat) : ChannelError → Prop
  | creation (cause : Cause) : CreationError name size (.creationFailed name cause)
  | truncate (cause : Cause) : CreationError name size (.truncateFailed name size cause)
  | mapping (cause : Cause) : CreationError name size (.mappingFailed name cause)

structure Clears (h h' : Host) (name : String) : Prop where
  keeps : h.Keeps h'
  confined : h.Confined h' (some (objectName name))
  gone : ∃ e, h'.openExisting name = .error e

theorem Clears.trans (hc : h.Clears h' name) (hc' : h'.Clears h'' name) : h.Clears h'' name :=
  ⟨hc.keeps.trans hc'.keeps, hc.confined.trans hc'.confined, hc'.gone⟩

theorem clears_unlink (h : Host) (name : String) : h.Clears (h.unlink name).2 name :=
  ⟨keeps_unlink h name, confined_unlink h name, openExisting_unlink h name⟩

/-- A creation that was begun is given up by removing the name again. -/
theorem Adds.clears (ha : h.Adds h' name ⟨size, .zeroed⟩) : h.Clears (h'.unlink name).2 name :=
  ⟨ha.unlink rfl, ha.confined.trans (confined_unlink h' name), openExisting_unlink h' name⟩

/-- A creation adds an object of the given size, or fails and clears the name. -/
theorem create_cases (h : Host) (name : String) (size : Nat) :
    (∃ e h', h.create name size = (.error e, h') ∧ CreationError name size e ∧
        h.Clears h' name) ∨
      ∃ h', h.create name size = (.ok h.objects.size, h') ∧ size < mapLimit ∧
        h.Adds h' name ⟨size, .zeroed⟩ := by
  have hclears := clears_unlink h name
  have hobjects := objects_unlink h name
  rcases openNew_cases (h.unlink name).2 name with ⟨e, hopen⟩ | ⟨h₁, hopen, hadds⟩
  · exact Or.inl ⟨_, _, by simp only [create, hopen], .creation (.os e), hclears⟩
  · rw [hobjects] at hopen
    rcases resize_cases h₁ h.objects.size size with ⟨cause, hresize⟩ | hresize
    · exact Or.inl ⟨_, _, by simp only [create, hopen, hresize], .truncate cause,
        hclears.trans hadds.clears⟩
    · have hsized := hadds.modify fun o => { o with size := size }
      rw [hobjects] at hsized
      generalize { h₁ with objects := h₁.objects.modify h.objects.size _ } = h₂ at hresize hsized
      rcases mapNew_cases h₂ size with ⟨cause, hmap⟩ | ⟨hmap, hlimit⟩
      · exact Or.inl ⟨_, _, by simp only [create, hopen, hresize, hmap], .mapping cause,
          hclears.trans hsized.clears⟩
      · obtain ⟨names, hsub, hnames⟩ := hsized.names
        rw [hobjects] at hnames
        refine Or.inr ⟨h₂, by simp only [create, hopen, hresize, hmap], hlimit, hsized.admitted,
          hsized.objects.trans (by rw [hobjects]),
          ⟨names, List.Subset.trans hsub hclears.keeps.names, hnames⟩, ?_⟩
        intro n hn
        rw [hsized.others n hn,
          hclears.confined.lookup n fun heq => hn (Option.some.inj heq).symm]

/-! ### Opening -/

theorem mem_names_of_find? {h : Host} (hfind : h.find? name = some id) :
    (objectName name, id) ∈ h.names := by
  obtain ⟨front, back, hnames, -⟩ := List.lookup_eq_some_iff.1 hfind
  rw [hnames]
  simp

theorem find?_of_openExisting (ho : h.openExisting name = .ok id) : h.find? name = some id := by
  rw [openExisting] at ho
  split at ho
  · cases ho
  · split at ho
    · cases ho
    · rename_i hfind
      cases ho
      exact hfind

/-- What attaching finds: the object of the name, and no more bytes of it than it has. -/
theorem of_attach {hint : Nat} (ha : h.attach name hint = .ok (id, size)) :
    h.find? name = some id ∧ size ≤ h.held id := by
  rw [attach] at ha
  cases hopen : h.openExisting name with
  | error e => simp [hopen] at ha
  | ok i =>
      simp only [hopen, map] at ha
      generalize (if hint = 0 then h.held i else hint) = n at ha
      split at ha
      · cases ha
      · rename_i hheld
        by_cases hmap : mapLimit ≤ n
        · simp only [if_pos hmap] at ha
          cases ha
        · simp only [if_neg hmap] at ha
          cases ha
          exact ⟨find?_of_openExisting hopen, Nat.le_of_not_lt hheld⟩

/-- A name that refers to an object can be attached to, to as many of its bytes as the hint says or
to all of them. Only more than there are is an error. -/
theorem attach_eq_of_find? (hname : isRefused (objectName name) = false)
    (hfind : h.find? name = some id) (hmap : h.held id < mapLimit) (hint : Nat) :
    h.attach name hint =
      if h.held id < hint then
        .error (.mappingFailed name (.beyondObject hint (h.held id)))
      else .ok (id, if hint = 0 then h.held id else hint) := by
  have hopen : h.openExisting name = .ok id := by
    rw [openExisting, hname, hfind]
    rfl
  simp only [attach, hopen, map]
  by_cases hzero : hint = 0
  · subst hzero
    simp [Nat.not_le_of_lt hmap]
  · simp only [if_neg hzero]
    by_cases hlong : h.held id < hint
    · simp only [if_pos hlong]
    · simp only [if_neg hlong, if_neg (show ¬mapLimit ≤ hint by omega)]

theorem attach_of_find? (hname : isRefused (objectName name) = false)
    (hfind : h.find? name = some id) (hmap : h.held id < mapLimit) :
    h.attach name 0 = .ok (id, h.held id) := by
  rw [attach_eq_of_find? hname hfind hmap, if_neg (Nat.not_lt_zero _), if_pos rfl]

end Host

/-! ### Segments -/

namespace Segment

variable {h h' : Host} {name : String} {s : Segment} {size : Nat}

theorem keeps_remove (h : Host) (name : String) : h.Keeps (remove h name) := by
  rw [remove]
  split
  · exact .refl h
  · exact Host.keeps_unlink _ _

theorem keeps_destroy (s : Segment) (h : Host) : h.Keeps (s.destroy h).2 := by
  have hunlink := Host.keeps_unlink h s.name
  rw [destroy]
  split
  · exact .refl h
  · dsimp only
    split
    · exact hunlink.trans (Host.keeps_report _ _)
    · exact hunlink

@[simp] theorem mapping_destroy (s : Segment) (h : Host) :
    (s.destroy h).1.mapping = s.mapping := by
  rw [destroy]
  split <;> rfl

theorem keeps_drop (s : Segment) (h : Host) : h.Keeps (s.drop h) := by
  rw [drop, close]
  split
  · exact .refl h
  · dsimp only
    split
    · exact keeps_destroy _ _
    · exact .refl h

/-! Names -/

theorem confined_remove (h : Host) (name : String) :
    h.Confined (remove h name) (Host.objectName? name) := by
  rw [remove, Host.objectName?]
  cases Name.normalize name with
  | error e => exact .refl h _
  | ok n => exact Host.confined_unlink h n

theorem confined_destroy (s : Segment) (h : Host) :
    h.Confined (s.destroy h).2 (some (Host.objectName s.name)) := by
  have hunlink := Host.confined_unlink h s.name
  rw [destroy]
  split
  · exact .refl h _
  · dsimp only
    split
    · exact hunlink.trans (Host.confined_report _ _ _)
    · exact hunlink

/-- Closing a segment may remove its name when it is a creator's that asked for it, and no other
name. -/
theorem confined_close (s : Segment) (h : Host) :
    h.Confined (s.close h).2
      (if s.owner && s.unlinkOnDrop then some (Host.objectName s.name) else none) := by
  rw [close]
  split
  · exact .refl h _
  · dsimp only
    split
    · exact confined_destroy _ h
    · exact .refl h _

/-! Creating and opening -/

/-- How a creation fails: at an invalid name nothing is done, else the name is cleared. -/
inductive Fails (h : Host) (name : String) (size : Nat) : ChannelError → Host → Prop
  | invalid {e : NameError} (hname : Name.normalize name = .error e) :
      Fails h name size (.invalidName name e) h
  | cleared {n : String} {e : ChannelError} {h' : Host} (hname : Name.normalize name = .ok n)
      (he : Host.CreationError n size e) (hc : h.Clears h' n) : Fails h name size e h'

theorem Fails.keeps {e : ChannelError} (hf : Fails h name size e h') : h.Keeps h' := by
  cases hf with
  | invalid hname => exact .refl h
  | cleared hname he hc => exact hc.keeps

theorem Fails.confined {e : ChannelError} (hf : Fails h name size e h') :
    h.Confined h' (Host.objectName? name) := by
  cases hf with
  | invalid hname => exact .refl h _
  | cleared hname he hc =>
      rw [Host.objectName?, hname]
      exact hc.confined

/-- As `Host.create_cases`, for the normalized name. -/
theorem create_cases (h : Host) (name : String) (size : Nat) :
    (∃ e h', create h name size = (.error e, h') ∧ Fails h name size e h') ∨
      ∃ n h', create h name size =
          (.ok ⟨n, some ⟨h.objects.size, size⟩, true, false, false⟩, h') ∧
        Name.normalize name = .ok n ∧ size < Host.mapLimit ∧ h.Adds h' n ⟨size, .zeroed⟩ := by
  cases hname : Name.normalize name with
  | error e => exact Or.inl ⟨_, h, by simp only [create, hname], .invalid hname⟩
  | ok n =>
      rcases h.create_cases n size with ⟨e, h', hc, he, hclears⟩ | ⟨h', hc, hsize, hadds⟩
      · exact Or.inl ⟨e, h', by simp only [create, hname, hc], .cleared hname he hclears⟩
      · exact Or.inr ⟨n, h', by simp only [create, hname, hc], rfl, hsize, hadds⟩

theorem of_create_error {e : ChannelError} (hc : create h name size = (.error e, h')) :
    Fails h name size e h' := by
  rcases create_cases h name size with ⟨e, h₁, heq, hf⟩ | ⟨n, h₁, heq, -⟩
  · rw [heq] at hc
    cases hc
    exact hf
  · rw [heq] at hc
    cases hc

theorem of_create_ok (hc : create h name size = (.ok s, h')) :
    s = ⟨s.name, some ⟨h.objects.size, size⟩, true, false, false⟩ ∧
      Name.normalize name = .ok s.name ∧ size < Host.mapLimit ∧
      h.Adds h' s.name ⟨size, .zeroed⟩ := by
  rcases create_cases h name size with ⟨e, h₁, heq, -⟩ | ⟨n, h₁, heq, hname, hsize, hadds⟩
  · rw [heq] at hc
    cases hc
  · rw [heq] at hc
    cases hc
    exact ⟨rfl, hname, hsize, hadds⟩

theorem confined_create (h : Host) (name : String) (size : Nat) :
    h.Confined (create h name size).2 (Host.objectName? name) := by
  rcases create_cases h name size with ⟨e, h', hc, hf⟩ | ⟨n, h', hc, hname, -, hadds⟩
  · rw [hc]
    exact hf.confined
  · rw [hc, Host.objectName?, hname]
    exact hadds.confined

/-- Removing the name of a segment that was just created leaves an object that nothing refers to. -/
theorem clears_remove_created {n : String} (hname : Name.normalize name = .ok n)
    (hadds : h.Adds h' n ⟨size, .zeroed⟩) : h.Clears (remove h' n) n := by
  simp only [remove, Name.normalize_normalize hname]
  exact hadds.clears

theorem of_attach {hint : Nat} (ha : attach h name hint = .ok s) :
    ∃ id size, s.mapping = some ⟨id, size⟩ ∧ size ≤ h.held id := by
  rw [attach] at ha
  cases hname : Name.normalize name with
  | error e => simp [hname] at ha
  | ok n =>
      simp only [hname] at ha
      cases hattach : h.attach n hint with
      | error e => simp [hattach] at ha
      | ok found =>
          obtain ⟨id, size⟩ := found
          simp only [hattach, Except.ok.injEq] at ha
          obtain ⟨-, hle⟩ := Host.of_attach hattach
          exact ⟨id, size, by rw [← ha], hle⟩

end Segment

end SharedRing

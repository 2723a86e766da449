import SharedRing.Proofs.Ring.Bind

/-!
What a bind decides. Its checks come one after another: the base, the length, the alignment, and
then the capacity, which a producer gets by rounding down (`isRoundedDown_roundedCapacity`) and a
consumer finds in the header. Only a producer stores anything, and only after its last check.

The plain `bind` returns a memory when it succeeds and none when it fails. `InPlace.bind` loads and
stores the words of the header one by one, in a memory that an error does not restore, with the
checks on words that a machine makes; it ends with the memory that was there or with the one that
the plain `bind` returns (`InPlace.run_bind`).
-/

namespace SharedRing

open SharedRing.Ring

theorem Capacity.ofWord?_eq_none {w : UInt32} (h : ¬∃ c : Capacity, c.word = w) :
    Capacity.ofWord? w = none := by
  cases hw : Capacity.ofWord? w with
  | none => rfl
  | some c => exact absurd ⟨c, word_of_ofWord? hw⟩ h

namespace Ring

variable {m : Memory} {base len : Nat}

/-- A published word that a consumer takes for the capacity of a ring in `len` bytes. -/
def IsAdmitted (capacity len : Nat) : Prop :=
  (∃ k, capacity = 2 ^ k) ∧ minCapacity ≤ capacity ∧ capacity ≤ maxCapacity ∧
    capacity ≤ len - Header.size

theorem isAdmitted_iff (w : UInt32) :
    IsAdmitted w.toNat len ↔ ∃ c : Capacity, c.word = w ∧ c.size ≤ len - Header.size := by
  constructor
  · rintro ⟨hpow, hmin, hmax, hfits⟩
    obtain ⟨c, rfl⟩ := (Capacity.exists_word_eq_iff w).2 ⟨hpow, hmin, hmax⟩
    rw [c.word_toNat] at hfits
    exact ⟨c, rfl, hfits⟩
  · rintro ⟨c, rfl, hfits⟩
    obtain ⟨hpow, hmin, hmax⟩ := (Capacity.exists_word_eq_iff c.word).1 ⟨c, rfl⟩
    rw [← c.word_toNat] at hfits
    exact ⟨hpow, hmin, hmax, hfits⟩

/-! ### The checks, one after another -/

theorem bind_of_short (h : len < Header.size) (m : Memory) (base : Nat) (role : Role) :
    bind m (some base) len role = .error (.spanTooSmall len) := by
  simp only [bind, if_pos h]

theorem bind_of_misaligned (hlen : Header.size ≤ len) (h : base % Header.align ≠ 0) (m : Memory)
    (role : Role) : bind m (some base) len role = .error (.misaligned Header.align) := by
  simp only [bind, if_neg (Nat.not_lt_of_le hlen), if_pos h]

section

variable (hlen : Header.size ≤ len) (halign : base % Header.align = 0)

include hlen halign

theorem bind_producer_of_lt (h : (roundedCapacity (len - Header.size)).toNat < minCapacity) :
    bind m (some base) len .producer =
      .error (.invalidCapacity (roundedCapacity (len - Header.size)).toNat len) := by
  have hnone : Capacity.ofWord? (roundedCapacity (len - Header.size)) = none := by
    apply Capacity.ofWord?_eq_none
    rintro ⟨c, hc⟩
    rw [← hc, c.word_toNat] at h
    exact Nat.not_le_of_lt h c.eight_le_size
  simp only [bind, if_neg (Nat.not_lt_of_le hlen), if_neg (Decidable.not_not.2 halign), hnone]

theorem bind_producer {c : Capacity} (hc : c.word = roundedCapacity (len - Header.size)) :
    bind m (some base) len .producer =
      .ok (⟨base, c, .producer⟩, Header.publish m base (roundedCapacity (len - Header.size))) := by
  have hbound : (⟨base, c, .producer⟩ : Ring).BoundProducer len := ⟨rfl, hlen, halign, hc⟩
  rw [← hc]
  exact hbound.bind m

theorem bind_consumer_of_admitted {c : Capacity} (hc : c.word = m.word (Header.capacityAt base))
    (hfits : c.size ≤ len - Header.size) :
    bind m (some base) len .consumer = .ok (⟨base, c, .consumer⟩, m) := by
  rw [bind_consumer halign hc.symm, attachable, if_neg (by omega), if_pos hfits]
  rfl

theorem bind_consumer_of_not_admitted
    (h : ¬IsAdmitted (m.word (Header.capacityAt base)).toNat len) :
    bind m (some base) len .consumer =
      .error (.invalidCapacity (m.word (Header.capacityAt base)).toNat len) := by
  by_cases hword : ∃ c : Capacity, c.word = m.word (Header.capacityAt base)
  · obtain ⟨c, hc⟩ := hword
    have hlong : ¬c.size ≤ len - Header.size := fun hfits => h ((isAdmitted_iff _).2 ⟨c, hc, hfits⟩)
    rw [bind_consumer halign hc.symm, attachable, if_neg (by omega), if_neg hlong, ← hc,
      c.word_toNat]
    rfl
  · simp only [bind, if_neg (Nat.not_lt_of_le hlen), if_neg (Decidable.not_not.2 halign),
      Capacity.ofWord?_eq_none hword]

end

/-! ### What a binding is, and what it leaves -/

structure IsAt (r : Ring) (base : Nat) (role : Role) (capacity : Nat) : Prop where
  base : r.base = base
  role : r.role = role
  size : r.capacity.size = capacity
  mask : r.capacity.mask.toNat = capacity - 1

theorem isAt_of_word {c : Capacity} {w : UInt32} (hc : c.word = w) (base : Nat) (role : Role) :
    (⟨base, c, role⟩ : Ring).IsAt base role w.toNat := by
  rw [← hc, c.word_toNat]
  exact ⟨rfl, rfl, rfl, c.mask_toNat⟩

structure Resets (m m' : Memory) (base capacity : Nat) : Prop where
  head : m'.word (Header.headAt base) = 0
  tail : m'.word (Header.tailAt base) = 0
  capacity : (m'.word (Header.capacityAt base)).toNat = capacity
  reserved : m'.word (Header.reservedAt base) = 0
  others : ∀ a, a < base ∨ base + Header.size ≤ a → m'.byte a = m.byte a

theorem resets_publish (m : Memory) (base : Nat) (w : UInt32) :
    Resets m (Header.publish m base w) base w.toNat := by
  obtain ⟨hhead, htail, hcapacity, hreserved⟩ := word_publish m base w
  refine ⟨hhead, htail, congrArg UInt32.toNat hcapacity, hreserved, ?_⟩
  intro a ha
  have hother (m : Memory) {at' : Nat} (w : UInt32) (hlo : base ≤ at')
      (hhi : at' + 4 ≤ base + Header.size) : (m.storeWord at' w).byte a = m.byte a :=
    Memory.byte_store_of_outside (by rw [bytesOfWord_size]; omega)
  simp only [Header.publish]
  rw [hother, hother, hother, hother] <;>
    simp [Header.headAt, Header.tailAt, Header.capacityAt, Header.reservedAt, Header.size]

end Ring

/-! ### Binding in place -/

namespace InPlace

/-- A step in a memory that keeps what was stored in it when an error ends the steps. -/
abbrev Step (α : Type) : Type := ExceptT RingError (StateM Memory) α

structure Fields where
  base : Nat
  data : Nat
  capacity : UInt32
  mask : UInt32
  role : Role

def Fields.of (r : Ring) : Fields := ⟨r.base, r.data, r.capacity.word, r.capacity.mask, r.role⟩

def loadWord (a : Nat) : Step UInt32 := return (← get).word a

def storeWord (a : Nat) (w : UInt32) : Step Unit := modify (·.storeWord a w)

def refuse (p : Prop) [Decidable p] (e : RingError) : Step Unit := if p then throw e else pure ()

def publish (base : Nat) (capacity : UInt32) : Step Unit := do
  storeWord (Header.headAt base) 0
  storeWord (Header.tailAt base) 0
  storeWord (Header.reservedAt base) 0
  storeWord (Header.capacityAt base) capacity

def isPowerOfTwo (w : UInt32) : Bool := 2 ^ w.toNat.log2 = w.toNat

def capacity (base len : Nat) : Role → Step UInt32
  | .producer => do
      let w := roundedCapacity (len - Header.size)
      refuse (w.toNat < minCapacity) (.invalidCapacity w.toNat len)
      publish base w
      return w
  | .consumer => do
      let w ← loadWord (Header.capacityAt base)
      refuse (!isPowerOfTwo w ∨ w.toNat < minCapacity ∨ maxCapacity < w.toNat ∨
        len - Header.size < w.toNat) (.invalidCapacity w.toNat len)
      return w

def bind (base? : Option Nat) (len : Nat) (role : Role) : Step Fields := do
  let some base := base? | throw .nullSpan
  refuse (len < Header.size) (.spanTooSmall len)
  refuse (base % Header.align ≠ 0) (.misaligned Header.align)
  let w ← capacity base len role
  return ⟨base, base + Header.size, w, w - 1, role⟩

/-- What a plain bind on `m` comes to in place: an error leaves `m`. -/
def outcome (m : Memory) : Except RingError (Ring × Memory) → Except RingError Fields × Memory
  | .error e => (.error e, m)
  | .ok (r, m') => (.ok (.of r), m')

variable {m m' : Memory} {base len : Nat} {α β : Type} {e : RingError}

theorem run_bind_ok {x : Step α} {a : α} (h : x.run m = (.ok a, m')) (f : α → Step β) :
    (x >>= f).run m = (f a).run m' := by
  show (ExceptT.bindCont f (x.run m).1) (x.run m).2 = _
  rw [h]
  rfl

theorem run_bind_error {x : Step α} (h : x.run m = (.error e, m')) (f : α → Step β) :
    (x >>= f).run m = (.error e, m') := by
  show (ExceptT.bindCont f (x.run m).1) (x.run m).2 = _
  rw [h]
  rfl

section

variable {p : Prop} [Decidable p]

theorem run_refuse (h : p) : (refuse p e).run m = (.error e, m) := by
  rw [refuse, if_pos h]
  rfl

theorem run_refuse_of_not (h : ¬p) : (refuse p e).run m = (.ok (), m) := by
  rw [refuse, if_neg h]
  rfl

end

/-- The words that a consumer refuses are those that it does not admit. -/
theorem refused_iff (w : UInt32) :
    (!isPowerOfTwo w ∨ w.toNat < minCapacity ∨ maxCapacity < w.toNat ∨
      len - Header.size < w.toNat) ↔ ¬IsAdmitted w.toNat len := by
  have hpow : (∃ k, w.toNat = 2 ^ k) ↔ 2 ^ w.toNat.log2 = w.toNat := by
    constructor
    · rintro ⟨k, hk⟩
      rw [hk, Nat.log2_two_pow]
    · intro h
      exact ⟨_, h.symm⟩
  simp only [isPowerOfTwo, IsAdmitted, hpow, Bool.not_eq_true', decide_eq_false_iff_not]
  omega

/-- A producer's capacity is checked before the header is stored. -/
theorem run_capacity_producer (base len : Nat) (m : Memory) :
    let w := roundedCapacity (len - Header.size)
    (capacity base len .producer).run m =
      if w.toNat < minCapacity then (.error (.invalidCapacity w.toNat len), m)
      else (.ok w, Header.publish m base w) := by
  intro w
  split
  · rename_i hmin
    exact run_bind_error (run_refuse hmin) _
  · rename_i hmin
    exact run_bind_ok (run_refuse_of_not hmin) _

theorem run_loadWord (a : Nat) (m : Memory) : (loadWord a).run m = (.ok (m.word a), m) := rfl

theorem run_capacity_consumer (h : IsAdmitted (m.word (Header.capacityAt base)).toNat len) :
    (capacity base len .consumer).run m = (.ok (m.word (Header.capacityAt base)), m) := by
  rw [capacity, run_bind_ok (run_loadWord _ _)]
  exact run_bind_ok (run_refuse_of_not fun hrefused => (refused_iff _).1 hrefused h) _

theorem run_capacity_consumer_of_not
    (h : ¬IsAdmitted (m.word (Header.capacityAt base)).toNat len) :
    (capacity base len .consumer).run m =
      (.error (.invalidCapacity (m.word (Header.capacityAt base)).toNat len), m) := by
  rw [capacity, run_bind_ok (run_loadWord _ _)]
  exact run_bind_error (run_refuse ((refused_iff _).2 h)) _

/-- Once the length and the alignment are checked, the capacity decides. -/
theorem run_bind_some (hlen : Header.size ≤ len) (halign : base % Header.align = 0) (role : Role)
    (m : Memory) :
    (bind (some base) len role).run m =
      match (capacity base len role).run m with
      | (.error e, m') => (.error e, m')
      | (.ok w, m') => (.ok ⟨base, base + Header.size, w, w - 1, role⟩, m') := by
  simp only [bind]
  rw [run_bind_ok (run_refuse_of_not (Nat.not_lt_of_le hlen)),
    run_bind_ok (run_refuse_of_not (Decidable.not_not.2 halign))]
  split
  · rename_i h
    exact run_bind_error h _
  · rename_i h
    exact run_bind_ok h _

/-- Binding in place leaves the memory that a plain bind returns, or the one that was there. -/
theorem run_bind (base? : Option Nat) (len : Nat) (role : Role) (m : Memory) :
    (bind base? len role).run m = outcome m (Ring.bind m base? len role) := by
  cases base? with
  | none => rfl
  | some base =>
      by_cases hlen : len < Header.size
      · rw [bind_of_short hlen]
        exact run_bind_error (run_refuse hlen) _
      · by_cases halign : base % Header.align ≠ 0
        · rw [bind_of_misaligned (Nat.le_of_not_lt hlen) halign]
          exact (run_bind_ok (run_refuse_of_not hlen) _).trans
            (run_bind_error (run_refuse halign) _)
        · have hlen := Nat.le_of_not_lt hlen
          have halign := Decidable.not_not.1 halign
          rw [run_bind_some hlen halign]
          cases role with
          | producer =>
              rw [run_capacity_producer]
              by_cases hmin : (roundedCapacity (len - Header.size)).toNat < minCapacity
              · rw [if_pos hmin, bind_producer_of_lt hlen halign hmin]
                rfl
              · obtain ⟨c, hc⟩ := exists_word_eq_roundedCapacity (Nat.le_of_not_lt hmin)
                rw [if_neg hmin, bind_producer hlen halign hc, ← hc]
                rfl
          | consumer =>
              by_cases hw : IsAdmitted (m.word (Header.capacityAt base)).toNat len
              · obtain ⟨c, hc, hfits⟩ := (isAdmitted_iff _).1 hw
                rw [run_capacity_consumer hw, bind_consumer_of_admitted hlen halign hc hfits,
                  ← hc]
                rfl
              · rw [run_capacity_consumer_of_not hw,
                  bind_consumer_of_not_admitted hlen halign hw]
                rfl

end InPlace

/-- What a bind to `len` bytes decides, for either side and on any memory. A producer's capacity is
the greatest power of two that fits behind the header and into 32 bits, and a consumer's is the
published word, if it can be one. Only a producer that is bound changes the memory, and in it only
the sixteen bytes of the header: done in place, a bind leaves just what is said here. -/
theorem bind_decides (m : Memory) (len : Nat) :
    (∀ role, Ring.bind m none len role = .error .nullSpan) ∧
      (∀ base role, len < Header.size →
        Ring.bind m (some base) len role = .error (.spanTooSmall len)) ∧
      (∀ base role, Header.size ≤ len → base % Header.align ≠ 0 →
        Ring.bind m (some base) len role = .error (.misaligned Header.align)) ∧
      (∀ base, Header.size ≤ len → base % Header.align = 0 →
        ∃ p, Ring.IsRoundedDown (min (len - Header.size) 4294967295) p ∧
          (Header.size + Ring.minCapacity ≤ len → ∃ r m',
            Ring.bind m (some base) len .producer = .ok (r, m') ∧ r.IsAt base .producer p ∧
              Ring.minCapacity ≤ p ∧ p ≤ Ring.maxCapacity ∧ Header.size + p ≤ len ∧
              Ring.Resets m m' base p) ∧
          (len < Header.size + Ring.minCapacity →
            Ring.bind m (some base) len .producer = .error (.invalidCapacity p len))) ∧
      (∀ base, Header.size ≤ len → base % Header.align = 0 →
        let w := (m.word (Header.capacityAt base)).toNat
        (Ring.IsAdmitted w len → ∃ r,
          Ring.bind m (some base) len .consumer = .ok (r, m) ∧ r.IsAt base .consumer w) ∧
        (¬Ring.IsAdmitted w len →
          Ring.bind m (some base) len .consumer = .error (.invalidCapacity w len))) ∧
      ∀ base? role,
        (InPlace.bind base? len role).run m = InPlace.outcome m (Ring.bind m base? len role) := by
  refine ⟨fun _ => rfl, fun base role h => bind_of_short h m base role,
    fun base role hlen h => bind_of_misaligned hlen h m role, ?_, ?_,
    fun base? role => InPlace.run_bind base? len role m⟩
  · intro base hlen halign
    have hrounded := isRoundedDown_roundedCapacity (len - Header.size)
    refine ⟨_, hrounded, ?_, ?_⟩
    · intro hroom
      have hmin := minCapacity_le_roundedCapacity_iff.2 (Nat.le_sub_of_add_le' hroom)
      obtain ⟨c, hc⟩ := exists_word_eq_roundedCapacity hmin
      obtain ⟨-, -, hmax⟩ := (Capacity.exists_word_eq_iff _).1 ⟨c, hc⟩
      have hle := hrounded.le
      exact ⟨_, _, bind_producer hlen halign hc, isAt_of_word hc base .producer, hmin, hmax,
        by omega, resets_publish m base _⟩
    · intro hroom
      apply bind_producer_of_lt hlen halign
      apply Nat.lt_of_not_le
      intro hmin
      have hle := minCapacity_le_roundedCapacity_iff.1 hmin
      omega
  · intro base hlen halign
    constructor
    · intro hw
      obtain ⟨c, hc, hfits⟩ := (isAdmitted_iff _).1 hw
      exact ⟨_, bind_consumer_of_admitted hlen halign hc hfits, isAt_of_word hc base .consumer⟩
    · exact bind_consumer_of_not_admitted hlen halign

/-- The header at 64 is in use, with sixteen bytes of data. A producer with 23 bytes would get four
of them; it is refused, and leaves the header alone. One with eight gigabytes gets the greatest
capacity there is. A consumer needs all of the 32 bytes. -/
theorem bind_decides_in_use :
    let m := (⟨64, ⟨4, by decide, by decide⟩, .producer⟩ : Ring).setHead
      (Header.publish .zeroed 64 16) 5
    Ring.bind m (some 66) 32 .producer = .error (.misaligned 4) ∧
      (InPlace.bind (some 64) 23 .producer).run m = (.error (.invalidCapacity 4 23), m) ∧
      (∃ r m', Ring.bind m (some 64) 8589934592 .producer = .ok (r, m') ∧
        r.IsAt 64 .producer 2147483648 ∧ Ring.Resets m m' 64 2147483648) ∧
      Ring.bind m (some 64) 31 .consumer = .error (.invalidCapacity 16 31) ∧
      ∃ r, Ring.bind m (some 64) 32 .consumer = .ok (r, m) ∧ r.IsAt 64 .consumer 16 := by
  intro m
  have hword : (m.word (Header.capacityAt 64)).toNat = 16 := by decide +kernel
  obtain ⟨-, -, hmisaligned, -, hwhole, -⟩ := bind_decides m 32
  obtain ⟨-, -, -, hsmall, -, hinPlace⟩ := bind_decides m 23
  obtain ⟨-, -, -, hlarge, -, -⟩ := bind_decides m 8589934592
  obtain ⟨-, -, -, -, hshort, -⟩ := bind_decides m 31
  obtain ⟨-, hrefused⟩ := hshort 64 (by decide) (by decide)
  obtain ⟨hadmitted, -⟩ := hwhole 64 (by decide) (by decide)
  rw [hword] at hrefused hadmitted
  refine ⟨hmisaligned 66 .producer (by decide) (by decide), ?_, ?_, hrefused ?_, hadmitted ?_⟩
  · obtain ⟨p, hp, -, herror⟩ := hsmall 64 (by decide) (by decide)
    have hfour : p = 4 := hp.unique (isRoundedDown_roundedCapacity 7)
    rw [hinPlace, herror (by decide), hfour]
    rfl
  · obtain ⟨p, hp, hok, -⟩ := hlarge 64 (by decide) (by decide)
    obtain ⟨r, m', hbind, hat, -, -, -, hresets⟩ := hok (by decide)
    have hmax : p = 2147483648 := hp.unique (isRoundedDown_roundedCapacity (8589934592 - 16))
    rw [hmax] at hat hresets
    exact ⟨r, m', hbind, hat, hresets⟩
  · rintro ⟨-, -, -, hfits⟩
    exact absurd hfits (by decide)
  · exact ⟨⟨4, rfl⟩, by decide, by decide, by decide⟩

end SharedRing

/-!
Byte strings and the little-endian form of 32-bit words. The four bytes of a word read back as
the word (`wordOfBytes_bytesOfWord`).
-/

namespace SharedRing

abbrev Bytes := Array UInt8

/-- The four bytes of a word, least significant first. -/
def bytesOfWord (w : UInt32) : Bytes :=
  #[UInt8.ofNat w.toNat, UInt8.ofNat (w.toNat / 256), UInt8.ofNat (w.toNat / 65536),
    UInt8.ofNat (w.toNat / 16777216)]

def wordOfBytes (b₀ b₁ b₂ b₃ : UInt8) : UInt32 :=
  UInt32.ofNat (b₀.toNat + 256 * b₁.toNat + 65536 * b₂.toNat + 16777216 * b₃.toNat)

@[simp] theorem bytesOfWord_size (w : UInt32) : (bytesOfWord w).size = 4 := rfl

-- tried before the size is computed, so that the first bytes are in bounds for the same reason
-- wherever they are taken
@[simp ↓] theorem bytesOfWord_size_pos (w : UInt32) : 0 < (bytesOfWord w).size := Nat.succ_pos 3

@[simp ↓] theorem one_lt_bytesOfWord_size (w : UInt32) : 1 < (bytesOfWord w).size :=
  Nat.succ_lt_succ (Nat.succ_pos 2)

theorem wordOfBytes_toNat (b₀ b₁ b₂ b₃ : UInt8) :
    (wordOfBytes b₀ b₁ b₂ b₃).toNat =
      b₀.toNat + 256 * b₁.toNat + 65536 * b₂.toNat + 16777216 * b₃.toNat := by
  have h₀ := b₀.toNat_lt
  have h₁ := b₁.toNat_lt
  have h₂ := b₂.toNat_lt
  have h₃ := b₃.toNat_lt
  simp only [wordOfBytes, UInt32.toNat_ofNat']
  omega

theorem wordOfBytes_bytesOfWord (w : UInt32) :
    wordOfBytes (bytesOfWord w)[0] (bytesOfWord w)[1] (bytesOfWord w)[2] (bytesOfWord w)[3] =
      w := by
  have hw := w.toNat_lt
  apply UInt32.toNat.inj
  simp only [wordOfBytes_toNat, bytesOfWord, List.getElem_toArray, List.getElem_cons_zero,
    List.getElem_cons_succ, UInt8.toNat_ofNat']
  omega

end SharedRing

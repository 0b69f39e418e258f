/-! Numbers as bytes of a fixed count, least significant first or most significant first. -/

namespace GameServer.Wire

/-- Least significant byte first; what does not fit into `width` bytes is dropped. -/
def littleEndian : (width : Nat) → Nat → List UInt8
  | 0, _ => []
  | width + 1, n => UInt8.ofNat (n % 256) :: littleEndian width (n / 256)

def ofLittleEndian : List UInt8 → Nat
  | [] => 0
  | byte :: rest => byte.toNat + 256 * ofLittleEndian rest

def bigEndian (width n : Nat) : List UInt8 := (littleEndian width n).reverse

def ofBigEndian (bytes : List UInt8) : Nat := ofLittleEndian bytes.reverse

@[simp] theorem length_littleEndian (width n : Nat) : (littleEndian width n).length = width := by
  induction width generalizing n with
  | zero => rfl
  | succ width ih => simp [littleEndian, ih]

@[simp] theorem length_bigEndian (width n : Nat) : (bigEndian width n).length = width := by
  simp [bigEndian]

theorem littleEndian_ofLittleEndian (bytes : List UInt8) :
    littleEndian bytes.length (ofLittleEndian bytes) = bytes := by
  induction bytes with
  | nil => rfl
  | cons byte rest ih =>
    have h : byte.toNat < 256 := byte.toNat_lt
    rw [List.length_cons, ofLittleEndian, littleEndian, Nat.add_mul_mod_self_left,
      Nat.mod_eq_of_lt h, UInt8.ofNat_toNat, Nat.add_mul_div_left _ _ (by decide),
      Nat.div_eq_of_lt h, Nat.zero_add, ih]

end GameServer.Wire

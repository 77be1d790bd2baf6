import Mathlib.Data.UInt

/-!
# Bytes of numbers

The big-endian bytes of a number, in a fixed width.
-/

namespace CarlAgent.Foundation

def bigEndian (width n : Nat) : List UInt8 :=
  (List.range width).map fun i => UInt8.ofNat (n / 256 ^ (width - 1 - i))

/-- The length of a list of bytes as four bytes, where it fits. -/
def lengthBytes {ε : Type} (length : Nat) (error : ε) : Except ε (List UInt8) :=
  if length < 2 ^ 32 then .ok (bigEndian 4 length) else .error error

theorem lengthBytes_of_lt {ε : Type} {length : Nat} (error : ε) (h : length < 2 ^ 32) :
    lengthBytes length error = .ok (bigEndian 4 length) := by
  rw [lengthBytes, if_pos h]

theorem eq_bigEndian_of_lengthBytes {ε : Type} {length : Nat} {error : ε} {bytes : List UInt8}
    (h : lengthBytes length error = .ok bytes) : bytes = bigEndian 4 length := by
  rw [lengthBytes] at h
  split at h
  · exact (Except.ok.inj h).symm
  · cases h

end CarlAgent.Foundation

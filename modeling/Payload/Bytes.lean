/-!
# Stretches of bytes

Sources, windows and bodies hand out consecutive stretches of a byte array, and a window makes room
by appending zeros.  The bounds stated here are the ones that the types of the readers ask for.
-/

namespace Payload

/-- The largest unsigned 64-bit number, the last offset that a stream can address. -/
def maxOffset : Nat := 0xffffffffffffffff

/-- The most bytes that one allocation may hold. -/
def maxAllocation : Nat := 0x7fffffffffffffff

/-- So many zero bytes, made by doubling half as many.  The fuel is enough if it is at least
`count`. -/
def doubledZeros : (fuel count : Nat) → ByteArray
  | 0, _ => .empty
  | fuel + 1, count =>
    if count = 0 then
      .empty
    else
      let half := doubledZeros fuel (count / 2)
      if count % 2 = 0 then half ++ half else (half ++ half).push 0

/-- As many zero bytes as asked for. -/
def zeros (count : Nat) : ByteArray :=
  doubledZeros count count

/-- The bytes from `start` on, at most `count` of them. -/
def stretch (bytes : ByteArray) (start count : Nat) : ByteArray :=
  bytes.extract start (start + count)

theorem data_doubledZeros {fuel count : Nat} (enough : count ≤ fuel) :
    (doubledZeros fuel count).data = Array.replicate count 0 := by
  induction fuel generalizing count with
  | zero =>
      cases Nat.le_zero.mp enough
      rfl
  | succ fuel ih =>
      rw [doubledZeros]
      split
      · rename_i none
        cases none
        rfl
      · have half := @ih (count / 2) (by omega)
        dsimp only
        split
        · rw [ByteArray.data_append, half, Array.replicate_append_replicate]
          congr 1
          omega
        · rw [ByteArray.data_push, ByteArray.data_append, half, Array.replicate_append_replicate,
            ← Array.replicate_succ]
          congr 1
          omega

@[simp]
theorem data_zeros (count : Nat) : (zeros count).data = Array.replicate count 0 :=
  data_doubledZeros (Nat.le_refl count)

@[simp]
theorem size_zeros (count : Nat) : (zeros count).size = count := by
  simp [← ByteArray.size_data]

theorem size_stretch (bytes : ByteArray) (start count : Nat) :
    (stretch bytes start count).size = min count (bytes.size - start) := by
  simp only [stretch, ByteArray.size_extract]
  omega

theorem size_stretch_le (bytes : ByteArray) (start count : Nat) :
    (stretch bytes start count).size ≤ count := by
  rw [size_stretch]
  exact Nat.min_le_left _ _

end Payload

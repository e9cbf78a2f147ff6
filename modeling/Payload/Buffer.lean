import Payload.Bytes

/-!
# Buffers

A reader offers a buffer to be read into.  What is read goes to the front of it, so a buffer that is
used again still holds what earlier and longer reads left further on; past all that it is zero.
That is what a reader finds where it is told of more bytes than were written.
-/

namespace Payload

structure Buffer where
  /-- How many bytes there is room for. -/
  size : Nat
  /-- What earlier reads left at the front. -/
  held : ByteArray := .empty

namespace Buffer

/-- A buffer that nothing was read into yet. -/
def fresh (size : Nat) : Buffer where
  size := size

/-- The first `count` bytes in the buffer. -/
def front (buffer : Buffer) (count : Nat) : ByteArray :=
  stretch buffer.held 0 count ++ zeros (count - buffer.held.size)

/-- Write bytes to the front, over what was there. -/
def write (buffer : Buffer) (bytes : ByteArray) : Buffer :=
  { buffer with held := bytes.copySlice 0 buffer.held 0 bytes.size }

@[simp]
theorem size_front (buffer : Buffer) (count : Nat) : (buffer.front count).size = count := by
  simp only [front, ByteArray.size_append, size_stretch, size_zeros]
  omega

@[simp]
theorem front_fresh (size count : Nat) : (fresh size).front count = zeros count := by
  apply ByteArray.ext
  simp [fresh, front, stretch]

@[simp]
theorem size_write (buffer : Buffer) (bytes : ByteArray) :
    (buffer.write bytes).size = buffer.size :=
  rfl

/-- What was written is found at the front. -/
@[simp]
theorem front_write (buffer : Buffer) (bytes : ByteArray) :
    (buffer.write bytes).front bytes.size = bytes := by
  apply ByteArray.ext
  apply Array.toList_inj.mp
  have whole : bytes.data.toList.take bytes.size = bytes.data.toList :=
    List.take_of_length_le (by simp)
  simp [front, write, stretch, ByteArray.copySlice_eq_append, whole]

end Buffer

end Payload

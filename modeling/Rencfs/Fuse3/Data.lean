import Rencfs.Fuse3.MemFs

/-!
# `read`, `write` and `copy_file_range`: the bytes of a file

The handlers that move file contents pass the kernel's offsets and bytes to the facade and send back what it
answers; every facade error is sent as `EIO`, with the facade's state as it was. `read` hands the facade a
`&mut [u8]`, which it fills in place and cannot resize (`EncryptedFs.read_length`).

The adapter trusts the counts the facade returns. `read` replies `buf[..len]`, which panics when `len` is past the end
of the buffer (`read_panics_iff`), after the facade's `read` has run; for a facade that returns the number of bytes it
filled, as the spec's table says, `read` never panics and replies the bytes filled (`read_reply`). `write` sends its
count `as u32`, which is the count itself for a facade that writes no more than it is given, since the kernel sends
less than `2 ^ 32` bytes (`write_reply`). The in-memory facade is such a facade.
-/

namespace Rencfs

open Libc Handler

namespace EncryptedFs

variable {σ : Type} (fs : EncryptedFs σ)

/-- Modelled from the spec: `read` returns the number of bytes it filled, at most the buffer's length. -/
def FillsAtMost : Prop :=
  ∀ s ino offset buf fh r, fs.read s ino offset buf fh = .ok r → r.1.2 ≤ buf.length

/-- Modelled from the spec: `write` returns the number of bytes it wrote, at most the number it was given. -/
def WritesAtMost : Prop :=
  ∀ s ino offset data fh n s', fs.write s ino offset data fh = .ok (n, s') → n ≤ data.length

end EncryptedFs

namespace DataAux

variable {σ α β : Type}

/-- A facade call whose every error is sent as `EIO`, then `k`: `k` on the state the call leaves, or `EIO` and the
state as it was. -/
theorem mutate_orFail_eio (f : σ → Except FsError (α × σ)) (k : α → Handler σ β) (s : σ) :
    (do let a ← orFail (← mutate f) fun _ => EIO; k a) s = match f s with
      | .ok (a, s') => k a s'
      | .error _ => (.errno EIO, s) := by
  rw [run_mutate_bind]
  rcases f s with _ | ⟨a, s'⟩ <;> rfl

end DataAux

open DataAux

namespace EncryptedFsFuse3

variable {σ : Type} (self : EncryptedFsFuse3 σ)

/-- What `read` does, for every facade: `EIO` when the facade fails, and otherwise the first `len` bytes of the
buffer it filled, or a panic when `len` is past the buffer's `size` bytes, on the state the facade left. -/
theorem read_eq (inode fh offset size : Nat) (s : σ) :
    self.read inode fh offset size s = match self.fs.read s inode offset (List.replicate size 0) fh with
      | .ok ((buf, len), s') => (if len ≤ size then .reply (buf.take len) else .panic, s')
      | .error _ => (.errno EIO, s) := by
  rw [EncryptedFsFuse3.read, mutate_orFail_eio]
  rcases h : self.fs.read s inode offset (List.replicate size 0) fh with _ | ⟨⟨buf, len⟩, s'⟩
  · rfl
  · have hb : buf.length = size := by simpa using self.fs.read_length h
    simp only [sliceTo, hb]
    split <;> rfl

/-- `read` panics exactly when the facade says it filled more bytes than the buffer holds. -/
theorem read_panics_iff (inode fh offset size : Nat) (s : σ) :
    (self.read inode fh offset size s).1 = .panic ↔
      ∃ buf len s', self.fs.read s inode offset (List.replicate size 0) fh = .ok ((buf, len), s') ∧ size < len := by
  rw [read_eq]
  rcases self.fs.read s inode offset (List.replicate size 0) fh with _ | ⟨⟨buf, len⟩, s'⟩
  · simp
  · by_cases hl : len ≤ size
    · simp [hl]
    · exact iff_of_true (by simp [hl]) ⟨buf, len, s', rfl, Nat.lt_of_not_le hl⟩

/-- For a facade that returns the number of bytes it filled, `read` never panics: it replies the bytes the facade
filled, on the state the facade left, or `EIO` on the state as it was. -/
theorem read_reply (hfill : self.fs.FillsAtMost) (inode fh offset size : Nat) (s : σ) :
    self.read inode fh offset size s = match self.fs.read s inode offset (List.replicate size 0) fh with
      | .ok ((buf, len), s') => (.reply (buf.take len), s')
      | .error _ => (.errno EIO, s) := by
  rw [read_eq]
  rcases h : self.fs.read s inode offset (List.replicate size 0) fh with _ | ⟨⟨buf, len⟩, s'⟩
  · rfl
  · have hl : len ≤ size := by simpa using hfill _ _ _ _ _ _ h
    simp only [hl, if_true]

/-- What `write` does, for every facade: `EIO` when the facade fails, and otherwise its count modulo `2 ^ 32`. -/
theorem write_eq (inode fh offset : Nat) (data : List UInt8) (s : σ) :
    self.write inode fh offset data s = match self.fs.write s inode offset data fh with
      | .ok (n, s') => (.reply (n % 2 ^ 32), s')
      | .error _ => (.errno EIO, s) := by
  rw [EncryptedFsFuse3.write, mutate_orFail_eio]
  rcases self.fs.write s inode offset data fh with _ | ⟨n, s'⟩ <;> rfl

/-- For a facade that writes no more than it is given, and fewer than `2 ^ 32` bytes from the kernel, `write`
replies the facade's count, on the state the facade left, or `EIO` on the state as it was. -/
theorem write_reply (hw : self.fs.WritesAtMost) (inode fh offset : Nat) (data : List UInt8)
    (hdata : data.length < 2 ^ 32) (s : σ) :
    self.write inode fh offset data s = match self.fs.write s inode offset data fh with
      | .ok (n, s') => (.reply n, s')
      | .error _ => (.errno EIO, s) := by
  rw [write_eq]
  rcases h : self.fs.write s inode offset data fh with _ | ⟨n, s'⟩
  · rfl
  · simp only [Nat.mod_eq_of_lt (lt_of_le_of_lt (hw _ _ _ _ _ _ _ h) hdata)]

end EncryptedFsFuse3

/-! ## The in-memory facade -/

namespace MemFs

/-- The in-memory `read` fills at most its buffer. -/
theorem fillsAtMost : fs.FillsAtMost := fun _ _ _ _ _ ⟨_, _⟩ h => by
  obtain ⟨_, -, -, rfl⟩ := read_ok h
  exact List.length_take_le _ _

/-- The in-memory `write` writes all it is given. -/
theorem writesAtMost : fs.WritesAtMost := fun _ _ _ _ _ _ _ h => by
  obtain ⟨_, -, rfl, -⟩ := write_ok h
  exact le_refl _

/-- `oneFile` with handle `1` open for writing. -/
def writable : MemFs := { oneFile with nextFh := 2, handles := [(1, true)] }

end MemFs

/- `hi` written at offset 2 of the ten zero bytes of `f`, read back from the start and copied to the front; a read
through a handle that is not open is refused. -/
example : (memFuse.write 2 1 2 [0x68, 0x69] MemFs.writable).1 = .reply 2 ∧
    (memFuse.read 2 1 0 4 (memFuse.write 2 1 2 [0x68, 0x69] MemFs.writable).2).1 = .reply [0, 0, 0x68, 0x69] ∧
    (memFuse.copyFileRange 2 1 2 2 1 0 2 (memFuse.write 2 1 2 [0x68, 0x69] MemFs.writable).2).1 = .reply 2 ∧
    (memFuse.read 2 7 0 4 MemFs.writable).1 = .errno EIO := by
  decide

end Rencfs

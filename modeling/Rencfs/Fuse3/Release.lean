import Rencfs.Fuse3.MemFs

/-!
# `release` and the SUID and SGID bits

`release` flushes the handle when the kernel asks for it, releases the handle, and then, for a handle that wrote,
clears SUID and SGID with `update_inode`. It asks whether the handle wrote with `fs.is_write_handle(fh)`, an
`async fn`: the handler makes the future before `fs.release(fh)`, but the body of an `async fn` runs where its future
is awaited, which is after `fs.release(fh)`. The spec's facade destroys a handle on `release` (§4.8), and so does the
in-memory one (`MemFs.release_isWriteHandle`). For every such facade the question comes too late and is answered no,
whatever the handle: `release` is the handler that only flushes and releases, and it never calls `update_inode`
(`release_flush_release`). A setuid file written through a handle keeps its SUID bit once the handle is released.
-/

namespace Rencfs

open Libc Handler

namespace MemFs

/-- A released handle is no write handle any more. -/
theorem release_isWriteHandle {s s' : MemFs} {fh : Nat} (h : s.release fh = .ok ((), s')) :
    s'.isWriteHandle fh = false := by
  unfold release at h
  split at h
  · simp only [Except.ok.injEq, Prod.mk.injEq, true_and] at h
    subst h
    simp [isWriteHandle, List.any_eq_false, List.mem_filter]
  · nomatch h

/-- A setuid executable of root's, open for writing through handle 1. -/
def suidWritten : MemFs :=
  ⟨[rootDir, { rootFile with perm := 0o4755 }], [(1, nameF, 2)], 3, 2, [(1, true)], []⟩

end MemFs

/-- For a facade that destroys the handles it releases, `release` is the handler that flushes (when asked) and
releases, and nothing else: the branch that clears SUID and SGID on the release of a write handle never runs. -/
theorem release_flush_release {σ : Type} (self : EncryptedFsFuse3 σ)
    (hrel : ∀ s s' fh, self.fs.release s fh = .ok ((), s') → self.fs.isWriteHandle s' fh = false)
    (inode fh : Nat) (flush : Bool) :
    self.release inode fh flush = (do
      (if flush then do orFail (← mutate (self.fs.flush · fh)) fun _ => EIO else pure ())
      orFail (← mutate (self.fs.release · fh)) fun _ => EIO) := by
  unfold EncryptedFsFuse3.release
  congr 1
  funext _ s
  rcases hr : self.fs.release s fh with err | ⟨⟨⟩, s'⟩
  · rw [mutate_bind_error hr, mutate_bind_error hr]
    rfl
  · rw [mutate_bind_ok hr, mutate_bind_ok hr]
    simp only [orFail_ok, pure_bind, query_bind, hrel s s' fh hr]
    rfl

/-- The in-memory facade, releasing handle 1 of inode 2 after a flush. -/
theorem release_flush_release_memFuse :
    (∀ s s' fh, memFuse.fs.release s fh = .ok ((), s') → memFuse.fs.isWriteHandle s' fh = false) ∧
    memFuse.release 2 1 true = (do
      (if true then do orFail (← mutate (memFuse.fs.flush · 1)) fun _ => EIO else pure ())
      orFail (← mutate (memFuse.fs.release · 1)) fun _ => EIO) :=
  ⟨fun _ _ _ => MemFs.release_isWriteHandle,
    release_flush_release memFuse (fun _ _ _ => MemFs.release_isWriteHandle) 2 1 true⟩

/- Handle 1 of `suidWritten` wrote; once it is released the file is still `rwsr-xr-x`. -/
example : MemFs.suidWritten.isWriteHandle 1 = true ∧
    (memFuse.release 2 1 true MemFs.suidWritten).1 = .reply () ∧
    (memFuse.release 2 1 true MemFs.suidWritten).2.getInode 2 = .ok { MemFs.rootFile with perm := 0o4755 } :=
  ⟨rfl, rfl, rfl⟩

end Rencfs

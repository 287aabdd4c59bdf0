import Rencfs.Fuse3.Contract

/-!
# A request that fails leaves the facade as it was

Every facade call either writes and succeeds or fails and writes nothing (`mutate`). Every handler but `setattr`,
`open`, `release` and `read` makes at most one facade call that writes, and sends every errno and every panic either
before it or for its failure, never after its success. So such a request that the adapter answers with an errno, or
that panics, leaves the facade as it found it, whatever the facade (`serve_of_not_replies`).

Three others write twice or more: `setattr` truncates before it patches, `open` truncates before it opens, and
`release` flushes before it releases and patches after. A failure of a later write leaves the earlier one done:
`Setattr` shows such a run of `setattr`. `read` writes once (the facade's `read` may move its handle's cursor), and
panics after that call succeeded when the count it returns is past the buffer (`Data`).
-/

namespace Rencfs

open Libc Handler GatesAux

namespace Handler

variable {σ α β : Type}

/-- The handler changes the facade only when it replies: after an errno or a panic the facade is as it was. -/
def FailsClean (h : Handler σ α) : Prop := ∀ s, (h s).1.toOption.isSome = false → (h s).2 = s

theorem Reads.failsClean {h : Handler σ α} (hh : h.Reads) : h.FailsClean := fun s _ => hh s

/-- Steps that only read, then a handler that fails clean. -/
theorem FailsClean.bind {x : Handler σ α} {f : α → Handler σ β} (hx : x.Reads) (hf : ∀ a, (f a).FailsClean) :
    (x >>= f).FailsClean := by
  intro s
  rcases hx.run_bind f s with ⟨a, -, e⟩ | ⟨_, e⟩ | e <;> rw [e]
  exacts [hf a s, fun _ => rfl, fun _ => rfl]

/-- A handler that fails clean, then steps that always reply. -/
theorem FailsClean.bind_replies {x : Handler σ α} {f : α → Handler σ β} (hx : x.FailsClean)
    (hf : ∀ a s, (f a s).1.toOption.isSome = true) : (x >>= f).FailsClean := by
  intro s
  rcases bind_cases x f s with ⟨a, s₁, -, e⟩ | ⟨_, s₁, h, e⟩ | ⟨s₁, h, e⟩ <;> rw [e]
  · exact fun hn => absurd (hf a s₁) (by rw [hn]; decide)
  all_goals exact fun _ => by simpa only [h] using hx s (by rw [h]; rfl)

/-- A facade call that writes, then `g` on its answer: `g` replies after a success, and fails clean after a failure. -/
theorem FailsClean.mutate {f : σ → Except FsError (α × σ)} {g : Except FsError α → Handler σ β}
    (hok : ∀ a s, (g (.ok a) s).1.toOption.isSome = true) (herr : ∀ e, (g (.error e)).FailsClean) :
    (mutate f >>= g).FailsClean := by
  intro s
  rw [run_mutate_bind]
  rcases f s with e | ⟨a, s'⟩
  · exact herr e s
  · exact fun hn => absurd (hok a s') (by rw [hn]; decide)

/-- The last step of most handlers: a facade call that writes, its errors sent as errnos. -/
theorem FailsClean.mutate_orFail (f : σ → Except FsError (α × σ)) (g : FsError → Nat) :
    (Handler.mutate f >>= fun r => orFail r g).FailsClean :=
  .mutate (fun _ _ => rfl) fun _ => (Reads.orFail _ _).failsClean

theorem FailsClean.remapErrno {x : Handler σ α} (hx : x.FailsClean) (g : Nat → Nat) : (remapErrno x g).FailsClean := by
  intro s hn
  rw [remapErrno_snd]
  refine hx s ?_
  rcases h : x s with ⟨_ | _ | _, _⟩ <;> simp_all [Handler.remapErrno, Outcome.toOption]

end Handler

/-- The requests whose handler makes at most one facade call that writes and answers no errno and no panic after its
success: all but `setattr`, `open`, `release` and `read`. -/
def Op.oneWrite : Op → Bool
  | .setattr .. | .open .. | .release .. | .read .. => false
  | _ => true

namespace EncryptedFsFuse3

variable {σ : Type} (self : EncryptedFsFuse3 σ)

/-- Whether the adapter replies to the request, rather than answering an errno or panicking. -/
def replies : Op → σ → Bool
  | .lookup req parent name, s => (self.lookup req parent name s).1.toOption.isSome
  | .getattr inode, s => (self.getattr inode s).1.toOption.isSome
  | .setattr sys req inode setAttr, s => (self.setattr sys req inode setAttr s).1.toOption.isSome
  | .mknod req parent name mode, s => (self.mknod req parent name mode s).1.toOption.isSome
  | .mkdir req parent name mode, s => (self.mkdir req parent name mode s).1.toOption.isSome
  | .unlink req parent name, s => (self.unlink req parent name s).1.toOption.isSome
  | .rmdir req parent name, s => (self.rmdir req parent name s).1.toOption.isSome
  | .rename req parent name newParent newName, s => (self.rename req parent name newParent newName s).1.toOption.isSome
  | .open req inode flags, s => (self.open req inode flags s).1.toOption.isSome
  | .create req parent name mode flags, s => (self.create req parent name mode flags s).1.toOption.isSome
  | .opendir req inode flags, s => (self.opendir req inode flags s).1.toOption.isSome
  | .access req inode mask, s => (self.access req inode mask s).1.toOption.isSome
  | .readdir inode offset, s => (self.readdir inode offset s).1.toOption.isSome
  | .readdirplus parent offset, s => (self.readdirplus parent offset s).1.toOption.isSome
  | .flush fh, s => (self.flush fh s).1.toOption.isSome
  | .release inode fh flush, s => (self.release inode fh flush s).1.toOption.isSome
  | .read inode fh offset size, s => (self.read inode fh offset size s).1.toOption.isSome
  | .write inode fh offset data, s => (self.write inode fh offset data s).1.toOption.isSome
  | .copyFileRange inode fhIn offIn inodeOut fhOut offOut length, s =>
    (self.copyFileRange inode fhIn offIn inodeOut fhOut offOut length s).1.toOption.isSome

end EncryptedFsFuse3

/-! ## One handler -/

namespace AtomicAux

variable {σ : Type} (self : EncryptedFsFuse3 σ) {req : Request}

theorem createNod_failsClean (parent mode : Nat) (name : List UInt8) (read write : Bool) :
    (self.createNod parent mode req name read write).FailsClean :=
  .bind (.query _) fun _ => .bind (.orFail _ _) fun _ => .bind (.failIf _ _) fun _ => .bind (.unwrap _) fun _ =>
    .bind (.unwrap _) fun _ => .mutate_orFail _ _

theorem mknod_failsClean (parent : Nat) (name : List UInt8) (mode : Nat) :
    (self.mknod req parent name mode).FailsClean :=
  .bind (.failIf _ _) fun _ => .bind_replies (createNod_failsClean self _ _ _ _ _) fun _ _ => rfl

theorem mkdir_failsClean (parent : Nat) (name : List UInt8) (mode : Nat) :
    (self.mkdir req parent name mode).FailsClean :=
  .bind (.query _) fun _ => .bind (.orFail _ _) fun _ => .bind (.failIf _ _) fun _ => .bind (.unwrap _) fun _ =>
    .mutate (fun _ _ => rfl) fun _ => (Reads.bind (.orFail _ _) fun _ => .pure _).failsClean

theorem create_failsClean (parent : Nat) (name : List UInt8) (mode flags : Nat) :
    (self.create req parent name mode flags).FailsClean :=
  .bind (createAccess_reads flags) fun _ =>
    .bind_replies (.remapErrno (createNod_failsClean self _ _ _ _ _) _) fun _ _ => rfl

theorem unlink_failsClean (parent : Nat) (name : List UInt8) : (self.unlink req parent name).FailsClean :=
  .bind (.query _) fun _ => .bind (.orFail _ _) fun _ => .bind (.failIf _ _) fun _ => .bind (.unwrap _) fun _ =>
    .bind (.query _) fun _ => .bind (.foundOr _ _) fun _ => .bind (.failIf _ _) fun _ => .bind (.unwrap _) fun _ =>
    .mutate_orFail _ _

theorem rmdir_failsClean (parent : Nat) (name : List UInt8) : (self.rmdir req parent name).FailsClean :=
  .bind (.query _) fun _ => .bind (.orFail _ _) fun _ => .bind (.failIf _ _) fun _ => .bind (.unwrap _) fun _ =>
    .bind (.query _) fun _ => .bind (.foundOr _ _) fun _ => .bind (.failIf _ _) fun _ => .bind (.failIf _ _) fun _ =>
    .bind (.unwrap _) fun _ => .mutate_orFail _ _

theorem rename_failsClean (parent : Nat) (name : List UInt8) (newParent : Nat) (newName : List UInt8) :
    (self.rename req parent name newParent newName).FailsClean :=
  .bind (.unwrap _) fun _ => .bind (.query _) fun _ => .bind (.foundOr _ _) fun _ => .bind (.query _) fun _ =>
    .bind (.orFail _ _) fun _ => .bind (.failIf _ _) fun _ => .bind (.failIf _ _) fun _ => .bind (.query _) fun _ =>
    .bind (.orFail _ _) fun _ => .bind (.failIf _ _) fun _ =>
    .bind (.ite (.bind (.unwrap _) fun _ => .bind (.query _) fun _ => .failIf _ _) (.pure _)) fun _ =>
    .bind (.failIf _ _) fun _ => .bind (.unwrap _) fun _ => .bind (.unwrap _) fun _ => .mutate_orFail _ _

theorem write_failsClean (inode fh offset : Nat) (data : List UInt8) : (self.write inode fh offset data).FailsClean :=
  .mutate (fun _ _ => rfl) fun _ => (Reads.bind (.orFail _ _) fun _ => .pure _).failsClean

theorem copyFileRange_failsClean (inode fhIn offIn inodeOut fhOut offOut length : Nat) :
    (self.copyFileRange inode fhIn offIn inodeOut fhOut offOut length).FailsClean :=
  .mutate (fun _ _ => rfl) fun _ => (Reads.bind (.orFail _ _) fun _ => .pure _).failsClean

end AtomicAux

open AtomicAux

/-- For every facade, state and request but `setattr`, `open`, `release` and `read`: when the adapter answers the
request with an errno, or panics, the facade's state is the one it had before. -/
theorem serve_of_not_replies {σ : Type} (self : EncryptedFsFuse3 σ) (op : Op) (hop : op.oneWrite = true) (s : σ)
    (h : self.replies op s = false) : self.serve op s = s := by
  cases op with
  | lookup => exact (lookup_reads self).failsClean s h
  | getattr => exact (getattr_reads self).failsClean s h
  | mknod => exact mknod_failsClean self _ _ _ s h
  | mkdir => exact mkdir_failsClean self _ _ _ s h
  | unlink => exact unlink_failsClean self _ _ s h
  | rmdir => exact rmdir_failsClean self _ _ s h
  | rename => exact rename_failsClean self _ _ _ _ s h
  | create => exact create_failsClean self _ _ _ _ s h
  | opendir => exact (opendir_reads self).failsClean s h
  | access => exact (access_reads self).failsClean s h
  | readdir => exact (readdir_reads self).failsClean s h
  | readdirplus => exact (readdirplus_reads self).failsClean s h
  | flush => exact FailsClean.mutate_orFail _ _ s h
  | write => exact write_failsClean self _ _ _ _ s h
  | copyFileRange => exact copyFileRange_failsClean self _ _ _ _ _ _ _ s h
  | setattr | «open» | release | read => nomatch hop

/-- An ordinary user asks to remove `f` from root's `rwxr-xr-x` directory: `EACCES`. -/
theorem serve_of_not_replies_unlink :
    (Op.unlink userReq 1 [0x66]).oneWrite = true ∧ memFuse.replies (.unlink userReq 1 [0x66]) MemFs.oneFile = false ∧
    memFuse.serve (.unlink userReq 1 [0x66]) MemFs.oneFile = MemFs.oneFile :=
  ⟨rfl, rfl, serve_of_not_replies memFuse (.unlink userReq 1 [0x66]) rfl MemFs.oneFile rfl⟩

end Rencfs

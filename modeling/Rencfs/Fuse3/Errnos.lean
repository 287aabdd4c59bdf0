import Rencfs.Fuse3.Names

/-!
# The errno a handler answers a condition with

The handlers that create and remove entries meet the same conditions and answer them with different errnos
(`handler_errnos`):

* a parent the caller may not write: `mknod` and `mkdir` answer `EACCES`; `create` answers `ENOENT`, as it replaces
  every errno of `create_nod` with `ENOENT`;
* a name the facade already has (`AlreadyExists`): `mknod` answers `EEXIST`, through the mapping of `create_nod`;
  `mkdir` and `create` answer `ENOENT`;
* a directory the facade keeps because it has entries (`NotEmpty`): `rmdir` answers `EISDIR`, and `rename`, replacing
  such a directory, answers `ENOTEMPTY`.
-/

namespace Rencfs

open Libc Handler NamesAux

namespace ErrnosAux

variable {σ : Type} (self : EncryptedFsFuse3 σ) {req : Request} {parent : Nat} {name : List UInt8} {s : σ}
  {pa : FileAttr}

theorem createAccess_reply {flags : Nat} (h : flags &&& O_ACCMODE ∈ [O_RDONLY, O_WRONLY, O_RDWR]) :
    ∃ rw, (EncryptedFsFuse3.createAccess flags : Handler σ _) s = (.reply rw, s) := by
  simp only [List.mem_cons, List.mem_singleton, List.not_mem_nil, or_false] at h
  unfold EncryptedFsFuse3.createAccess
  rcases h with h | h | h <;> simp [h, O_RDONLY, O_WRONLY, O_RDWR]

/-- `create_nod` for a parent the caller may not write. -/
theorem createNod_denied (hpa : self.fs.getInode s parent = .ok pa)
    (hw : checkAccess pa.uid pa.gid pa.perm req.uid req.gid W_OK = false) (mode : Nat) (read write : Bool) :
    self.createNod parent mode req name read write s = (.errno EACCES, s) := by
  simp [EncryptedFsFuse3.createNod, hpa, hw]

/-- `create_nod` for a name the facade already has. -/
theorem createNod_exists {n : RustStr} (hpa : self.fs.getInode s parent = .ok pa)
    (hw : checkAccess pa.uid pa.gid pa.perm req.uid req.gid W_OK = true) (hn : toStr name = some n)
    (hex : ∀ c r w, self.fs.createNod s parent n c r w = .error .alreadyExists) {mode : Nat}
    (hmode : (asFileKind mode).isSome) (read write : Bool) :
    self.createNod parent mode req name read write s = (.errno EEXIST, s) := by
  obtain ⟨k, hk⟩ := Option.isSome_iff_exists.1 (creationKind_isSome req hmode)
  simp only [EncryptedFsFuse3.createNod, query_bind, hpa, orFail_ok, pure_bind, hw, Bool.not_true, failIf_false, hk,
    unwrap_some, secretName, hn]
  simp [run_mutate_bind, hex, createNodErrno]

/-- `mknod` of a regular file or a directory answers the errno of `create_nod`. -/
theorem mknod_errno {mode e : Nat} (hmknod : (mode &&& S_IFMT != S_IFREG && mode &&& S_IFMT != S_IFDIR) = false)
    (h : self.createNod parent mode req name false false s = (.errno e, s)) :
    (self.mknod req parent name mode s).1 = .errno e := by
  simp only [EncryptedFsFuse3.mknod, hmknod, failIf_false, pure_bind]
  rw [bind_errno h]

/-- `create` answers every errno of `create_nod` with `ENOENT`. -/
theorem create_errno {flags mode e : Nat} (hflags : flags &&& O_ACCMODE ∈ [O_RDONLY, O_WRONLY, O_RDWR])
    (h : ∀ read write, self.createNod parent mode req name read write s = (.errno e, s)) :
    (self.create req parent name mode flags s).1 = .errno ENOENT := by
  obtain ⟨⟨read, write⟩, hca⟩ := createAccess_reply hflags
  rw [EncryptedFsFuse3.create, bind_reply hca]
  exact congrArg Prod.fst (bind_errno (remapErrno_errno (h read write)))

/-- `rename` of an entry the caller may move, when the facade refuses because the entry it replaces has entries. -/
theorem rename_notEmpty {newParent : Nat} {newName : List UInt8} {n nn : RustStr} {attr npa : FileAttr}
    (hpa : self.fs.getInode s parent = .ok pa) (hw : checkAccess pa.uid pa.gid pa.perm req.uid req.gid W_OK = true)
    (hn : toStr name = some n) (hnn : toStr newName = some nn) (hfind : self.fs.findByName s parent n = .ok (some attr))
    (hs : stickyDenies pa req.uid attr = false) (hnpa : self.fs.getInode s newParent = .ok npa)
    (hnw : checkAccess npa.uid npa.gid npa.perm req.uid req.gid W_OK = true)
    (hold : ∀ old, self.fs.findByName s newParent nn = .ok (some old) → stickyDenies npa req.uid old = false)
    (hdir : attr.kind = .directory → parent ≠ newParent →
      checkAccess attr.uid attr.gid attr.perm req.uid req.gid W_OK = true)
    (hrn : self.fs.rename s parent n newParent nn = .error .notEmpty) :
    (self.rename req parent name newParent newName s).1 = .errno ENOTEMPTY := by
  have hd : (attr.kind == .directory && parent != newParent &&
      !checkAccess attr.uid attr.gid attr.perm req.uid req.gid W_OK) = false := by
    by_cases hk : attr.kind = .directory <;> by_cases hp : parent = newParent <;> simp [hk, hp, hdir]
  unfold EncryptedFsFuse3.rename
  by_cases hc : (npa.perm &&& asU16 S_ISVTX != 0) = true
  · have hz : npa.perm &&& asU16 S_ISVTX ≠ 0 := by simpa using hc
    have hold' : ∀ old, self.fs.findByName s newParent nn = .ok (some old) →
        (req.uid != 0 && req.uid != npa.uid && req.uid != old.uid) = false := fun old hf => by
      simpa [stickyDenies, hc, Bool.and_assoc] using hold old hf
    rcases hf : self.fs.findByName s newParent nn with e | _ | old <;>
      simp only [hf, hold', secretName, hn, hnn, unwrap_some, bne_iff_ne, ne_eq, Handler.pure_bind, ite_not,
        query_bind, hfind, foundOr_some, hd, failIf_false, hpa, orFail_ok, hw, Bool.not_true, hs, hnpa, hnw, hz,
        reduceIte, bind_bind, run_mutate_bind, hrn, orFail_error, run_fail]
  · have hz : npa.perm &&& asU16 S_ISVTX = 0 := by simpa using hc
    simp only [secretName, hn, hnn, unwrap_some, bne_iff_ne, ne_eq, Handler.pure_bind, ite_not, query_bind, hfind,
      foundOr_some, hd, failIf_false, hpa, orFail_ok, hw, Bool.not_true, hs, hnpa, hnw, hz, reduceIte,
      run_mutate_bind, hrn, orFail_error, run_fail]

end ErrnosAux

namespace MemFs

/-- The name `d`. -/
def nameD : RustStr := ⟨[0x64], rfl⟩

/-- A root directory holding a directory `d` (inode 3, root's, `rwxr-xr-x`), which holds the file `f`. -/
def nested : MemFs := ⟨[rootDir, rootFile, { rootDir with ino := 3 }], [(1, nameD, 3), (3, nameF, 2)], 4, 1, [], []⟩

end MemFs

open ErrnosAux

/-- For every facade, caller, parent, name and state, the handlers that create and remove entries answer the same
condition with different errnos. A parent the caller may not write is `EACCES` for `mknod` and `mkdir` and `ENOENT`
for `create`; a name the facade already has is `EEXIST` for `mknod` and `ENOENT` for `mkdir` and `create`; a
directory the facade keeps because it has entries (`NotEmpty`) is `EISDIR` for `rmdir` and `ENOTEMPTY` for `rename`. -/
theorem handler_errnos {σ : Type} (self : EncryptedFsFuse3 σ) (req : Request) (parent : Nat) (name : List UInt8)
    (mode flags : Nat) (s : σ) (pa : FileAttr) (hpa : self.fs.getInode s parent = .ok pa)
    (hmknod : (mode &&& S_IFMT != S_IFREG && mode &&& S_IFMT != S_IFDIR) = false)
    (hflags : flags &&& O_ACCMODE ∈ [O_RDONLY, O_WRONLY, O_RDWR]) :
    (checkAccess pa.uid pa.gid pa.perm req.uid req.gid W_OK = false →
      (self.mknod req parent name mode s).1 = .errno EACCES ∧ (self.mkdir req parent name mode s).1 = .errno EACCES ∧
      (self.create req parent name mode flags s).1 = .errno ENOENT) ∧
    (∀ n, checkAccess pa.uid pa.gid pa.perm req.uid req.gid W_OK = true → toStr name = some n →
      (∀ c r w, self.fs.createNod s parent n c r w = .error .alreadyExists) →
      (self.mknod req parent name mode s).1 = .errno EEXIST ∧ (self.mkdir req parent name mode s).1 = .errno ENOENT ∧
      (self.create req parent name mode flags s).1 = .errno ENOENT) ∧
    (∀ n attr, checkAccess pa.uid pa.gid pa.perm req.uid req.gid W_OK = true → toStr name = some n →
      self.fs.findByName s parent n = .ok (some attr) → attr.kind = .directory → stickyDenies pa req.uid attr = false →
      self.fs.removeDir s parent n = .error .notEmpty → (self.rmdir req parent name s).1 = .errno EISDIR) ∧
    (∀ newParent newName n nn attr npa, checkAccess pa.uid pa.gid pa.perm req.uid req.gid W_OK = true →
      toStr name = some n → toStr newName = some nn → self.fs.findByName s parent n = .ok (some attr) →
      stickyDenies pa req.uid attr = false → self.fs.getInode s newParent = .ok npa →
      checkAccess npa.uid npa.gid npa.perm req.uid req.gid W_OK = true →
      (∀ old, self.fs.findByName s newParent nn = .ok (some old) → stickyDenies npa req.uid old = false) →
      (attr.kind = .directory → parent ≠ newParent →
        checkAccess attr.uid attr.gid attr.perm req.uid req.gid W_OK = true) →
      self.fs.rename s parent n newParent nn = .error .notEmpty →
      (self.rename req parent name newParent newName s).1 = .errno ENOTEMPTY) := by
  have hmode := asFileKind_isSome hmknod
  refine ⟨fun hw => ⟨mknod_errno self hmknod (createNod_denied self hpa hw mode false false), ?_,
      create_errno self hflags (createNod_denied self hpa hw mode)⟩,
    fun n hw hn hex => ⟨mknod_errno self hmknod (createNod_exists self hpa hw hn hex hmode false false), ?_,
      create_errno self hflags (createNod_exists self hpa hw hn hex hmode)⟩,
    fun n attr hw hn hfind hdir hsticky hrm => ?_, fun _ _ _ _ _ _ hw hn hnn hfind hs hnpa hnw hold hdir hrn =>
      rename_notEmpty self hpa hw hn hnn hfind hs hnpa hnw hold hdir hrn⟩
  case refine_1 => simp [EncryptedFsFuse3.mkdir, hpa, hw]
  case refine_2 => simp [EncryptedFsFuse3.mkdir, hpa, hw, secretName, hn, run_mutate_bind, hex]
  case refine_3 => simp [EncryptedFsFuse3.rmdir, hpa, hw, secretName, hn, hfind, hdir, hsticky, run_mutate_bind, hrm]

/-- An ordinary user and a regular file opened for reading and writing, in the root of `oneFile`. -/
theorem handler_errnos_oneFile :
    memFuse.fs.getInode MemFs.oneFile 1 = .ok MemFs.rootDir ∧
    (S_IFREG &&& S_IFMT != S_IFREG && S_IFREG &&& S_IFMT != S_IFDIR) = false ∧
    O_RDWR &&& O_ACCMODE ∈ [O_RDONLY, O_WRONLY, O_RDWR] ∧
    ((checkAccess MemFs.rootDir.uid MemFs.rootDir.gid MemFs.rootDir.perm userReq.uid userReq.gid W_OK = false →
      (memFuse.mknod userReq 1 [0x67] S_IFREG MemFs.oneFile).1 = .errno EACCES ∧
      (memFuse.mkdir userReq 1 [0x67] S_IFREG MemFs.oneFile).1 = .errno EACCES ∧
      (memFuse.create userReq 1 [0x67] S_IFREG O_RDWR MemFs.oneFile).1 = .errno ENOENT) ∧
    (∀ n, checkAccess MemFs.rootDir.uid MemFs.rootDir.gid MemFs.rootDir.perm userReq.uid userReq.gid W_OK = true →
      toStr [0x67] = some n → (∀ c r w, memFuse.fs.createNod MemFs.oneFile 1 n c r w = .error .alreadyExists) →
      (memFuse.mknod userReq 1 [0x67] S_IFREG MemFs.oneFile).1 = .errno EEXIST ∧
      (memFuse.mkdir userReq 1 [0x67] S_IFREG MemFs.oneFile).1 = .errno ENOENT ∧
      (memFuse.create userReq 1 [0x67] S_IFREG O_RDWR MemFs.oneFile).1 = .errno ENOENT) ∧
    (∀ n attr, checkAccess MemFs.rootDir.uid MemFs.rootDir.gid MemFs.rootDir.perm userReq.uid userReq.gid W_OK = true →
      toStr [0x67] = some n → memFuse.fs.findByName MemFs.oneFile 1 n = .ok (some attr) →
      attr.kind = .directory → stickyDenies MemFs.rootDir userReq.uid attr = false →
      memFuse.fs.removeDir MemFs.oneFile 1 n = .error .notEmpty →
      (memFuse.rmdir userReq 1 [0x67] MemFs.oneFile).1 = .errno EISDIR) ∧
    (∀ newParent newName n nn attr npa,
      checkAccess MemFs.rootDir.uid MemFs.rootDir.gid MemFs.rootDir.perm userReq.uid userReq.gid W_OK = true →
      toStr [0x67] = some n → toStr newName = some nn → memFuse.fs.findByName MemFs.oneFile 1 n = .ok (some attr) →
      stickyDenies MemFs.rootDir userReq.uid attr = false → memFuse.fs.getInode MemFs.oneFile newParent = .ok npa →
      checkAccess npa.uid npa.gid npa.perm userReq.uid userReq.gid W_OK = true →
      (∀ old, memFuse.fs.findByName MemFs.oneFile newParent nn = .ok (some old) →
        stickyDenies npa userReq.uid old = false) →
      (attr.kind = .directory → 1 ≠ newParent →
        checkAccess attr.uid attr.gid attr.perm userReq.uid userReq.gid W_OK = true) →
      memFuse.fs.rename MemFs.oneFile 1 n newParent nn = .error .notEmpty →
      (memFuse.rename userReq 1 [0x67] newParent newName MemFs.oneFile).1 = .errno ENOTEMPTY)) :=
  ⟨rfl, by decide, by decide,
    handler_errnos memFuse userReq 1 [0x67] S_IFREG O_RDWR MemFs.oneFile MemFs.rootDir rfl (by decide) (by decide)⟩

/- The three conditions on the in-memory facade: an ordinary user in root's `rwxr-xr-x` directory; root creating `f`,
which is there; root removing `d`, which holds `f`, or moving `f` out of `d` over `d`. -/
example : (memFuse.mknod userReq 1 [0x67] S_IFREG MemFs.oneFile).1 = .errno EACCES ∧
    (memFuse.create userReq 1 [0x67] S_IFREG O_RDWR MemFs.oneFile).1 = .errno ENOENT ∧
    (memFuse.mknod rootReq 1 [0x66] S_IFREG MemFs.oneFile).1 = .errno EEXIST ∧
    (memFuse.mkdir rootReq 1 [0x66] 0o755 MemFs.oneFile).1 = .errno ENOENT ∧
    (memFuse.create rootReq 1 [0x66] S_IFREG O_RDWR MemFs.oneFile).1 = .errno ENOENT ∧
    (memFuse.rmdir rootReq 1 [0x64] MemFs.nested).1 = .errno EISDIR ∧
    (memFuse.rename rootReq 3 [0x66] 1 [0x64] MemFs.nested).1 = .errno ENOTEMPTY :=
  ⟨rfl, rfl, rfl, rfl, rfl, rfl, rfl⟩

end Rencfs

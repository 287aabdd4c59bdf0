import Rencfs.Fuse3.Handler
import Mathlib.Data.List.Infix
import Mathlib.Algebra.Group.Nat.Basic

/-!
# `EncryptedFsFuse3`: the kernel requests, translated to facade calls

Each handler of `impl Filesystem for EncryptedFsFuse3` is a `Handler` over the facade's state, written as the source
writes it: the same facade calls, checks and errnos, in the same order. The facade (`encryptedfs.rs`) is not in the
sources; `EncryptedFs σ` takes its calls as parameters, with the signatures and errors of the spec's table.

Names cross the adapter as byte strings (`&OsStr`); every handler that passes one to the facade converts it with
`SecretString::from_str(name.to_str().unwrap()).unwrap()` (`secretName`), which panics unless the bytes are UTF-8.
The `#[instrument]`, `error!` and `debug!` lines that log a name call `name.to_str().unwrap()` as well, but only
when a subscriber enables them; they are left out.
-/

namespace Rencfs

open Libc Handler

/-- Modelled from the spec: the calls of the facade `EncryptedFs` that the adapter makes, over a state `σ` of inodes,
contents, directory entries and open handles. A call that writes returns the new state. `read(ino, offset, buf, fh)`
fills `buf` and returns how many bytes it filled, `write(ino, offset, data, fh)` how many bytes it wrote, and
`copy_file_range(ino_in, off_in, ino_out, off_out, len, fh_in, fh_out)` how many it copied; each returns the new state
(a `read` moves its handle's cursor). -/
structure EncryptedFs (σ : Type) where
  getInode : σ → Nat → Except FsError FileAttr
  findByName : σ → Nat → RustStr → Except FsError (Option FileAttr)
  createNod : σ → Nat → RustStr → CreateFileAttr → Bool → Bool → Except FsError ((Nat × FileAttr) × σ)
  removeFile : σ → Nat → RustStr → Except FsError (Unit × σ)
  removeDir : σ → Nat → RustStr → Except FsError (Unit × σ)
  rename : σ → Nat → RustStr → Nat → RustStr → Except FsError (Unit × σ)
  truncate : σ → Nat → Nat → Except FsError (Unit × σ)
  updateInode : σ → Nat → SetFileAttr → Except FsError (Unit × σ)
  «open» : σ → Nat → Bool → Bool → Except FsError (Nat × σ)
  read : σ → Nat → Nat → List UInt8 → Nat → Except FsError ((List UInt8 × Nat) × σ)
  /-- The buffer is a `&mut [u8]`: it is filled in place and keeps its length. -/
  read_length : ∀ {s ino offset buf fh r}, read s ino offset buf fh = .ok r → r.1.1.length = buf.length
  write : σ → Nat → Nat → List UInt8 → Nat → Except FsError (Nat × σ)
  copyFileRange : σ → Nat → Nat → Nat → Nat → Nat → Nat → Nat → Except FsError (Nat × σ)
  readDir : σ → Nat → Except FsError (List (Except FsError DirEntry))
  readDirPlus : σ → Nat → Except FsError (List (Except FsError DirEntryPlus))
  flush : σ → Nat → Except FsError (Unit × σ)
  release : σ → Nat → Except FsError (Unit × σ)
  isWriteHandle : σ → Nat → Bool

/-- What the adapter asks of the system: `SystemTime::now()`, and `get_groups(pid)`, the groups on the `Groups:` line
of `/proc/{pid}/task/{pid}/status`, or `None` where `get_groups` panics (no such file, a group that does not
parse). -/
structure Sys where
  now : SystemTime
  getGroups : Nat → Option (List Nat)

/-- `EncryptedFsFuse3`. -/
structure EncryptedFsFuse3 (σ : Type) where
  fs : EncryptedFs σ
  directIo : Bool
  suidSupport : Bool

/-! ## Directory listings -/

/-- The errno sent for an entry the facade could not read: `source.into()` for `FsError::Io { source }`, which is
the OS error number of `source` (`EIO` without one), and `EIO` for every other error. -/
def entryErrno : FsError → Nat
  | .io _ raw => raw.getD EIO
  | _ => EIO

/-- The items `next` yields, from a counter `n` to the end of the facade's iterator, for both
`DirectoryEntryIterator` and `DirectoryEntryPlusIterator`: an entry bumps the counter and is sent with the counter
`as i64` for its offset, built by `mk`; an error is sent as its errno and leaves the counter. -/
def entryItems (mk : α → Int → β) : List (Except FsError α) → Nat → List (Except Nat β)
  | [], _ => []
  | .ok e :: es, n => .ok (mk e (asI64 (n + 1))) :: entryItems mk es (n + 1)
  | .error err :: es, n => .error (entryErrno err) :: entryItems mk es n

/-- The entry `DirectoryEntryIterator::next` sends for a facade entry. -/
def directoryEntry (e : DirEntry) (offset : Int) : DirectoryEntry :=
  ⟨e.ino, fuseKind e.kind, e.name.bytes, offset⟩

/-- The entry `DirectoryEntryPlusIterator::next` sends for a facade entry. -/
def directoryEntryPlus (e : DirEntryPlus) (offset : Int) : DirectoryEntryPlus :=
  ⟨e.ino, 0, fuseKind e.kind, e.name.bytes, offset, e.attr.toFuse, TTL, TTL⟩

/-- `DirectoryEntryIterator(iter, n)`, run to its end. -/
def directoryEntryIterator (iter : List (Except FsError DirEntry)) (n : Nat) : List (Except Nat DirectoryEntry) :=
  entryItems directoryEntry iter n

/-- `DirectoryEntryPlusIterator(iter, n)`, run to its end. -/
def directoryEntryPlusIterator (iter : List (Except FsError DirEntryPlus)) (n : Nat) :
    List (Except Nat DirectoryEntryPlus) :=
  entryItems directoryEntryPlus iter n

/-! ## Helpers -/

/-- `SecretString::from_str(name.to_str().unwrap()).unwrap()`. -/
def secretName (name : List UInt8) : Handler σ RustStr := unwrap (toStr name)

/-- The sticky-bit rule: in a sticky directory only root, the directory's owner and the entry's owner may remove or
rename the entry. -/
def stickyDenies (dir : FileAttr) (uid : Nat) (entry : FileAttr) : Bool :=
  dir.perm &&& asU16 S_ISVTX != 0 && uid != 0 && uid != dir.uid && uid != entry.uid

/-- The errno `create_nod` answers a failed facade `create_nod` with: `ENAMETOOLONG` for an I/O error whose message
says "too long" in any case. -/
def createNodErrno : FsError → Nat
  | .alreadyExists => EEXIST
  | .io message _ => if decide ("too long".toList <:+: message.toLower.toList) then ENAMETOOLONG else EIO
  | _ => EIO

/-- `&buf[..len]`, which panics when `len` is past the end of `buf`. -/
def sliceTo (buf : List UInt8) (len : Nat) : Option (List UInt8) :=
  if len ≤ buf.length then some (buf.take len) else none

namespace EncryptedFsFuse3

variable {σ : Type} (self : EncryptedFsFuse3 σ)

/-- `creation_mode(mode)`: SUID and SGID are dropped without `suid_support`. -/
def creationMode (mode : Nat) : Nat :=
  if self.suidSupport then asU16 mode else asU16 (mode &&& bitNot32 (S_ISUID ||| S_ISGID))

/-- `create_nod(parent, mode, req, name, read, write)`. -/
def createNod (parent mode : Nat) (req : Request) (name : List UInt8) (read write : Bool) :
    Handler σ (Nat × FileAttr) := do
  let parentAttr ← orFail (← query (self.fs.getInode · parent)) fun _ => ENOENT
  failIf (!checkAccess parentAttr.uid parentAttr.gid parentAttr.perm req.uid req.gid W_OK) EACCES
  let mode := if req.uid != 0 then mode &&& bitNot32 (S_ISUID ||| S_ISGID) else mode
  let kind ← unwrap (asFileKind mode)
  let attr := if kind = .directory then dirAttr else fileAttr
  let attr := { attr with perm := self.creationMode mode, uid := req.uid, gid := creationGid parentAttr req.gid }
  let name ← secretName name
  orFail (← mutate (self.fs.createNod · parent name attr read write)) createNodErrno

/-- `lookup(req, parent, name)`. -/
def lookup (req : Request) (parent : Nat) (name : List UInt8) : Handler σ ReplyEntry := do
  let parentAttr ← orFail (← query (self.fs.getInode · parent)) fun _ => ENOENT
  failIf (!checkAccess parentAttr.uid parentAttr.gid parentAttr.perm req.uid req.gid X_OK) EACCES
  let name ← secretName name
  let attr ← foundOr (← query (self.fs.findByName · parent name)) ENOENT
  pure ⟨TTL, attr.toFuse, 0⟩

/-- `getattr(req, inode, fh, flags)`. -/
def getattr (inode : Nat) : Handler σ ReplyAttr := do
  let attr ← orFail (← query (self.fs.getInode · inode)) fun _ => ENOENT
  pure ⟨TTL, attr.toFuse⟩

/-! ## `setattr` -/

/-- The end of each branch of `setattr`: `update_inode` with the patch, then the inode read back for the reply. -/
def updateAndReply (inode : Nat) (p : SetFileAttr) : Handler σ ReplyAttr := do
  orFail (← mutate (self.fs.updateInode · inode p)) fun _ => EIO
  let attr ← orFail (← query (self.fs.getInode · inode)) fun _ => ENOENT
  pure ⟨TTL, attr.toFuse⟩

/-- The `chmod` branch of `setattr`, for a request with a mode. -/
def chmod (sys : Sys) (req : Request) (inode : Nat) (attr : FileAttr) (mode : Nat) : Handler σ ReplyAttr := do
  failIf (req.uid != 0 && req.uid != attr.uid) EPERM
  let notInGroup ← (if req.uid != 0 && req.gid != attr.gid then do
      let groups ← unwrap (sys.getGroups req.pid)
      pure !(groups.contains attr.gid)
    else pure false)
  let p : SetFileAttr :=
    if notInGroup then SetFileAttr.withPerm {} (asU16 (mode &&& bitNot32 S_ISGID))
    else SetFileAttr.withPerm {} (asU16 mode)
  self.updateAndReply inode (p.withAtime sys.now)

/-- The `chown` branch of `setattr`, run on the patch `p0` whose owner and group it checks and sets. The source runs
it on a fresh `SetFileAttr::default()` (`chown`). -/
def chownWith (sys : Sys) (req : Request) (inode : Nat) (attr : FileAttr) (p0 : SetFileAttr) :
    Handler σ ReplyAttr := do
  (match p0.gid with
    | some gid =>
      if req.uid != 0 then do
        let groups ← unwrap (sys.getGroups req.pid)
        failIf (!groups.contains gid) EPERM
      else pure ()
    | none => pure ())
  (match p0.uid with
    | some uid => failIf (req.uid != 0 && !(uid == attr.uid && req.uid == attr.uid)) EPERM
    | none => pure ())
  failIf (p0.gid.isSome && req.uid != 0 && req.uid != attr.uid) EPERM
  let p := p0.withPerm attr.perm
  let p := if attr.perm &&& asU16 (S_IXUSR ||| S_IXGRP ||| S_IXOTH) != 0 then p.withPerm (clearSuidSgid attr.perm)
    else p
  let p ← (match p.uid with
    | some uid => do
      let p := p.withUid uid
      let perm ← unwrap p.perm
      pure (p.withPerm (perm &&& bitNot16 (asU16 S_ISUID)))
    | none => pure p)
  let p ← (match p.gid with
    | some gid => do
      let p := p.withGid gid
      if req.uid != 0 then do
        let perm ← unwrap p.perm
        pure (p.withPerm (perm &&& bitNot16 (asU16 S_ISGID)))
      else pure p
    | none => pure p)
  self.updateAndReply inode (p.withAtime sys.now)

/-- The `chown` branch of `setattr`, for a request with an owner or a group and no mode. -/
def chown (sys : Sys) (req : Request) (inode : Nat) (attr : FileAttr) : Handler σ ReplyAttr :=
  self.chownWith sys req inode attr {}

/-- The `truncate` step of `setattr`: the facade's `truncate`, then a patch of the size and the permissions with SUID
and SGID cleared. -/
def setattrSize (inode : Nat) (attr : FileAttr) : Option Nat → Handler σ SetFileAttr
  | some size => do
    orFail (← mutate (self.fs.truncate · inode size)) fun _ => EIO
    pure ((SetFileAttr.withSize {} size).withPerm (clearSuidSgid attr.perm))
  | none => pure {}

/-- The `utimens` step of `setattr` for `atime` or for `mtime` (`set` puts the time in the patch): the owner, or a
caller allowed to write, may set it. -/
def utimens (sys : Sys) (req : Request) (attr : FileAttr) (set : SetFileAttr → SystemTime → SetFileAttr)
    (p : SetFileAttr) : Option Timestamp → Handler σ SetFileAttr
  | some t => do
    failIf (attr.uid != req.uid && !checkAccess attr.uid attr.gid attr.perm req.uid req.gid W_OK) EACCES
    let time ← unwrap (systemTimeFromTimestamp t)
    pure ((set p time).withCtime sys.now)
  | none => pure p

/-- The branch of `setattr` a request takes, on the attributes read for it: `chmod` for a mode, `chown` for an owner
or a group, and otherwise `truncate` and `utimens`. -/
def setattrBranch (sys : Sys) (req : Request) (inode : Nat) (attr : FileAttr) (setAttr : SetAttr) :
    Handler σ ReplyAttr :=
  match setAttr.mode with
  | some mode => self.chmod sys req inode attr mode
  | none =>
    if setAttr.uid.isSome || setAttr.gid.isSome then self.chown sys req inode attr
    else do
      let p ← self.setattrSize inode attr setAttr.size
      let p ← utimens sys req attr SetFileAttr.withAtime p setAttr.atime
      let p ← utimens sys req attr SetFileAttr.withMtime p setAttr.mtime
      self.updateAndReply inode p

/-- `setattr(req, inode, fh, set_attr)`. -/
def setattr (sys : Sys) (req : Request) (inode : Nat) (setAttr : SetAttr) : Handler σ ReplyAttr := do
  let attr ← orFail (← query (self.fs.getInode · inode)) fun _ => ENOENT
  self.setattrBranch sys req inode attr setAttr

/-! ## Creating and removing entries -/

/-- `mknod(req, parent, name, mode, rdev)`: regular files and directories only. -/
def mknod (req : Request) (parent : Nat) (name : List UInt8) (mode : Nat) : Handler σ ReplyEntry := do
  let fileType := mode &&& S_IFMT
  failIf (fileType != S_IFREG && fileType != S_IFDIR) ENOSYS
  let (_, attr) ← self.createNod parent mode req name false false
  pure ⟨TTL, attr.toFuse, 0⟩

/-- `mkdir(req, parent, name, mode, umask)`. -/
def mkdir (req : Request) (parent : Nat) (name : List UInt8) (mode : Nat) : Handler σ ReplyEntry := do
  let parentAttr ← orFail (← query (self.fs.getInode · parent)) fun _ => ENOENT
  failIf (!checkAccess parentAttr.uid parentAttr.gid parentAttr.perm req.uid req.gid W_OK) EACCES
  let mode := if req.uid != 0 then mode &&& bitNot32 (S_ISUID ||| S_ISGID) else mode
  let mode := if parentAttr.perm &&& asU16 S_ISGID != 0 then mode ||| S_ISGID else mode
  let attr := { dirAttr with perm := self.creationMode mode, uid := req.uid, gid := creationGid parentAttr req.gid }
  let name ← secretName name
  let (_, attr) ← orFail (← mutate (self.fs.createNod · parent name attr false false)) fun _ => ENOENT
  pure ⟨TTL, attr.toFuse, 0⟩

/-- `unlink(req, parent, name)`. -/
def unlink (req : Request) (parent : Nat) (name : List UInt8) : Handler σ Unit := do
  let parentAttr ← orFail (← query (self.fs.getInode · parent)) fun _ => ENOENT
  failIf (!checkAccess parentAttr.uid parentAttr.gid parentAttr.perm req.uid req.gid W_OK) EACCES
  let n ← secretName name
  let attr ← foundOr (← query (self.fs.findByName · parent n)) ENOENT
  failIf (stickyDenies parentAttr req.uid attr) EACCES
  let n ← secretName name
  orFail (← mutate (self.fs.removeFile · parent n)) fun _ => ENOENT

/-- `rmdir(req, parent, name)`. -/
def rmdir (req : Request) (parent : Nat) (name : List UInt8) : Handler σ Unit := do
  let parentAttr ← orFail (← query (self.fs.getInode · parent)) fun _ => ENOENT
  failIf (!checkAccess parentAttr.uid parentAttr.gid parentAttr.perm req.uid req.gid W_OK) EACCES
  let n ← secretName name
  let attr ← foundOr (← query (self.fs.findByName · parent n)) ENOENT
  failIf (attr.kind != .directory) ENOTDIR
  failIf (stickyDenies parentAttr req.uid attr) EACCES
  let n ← secretName name
  orFail (← mutate (self.fs.removeDir · parent n)) fun
    | .notEmpty => EISDIR
    | _ => EIO

/-- `rename(req, parent, name, new_parent, new_name)`. -/
def rename (req : Request) (parent : Nat) (name : List UInt8) (newParent : Nat) (newName : List UInt8) :
    Handler σ Unit := do
  let n ← secretName name
  let attr ← foundOr (← query (self.fs.findByName · parent n)) ENOENT
  let parentAttr ← orFail (← query (self.fs.getInode · parent)) fun _ => ENOENT
  failIf (!checkAccess parentAttr.uid parentAttr.gid parentAttr.perm req.uid req.gid W_OK) EACCES
  failIf (stickyDenies parentAttr req.uid attr) EACCES
  let newParentAttr ← orFail (← query (self.fs.getInode · newParent)) fun _ => ENOENT
  failIf (!checkAccess newParentAttr.uid newParentAttr.gid newParentAttr.perm req.uid req.gid W_OK) EACCES
  (if newParentAttr.perm &&& asU16 S_ISVTX != 0 then do
      let nn ← secretName newName
      let found ← query (self.fs.findByName · newParent nn)
      failIf (match found with
        | .ok (some newAttrs) => req.uid != 0 && req.uid != newParentAttr.uid && req.uid != newAttrs.uid
        | _ => false) EACCES
    else pure ())
  failIf (attr.kind == .directory && parent != newParent &&
    !checkAccess attr.uid attr.gid attr.perm req.uid req.gid W_OK) EACCES
  let n ← secretName name
  let nn ← secretName newName
  orFail (← mutate (self.fs.rename · parent n newParent nn)) fun
    | .notEmpty => ENOTEMPTY
    | _ => ENOENT

/-! ## Opening -/

/-- The access `open` checks for its flags, and whether the handle reads and writes. -/
def openAccess (flags : Nat) : Handler σ (Nat × Bool × Bool) :=
  let accmode := flags &&& O_ACCMODE
  if accmode = O_RDONLY then
    if flags &&& O_TRUNC != 0 then fail EACCES
    else if flags &&& FMODE_EXEC != 0 then pure (X_OK, true, false)
    else pure (R_OK, true, false)
  else if accmode = O_WRONLY then pure (W_OK, false, true)
  else if accmode = O_RDWR then pure (R_OK ||| W_OK, true, true)
  else fail EINVAL

/-- `open(req, inode, flags)`. -/
def «open» (req : Request) (inode flags : Nat) : Handler σ ReplyOpen := do
  let (accessMask, read, write) ← openAccess flags
  let truncate := flags &&& O_TRUNC != 0
  let attr ← orFail (← query (self.fs.getInode · inode)) fun _ => EIO
  if checkAccess attr.uid attr.gid attr.perm req.uid req.gid accessMask then do
    (if truncate then do orFail (← mutate (self.fs.truncate · attr.ino 0)) fun _ => EIO else pure ())
    let openFlags := if self.directIo then FOPEN_DIRECT_IO else 0
    let fh ← orFail (← mutate (self.fs.open · inode read write)) fun _ => EIO
    pure ⟨fh, openFlags⟩
  else fail EACCES

/-- Whether the handle `create` opens reads and writes. -/
def createAccess (flags : Nat) : Handler σ (Bool × Bool) :=
  let accmode := flags &&& O_ACCMODE
  if accmode = O_RDONLY then pure (true, false)
  else if accmode = O_WRONLY then pure (false, true)
  else if accmode = O_RDWR then pure (true, true)
  else fail EINVAL

/-- `create(req, parent, name, mode, flags)`. -/
def create (req : Request) (parent : Nat) (name : List UInt8) (mode flags : Nat) : Handler σ ReplyCreated := do
  let (read, write) ← createAccess flags
  let (handle, attr) ← remapErrno (self.createNod parent mode req name read write) fun _ => ENOENT
  pure ⟨TTL, attr.toFuse, 0, handle, 0⟩

/-- `opendir(req, inode, flags)`: no handle, only the check. -/
def opendir (req : Request) (inode flags : Nat) : Handler σ ReplyOpen := do
  let accmode := flags &&& O_ACCMODE
  let accessMask ← (
    if accmode = O_RDONLY then if flags &&& O_TRUNC != 0 then fail EACCES else pure R_OK
    else if accmode = O_WRONLY then pure W_OK
    else if accmode = O_RDWR then pure (R_OK ||| W_OK)
    else fail EINVAL)
  let attr ← orFail (← query (self.fs.getInode · inode)) fun _ => ENOENT
  if checkAccess attr.uid attr.gid attr.perm req.uid req.gid accessMask then
    pure ⟨0, if self.directIo then FOPEN_DIRECT_IO else 0⟩
  else fail EACCES

/-- `access(req, inode, mask)`. -/
def access (req : Request) (inode mask : Nat) : Handler σ Unit := do
  match ← query (self.fs.getInode · inode) with
  | .ok attr => failIf (!checkAccess attr.uid attr.gid attr.perm req.uid req.gid mask) EACCES
  | .error _ => fail ENOENT

/-! ## Contents -/

/-- `read(req, inode, fh, offset, size)`: a buffer of `size` zeros (`vec![0; size as usize]`) for the facade to fill,
and the reply `buf[..len]`. -/
def read (inode fh offset size : Nat) : Handler σ (List UInt8) := do
  let (buf, len) ← orFail (← mutate (self.fs.read · inode offset (List.replicate size 0) fh)) fun _ => EIO
  unwrap (sliceTo buf len)

/-- `write(req, inode, fh, offset, data, write_flags, flags)`: the facade's count, sent `as u32`. -/
def write (inode fh offset : Nat) (data : List UInt8) : Handler σ Nat := do
  let len ← orFail (← mutate (self.fs.write · inode offset data fh)) fun _ => EIO
  pure (len % 2 ^ 32)

/-- `copy_file_range(req, inode, fh_in, off_in, inode_out, fh_out, off_out, length, flags)`: the facade's count
(`length as usize` and `len as u64` keep their values on a 64-bit target). -/
def copyFileRange (inode fhIn offIn inodeOut fhOut offOut length : Nat) : Handler σ Nat := do
  let len ← orFail (← mutate (self.fs.copyFileRange · inode offIn inodeOut offOut length fhIn fhOut)) fun _ => EIO
  pure len

/-! ## Handles -/

/-- `flush(req, inode, fh, lock_owner)`. -/
def flush (fh : Nat) : Handler σ Unit := do
  orFail (← mutate (self.fs.flush · fh)) fun _ => EIO

/-- `release(req, inode, fh, flags, lock_owner, flush)`. `is_write_handle` is an `async fn`: the future that
`fs.is_write_handle(fh)` makes before `fs.release(fh)` runs its body where it is awaited, after `fs.release(fh)`. -/
def release (inode fh : Nat) (flush : Bool) : Handler σ Unit := do
  (if flush then do orFail (← mutate (self.fs.flush · fh)) fun _ => EIO else pure ())
  orFail (← mutate (self.fs.release · fh)) fun _ => EIO
  if ← query (self.fs.isWriteHandle · fh) then do
    let attr ← orFail (← query (self.fs.getInode · inode)) fun _ => ENOENT
    orFail (← mutate (self.fs.updateInode · inode (SetFileAttr.withPerm {} (clearSuidSgid attr.perm)))) fun _ => EIO
  else pure ()

/-! ## Listing -/

/-- `readdir(req, inode, fh, offset)`: the listing from the start, less its first `offset as usize` items. -/
def readdir (inode : Nat) (offset : Int) : Handler σ (List (Except Nat DirectoryEntry)) := do
  let iter ← orFail (← query (self.fs.readDir · inode)) fun _ => EIO
  pure ((directoryEntryIterator iter 0).drop (asU64 offset))

/-- `readdirplus(req, parent, fh, offset, lock_owner)`: as `readdir`, with attributes; `offset` is a `u64`. -/
def readdirplus (parent offset : Nat) : Handler σ (List (Except Nat DirectoryEntryPlus)) := do
  let iter ← orFail (← query (self.fs.readDirPlus · parent)) fun _ => EIO
  pure ((directoryEntryPlusIterator iter 0).drop offset)

end EncryptedFsFuse3

end Rencfs

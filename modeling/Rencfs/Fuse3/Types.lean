import Rencfs.Rust.Utf8
import Rencfs.Rust.Time

/-!
# The data of the FUSE adapter (`encryptedfs_fuse3.rs`)

What `EncryptedFsFuse3` reads and builds: the `libc` constants it uses, the facade's attribute records and errors, the
kernel's requests and the replies, and the adapter's pure helpers (`check_access`, `clear_suid_sgid`, `as_file_kind`,
`dir_attr`, `file_attr`, `creation_gid`, `system_time_from_timestamp` and the conversion of attributes for a reply).

Integers of the code are naturals here: ids, modes and flags are non-negative and the helpers only mask them, so the
only fixed widths that show are the casts (`as u16`, `as u64`, `as i64`) and Rust's `!` on a `u16` or a `u32`.
`check_access` takes its `i32` mask as a natural: every caller passes one of `F_OK`, `R_OK`, `W_OK`, `X_OK` or
`R_OK | W_OK`, or the kernel's `access` mask.
-/

namespace Rencfs

/-! ## `libc` -/

namespace Libc

def EPERM : Nat := 1
def ENOENT : Nat := 2
def EIO : Nat := 5
def EACCES : Nat := 13
def EEXIST : Nat := 17
def ENOTDIR : Nat := 20
def EISDIR : Nat := 21
def EINVAL : Nat := 22
def ENAMETOOLONG : Nat := 36
def ENOSYS : Nat := 38
def ENOTEMPTY : Nat := 39

def F_OK : Nat := 0
def X_OK : Nat := 1
def W_OK : Nat := 2
def R_OK : Nat := 4

def O_ACCMODE : Nat := 0o3
def O_RDONLY : Nat := 0
def O_WRONLY : Nat := 1
def O_RDWR : Nat := 2
def O_CREAT : Nat := 0o100
def O_TRUNC : Nat := 0o1000
def O_APPEND : Nat := 0o2000

def S_IFMT : Nat := 0o170000
def S_IFREG : Nat := 0o100000
def S_IFDIR : Nat := 0o40000
def S_ISUID : Nat := 0o4000
def S_ISGID : Nat := 0o2000
def S_ISVTX : Nat := 0o1000
def S_IXUSR : Nat := 0o100
def S_IXGRP : Nat := 0o10
def S_IXOTH : Nat := 0o1

end Libc

open Libc

/-- `!x` on a `u32`. -/
def bitNot32 (x : Nat) : Nat := 0xFFFFFFFF ^^^ x

/-- `!x` on a `u16`. -/
def bitNot16 (x : Nat) : Nat := 0xFFFF ^^^ x

/-- `x as u16`. -/
def asU16 (x : Nat) : Nat := x % 65536

/-- `x as i64` for a `u64` `x`: the same bits, read signed. -/
def asI64 (x : Nat) : Int := if x < 9223372036854775808 then x else x - 18446744073709551616

/-- `FMODE_EXEC`. -/
def FMODE_EXEC : Nat := 0x20

/-- `FOPEN_DIRECT_IO`. -/
def FOPEN_DIRECT_IO : Nat := 1

/-- `TTL`: one second. -/
def TTL : Duration := ⟨1, 0⟩

/-! ## The facade's records -/

/-- Modelled from the spec: the facade's `FileType`, regular file or directory (`encryptedfs.rs` is not in the
sources). -/
inductive FileType where
  | regularFile
  | directory
  deriving DecidableEq, Repr

/-- Modelled from the spec: the facade's `FileAttr`, less `crtime` and `flags`, which the adapter never reads. -/
structure FileAttr where
  ino : Nat
  size : Nat
  blocks : Nat
  atime : SystemTime
  mtime : SystemTime
  ctime : SystemTime
  kind : FileType
  perm : Nat
  nlink : Nat
  uid : Nat
  gid : Nat
  rdev : Nat
  blksize : Nat
  deriving DecidableEq, Repr

/-- Modelled from the spec: the facade's sparse patch `SetFileAttr`, of the fields the adapter sets;
`Default::default()` is the patch that sets nothing. -/
structure SetFileAttr where
  size : Option Nat := none
  atime : Option SystemTime := none
  mtime : Option SystemTime := none
  ctime : Option SystemTime := none
  perm : Option Nat := none
  uid : Option Nat := none
  gid : Option Nat := none
  deriving DecidableEq, Repr

namespace SetFileAttr

def withSize (p : SetFileAttr) (v : Nat) : SetFileAttr := { p with size := some v }
def withAtime (p : SetFileAttr) (v : SystemTime) : SetFileAttr := { p with atime := some v }
def withMtime (p : SetFileAttr) (v : SystemTime) : SetFileAttr := { p with mtime := some v }
def withCtime (p : SetFileAttr) (v : SystemTime) : SetFileAttr := { p with ctime := some v }
def withPerm (p : SetFileAttr) (v : Nat) : SetFileAttr := { p with perm := some v }
def withUid (p : SetFileAttr) (v : Nat) : SetFileAttr := { p with uid := some v }
def withGid (p : SetFileAttr) (v : Nat) : SetFileAttr := { p with gid := some v }

end SetFileAttr

/-- Modelled from the spec: the facade's `CreateFileAttr`, the draft attributes of a new inode. -/
structure CreateFileAttr where
  kind : FileType
  perm : Nat
  uid : Nat
  gid : Nat
  rdev : Nat
  flags : Nat
  deriving DecidableEq, Repr

/-- Modelled from the spec: the facade's error kinds (`FsError`). An I/O error carries the message of its `source` and
the OS error number, if any. -/
inductive FsError where
  | notFound
  | alreadyExists
  | invalidName
  | nameTooLong
  | notDir
  | isDir
  | notEmpty
  | badHandle
  | readOnlyHandle
  | invalidInput
  | corruptBlock
  | io (message : String) (raw : Option Nat)
  | other (message : String)
  deriving DecidableEq, Repr

/-- Modelled from the spec: an entry of the facade's `read_dir`. -/
structure DirEntry where
  ino : Nat
  name : RustStr
  kind : FileType
  deriving DecidableEq

/-- Modelled from the spec: an entry of the facade's `read_dir_plus`. -/
structure DirEntryPlus where
  ino : Nat
  name : RustStr
  kind : FileType
  attr : FileAttr
  deriving DecidableEq

/-! ## The kernel's side (`fuse3`) -/

/-- A `Request`, of the fields the adapter reads. -/
structure Request where
  uid : Nat
  gid : Nat
  pid : Nat
  deriving DecidableEq, Repr

/-- A `Timestamp`: `i64` seconds and `u32` nanoseconds. -/
structure Timestamp where
  sec : Int
  nsec : Nat
  deriving DecidableEq, Repr

/-- A `SetAttr` request, of the fields the adapter reads. -/
structure SetAttr where
  mode : Option Nat := none
  uid : Option Nat := none
  gid : Option Nat := none
  size : Option Nat := none
  atime : Option Timestamp := none
  mtime : Option Timestamp := none
  deriving DecidableEq, Repr

/-- `fuse3::raw::prelude::FileType`, of the two kinds the adapter answers with. -/
inductive FuseFileType where
  | directory
  | regularFile
  deriving DecidableEq, Repr

/-- `fuse3::raw::prelude::FileAttr`; its times are kept as the `SystemTime`s they are converted from. -/
structure FuseFileAttr where
  ino : Nat
  size : Nat
  blocks : Nat
  atime : SystemTime
  mtime : SystemTime
  ctime : SystemTime
  kind : FuseFileType
  perm : Nat
  nlink : Nat
  uid : Nat
  gid : Nat
  rdev : Nat
  blksize : Nat
  deriving DecidableEq, Repr

structure ReplyEntry where
  ttl : Duration
  attr : FuseFileAttr
  generation : Nat
  deriving DecidableEq, Repr

structure ReplyAttr where
  ttl : Duration
  attr : FuseFileAttr
  deriving DecidableEq, Repr

structure ReplyOpen where
  fh : Nat
  flags : Nat
  deriving DecidableEq, Repr

structure ReplyCreated where
  ttl : Duration
  attr : FuseFileAttr
  generation : Nat
  fh : Nat
  flags : Nat
  deriving DecidableEq, Repr

/-- A `DirectoryEntry` of a `readdir` reply; its name is the `OsString` of the facade's name. -/
structure DirectoryEntry where
  inode : Nat
  kind : FuseFileType
  name : List UInt8
  offset : Int
  deriving DecidableEq, Repr

/-- A `DirectoryEntryPlus` of a `readdirplus` reply. -/
structure DirectoryEntryPlus where
  inode : Nat
  generation : Nat
  kind : FuseFileType
  name : List UInt8
  offset : Int
  attr : FuseFileAttr
  entryTtl : Duration
  attrTtl : Duration
  deriving DecidableEq, Repr

/-! ## The adapter's helpers -/

/-- The kind of a reply: a directory, or else a regular file. -/
def fuseKind (k : FileType) : FuseFileType := if k = .directory then .directory else .regularFile

/-- `impl From<FileAttr> for fuse3::raw::prelude::FileAttr`. -/
def FileAttr.toFuse (a : FileAttr) : FuseFileAttr :=
  ⟨a.ino, a.size, a.blocks, a.atime, a.mtime, a.ctime, fuseKind a.kind, a.perm, a.nlink, a.uid, a.gid, a.rdev,
    a.blksize⟩

/-- `check_access(file_uid, file_gid, file_mode, uid, gid, access_mask)`: root may read and write anything and
execute what some `x` bit allows; anyone else is judged by the owner's, the group's or the others' bits. -/
def checkAccess (fileUid fileGid fileMode uid gid accessMask : Nat) : Bool :=
  if accessMask = F_OK then true
  else if uid = 0 then
    let m := accessMask &&& X_OK
    let m := m - (m &&& (fileMode >>> 6))
    let m := m - (m &&& (fileMode >>> 3))
    let m := m - (m &&& fileMode)
    m == 0
  else
    let m :=
      if uid = fileUid then accessMask - (accessMask &&& (fileMode >>> 6))
      else if gid = fileGid then accessMask - (accessMask &&& (fileMode >>> 3))
      else accessMask - (accessMask &&& fileMode)
    m == 0

/-- `clear_suid_sgid(perm)`: SUID always, SGID when the group may execute. -/
def clearSuidSgid (perm : Nat) : Nat :=
  let perm := perm &&& asU16 (bitNot32 S_ISUID)
  if perm &&& asU16 S_IXGRP ≠ 0 then perm &&& asU16 (bitNot32 S_ISGID) else perm

/-- `as_file_kind(mode)`: `unimplemented!` (a panic, `none`) unless the mode is a regular file's or a directory's. -/
def asFileKind (mode : Nat) : Option FileType :=
  let mode := mode &&& S_IFMT
  if mode = S_IFREG then some .regularFile
  else if mode = S_IFDIR then some .directory
  else none

/-- `dir_attr()`. -/
def dirAttr : CreateFileAttr := ⟨.directory, 0o777, 0, 0, 0, 0⟩

/-- `file_attr()`. -/
def fileAttr : CreateFileAttr := ⟨.regularFile, 0o644, 0, 0, 0, 0⟩

/-- `creation_gid(parent, gid)`: the parent's group under a SGID parent. -/
def creationGid (parent : FileAttr) (gid : Nat) : Nat :=
  if parent.perm &&& asU16 S_ISGID ≠ 0 then parent.gid else gid

/-- `system_time_from_timestamp(t)`: `UNIX_EPOCH + Duration::new(t.sec as u64, t.nsec)`. -/
def systemTimeFromTimestamp (t : Timestamp) : Option SystemTime :=
  (Duration.new (asU64 t.sec) t.nsec).bind UNIX_EPOCH.add

end Rencfs

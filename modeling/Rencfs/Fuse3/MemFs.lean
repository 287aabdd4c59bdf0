import Rencfs.Fuse3.Adapter

/-!
# An in-memory facade

The facade behind the adapter is not in the sources. `MemFs` is one facade after the spec's table of its operations
(§4.8), with the errors the table lists: inodes and their attributes, the entries of the directories, the open handles
and the plaintext of the files. It leaves out the on-disk encryption, which no handler sees, and stands in for the
real facade where a result is shown on a concrete state.
-/

namespace Rencfs

/-- Modelled from the spec: the state of an in-memory `EncryptedFs`. An entry is a parent, a name and an inode; an
open handle is its number and whether it writes; the contents are the bytes last stored for an inode, the latest
first. -/
structure MemFs where
  inodes : List FileAttr
  entries : List (Nat × RustStr × Nat)
  nextIno : Nat
  nextFh : Nat
  handles : List (Nat × Bool)
  contents : List (Nat × List UInt8)

namespace MemFs

/-- A sparse patch applied to attributes: the fields it sets replace the old ones. -/
def patch (a : FileAttr) (p : SetFileAttr) : FileAttr :=
  { a with
    size := p.size.getD a.size
    atime := p.atime.getD a.atime
    mtime := p.mtime.getD a.mtime
    ctime := p.ctime.getD a.ctime
    perm := p.perm.getD a.perm
    uid := p.uid.getD a.uid
    gid := p.gid.getD a.gid }

/-- Modelled from the spec: `get_inode(ino)`, `NotFound`. -/
def getInode (s : MemFs) (ino : Nat) : Except FsError FileAttr :=
  match s.inodes.find? (·.ino == ino) with
  | some a => .ok a
  | none => .error .notFound

/-- The attributes of an inode replaced. -/
def setInode (s : MemFs) (a : FileAttr) : MemFs :=
  { s with inodes := s.inodes.map fun b => if b.ino = a.ino then a else b }

/-- The bytes stored for an inode, none for one never written. -/
def bytes (s : MemFs) (ino : Nat) : List UInt8 := ((s.contents.find? (·.1 == ino)).map (·.2)).getD []

/-- The plaintext of the file `a`: its stored bytes, cut or padded with zeros to its size. -/
def fileData (s : MemFs) (a : FileAttr) : List UInt8 := (s.bytes a.ino ++ List.replicate a.size 0).take a.size

/-- The file `a` given the plaintext `b`, its size the length of `b`. -/
def setData (s : MemFs) (a : FileAttr) (b : List UInt8) : MemFs :=
  { s.setInode { a with size := b.length } with contents := (a.ino, b) :: s.contents }

/-- The entry of `name` in `parent`. -/
def entry (s : MemFs) (parent : Nat) (name : RustStr) : Option Nat :=
  (s.entries.find? fun e => e.1 == parent && e.2.1 == name).map (·.2.2)

/-- Modelled from the spec: `find_by_name(parent, name)`, `NotFound` for a missing parent. -/
def findByName (s : MemFs) (parent : Nat) (name : RustStr) : Except FsError (Option FileAttr) := do
  let _ ← s.getInode parent
  match s.entry parent name with
  | some ino => some <$> s.getInode ino
  | none => pure none

/-- A directory that must exist and be one: `NotFound`, `NotDir`. -/
def getDir (s : MemFs) (ino : Nat) : Except FsError FileAttr := do
  let a ← s.getInode ino
  if a.kind = .directory then pure a else throw .notDir

/-- Modelled from the spec: `create_nod(parent, name, attrs, read, write)`: `NotFound`, `NotDir`, `AlreadyExists`,
and `NameTooLong` past 255 bytes. A handle is opened when the node is opened for reading or writing. -/
def createNod (s : MemFs) (parent : Nat) (name : RustStr) (c : CreateFileAttr) (read write : Bool) :
    Except FsError ((Nat × FileAttr) × MemFs) := do
  let _ ← s.getDir parent
  if (s.entry parent name).isSome then throw .alreadyExists
  if 255 < name.bytes.length then throw .nameTooLong
  let a : FileAttr := ⟨s.nextIno, 0, 0, UNIX_EPOCH, UNIX_EPOCH, UNIX_EPOCH, c.kind, c.perm,
    if c.kind = .directory then 2 else 1, c.uid, c.gid, c.rdev, 4096⟩
  let fh := if read || write then s.nextFh else 0
  pure ((fh, a), { s with
    inodes := a :: s.inodes
    entries := s.entries ++ [(parent, name, s.nextIno)]
    nextIno := s.nextIno + 1
    nextFh := if read || write then s.nextFh + 1 else s.nextFh
    handles := if read || write then (s.nextFh, write) :: s.handles else s.handles })

/-- The state without the entry of `name` in `parent`. -/
def dropEntry (s : MemFs) (parent : Nat) (name : RustStr) : MemFs :=
  { s with entries := s.entries.filter fun e => !(e.1 == parent && e.2.1 == name) }

/-- Modelled from the spec: `remove_file(parent, name)`: `NotFound`, and `IsDir` for a directory. -/
def removeFile (s : MemFs) (parent : Nat) (name : RustStr) : Except FsError (Unit × MemFs) := do
  let some ino := s.entry parent name | throw .notFound
  let a ← s.getInode ino
  if a.kind = .directory then throw .isDir
  pure ((), s.dropEntry parent name)

/-- Modelled from the spec: `remove_dir(parent, name)`: `NotFound`, `NotDir`, `NotEmpty`. -/
def removeDir (s : MemFs) (parent : Nat) (name : RustStr) : Except FsError (Unit × MemFs) := do
  let some ino := s.entry parent name | throw .notFound
  let _ ← s.getDir ino
  if s.entries.any (·.1 == ino) then throw .notEmpty
  pure ((), s.dropEntry parent name)

/-- Modelled from the spec: `rename(parent, name, new_parent, new_name)`: `NotFound`, and `NotEmpty` over a directory
that has entries. -/
def rename (s : MemFs) (parent : Nat) (name : RustStr) (newParent : Nat) (newName : RustStr) :
    Except FsError (Unit × MemFs) := do
  let some ino := s.entry parent name | throw .notFound
  let _ ← s.getDir newParent
  if let some old := s.entry newParent newName then
    if s.entries.any (·.1 == old) then throw .notEmpty
  let s := (s.dropEntry parent name).dropEntry newParent newName
  pure ((), { s with entries := s.entries ++ [(newParent, newName, ino)] })

/-- Modelled from the spec: `truncate(ino, size)`: `NotFound`, `IsDir`; the plaintext cut, or padded with zeros, to
`size` bytes. -/
def truncate (s : MemFs) (ino size : Nat) : Except FsError (Unit × MemFs) := do
  let a ← s.getInode ino
  if a.kind = .directory then throw .isDir
  pure ((), s.setData a ((s.fileData a ++ List.replicate size 0).take size))

/-- Modelled from the spec: `update_inode(ino, patch)`: `NotFound`. -/
def updateInode (s : MemFs) (ino : Nat) (p : SetFileAttr) : Except FsError (Unit × MemFs) := do
  let a ← s.getInode ino
  pure ((), s.setInode (patch a p))

/-- Modelled from the spec: `open(ino, read, write)`: `NotFound`, `IsDir`; a new handle. -/
def «open» (s : MemFs) (ino : Nat) (_read write : Bool) : Except FsError (Nat × MemFs) := do
  let a ← s.getInode ino
  if a.kind = .directory then throw .isDir
  pure (s.nextFh, { s with nextFh := s.nextFh + 1, handles := (s.nextFh, write) :: s.handles })

/-- Whether `fh` is an open handle, and whether it writes. -/
def handle (s : MemFs) (fh : Nat) : Option Bool := (s.handles.find? (·.1 == fh)).map (·.2)

/-- `data` written over `b` from `offset`, after zeros when `offset` is past the end. -/
def splice (b : List UInt8) (offset : Nat) (data : List UInt8) : List UInt8 :=
  b.take offset ++ List.replicate (offset - b.length) 0 ++ data ++ b.drop (offset + data.length)

/-- What a read of `n` bytes of `b` from `offset` gets: as many bytes as there are. -/
def readAt (b : List UInt8) (offset n : Nat) : List UInt8 := (b.drop offset).take n

/-- Modelled from the spec: `read(ino, offset, buf, fh)`: `BadHandle`, `NotFound`; the plaintext from `offset`,
copied to the front of `buf`, and how many bytes. -/
def read (s : MemFs) (ino offset : Nat) (buf : List UInt8) (fh : Nat) :
    Except FsError ((List UInt8 × Nat) × MemFs) := do
  let some _ := s.handle fh | throw .badHandle
  let a ← s.getInode ino
  let r := readAt (s.fileData a) offset buf.length
  pure ((r ++ buf.drop r.length, r.length), s)

/-- Modelled from the spec: `write(ino, offset, data, fh)`: `BadHandle`, `ReadOnlyHandle`, `NotFound`; `data`
spliced into the plaintext at `offset`, all of it written. -/
def write (s : MemFs) (ino offset : Nat) (data : List UInt8) (fh : Nat) : Except FsError (Nat × MemFs) := do
  let some w := s.handle fh | throw .badHandle
  if !w then throw .readOnlyHandle
  let a ← s.getInode ino
  pure (data.length, s.setData a (splice (s.fileData a) offset data))

/-- Modelled from the spec: `copy_file_range(ino_in, off_in, ino_out, off_out, len, fh_in, fh_out)`: what a read of
`len` bytes from `off_in` gets, written at `off_out`. -/
def copyFileRange (s : MemFs) (inoIn offIn inoOut offOut len fhIn fhOut : Nat) : Except FsError (Nat × MemFs) := do
  let some _ := s.handle fhIn | throw .badHandle
  let a ← s.getInode inoIn
  s.write inoOut offOut (readAt (s.fileData a) offIn len) fhOut

/-- A read that succeeds: the plaintext of an inode that exists, the state unchanged. -/
theorem read_ok {s s' : MemFs} {ino offset fh : Nat} {buf : List UInt8} {r : List UInt8 × Nat}
    (h : s.read ino offset buf fh = .ok (r, s')) : ∃ a, s.getInode ino = .ok a ∧ s' = s ∧
      r = (readAt (s.fileData a) offset buf.length ++ buf.drop (readAt (s.fileData a) offset buf.length).length,
        (readAt (s.fileData a) offset buf.length).length) := by
  simp only [MemFs.read, bind, Except.bind, pure, Except.pure, throw, throwThe, MonadExceptOf.throw] at h
  repeat' split at h
  all_goals cases h
  exact ⟨_, ‹_›, rfl, rfl⟩

/-- A write that succeeds: through a write handle, on an inode that exists, all of `data` spliced in. -/
theorem write_ok {s s' : MemFs} {ino offset fh n : Nat} {data : List UInt8}
    (h : s.write ino offset data fh = .ok (n, s')) : ∃ a, s.getInode ino = .ok a ∧ n = data.length ∧
      s' = s.setData a (splice (s.fileData a) offset data) := by
  simp only [MemFs.write, bind, Except.bind, pure, Except.pure, throw, throwThe, MonadExceptOf.throw] at h
  repeat' split at h
  all_goals cases h
  exact ⟨_, ‹_›, rfl, rfl⟩

/-- A copy that succeeds is a write of the bytes read. -/
theorem copyFileRange_ok {s s' : MemFs} {inoIn offIn inoOut offOut len fhIn fhOut n : Nat}
    (h : s.copyFileRange inoIn offIn inoOut offOut len fhIn fhOut = .ok (n, s')) :
    ∃ data, s.write inoOut offOut data fhOut = .ok (n, s') := by
  simp only [MemFs.copyFileRange, bind, Except.bind, throw, throwThe, MonadExceptOf.throw] at h
  repeat' split at h
  all_goals first | cases h | exact ⟨_, h⟩

/-- The entries of a directory, in the order they were made. -/
def children (s : MemFs) (ino : Nat) : List (Nat × RustStr × Nat) := s.entries.filter (·.1 == ino)

/-- Modelled from the spec: `read_dir(ino)`: `NotFound`, `NotDir`. -/
def readDir (s : MemFs) (ino : Nat) : Except FsError (List (Except FsError DirEntry)) := do
  let _ ← s.getDir ino
  pure ((s.children ino).map fun e => (fun a => ⟨e.2.2, e.2.1, a.kind⟩) <$> s.getInode e.2.2)

/-- Modelled from the spec: `read_dir_plus(ino)`: `NotFound`, `NotDir`. -/
def readDirPlus (s : MemFs) (ino : Nat) : Except FsError (List (Except FsError DirEntryPlus)) := do
  let _ ← s.getDir ino
  pure ((s.children ino).map fun e => (fun a => ⟨e.2.2, e.2.1, a.kind, a⟩) <$> s.getInode e.2.2)

/-- Modelled from the spec: `flush(fh)`: `BadHandle`. Nothing is buffered here. -/
def flush (s : MemFs) (fh : Nat) : Except FsError (Unit × MemFs) :=
  if s.handles.any (·.1 == fh) then .ok ((), s) else .error .badHandle

/-- Modelled from the spec: `release(fh)`: `BadHandle`; the handle is destroyed. -/
def release (s : MemFs) (fh : Nat) : Except FsError (Unit × MemFs) :=
  if s.handles.any (·.1 == fh) then .ok ((), { s with handles := s.handles.filter (·.1 != fh) })
  else .error .badHandle

/-- Whether `fh` is an open handle that writes. -/
def isWriteHandle (s : MemFs) (fh : Nat) : Bool := s.handles.any fun h => h.1 == fh && h.2

/-- The in-memory facade. -/
def fs : EncryptedFs MemFs where
  getInode := getInode
  findByName := findByName
  createNod := createNod
  removeFile := removeFile
  removeDir := removeDir
  rename := rename
  truncate := truncate
  updateInode := updateInode
  «open» := MemFs.open
  read := read
  read_length h := by
    obtain ⟨_, -, -, hr⟩ := read_ok h
    simp only [hr, readAt, List.length_append, List.length_drop, List.length_take]
    omega
  write := write
  copyFileRange := copyFileRange
  readDir := readDir
  readDirPlus := readDirPlus
  flush := flush
  release := release
  isWriteHandle := isWriteHandle

/-! ## A small tree -/

/-- The attributes of the root directory of `oneFile`: inode 1, root's, `rwxr-xr-x`. -/
def rootDir : FileAttr := ⟨1, 0, 0, UNIX_EPOCH, UNIX_EPOCH, UNIX_EPOCH, .directory, 0o755, 2, 0, 0, 0, 4096⟩

/-- The attributes of the file of `oneFile`: inode 2, root's, `rw-r--r--`, ten bytes long. -/
def rootFile : FileAttr := ⟨2, 10, 1, UNIX_EPOCH, UNIX_EPOCH, UNIX_EPOCH, .regularFile, 0o644, 1, 0, 0, 0, 4096⟩

/-- The name `f`. -/
def nameF : RustStr := ⟨[0x66], rfl⟩

/-- A root directory holding one file, `f`. -/
def oneFile : MemFs := ⟨[rootDir, rootFile], [(1, nameF, 2)], 3, 1, [], []⟩

end MemFs

/-- The adapter over the in-memory facade, without direct I/O or SUID support. -/
def memFuse : EncryptedFsFuse3 MemFs := ⟨MemFs.fs, false, false⟩

/-- A system whose clock reads 100 s past the epoch and whose processes are in no supplementary group. -/
def sampleSys : Sys := ⟨⟨100, 0⟩, fun _ => some []⟩

/-- A request from root. -/
def rootReq : Request := ⟨0, 0, 1⟩

/-- A request from an ordinary user, uid and gid 1000. -/
def userReq : Request := ⟨1000, 1000, 2⟩

end Rencfs

import Rencfs.Rust.HashMap
import Rencfs.Rust.Utf8
import Rencfs.Rust.Time
import Rencfs.Rust.Text
import Rencfs.ArcHashMap.Model
import Rencfs.ArcHashMap.Invariant
import Rencfs.ArcHashMap.Holders
import Rencfs.ExpireValue.Model
import Rencfs.ExpireValue.Sequential
import Rencfs.ExpireValue.Concurrent
import Rencfs.Fuse3.Types
import Rencfs.Fuse3.Access
import Rencfs.Fuse3.Handler
import Rencfs.Fuse3.Adapter
import Rencfs.Fuse3.MemFs
import Rencfs.Fuse3.Listing
import Rencfs.Fuse3.Names
import Rencfs.Fuse3.Setattr
import Rencfs.Fuse3.Gates
import Rencfs.Fuse3.Release
import Rencfs.Fuse3.Errnos
import Rencfs.Fuse3.Contract
import Rencfs.Fuse3.Suid
import Rencfs.Fuse3.Owners
import Rencfs.Fuse3.Modes
import Rencfs.Fuse3.Atomic
import Rencfs.Fuse3.Entries
import Rencfs.Fuse3.Sticky
import Rencfs.Fuse3.Groups
import Rencfs.Fuse3.Data
import Rencfs.Fuse3.Creation

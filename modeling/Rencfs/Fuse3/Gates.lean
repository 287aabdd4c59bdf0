import Rencfs.Fuse3.Setattr

/-!
# The permission checks the handlers do make

For every facade and every caller, each handler below changes the facade only after the checks POSIX asks of it
have passed on the attributes the facade returned, in the state the request found:

* `create`, `mknod` and `mkdir` need write access to the parent;
* `unlink` and `rmdir` need write access to the parent and, in a sticky parent, to own the parent or the entry;
  `rmdir` only removes directories;
* `rename` needs write access to both parents, the sticky rule in both, and write access to a directory it moves to
  another parent;
* `open` checks the access its flags ask for, which includes writing whenever it truncates;
* `setattr` changes permissions only for root or the owner, and times only for the owner or a caller that may write.

The two branches of `setattr` that are not here, `truncate` and `chown`, check nothing (`Setattr`). The handlers that
only read (`lookup`, `getattr`, `readdir`, `readdirplus`, `access`, `opendir`) never change the facade.
-/

namespace Rencfs

open Libc Handler SetattrAux

/-- The caller may write inode `ino` in state `s`: the facade returns its attributes and `check_access` grants
`W_OK`. -/
def EncryptedFsFuse3.Writable {σ : Type} (self : EncryptedFsFuse3 σ) (s : σ) (req : Request) (ino : Nat) : Prop :=
  ∃ a, self.fs.getInode s ino = .ok a ∧ checkAccess a.uid a.gid a.perm req.uid req.gid W_OK = true

namespace GatesAux

variable {σ : Type} (self : EncryptedFsFuse3 σ)

/-- The prefix shared by the handlers that need write access to a directory: `get_inode(parent)`, then
`check_access(.., W_OK)`. A run that changed the facade passed both. -/
theorem writable_of_ne {parent : Nat} {req : Request} {k : FileAttr → Handler σ β} {s : σ}
    (h : ((do
      let pa ← orFail (← query (self.fs.getInode · parent)) fun _ => ENOENT
      failIf (!checkAccess pa.uid pa.gid pa.perm req.uid req.gid W_OK) EACCES
      k pa) s).2 ≠ s) :
    ∃ pa, self.fs.getInode s parent = .ok pa ∧ checkAccess pa.uid pa.gid pa.perm req.uid req.gid W_OK = true ∧
      (k pa s).2 ≠ s := by
  obtain ⟨pa, hg, h⟩ := orFail_query_bind_of_ne h
  obtain ⟨_, hf, h⟩ := (Reads.failIf _ _).bind_of_ne h
  exact ⟨pa, hg, by simpa using failIf_reply hf, h⟩

theorem createNod_changed {parent mode : Nat} {req : Request} {name : List UInt8} {rd wr : Bool} {s : σ}
    (h : (self.createNod parent mode req name rd wr s).2 ≠ s) :
    self.Writable s req parent := by
  obtain ⟨pa, hg, hw, -⟩ := writable_of_ne self h
  exact ⟨pa, hg, hw⟩

theorem unlink_changed {req : Request} {parent : Nat} {name : List UInt8} {s : σ}
    (h : (self.unlink req parent name s).2 ≠ s) :
    ∃ pa, self.fs.getInode s parent = .ok pa ∧ checkAccess pa.uid pa.gid pa.perm req.uid req.gid W_OK = true ∧
      ∃ n attr, toStr name = some n ∧ self.fs.findByName s parent n = .ok (some attr) ∧
        stickyDenies pa req.uid attr = false := by
  obtain ⟨pa, hg, hw, h⟩ := writable_of_ne self h
  obtain ⟨n, hn, h⟩ := (Reads.unwrap _).bind_of_ne h
  obtain ⟨attr, hfo, h⟩ := foundOr_query_bind_of_ne h
  obtain ⟨_, hf, -⟩ := (Reads.failIf _ _).bind_of_ne h
  exact ⟨pa, hg, hw, n, attr, unwrap_reply hn, hfo, failIf_reply hf⟩

theorem rmdir_changed {req : Request} {parent : Nat} {name : List UInt8} {s : σ}
    (h : (self.rmdir req parent name s).2 ≠ s) :
    ∃ pa, self.fs.getInode s parent = .ok pa ∧ checkAccess pa.uid pa.gid pa.perm req.uid req.gid W_OK = true ∧
      ∃ n attr, toStr name = some n ∧ self.fs.findByName s parent n = .ok (some attr) ∧
        attr.kind = .directory ∧ stickyDenies pa req.uid attr = false := by
  obtain ⟨pa, hg, hw, h⟩ := writable_of_ne self h
  obtain ⟨n, hn, h⟩ := (Reads.unwrap _).bind_of_ne h
  obtain ⟨attr, hfo, h⟩ := foundOr_query_bind_of_ne h
  obtain ⟨_, hd, h⟩ := (Reads.failIf _ _).bind_of_ne h
  obtain ⟨_, hf, -⟩ := (Reads.failIf _ _).bind_of_ne h
  exact ⟨pa, hg, hw, n, attr, unwrap_reply hn, hfo, by simpa using failIf_reply hd,
    failIf_reply hf⟩

theorem mkdir_changed {req : Request} {parent : Nat} {name : List UInt8} {mode : Nat} {s : σ}
    (h : (self.mkdir req parent name mode s).2 ≠ s) :
    self.Writable s req parent := by
  obtain ⟨pa, hg, hw, -⟩ := writable_of_ne self h
  exact ⟨pa, hg, hw⟩

/-- The check `rename` makes on the entry it replaces, once passed: the sticky rule lets the caller replace it. -/
theorem rename_target {req : Request} {newParent : Nat} {newName : List UInt8} {npa : FileAttr} {s : σ} {u : Unit}
    (h : (if npa.perm &&& asU16 S_ISVTX != 0 then do
        let nn ← secretName newName
        let found ← query (self.fs.findByName · newParent nn)
        failIf (match found with
          | .ok (some newAttrs) => req.uid != 0 && req.uid != npa.uid && req.uid != newAttrs.uid
          | _ => false) EACCES
      else pure ()) s = (.reply u, s))
    {nn : RustStr} {old : FileAttr} (hnn : toStr newName = some nn)
    (hold : self.fs.findByName s newParent nn = .ok (some old)) : stickyDenies npa req.uid old = false := by
  by_cases hc : (npa.perm &&& asU16 S_ISVTX != 0) = true
  · rw [if_pos hc] at h
    obtain ⟨nn', hu, h1⟩ := (Reads.unwrap _).bind_reply h
    obtain ⟨found, hq2, hf2⟩ := (Reads.query _).bind_reply h1
    obtain rfl : nn' = nn := Option.some.inj ((unwrap_reply hu).symm.trans hnn)
    rw [← query_reply hq2, hold] at hf2
    simpa [stickyDenies, hc] using failIf_reply hf2
  · simp [stickyDenies, hc]

theorem rename_changed {req : Request} {parent newParent : Nat} {name newName : List UInt8} {s : σ}
    (h : (self.rename req parent name newParent newName s).2 ≠ s) :
    ∃ n attr pa npa, toStr name = some n ∧ self.fs.findByName s parent n = .ok (some attr) ∧
      self.fs.getInode s parent = .ok pa ∧ checkAccess pa.uid pa.gid pa.perm req.uid req.gid W_OK = true ∧
      stickyDenies pa req.uid attr = false ∧
      self.fs.getInode s newParent = .ok npa ∧ checkAccess npa.uid npa.gid npa.perm req.uid req.gid W_OK = true ∧
      (∀ nn old, toStr newName = some nn → self.fs.findByName s newParent nn = .ok (some old) →
        stickyDenies npa req.uid old = false) ∧
      (attr.kind = .directory → parent ≠ newParent →
        checkAccess attr.uid attr.gid attr.perm req.uid req.gid W_OK = true) := by
  obtain ⟨n, hn, h⟩ := (Reads.unwrap _).bind_of_ne h
  obtain ⟨attr, hfo, h⟩ := foundOr_query_bind_of_ne h
  obtain ⟨pa, hg, hw, h⟩ := writable_of_ne self h
  obtain ⟨_, hs, h⟩ := (Reads.failIf _ _).bind_of_ne h
  obtain ⟨npa, hng, hnw, h⟩ := writable_of_ne self h
  obtain ⟨_, hsticky, h⟩ := (Reads.ite (.bind (.unwrap _) fun _ => .bind (.query _) fun _ => .failIf _ _)
    (.pure _)).bind_of_ne h
  obtain ⟨_, hdir, -⟩ := (Reads.failIf _ _).bind_of_ne h
  refine ⟨n, attr, pa, npa, unwrap_reply hn, hfo, hg, hw, failIf_reply hs, hng, hnw,
    fun _ _ => rename_target self hsticky, fun hk hp => ?_⟩
  simpa [hk, hp] using failIf_reply hdir

theorem mknod_changed {req : Request} {parent : Nat} {name : List UInt8} {mode : Nat} {s : σ}
    (h : (self.mknod req parent name mode s).2 ≠ s) :
    self.Writable s req parent := by
  obtain ⟨_, -, h⟩ := (Reads.failIf _ _).bind_of_ne h
  rw [Reads.bind_snd fun ⟨_, _⟩ => Reads.pure _] at h
  exact createNod_changed self h

theorem createAccess_reads (flags : Nat) : (EncryptedFsFuse3.createAccess flags : Handler σ _).Reads := by
  unfold EncryptedFsFuse3.createAccess
  dsimp only
  split_ifs <;> first | exact Reads.pure _ | exact Reads.fail _

theorem create_changed {req : Request} {parent : Nat} {name : List UInt8} {mode flags : Nat} {s : σ}
    (h : (self.create req parent name mode flags s).2 ≠ s) :
    self.Writable s req parent := by
  obtain ⟨⟨_, _⟩, -, h⟩ := (createAccess_reads flags).bind_of_ne h
  rw [Reads.bind_snd fun ⟨_, _⟩ => Reads.pure _, remapErrno_snd] at h
  exact createNod_changed self h

/-- `open` asks for write access whenever it truncates. -/
theorem openAccess_trunc {flags m : Nat} {rd wr : Bool} {s s' : σ}
    (h : EncryptedFsFuse3.openAccess flags s = (.reply (m, rd, wr), s')) (ht : (flags &&& O_TRUNC != 0) = true) :
    m &&& W_OK = W_OK := by
  unfold EncryptedFsFuse3.openAccess at h
  split_ifs at h <;> simp only [run_fail, run_pure, Prod.mk.injEq, Outcome.reply.injEq, reduceCtorEq, false_and] at h
  all_goals
    obtain ⟨⟨rfl, -⟩, -⟩ := h
    rfl

theorem open_changed {req : Request} {inode flags : Nat} {s : σ} (h : (self.open req inode flags s).2 ≠ s) :
    ∃ m rd wr attr, EncryptedFsFuse3.openAccess flags s = (.reply (m, rd, wr), s) ∧
      self.fs.getInode s inode = .ok attr ∧ checkAccess attr.uid attr.gid attr.perm req.uid req.gid m = true ∧
      ((flags &&& O_TRUNC != 0) = true → m &&& W_OK = W_OK) := by
  obtain ⟨⟨m, rd, wr⟩, hoa, h⟩ := (openAccess_reads flags).bind_of_ne h
  obtain ⟨attr, hg, h⟩ := orFail_query_bind_of_ne h
  split at h
  · exact ⟨m, rd, wr, attr, hoa, hg, ‹_›, openAccess_trunc hoa⟩
  · exact absurd rfl h

theorem chmod_changed {sys : Sys} {req : Request} {inode : Nat} {setAttr : SetAttr} {mode : Nat} {s : σ}
    (hm : setAttr.mode = some mode) (h : (self.setattr sys req inode setAttr s).2 ≠ s) :
    ∃ attr, self.fs.getInode s inode = .ok attr ∧ (req.uid = 0 ∨ req.uid = attr.uid) := by
  obtain ⟨attr, hg, h⟩ := orFail_query_bind_of_ne h
  simp only [EncryptedFsFuse3.setattrBranch, hm, EncryptedFsFuse3.chmod] at h
  obtain ⟨_, hf, -⟩ := (Reads.failIf _ _).bind_of_ne h
  have := failIf_reply hf
  refine ⟨attr, hg, ?_⟩
  simp only [Bool.and_eq_false_iff, bne_eq_false_iff_eq] at this
  exact this

/-- A `utimens` step that went through was allowed: the caller owns the file or may write it. -/
theorem utimens_allowed {sys : Sys} {req : Request} {attr : FileAttr} {set : SetFileAttr → SystemTime → SetFileAttr}
    {p q : SetFileAttr} {t : Timestamp} {s s' : σ}
    (h : EncryptedFsFuse3.utimens sys req attr set p (some t) s = (.reply q, s')) :
    attr.uid = req.uid ∨ checkAccess attr.uid attr.gid attr.perm req.uid req.gid W_OK = true := by
  obtain ⟨_, hf, -⟩ := (Reads.failIf _ _).bind_reply h
  have := failIf_reply hf
  simp only [Bool.and_eq_false_iff, bne_eq_false_iff_eq, Bool.not_eq_false'] at this
  exact this

theorem utimens_changed {sys : Sys} {req : Request} {inode : Nat} {setAttr : SetAttr} {s : σ}
    (hm : setAttr.mode = none) (hu : setAttr.uid = none) (hg : setAttr.gid = none) (hs : setAttr.size = none)
    (ht : setAttr.atime.isSome ∨ setAttr.mtime.isSome) (h : (self.setattr sys req inode setAttr s).2 ≠ s) :
    ∃ attr, self.fs.getInode s inode = .ok attr ∧
      (attr.uid = req.uid ∨ checkAccess attr.uid attr.gid attr.perm req.uid req.gid W_OK = true) := by
  obtain ⟨attr, hga, h⟩ := orFail_query_bind_of_ne h
  simp only [EncryptedFsFuse3.setattrBranch, hm, hu, hg, hs, Option.isSome_none, Bool.or_false,
    Bool.false_eq_true, if_false, EncryptedFsFuse3.setattrSize, pure_bind] at h
  obtain ⟨p, ha, h⟩ := (utimens_reads _ _ _ _ _ _).bind_of_ne h
  obtain ⟨_, hm', -⟩ := (utimens_reads _ _ _ _ _ _).bind_of_ne h
  refine ⟨attr, hga, ?_⟩
  rcases ht with ht | ht
  · obtain ⟨t, ht⟩ := Option.isSome_iff_exists.1 ht
    rw [ht] at ha
    exact utimens_allowed ha
  · obtain ⟨t, ht⟩ := Option.isSome_iff_exists.1 ht
    rw [ht] at hm'
    exact utimens_allowed hm'

/-! ### The handlers that only read -/

theorem lookup_reads {req : Request} {parent : Nat} {name : List UInt8} : (self.lookup req parent name).Reads :=
  .bind (.query _) fun _ => .bind (.orFail _ _) fun _ => .bind (.failIf _ _) fun _ =>
    .bind (.unwrap _) fun _ => .bind (.query _) fun _ => .bind (.foundOr _ _) fun _ => .pure _

theorem getattr_reads {inode : Nat} : (self.getattr inode).Reads :=
  .bind (.query _) fun _ => .bind (.orFail _ _) fun _ => .pure _

theorem readdir_reads {inode : Nat} {offset : Int} : (self.readdir inode offset).Reads :=
  .bind (.query _) fun _ => .bind (.orFail _ _) fun _ => .pure _

theorem readdirplus_reads {parent offset : Nat} : (self.readdirplus parent offset).Reads :=
  .bind (.query _) fun _ => .bind (.orFail _ _) fun _ => .pure _

theorem access_reads {req : Request} {inode mask : Nat} : (self.access req inode mask).Reads :=
  .bind (.query _) fun r => by cases r <;> first | exact .failIf _ _ | exact .fail _

theorem opendir_reads {req : Request} {inode flags : Nat} : (self.opendir req inode flags).Reads :=
  .bind (.ite (.ite (.fail _) (.pure _)) (.ite (.pure _) (.ite (.pure _) (.fail _)))) fun _ =>
    .bind (.query _) fun _ => .bind (.orFail _ _) fun _ => .ite (.pure _) (.fail _)

end GatesAux

open GatesAux

/-- For every facade, caller and state, the handlers that create, remove, rename or open entries, and the `chmod` and
`utimens` branches of `setattr`, change the facade only when the checks of POSIX passed on the attributes the facade
returned in that state. -/
theorem changes_need_permission {σ : Type} (self : EncryptedFsFuse3 σ) (sys : Sys) (req : Request) (s : σ) :
    (∀ parent name mode, (self.mknod req parent name mode s).2 ≠ s → self.Writable s req parent) ∧
    (∀ parent name mode, (self.mkdir req parent name mode s).2 ≠ s → self.Writable s req parent) ∧
    (∀ parent name mode flags, (self.create req parent name mode flags s).2 ≠ s → self.Writable s req parent) ∧
    (∀ parent name, (self.unlink req parent name s).2 ≠ s →
      ∃ pa, self.fs.getInode s parent = .ok pa ∧ checkAccess pa.uid pa.gid pa.perm req.uid req.gid W_OK = true ∧
        ∃ n attr, toStr name = some n ∧ self.fs.findByName s parent n = .ok (some attr) ∧
          stickyDenies pa req.uid attr = false) ∧
    (∀ parent name, (self.rmdir req parent name s).2 ≠ s →
      ∃ pa, self.fs.getInode s parent = .ok pa ∧ checkAccess pa.uid pa.gid pa.perm req.uid req.gid W_OK = true ∧
        ∃ n attr, toStr name = some n ∧ self.fs.findByName s parent n = .ok (some attr) ∧
          attr.kind = .directory ∧ stickyDenies pa req.uid attr = false) ∧
    (∀ parent name newParent newName, (self.rename req parent name newParent newName s).2 ≠ s →
      ∃ n attr pa npa, toStr name = some n ∧ self.fs.findByName s parent n = .ok (some attr) ∧
        self.fs.getInode s parent = .ok pa ∧ checkAccess pa.uid pa.gid pa.perm req.uid req.gid W_OK = true ∧
        stickyDenies pa req.uid attr = false ∧
        self.fs.getInode s newParent = .ok npa ∧ checkAccess npa.uid npa.gid npa.perm req.uid req.gid W_OK = true ∧
        (∀ nn old, toStr newName = some nn → self.fs.findByName s newParent nn = .ok (some old) →
          stickyDenies npa req.uid old = false) ∧
        (attr.kind = .directory → parent ≠ newParent →
          checkAccess attr.uid attr.gid attr.perm req.uid req.gid W_OK = true)) ∧
    (∀ inode flags, (self.open req inode flags s).2 ≠ s →
      ∃ m rd wr attr, EncryptedFsFuse3.openAccess flags s = (.reply (m, rd, wr), s) ∧
        self.fs.getInode s inode = .ok attr ∧ checkAccess attr.uid attr.gid attr.perm req.uid req.gid m = true ∧
        ((flags &&& O_TRUNC != 0) = true → m &&& W_OK = W_OK)) ∧
    (∀ inode setAttr mode, setAttr.mode = some mode → (self.setattr sys req inode setAttr s).2 ≠ s →
      ∃ attr, self.fs.getInode s inode = .ok attr ∧ (req.uid = 0 ∨ req.uid = attr.uid)) ∧
    (∀ inode setAttr, setAttr.mode = none → setAttr.uid = none → setAttr.gid = none → setAttr.size = none →
      (setAttr.atime.isSome ∨ setAttr.mtime.isSome) → (self.setattr sys req inode setAttr s).2 ≠ s →
      ∃ attr, self.fs.getInode s inode = .ok attr ∧
        (attr.uid = req.uid ∨ checkAccess attr.uid attr.gid attr.perm req.uid req.gid W_OK = true)) :=
  ⟨fun _ _ _ => mknod_changed self, fun _ _ _ => mkdir_changed self, fun _ _ _ _ => create_changed self,
    fun _ _ => unlink_changed self, fun _ _ => rmdir_changed self, fun _ _ _ _ => rename_changed self,
    fun _ _ => open_changed self, fun _ _ _ hm => chmod_changed self hm,
    fun _ _ hm hu hg hs ht => utimens_changed self hm hu hg hs ht⟩

/-- The handlers that only answer questions leave the facade as it was, however they end. -/
theorem queries_read_only {σ : Type} (self : EncryptedFsFuse3 σ) (req : Request) :
    (∀ parent name, (self.lookup req parent name).Reads) ∧
    (∀ inode, (self.getattr inode).Reads) ∧
    (∀ inode offset, (self.readdir inode offset).Reads) ∧
    (∀ parent offset, (self.readdirplus parent offset).Reads) ∧
    (∀ inode mask, (self.access req inode mask).Reads) ∧
    (∀ inode flags, (self.opendir req inode flags).Reads) :=
  ⟨fun _ _ => lookup_reads self, fun _ => getattr_reads self, fun _ _ => readdir_reads self,
    fun _ _ => readdirplus_reads self, fun _ _ => access_reads self, fun _ _ => opendir_reads self⟩

end Rencfs

import Rencfs.Fuse3.Gates

/-!
# The owner contract of the facade, and what every request keeps

The handlers create inodes and patch their attributes through the facade. The facade's contract
(`EncryptedFs.OwnerContract`, after the spec's table of its calls) says what each of its calls does to owners and
permissions: `create_nod` makes the new inode its draft's owner's, `update_inode` sets the owner and the permissions
its patch sets, on the inode it names only, and the other calls that write, those on file contents included, change
no owner and no permissions.

Over a facade that keeps the contract, a relation between the states before and after a request is kept by every
request from a caller that `ok` accepts (`serve_kept`), and so by every run of such requests (`run_kept`), once it is
kept by every facade call that keeps owners and permissions, by every `update_inode` of a patch that sets no owner and
no permissions but the inode's own with SUID and SGID cleared (the patches of `truncate`, `utimens` and `release`), and
by the caller's `create_nod`, `chmod` and `chown` (`EncryptedFsFuse3.Kept`). The invariants of `Suid`, `Owners` and
`Modes` are proved so. The in-memory facade keeps the contract (`MemFs.ownerContract`).
-/

namespace Rencfs

open Libc Handler SetattrAux GatesAux

namespace EncryptedFs

variable {σ : Type} (fs : EncryptedFs σ)

/-- Every inode of `s'` was an inode of `s`, with the same owner and the same permissions. -/
def KeepsOwners (s s' : σ) : Prop :=
  ∀ ino a', fs.getInode s' ino = .ok a' → ∃ a, fs.getInode s ino = .ok a ∧ a'.uid = a.uid ∧ a'.perm = a.perm
/-- Modelled from the spec: what the facade's calls do to owners and permissions. `create_nod` adds an inode owned by
its draft's owner; `update_inode` sets the owner and the permissions its patch sets, on the inode it names only; the
other calls that write, those on contents included, add no inode and change no owner and no permissions. -/
structure OwnerContract : Prop where
  createNod : ∀ s parent name c read write r s', fs.createNod s parent name c read write = .ok (r, s') →
    ∀ ino a', fs.getInode s' ino = .ok a' →
      (∃ a, fs.getInode s ino = .ok a ∧ a'.uid = a.uid ∧ a'.perm = a.perm) ∨ a'.uid = c.uid
  updateInode : ∀ s inode p s', fs.updateInode s inode p = .ok ((), s') →
    ∀ ino a', fs.getInode s' ino = .ok a' → ∃ a, fs.getInode s ino = .ok a ∧
      a'.uid = (if ino = inode then p.uid.getD a.uid else a.uid) ∧
      a'.perm = (if ino = inode then p.perm.getD a.perm else a.perm)
  removeFile : ∀ s parent name s', fs.removeFile s parent name = .ok ((), s') → fs.KeepsOwners s s'
  removeDir : ∀ s parent name s', fs.removeDir s parent name = .ok ((), s') → fs.KeepsOwners s s'
  rename : ∀ s parent name newParent newName s', fs.rename s parent name newParent newName = .ok ((), s') →
    fs.KeepsOwners s s'
  truncate : ∀ s ino size s', fs.truncate s ino size = .ok ((), s') → fs.KeepsOwners s s'
  «open» : ∀ s ino read write fh s', fs.open s ino read write = .ok (fh, s') → fs.KeepsOwners s s'
  flush : ∀ s fh s', fs.flush s fh = .ok ((), s') → fs.KeepsOwners s s'
  release : ∀ s fh s', fs.release s fh = .ok ((), s') → fs.KeepsOwners s s'
  read : ∀ s ino offset buf fh r s', fs.read s ino offset buf fh = .ok (r, s') → fs.KeepsOwners s s'
  write : ∀ s ino offset data fh n s', fs.write s ino offset data fh = .ok (n, s') → fs.KeepsOwners s s'
  copyFileRange : ∀ s ino offIn inoOut offOut len fhIn fhOut n s',
    fs.copyFileRange s ino offIn inoOut offOut len fhIn fhOut = .ok (n, s') → fs.KeepsOwners s s'

end EncryptedFs

namespace ContractAux

/-- `clear_suid_sgid` clears SUID. -/
theorem clearSuidSgid_suid (perm : Nat) : clearSuidSgid perm &&& S_ISUID = 0 := by
  simp only [clearSuidSgid]
  split <;> simp only [Nat.and_assoc, show asU16 (bitNot32 S_ISUID) &&& S_ISUID = 0 by decide,
    show asU16 (bitNot32 S_ISGID) &&& S_ISUID = S_ISUID by decide, Nat.and_zero]

/-- A patch that sets no owner and no SUID bit. -/
def SafePatch (p : SetFileAttr) : Prop := p.uid = none ∧ ∀ q, p.perm = some q → q &&& S_ISUID = 0

/-- A patch that sets no SUID bit leaves SUID where it was. -/
theorem SafePatch.perm_suid {p : SetFileAttr} (hp : SafePatch p) {perm : Nat} (hs : p.perm.getD perm &&& S_ISUID ≠ 0) :
    perm &&& S_ISUID ≠ 0 := by
  cases hq : p.perm with
  | none => simpa [hq] using hs
  | some q => exact absurd (hp.2 q hq) (by simpa [hq] using hs)

variable {σ : Type} {fs : EncryptedFs σ} {s : σ} {inode : Nat} {p : SetFileAttr}

/-- A patch of `inode` that sets no owner, and no permissions but the inode's own in `s` with SUID and SGID cleared. -/
def ClearingPatch (fs : EncryptedFs σ) (s : σ) (inode : Nat) (p : SetFileAttr) : Prop :=
  p.uid = none ∧
    ∀ q, p.perm = some q → ∃ perm, q = clearSuidSgid perm ∧ ∀ a, fs.getInode s inode = .ok a → a.perm = perm

theorem ClearingPatch.safePatch (hp : ClearingPatch fs s inode p) : SafePatch p :=
  ⟨hp.1, fun q hq => let ⟨perm, hq', _⟩ := hp.2 q hq; hq' ▸ clearSuidSgid_suid perm⟩

/-- The patches of `truncate` and `release`: the permissions of the inode, with SUID and SGID cleared. -/
theorem ClearingPatch.withPerm {perm : Nat} (hu : p.uid = none)
    (hperm : ∀ a, fs.getInode s inode = .ok a → a.perm = perm) :
    ClearingPatch fs s inode (p.withPerm (clearSuidSgid perm)) :=
  ⟨hu, fun _ hq => ⟨perm, (Option.some.inj hq).symm, hperm⟩⟩

/-- A patch with the same owner and permissions as a clearing one, such as one with a time added. -/
theorem ClearingPatch.of_eq {p' : SetFileAttr} (hp : ClearingPatch fs s inode p) (hu : p'.uid = p.uid)
    (hq : p'.perm = p.perm) : ClearingPatch fs s inode p' := by
  rw [ClearingPatch, hu, hq]
  exact hp

end ContractAux

open ContractAux

/-- What a relation `R` between the facade's states before and after a request needs from the calls that set
attributes, for every request from a caller whose uid `ok` accepts to keep it: every `update_inode` of a clearing patch
keeps it, and so do the caller's `create_nod` and the `chmod` and `chown` branches of the caller's `setattr`. -/
structure EncryptedFsFuse3.AttrsKept {σ : Type} (adapter : EncryptedFsFuse3 σ) (R : σ → σ → Prop)
    (ok : Nat → Prop) : Prop where
  clearingPatch : ∀ s inode p s', ClearingPatch adapter.fs s inode p → adapter.fs.updateInode s inode p = .ok ((), s') →
    R s s'
  createNod : ∀ req : Request, ok req.uid → ∀ s parent name (c : CreateFileAttr) read write r s', c.uid = req.uid →
    adapter.fs.createNod s parent name c read write = .ok (r, s') → R s s'
  chmod : ∀ sys (req : Request), ok req.uid → ∀ s inode attr mode, adapter.fs.getInode s inode = .ok attr →
    R s (adapter.chmod sys req inode attr mode s).2
  chown : ∀ sys (req : Request), ok req.uid → ∀ s inode attr, adapter.fs.getInode s inode = .ok attr →
    R s (adapter.chown sys req inode attr s).2

/-- What `R` needs, for every request from a caller whose uid `ok` accepts to keep it: the calls that set attributes
keep it, and so does every other facade call that writes, as the handlers make it: `truncate`, `open`, `flush`,
`release`, `read`, `write` and `copy_file_range` for any caller, `remove_file` and `remove_dir` once the sticky rule
let the caller remove the entry, and `rename` once it let them move the entry and replace the one it names. -/
structure EncryptedFsFuse3.Kept {σ : Type} (adapter : EncryptedFsFuse3 σ) (R : σ → σ → Prop) (ok : Nat → Prop)
    extends adapter.AttrsKept R ok : Prop where
  truncate : ∀ s inode size s', adapter.fs.truncate s inode size = .ok ((), s') → R s s'
  «open» : ∀ s inode read write fh s', adapter.fs.open s inode read write = .ok (fh, s') → R s s'
  flush : ∀ s fh s', adapter.fs.flush s fh = .ok ((), s') → R s s'
  release : ∀ s fh s', adapter.fs.release s fh = .ok ((), s') → R s s'
  read : ∀ s inode offset buf fh r s', adapter.fs.read s inode offset buf fh = .ok (r, s') → R s s'
  write : ∀ s inode offset data fh n s', adapter.fs.write s inode offset data fh = .ok (n, s') → R s s'
  copyFileRange : ∀ s inode offIn inodeOut offOut length fhIn fhOut n s',
    adapter.fs.copyFileRange s inode offIn inodeOut offOut length fhIn fhOut = .ok (n, s') → R s s'
  removeFile : ∀ req : Request, ok req.uid → ∀ s parent name pa attr s', adapter.fs.getInode s parent = .ok pa →
    adapter.fs.findByName s parent name = .ok (some attr) → stickyDenies pa req.uid attr = false →
    adapter.fs.removeFile s parent name = .ok ((), s') → R s s'
  removeDir : ∀ req : Request, ok req.uid → ∀ s parent name pa attr s', adapter.fs.getInode s parent = .ok pa →
    adapter.fs.findByName s parent name = .ok (some attr) → stickyDenies pa req.uid attr = false →
    adapter.fs.removeDir s parent name = .ok ((), s') → R s s'
  rename : ∀ req : Request, ok req.uid → ∀ s parent name newParent newName pa attr npa s',
    adapter.fs.getInode s parent = .ok pa → adapter.fs.findByName s parent name = .ok (some attr) →
    stickyDenies pa req.uid attr = false → adapter.fs.getInode s newParent = .ok npa →
    (∀ old, adapter.fs.findByName s newParent newName = .ok (some old) → stickyDenies npa req.uid old = false) →
    adapter.fs.rename s parent name newParent newName = .ok ((), s') → R s s'

/-- A relation that the calls setting attributes keep, and that every call keeping owners and permissions keeps, is
`Kept`, over a facade that keeps the owner contract. -/
theorem EncryptedFsFuse3.AttrsKept.kept {σ : Type} {adapter : EncryptedFsFuse3 σ} {R : σ → σ → Prop}
    {ok : Nat → Prop} (ha : adapter.AttrsKept R ok) (hfs : adapter.fs.OwnerContract)
    (hko : ∀ s s', adapter.fs.KeepsOwners s s' → R s s') : adapter.Kept R ok :=
  { ha with
    truncate := fun _ _ _ _ h => hko _ _ (hfs.truncate _ _ _ _ h)
    «open» := fun _ _ _ _ _ _ h => hko _ _ (hfs.open _ _ _ _ _ _ h)
    flush := fun _ _ _ h => hko _ _ (hfs.flush _ _ _ h)
    release := fun _ _ _ h => hko _ _ (hfs.release _ _ _ h)
    read := fun _ _ _ _ _ _ _ h => hko _ _ (hfs.read _ _ _ _ _ _ _ h)
    write := fun _ _ _ _ _ _ _ h => hko _ _ (hfs.write _ _ _ _ _ _ _ h)
    copyFileRange := fun _ _ _ _ _ _ _ _ _ _ h => hko _ _ (hfs.copyFileRange _ _ _ _ _ _ _ _ _ _ h)
    removeFile := fun _ _ _ _ _ _ _ _ _ _ _ h => hko _ _ (hfs.removeFile _ _ _ _ h)
    removeDir := fun _ _ _ _ _ _ _ _ _ _ _ h => hko _ _ (hfs.removeDir _ _ _ _ h)
    rename := fun _ _ _ _ _ _ _ _ _ _ _ _ _ _ _ _ h => hko _ _ (hfs.rename _ _ _ _ _ _ h) }

/-! ## One request -/

namespace ContractAux

variable {σ α : Type} (self : EncryptedFsFuse3 σ) {R : σ → σ → Prop} [IsRefl σ R] [IsTrans σ R] {req : Request}

/-- `update_inode`, then the read back, from one state. -/
theorem updateAndReply_keeps_at {inode : Nat} {p : SetFileAttr} {s : σ}
    (hu : ∀ s', self.fs.updateInode s inode p = .ok ((), s') → R s s') : R s (self.updateAndReply inode p s).2 :=
  keeps_bind_at (mutate_keeps_at fun _ _ h => hu _ h) fun _ _ _ =>
    (Reads.bind (.orFail _ _) fun _ => .bind (.query _) fun _ => .bind (.orFail _ _) fun _ => .pure _).keeps _

/-- The patch of `setattr`'s `truncate` step clears the permissions the inode had before it, which `truncate` keeps. -/
theorem setattrSize_clearing (hfs : self.fs.OwnerContract) {inode : Nat} {attr : FileAttr} {size : Option Nat}
    {p : SetFileAttr} {s s' : σ} (hg : self.fs.getInode s inode = .ok attr)
    (h : self.setattrSize inode attr size s = (.reply p, s')) : ClearingPatch self.fs s' inode p := by
  cases size with
  | none =>
    cases h
    exact ⟨rfl, fun _ h => nomatch h⟩
  | some n =>
    rw [EncryptedFsFuse3.setattrSize] at h
    rcases ht : self.fs.truncate s inode n with _ | ⟨⟨⟩, s₁⟩
    · simp [run_mutate_bind, ht] at h
    · simp only [run_mutate_bind, ht, orFail_ok, Handler.pure_bind, run_pure, Prod.mk.injEq, Outcome.reply.injEq] at h
      obtain ⟨rfl, rfl⟩ := h
      refine .withPerm rfl fun a ha => ?_
      obtain ⟨b, hb, -, hp⟩ := hfs.truncate s inode n s₁ ht inode a ha
      exact hp.trans (congrArg FileAttr.perm (Except.ok.inj (hb.symm.trans hg)))

/-- A `utimens` step adds a time to a clearing patch, and the patch stays clearing. -/
theorem utimens_clearing {sys : Sys} {attr : FileAttr} {set : SetFileAttr → SystemTime → SetFileAttr} {inode : Nat}
    {p p' : SetFileAttr} {t : Option Timestamp} {s s' : σ} (hp : ClearingPatch self.fs s inode p)
    (h : (EncryptedFsFuse3.utimens sys req attr set p t : Handler σ _) s = (.reply p', s'))
    (hset : ∀ q t, (set q t).uid = q.uid ∧ (set q t).perm = q.perm) : ClearingPatch self.fs s inode p' := by
  cases t with
  | none =>
    cases h
    exact hp
  | some t =>
    obtain ⟨_, -, h⟩ := (Reads.failIf _ _).bind_reply h
    obtain ⟨time, -, h⟩ := (Reads.unwrap _).bind_reply h
    cases h
    exact hp.of_eq (hset p time).1 (hset p time).2

variable {ok : Nat → Prop} (hk : self.Kept R ok)
include hk

/-- `create_nod` from a caller that `ok` accepts: the draft is the caller's. -/
theorem createNod_keeps (hreq : ok req.uid) (parent mode : Nat) (name : List UInt8) (read write : Bool) :
    (self.createNod parent mode req name read write).Keeps R :=
  .bind (.query _) fun _ => .bind (.orFail _ _) fun _ => .bind (.failIf _ _) fun _ => .bind (.unwrap _) fun _ =>
    .bind (.unwrap _) fun _ => .bind (.mutate fun _ _ _ => hk.createNod req hreq _ _ _ _ _ _ _ _ rfl) fun _ =>
    .orFail _ _

theorem mknod_keeps (hreq : ok req.uid) (parent : Nat) (name : List UInt8) (mode : Nat) :
    (self.mknod req parent name mode).Keeps R :=
  .bind (.failIf _ _) fun _ => .bind (createNod_keeps self hk hreq _ _ _ _ _) fun _ => .pure _

theorem mkdir_keeps (hreq : ok req.uid) (parent : Nat) (name : List UInt8) (mode : Nat) :
    (self.mkdir req parent name mode).Keeps R :=
  .bind (.query _) fun _ => .bind (.orFail _ _) fun _ => .bind (.failIf _ _) fun _ => .bind (.unwrap _) fun _ =>
    .bind (.mutate fun _ _ _ => hk.createNod req hreq _ _ _ _ _ _ _ _ rfl) fun _ => .bind (.orFail _ _) fun _ =>
    .pure _

theorem create_keeps (hreq : ok req.uid) (parent : Nat) (name : List UInt8) (mode flags : Nat) :
    (self.create req parent name mode flags).Keeps R :=
  .bind (createAccess_reads flags).keeps fun _ =>
    .bind (.remapErrno (createNod_keeps self hk hreq _ _ _ _ _) _) fun _ => .pure _

theorem setattrSize_keeps (inode : Nat) (attr : FileAttr) (size : Option Nat) :
    (self.setattrSize inode attr size).Keeps R := by
  cases size
  · exact .pure _
  · exact .bind (.mutate fun _ _ _ => hk.truncate _ _ _ _) fun _ => .bind (.orFail _ _) fun _ => .pure _

/-- `unlink` from a caller that `ok` accepts: it removes the entry it found, once the sticky rule let it. -/
theorem unlink_keeps (hreq : ok req.uid) (parent : Nat) (name : List UInt8) : (self.unlink req parent name).Keeps R :=
  fun _ => orFail_query_keeps_at fun pa hpa => (Reads.failIf _ _).keeps_bind_at fun _ _ =>
    (Reads.unwrap _).keeps_bind_at fun n hn => foundOr_query_keeps_at fun attr hattr =>
    (Reads.failIf _ _).keeps_bind_at fun _ hs => (Reads.unwrap _).keeps_bind_at fun n' hn' => by
      obtain rfl : n' = n := Option.some.inj ((unwrap_reply hn').symm.trans (unwrap_reply hn))
      exact mutate_orFail_keeps_at fun _ _ => hk.removeFile req hreq _ _ _ pa attr _ hpa hattr (failIf_reply hs)

theorem rmdir_keeps (hreq : ok req.uid) (parent : Nat) (name : List UInt8) : (self.rmdir req parent name).Keeps R :=
  fun _ => orFail_query_keeps_at fun pa hpa => (Reads.failIf _ _).keeps_bind_at fun _ _ =>
    (Reads.unwrap _).keeps_bind_at fun n hn => foundOr_query_keeps_at fun attr hattr =>
    (Reads.failIf _ _).keeps_bind_at fun _ _ => (Reads.failIf _ _).keeps_bind_at fun _ hs =>
    (Reads.unwrap _).keeps_bind_at fun n' hn' => by
      obtain rfl : n' = n := Option.some.inj ((unwrap_reply hn').symm.trans (unwrap_reply hn))
      exact mutate_orFail_keeps_at fun _ _ => hk.removeDir req hreq _ _ _ pa attr _ hpa hattr (failIf_reply hs)

/-- `rename` from a caller that `ok` accepts: it moves the entry it found and replaces the one at the new name, once
the sticky rule let it do both. -/
theorem rename_keeps (hreq : ok req.uid) (parent : Nat) (name : List UInt8) (newParent : Nat) (newName : List UInt8) :
    (self.rename req parent name newParent newName).Keeps R := fun _ =>
  (Reads.unwrap _).keeps_bind_at fun n hn => foundOr_query_keeps_at fun attr hattr =>
    orFail_query_keeps_at fun pa hpa => (Reads.failIf _ _).keeps_bind_at fun _ _ =>
    (Reads.failIf _ _).keeps_bind_at fun _ hs => orFail_query_keeps_at fun npa hnpa =>
    (Reads.failIf _ _).keeps_bind_at fun _ _ =>
    (Reads.ite (.bind (.unwrap _) fun _ => .bind (.query _) fun _ => .failIf _ _) (.pure _)).keeps_bind_at
      fun _ ht => (Reads.failIf _ _).keeps_bind_at fun _ _ => (Reads.unwrap _).keeps_bind_at fun n' hn' =>
    (Reads.unwrap _).keeps_bind_at fun nn hnn => by
      obtain rfl : n' = n := Option.some.inj ((unwrap_reply hn').symm.trans (unwrap_reply hn))
      exact mutate_orFail_keeps_at fun _ _ => hk.rename req hreq _ _ _ _ _ pa attr npa _ hpa hattr
        (failIf_reply hs) hnpa fun _ => rename_target self ht (unwrap_reply hnn)

theorem open_keeps (inode flags : Nat) : (self.open req inode flags).Keeps R :=
  .bind (openAccess_reads flags).keeps fun _ => .bind (.query _) fun _ => .bind (.orFail _ _) fun _ =>
    .ite (.bind (.ite (.bind (.mutate fun _ _ _ => hk.truncate _ _ _ _) fun _ => .orFail _ _) (.pure _))
      fun _ => .bind (.mutate fun _ _ _ => hk.open _ _ _ _ _ _) fun _ => .bind (.orFail _ _) fun _ =>
      .pure _) (.fail _)

theorem flush_keeps (fh : Nat) : (self.flush fh).Keeps R :=
  .bind (.mutate fun _ _ _ => hk.flush _ _ _) fun _ => .orFail _ _

theorem read_keeps (inode fh offset size : Nat) : (self.read inode fh offset size).Keeps R :=
  .bind (.mutate fun _ _ _ => hk.read _ _ _ _ _ _ _) fun _ => .bind (.orFail _ _) fun ⟨_, _⟩ => .unwrap _

theorem write_keeps (inode fh offset : Nat) (data : List UInt8) : (self.write inode fh offset data).Keeps R :=
  .bind (.mutate fun _ _ _ => hk.write _ _ _ _ _ _ _) fun _ => .bind (.orFail _ _) fun _ => .pure _

theorem copyFileRange_keeps (inode fhIn offIn inodeOut fhOut offOut length : Nat) :
    (self.copyFileRange inode fhIn offIn inodeOut fhOut offOut length).Keeps R :=
  .bind (.mutate fun _ _ _ => hk.copyFileRange _ _ _ _ _ _ _ _ _ _) fun _ => .bind (.orFail _ _) fun _ => .pure _

/-- `release`: the patch it writes, for a write handle, clears the permissions it has just read. -/
theorem release_keeps (inode fh : Nat) (flush : Bool) : (self.release inode fh flush).Keeps R :=
  .bind (.ite (flush_keeps self hk fh) (.pure _)) fun _ =>
    .bind (.mutate fun _ _ _ => hk.release _ _ _) fun _ => .bind (.orFail _ _) fun _ =>
    .bind (.query _) fun _ => .ite (fun _ => orFail_query_keeps_at fun _ hg =>
      mutate_orFail_keeps_at fun _ _ => hk.clearingPatch _ _ _ _ (.withPerm rfl fun _ ha =>
        congrArg FileAttr.perm (Except.ok.inj (ha.symm.trans hg)))) (.pure _)

/-- `setattr` from a caller that `ok` accepts, whichever branch it takes: the patch of `truncate` and `utimens` is a
clearing one, since `truncate` keeps the permissions it read (`hfs`). -/
theorem setattr_keeps (hfs : self.fs.OwnerContract) (hreq : ok req.uid) (sys : Sys) (inode : Nat)
    (setAttr : SetAttr) : (self.setattr sys req inode setAttr).Keeps R := fun _ =>
  orFail_query_keeps_at fun attr hg => by
    unfold EncryptedFsFuse3.setattrBranch
    cases setAttr.mode with
    | some mode => exact hk.chmod sys req hreq _ inode attr mode hg
    | none => ?_
    dsimp only
    split
    · exact hk.chown sys req hreq _ inode attr hg
    refine keeps_bind_at (setattrSize_keeps self hk inode attr setAttr.size _) fun p _ hp => ?_
    refine (utimens_reads _ _ _ _ _ _).keeps_bind_at fun p' hp' => ?_
    refine (utimens_reads _ _ _ _ _ _).keeps_bind_at fun p'' hp'' => ?_
    have hclear := utimens_clearing self (utimens_clearing self (setattrSize_clearing self hfs hg hp) hp'
      fun _ _ => ⟨rfl, rfl⟩) hp'' fun _ _ => ⟨rfl, rfl⟩
    exact updateAndReply_keeps_at self fun _ => hk.clearingPatch _ _ _ _ hclear

end ContractAux

open ContractAux

/-! ## Runs of requests -/

/-- A request of the kernel to the adapter: one constructor for each handler of the model, with the arguments the
handler reads. -/
inductive Op where
  | lookup (req : Request) (parent : Nat) (name : List UInt8)
  | getattr (inode : Nat)
  | setattr (sys : Sys) (req : Request) (inode : Nat) (setAttr : SetAttr)
  | mknod (req : Request) (parent : Nat) (name : List UInt8) (mode : Nat)
  | mkdir (req : Request) (parent : Nat) (name : List UInt8) (mode : Nat)
  | unlink (req : Request) (parent : Nat) (name : List UInt8)
  | rmdir (req : Request) (parent : Nat) (name : List UInt8)
  | rename (req : Request) (parent : Nat) (name : List UInt8) (newParent : Nat) (newName : List UInt8)
  | «open» (req : Request) (inode flags : Nat)
  | create (req : Request) (parent : Nat) (name : List UInt8) (mode flags : Nat)
  | opendir (req : Request) (inode flags : Nat)
  | access (req : Request) (inode mask : Nat)
  | readdir (inode : Nat) (offset : Int)
  | readdirplus (parent offset : Nat)
  | flush (fh : Nat)
  | release (inode fh : Nat) (flush : Bool)
  | read (inode fh offset size : Nat)
  | write (inode fh offset : Nat) (data : List UInt8)
  | copyFileRange (inode fhIn offIn inodeOut fhOut offOut length : Nat)

/-- The caller's uid, for the requests whose handler reads it. -/
def Op.callerUid : Op → Option Nat
  | .lookup req .. | .setattr _ req .. | .mknod req .. | .mkdir req .. | .unlink req .. | .rmdir req ..
  | .rename req .. | .open req .. | .create req .. | .opendir req .. | .access req .. => some req.uid
  | .getattr .. | .readdir .. | .readdirplus .. | .flush .. | .release .. | .read .. | .write ..
  | .copyFileRange .. => none

namespace EncryptedFsFuse3

variable {σ : Type} (self : EncryptedFsFuse3 σ)

/-- The facade's state once the adapter has served a request; the reply goes to the kernel. -/
def serve : Op → σ → σ
  | .lookup req parent name, s => (self.lookup req parent name s).2
  | .getattr inode, s => (self.getattr inode s).2
  | .setattr sys req inode setAttr, s => (self.setattr sys req inode setAttr s).2
  | .mknod req parent name mode, s => (self.mknod req parent name mode s).2
  | .mkdir req parent name mode, s => (self.mkdir req parent name mode s).2
  | .unlink req parent name, s => (self.unlink req parent name s).2
  | .rmdir req parent name, s => (self.rmdir req parent name s).2
  | .rename req parent name newParent newName, s => (self.rename req parent name newParent newName s).2
  | .open req inode flags, s => (self.open req inode flags s).2
  | .create req parent name mode flags, s => (self.create req parent name mode flags s).2
  | .opendir req inode flags, s => (self.opendir req inode flags s).2
  | .access req inode mask, s => (self.access req inode mask s).2
  | .readdir inode offset, s => (self.readdir inode offset s).2
  | .readdirplus parent offset, s => (self.readdirplus parent offset s).2
  | .flush fh, s => (self.flush fh s).2
  | .release inode fh flush, s => (self.release inode fh flush s).2
  | .read inode fh offset size, s => (self.read inode fh offset size s).2
  | .write inode fh offset data, s => (self.write inode fh offset data s).2
  | .copyFileRange inode fhIn offIn inodeOut fhOut offOut length, s =>
    (self.copyFileRange inode fhIn offIn inodeOut fhOut offOut length s).2

/-- The facade's state once the adapter has served the requests, one after another. -/
def run (ops : List Op) (s : σ) : σ := ops.foldl (fun s op => self.serve op s) s

end EncryptedFsFuse3
/-- A request from a caller that `ok` accepts keeps every relation `Kept` for `ok`, over a facade that keeps the
owner contract. -/
theorem serve_kept {σ : Type} (self : EncryptedFsFuse3 σ) (hfs : self.fs.OwnerContract) {R : σ → σ → Prop}
    [IsRefl σ R] [IsTrans σ R] {ok : Nat → Prop} (hk : self.Kept R ok) (op : Op)
    (hop : ∀ u, op.callerUid = some u → ok u) (s : σ) : R s (self.serve op s) := by
  cases op with
  | lookup => exact (lookup_reads self).keeps s
  | getattr => exact (getattr_reads self).keeps s
  | setattr sys req => exact setattr_keeps self hk hfs (hop _ rfl) sys _ _ s
  | mknod req => exact mknod_keeps self hk (hop _ rfl) _ _ _ s
  | mkdir req => exact mkdir_keeps self hk (hop _ rfl) _ _ _ s
  | unlink req => exact unlink_keeps self hk (hop _ rfl) _ _ s
  | rmdir req => exact rmdir_keeps self hk (hop _ rfl) _ _ s
  | rename req => exact rename_keeps self hk (hop _ rfl) _ _ _ _ s
  | «open» => exact open_keeps self hk _ _ s
  | create req => exact create_keeps self hk (hop _ rfl) _ _ _ _ s
  | opendir => exact (opendir_reads self).keeps s
  | access => exact (access_reads self).keeps s
  | readdir => exact (readdir_reads self).keeps s
  | readdirplus => exact (readdirplus_reads self).keeps s
  | flush => exact flush_keeps self hk _ s
  | release => exact release_keeps self hk _ _ _ s
  | read => exact read_keeps self hk _ _ _ _ s
  | write => exact write_keeps self hk _ _ _ _ s
  | copyFileRange => exact copyFileRange_keeps self hk _ _ _ _ _ _ _ s

/-- Every run of requests from callers that `ok` accepts, however long, keeps every relation `Kept` for `ok`. -/
theorem run_kept {σ : Type} (self : EncryptedFsFuse3 σ) (hfs : self.fs.OwnerContract) {R : σ → σ → Prop}
    [IsRefl σ R] [IsTrans σ R] {ok : Nat → Prop} (hk : self.Kept R ok) (ops : List Op)
    (hops : ∀ op ∈ ops, ∀ u, op.callerUid = some u → ok u) (s : σ) : R s (self.run ops s) := by
  induction ops generalizing s with
  | nil => exact refl_of R s
  | cons op ops ih =>
    exact trans_of R (serve_kept self hfs hk op (hops op (.head _)) s) (ih (fun o ho => hops o (.tail _ ho)) _)

/-! ## The in-memory facade keeps the contract -/

namespace MemFs

variable {s s' : MemFs}

theorem getInode_ino {ino : Nat} {a : FileAttr} (h : s.getInode ino = .ok a) : a.ino = ino := by
  unfold getInode at h
  split at h
  · rename_i hf
    cases h
    have := List.find?_some hf
    exact beq_iff_eq.1 this
  · nomatch h

/-- Replacing the attributes of `b.ino` leaves every other inode's attributes as they were. -/
theorem getInode_setInode {b a' : FileAttr} {ino : Nat} (h : (s.setInode b).getInode ino = .ok a') :
    ∃ a, s.getInode ino = .ok a ∧ a' = if ino = b.ino then b else a := by
  have hp : ((·.ino == ino) ∘ fun c : FileAttr => if c.ino = b.ino then b else c) = (·.ino == ino) := by
    funext c
    by_cases hc : c.ino = b.ino <;> simp [hc]
  unfold getInode setInode at *
  rw [List.find?_map, hp] at h
  rcases hf : s.inodes.find? (·.ino == ino) with _ | a <;> rw [hf] at h
  · nomatch h
  · refine ⟨a, by rw [hf], ?_⟩
    have hai : a.ino = ino := by
      have := List.find?_some hf
      exact beq_iff_eq.1 this
    simp only [Option.map_some', Except.ok.injEq] at h
    subst h
    by_cases hb : ino = b.ino <;> simp [hb, hai]

/-- A state with the same inodes has the same attributes. -/
theorem keepsOwners_of_inodes (h : s'.inodes = s.inodes) : fs.KeepsOwners s s' := fun ino a' ha' =>
  ⟨a', by simpa only [fs, getInode, h] using ha', rfl, rfl⟩

/-- Replacing an inode's attributes by ones of the same owner and permissions. -/
theorem keepsOwners_setInode {a b : FileAttr} (ha : s.getInode b.ino = .ok a) (hu : b.uid = a.uid)
    (hp : b.perm = a.perm) : fs.KeepsOwners s (s.setInode b) := fun ino a' ha' => by
  obtain ⟨c, hc, rfl⟩ := getInode_setInode ha'
  split_ifs with hb
  · subst hb
    exact ⟨a, ha, hu, hp⟩
  · exact ⟨c, hc, rfl, rfl⟩

/-- New contents for a file keep every owner and every permission. -/
theorem keepsOwners_setData {a : FileAttr} {ino : Nat} (ha : s.getInode ino = .ok a) (b : List UInt8) :
    fs.KeepsOwners s (s.setData a b) := by
  rw [← getInode_ino ha] at ha
  exact keepsOwners_setInode (b := { a with size := b.length }) ha rfl rfl

/-- An inode put in front of the others: it is found first. -/
theorem getInode_cons {b : FileAttr} (h : s'.inodes = b :: s.inodes) (ino : Nat) :
    s'.getInode ino = if b.ino = ino then .ok b else s.getInode ino := by
  simp only [getInode, h, List.find?_cons]
  cases hb : b.ino == ino
  · simp [ne_of_beq_false hb]
  · simp [beq_iff_eq.1 hb]

theorem createNod_inodes {parent : Nat} {name : RustStr} {c : CreateFileAttr} {read write : Bool} {r}
    (h : s.createNod parent name c read write = .ok (r, s')) :
    ∃ b : FileAttr, b.uid = c.uid ∧ s'.inodes = b :: s.inodes := by
  simp only [createNod, bind, Except.bind, pure, Except.pure, throw, throwThe, MonadExceptOf.throw] at h
  repeat' split at h
  all_goals cases h
  all_goals exact ⟨_, rfl, rfl⟩

theorem updateInode_inodes {ino : Nat} {p : SetFileAttr} (h : s.updateInode ino p = .ok ((), s')) :
    ∃ a, s.getInode ino = .ok a ∧ s' = s.setInode (patch a p) := by
  simp only [updateInode, bind, Except.bind, pure, Except.pure] at h
  split at h
  all_goals cases h
  exact ⟨_, ‹_›, rfl⟩

theorem truncate_inodes {ino size : Nat} (h : s.truncate ino size = .ok ((), s')) :
    ∃ a, s.getInode ino = .ok a ∧ s' = s.setData a ((s.fileData a ++ List.replicate size 0).take size) := by
  simp only [truncate, bind, Except.bind, pure, Except.pure, throw, throwThe, MonadExceptOf.throw] at h
  repeat' split at h
  all_goals cases h
  exact ⟨_, ‹_›, rfl⟩

theorem removeFile_inodes {parent : Nat} {name : RustStr} (h : s.removeFile parent name = .ok ((), s')) :
    s'.inodes = s.inodes := by
  simp only [removeFile, bind, Except.bind, pure, Except.pure, throw, throwThe, MonadExceptOf.throw] at h
  repeat' split at h
  all_goals cases h
  rfl

theorem removeDir_inodes {parent : Nat} {name : RustStr} (h : s.removeDir parent name = .ok ((), s')) :
    s'.inodes = s.inodes := by
  simp only [removeDir, getDir, bind, Except.bind, pure, Except.pure, throw, throwThe, MonadExceptOf.throw] at h
  repeat' split at h
  all_goals cases h
  rfl

theorem rename_inodes {parent newParent : Nat} {name newName : RustStr}
    (h : s.rename parent name newParent newName = .ok ((), s')) : s'.inodes = s.inodes := by
  simp only [rename, getDir, bind, Except.bind, pure, Except.pure, throw, throwThe, MonadExceptOf.throw] at h
  repeat' split at h
  all_goals cases h
  all_goals rfl

theorem open_inodes {ino : Nat} (read : Bool) {write : Bool} {fh : Nat} (h : s.open ino read write = .ok (fh, s')) :
    s'.inodes = s.inodes := by
  simp only [MemFs.open, bind, Except.bind, pure, Except.pure, throw, throwThe, MonadExceptOf.throw] at h
  repeat' split at h
  all_goals cases h
  rfl

theorem flush_inodes {fh : Nat} (h : s.flush fh = .ok ((), s')) : s'.inodes = s.inodes := by
  unfold flush at h
  split_ifs at h
  cases h
  rfl

theorem release_inodes {fh : Nat} (h : s.release fh = .ok ((), s')) : s'.inodes = s.inodes := by
  unfold release at h
  split_ifs at h
  cases h
  rfl

/-- The in-memory facade keeps the owner contract. -/
theorem ownerContract : fs.OwnerContract where
  createNod s _ _ c _ _ _ _ h ino a' ha' := by
    obtain ⟨b, hb, hs'⟩ := createNod_inodes h
    change getInode _ ino = _ at ha'
    rw [getInode_cons hs'] at ha'
    split_ifs at ha'
    · cases ha'
      exact .inr hb
    · exact .inl ⟨a', ha', rfl, rfl⟩
  updateInode s inode p _ h ino a' ha' := by
    obtain ⟨a, ha, rfl⟩ := updateInode_inodes h
    obtain ⟨c, hc, rfl⟩ := getInode_setInode ha'
    refine ⟨c, hc, ?_⟩
    rw [show (patch a p).ino = a.ino from rfl, getInode_ino ha]
    split_ifs with hi
    · subst hi
      obtain rfl : c = a := Except.ok.inj (hc.symm.trans ha)
      exact ⟨rfl, rfl⟩
    · exact ⟨rfl, rfl⟩
  removeFile _ _ _ _ h := keepsOwners_of_inodes (removeFile_inodes h)
  removeDir _ _ _ _ h := keepsOwners_of_inodes (removeDir_inodes h)
  rename _ _ _ _ _ _ h := keepsOwners_of_inodes (rename_inodes h)
  truncate _ _ _ _ h := by
    obtain ⟨a, ha, rfl⟩ := truncate_inodes h
    exact keepsOwners_setData ha _
  «open» _ _ read _ _ _ h := keepsOwners_of_inodes (open_inodes read h)
  flush _ _ _ h := keepsOwners_of_inodes (flush_inodes h)
  release _ _ _ h := keepsOwners_of_inodes (release_inodes h)
  read _ _ _ _ _ _ _ h := by
    obtain ⟨-, -, rfl, -⟩ := read_ok h
    exact keepsOwners_of_inodes rfl
  write _ _ _ _ _ _ _ h := by
    obtain ⟨a, ha, -, rfl⟩ := write_ok h
    exact keepsOwners_setData ha _
  copyFileRange _ _ _ _ _ _ _ _ _ _ h := by
    obtain ⟨_, hw⟩ := copyFileRange_ok h
    obtain ⟨a, ha, -, rfl⟩ := write_ok hw
    exact keepsOwners_setData ha _

end MemFs

end Rencfs

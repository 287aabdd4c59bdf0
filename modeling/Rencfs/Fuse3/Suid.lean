import Rencfs.Fuse3.Contract

/-!
# No setuid-root file from a caller other than root

A file that root owns and whose SUID bit is set runs as root whoever executes it: a caller other than root must never
be able to make one. For every facade that keeps the owner contract (`EncryptedFs.OwnerContract`), the relation
`NoNewSuidRoot` is `Kept` for the callers other than root (`noNewSuidRoot_kept`), so every run of requests from such
callers, however long, leaves every setuid-root file one that was there before (`run_noNewSuidRoot`):

* `create_nod` makes the new inode the caller's;
* `chmod` reaches `update_inode` only for the file's owner, and sets no owner;
* `chown` sets no owner either and only clears SUID; so do the `truncate` step of `setattr` and `release`;
* the other calls change no owner and no permissions.

Root's own requests can make such a file.
-/

namespace Rencfs

open Libc Handler SetattrAux GatesAux ContractAux

/-- A file that runs as root: root owns it and its SUID bit is set. -/
def SuidRoot (a : FileAttr) : Prop := a.uid = 0 ∧ a.perm &&& S_ISUID ≠ 0

instance : DecidablePred SuidRoot := fun a => inferInstanceAs (Decidable (a.uid = 0 ∧ a.perm &&& S_ISUID ≠ 0))

namespace EncryptedFs

variable {σ : Type} (fs : EncryptedFs σ)

/-- Every setuid-root file of `s'` was a setuid-root file of `s`. -/
def NoNewSuidRoot (s s' : σ) : Prop :=
  ∀ ino a', fs.getInode s' ino = .ok a' → SuidRoot a' → ∃ a, fs.getInode s ino = .ok a ∧ SuidRoot a

variable {fs}

theorem KeepsOwners.noNewSuidRoot {s s' : σ} (h : fs.KeepsOwners s s') : fs.NoNewSuidRoot s s' := by
  intro ino a' ha' ⟨hu, hp⟩
  obtain ⟨a, ha, hu', hp'⟩ := h ino a' ha'
  exact ⟨a, ha, hu' ▸ hu, hp' ▸ hp⟩

instance : IsRefl σ fs.NoNewSuidRoot := ⟨fun _ _ a h hs => ⟨a, h, hs⟩⟩

instance : IsTrans σ fs.NoNewSuidRoot :=
  ⟨fun _ _ _ h₁ h₂ ino a h hs => let ⟨b, hb, hbs⟩ := h₂ ino a h hs; h₁ ino b hb hbs⟩

end EncryptedFs

/-! ## One request -/

namespace SuidAux

/-- The permissions the `chown` branch writes have SUID only where the file had it. -/
theorem chownPerm_suid (perm : Nat) (h : chownPerm perm &&& S_ISUID ≠ 0) : perm &&& S_ISUID ≠ 0 := by
  unfold chownPerm at h
  split at h
  · exact absurd (clearSuidSgid_suid perm) h
  · exact h

variable {σ : Type}

section Facade

variable {fs : EncryptedFs σ} {s s' : σ}

variable (hfs : fs.OwnerContract)
include hfs

/-- An `update_inode` whose patch sets no owner, and sets SUID on a file of root's only where it was set. -/
theorem updateInode_noNew {inode : Nat} {p : SetFileAttr} (h : fs.updateInode s inode p = .ok ((), s'))
    (hp : p.uid = none)
    (hperm : ∀ a, fs.getInode s inode = .ok a → a.uid = 0 → p.perm.getD a.perm &&& S_ISUID ≠ 0 →
      a.perm &&& S_ISUID ≠ 0) :
    fs.NoNewSuidRoot s s' := by
  intro ino a' ha' ⟨hu, hs⟩
  obtain ⟨a, ha, hu', hp'⟩ := hfs.updateInode s inode p s' h ino a' ha'
  refine ⟨a, ha, ?_⟩
  split_ifs at hu' hp' with hino
  · subst hino
    rw [hp, Option.getD_none] at hu'
    have hau : a.uid = 0 := hu' ▸ hu
    exact ⟨hau, hperm a ha hau (hp' ▸ hs)⟩
  · exact ⟨hu' ▸ hu, hp' ▸ hs⟩

/-- `create_nod` of a draft owned by a caller other than root. -/
theorem createNod_noNew {parent : Nat} {name : RustStr} {c : CreateFileAttr} {read write : Bool} {r : Nat × FileAttr}
    (h : fs.createNod s parent name c read write = .ok (r, s')) (hc : c.uid ≠ 0) : fs.NoNewSuidRoot s s' := by
  intro ino a' ha' ⟨hu, hs⟩
  rcases hfs.createNod s parent name c read write r s' h ino a' ha' with ⟨a, ha, hu', hp'⟩ | hu'
  · exact ⟨a, ha, hu' ▸ hu, hp' ▸ hs⟩
  · exact absurd (hu'.symm.trans hu) hc

end Facade

section Handlers

variable (self : EncryptedFsFuse3 σ) (hfs : self.fs.OwnerContract) {req : Request}
include hfs

/-- The `chmod` branch: a caller other than root gets past its check only for a file they own, which is not root's. -/
theorem chmod_keeps_at (hreq : req.uid ≠ 0) {sys : Sys} {inode : Nat} {attr : FileAttr} {mode : Nat} {s : σ}
    (hg : self.fs.getInode s inode = .ok attr) : self.fs.NoNewSuidRoot s (self.chmod sys req inode attr mode s).2 :=
  (Reads.failIf _ _).keeps_bind_at fun _ hc =>
    (Reads.ite (.bind (.unwrap _) fun _ => .pure _) (.pure _)).keeps_bind_at fun notInGroup _ =>
      updateAndReply_keeps_at self fun _ h => updateInode_noNew hfs h (by cases notInGroup <;> rfl) fun a ha hau _ => by
        obtain rfl : a = attr := Except.ok.inj (ha.symm.trans hg)
        have hc := failIf_reply hc
        simp only [hau, Bool.and_self, bne_eq_false_iff_eq] at hc
        exact absurd hc hreq

/-- The `chown` branch: it sets no owner, and its permissions have SUID only where the file had it. -/
theorem chown_keeps_at {sys : Sys} {inode : Nat} {attr : FileAttr} {s : σ} (hg : self.fs.getInode s inode = .ok attr) :
    self.fs.NoNewSuidRoot s (self.chown sys req inode attr s).2 := by
  rw [chown_eq]
  exact updateAndReply_keeps_at self fun _ h => updateInode_noNew hfs h rfl fun a ha _ hs => by
    obtain rfl : a = attr := Except.ok.inj (ha.symm.trans hg)
    exact chownPerm_suid a.perm hs

/-- The adapter keeps `NoNewSuidRoot` for the requests of every caller other than root. -/
theorem noNewSuidRoot_kept : self.Kept self.fs.NoNewSuidRoot (· ≠ 0) :=
  EncryptedFsFuse3.AttrsKept.kept
    { clearingPatch := fun _ _ _ _ hp h => updateInode_noNew hfs h hp.1 fun _ _ _ => hp.safePatch.perm_suid
      createNod := fun _ hreq _ _ _ _ _ _ _ _ hc h => createNod_noNew hfs h (hc ▸ hreq)
      chmod := fun _ _ hreq _ _ _ _ hg => chmod_keeps_at self hfs hreq hg
      chown := fun _ _ _ _ _ _ hg => chown_keeps_at self hfs hg }
    hfs fun _ _ h => h.noNewSuidRoot

end Handlers

end SuidAux

open SuidAux

/-- Every run of requests from callers other than root, to an adapter over a facade that keeps the owner contract,
however long: every setuid-root file at its end was one at its start. -/
theorem run_noNewSuidRoot {σ : Type} (self : EncryptedFsFuse3 σ) (hfs : self.fs.OwnerContract) (ops : List Op)
    (hops : ∀ op ∈ ops, op.callerUid ≠ some 0) (s : σ) : self.fs.NoNewSuidRoot s (self.run ops s) :=
  run_kept self hfs (noNewSuidRoot_kept self hfs) ops (fun op hop _ hu h => hops op hop (h ▸ hu)) s

/-- An ordinary user asks for `chmod u+s` on root's file `f` and creates a setuid file in root's directory. -/
theorem run_noNewSuidRoot_oneFile :
    memFuse.fs.OwnerContract ∧
    (∀ op ∈ [Op.setattr sampleSys userReq 2 { mode := some 0o4755 }, .create userReq 1 [0x67] 0o104755 O_RDWR],
      op.callerUid ≠ some 0) ∧
    memFuse.fs.NoNewSuidRoot MemFs.oneFile
      (memFuse.run [.setattr sampleSys userReq 2 { mode := some 0o4755 }, .create userReq 1 [0x67] 0o104755 O_RDWR]
        MemFs.oneFile) :=
  ⟨MemFs.ownerContract, by decide, run_noNewSuidRoot memFuse MemFs.ownerContract _ (by decide) _⟩

/- The same `chmod u+s` from root makes `f` a setuid-root file. -/
example : ∃ a, (memFuse.run [.setattr sampleSys rootReq 2 { mode := some 0o4755 }] MemFs.oneFile).getInode 2 = .ok a ∧
    SuidRoot a ∧ ¬SuidRoot MemFs.rootFile :=
  ⟨_, rfl, by decide, by decide⟩

end Rencfs

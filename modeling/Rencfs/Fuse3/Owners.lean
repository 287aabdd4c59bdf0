import Rencfs.Fuse3.Contract

/-!
# An owner is set once, when its inode is created

The `chown` branch of `setattr` checks and sets the owner and the group of a fresh `SetFileAttr::default()`, not those
the request asks for, and no other patch the adapter sends to `update_inode` sets an owner. So, over a facade that
keeps the owner contract, an inode keeps the owner it was created with, whoever the callers, root included: every
inode at the end of a run of requests is one from its start with the same owner, or is owned by one of the run's
callers (`run_ownedFrom`). Not even root can give a file away.
-/

namespace Rencfs

open Libc Handler SetattrAux ContractAux

namespace EncryptedFs

variable {σ : Type} (fs : EncryptedFs σ)

/-- Every inode of `s'` was an inode of `s` with the same owner, or is owned by one of `uids`. -/
def OwnedFrom (uids : List Nat) (s s' : σ) : Prop :=
  ∀ ino a', fs.getInode s' ino = .ok a' → (∃ a, fs.getInode s ino = .ok a ∧ a'.uid = a.uid) ∨ a'.uid ∈ uids

variable {fs} {uids : List Nat}

theorem KeepsOwners.ownedFrom {s s' : σ} (h : fs.KeepsOwners s s') : fs.OwnedFrom uids s s' := fun ino a' ha' =>
  let ⟨a, ha, hu, _⟩ := h ino a' ha'
  .inl ⟨a, ha, hu⟩

instance : IsRefl σ (fs.OwnedFrom uids) := ⟨fun _ _ a h => .inl ⟨a, h, rfl⟩⟩

instance : IsTrans σ (fs.OwnedFrom uids) :=
  ⟨fun _ _ _ h₁ h₂ ino a h => match h₂ ino a h with
    | .inl ⟨b, hb, hab⟩ => (h₁ ino b hb).imp (fun ⟨c, hc, hbc⟩ => ⟨c, hc, hab.trans hbc⟩) (hab ▸ ·)
    | .inr hu => .inr hu⟩

end EncryptedFs

/-! ## One request -/

namespace OwnersAux

variable {σ : Type} {uids : List Nat}

section Facade

variable {fs : EncryptedFs σ} (hfs : fs.OwnerContract) {s s' : σ}
include hfs

/-- An `update_inode` whose patch sets no owner. -/
theorem updateInode_ownedFrom {inode : Nat} {p : SetFileAttr} (h : fs.updateInode s inode p = .ok ((), s'))
    (hp : p.uid = none) : fs.OwnedFrom uids s s' := fun ino a' ha' =>
  let ⟨a, ha, hu, _⟩ := hfs.updateInode s inode p s' h ino a' ha'
  .inl ⟨a, ha, by simpa only [hp, Option.getD_none, ite_self] using hu⟩

/-- `create_nod` of a draft owned by one of `uids`. -/
theorem createNod_ownedFrom {parent : Nat} {name : RustStr} {c : CreateFileAttr} {read write : Bool}
    {r : Nat × FileAttr} (h : fs.createNod s parent name c read write = .ok (r, s')) (hc : c.uid ∈ uids) :
    fs.OwnedFrom uids s s' := fun ino a' ha' =>
  (hfs.createNod s parent name c read write r s' h ino a' ha').imp (fun ⟨a, ha, hu, _⟩ => ⟨a, ha, hu⟩)
    fun (hu : a'.uid = c.uid) => hu ▸ hc

end Facade

section Handlers

variable (self : EncryptedFsFuse3 σ) (hfs : self.fs.OwnerContract)
include hfs

/-- The `chmod` branch, whoever the caller: its patch sets the permissions and the access time. -/
theorem chmod_ownedFrom {sys : Sys} {req : Request} {inode : Nat} {attr : FileAttr} {mode : Nat} {s : σ} :
    self.fs.OwnedFrom uids s (self.chmod sys req inode attr mode s).2 :=
  (Reads.failIf _ _).keeps_bind_at fun _ _ =>
    (Reads.ite (.bind (.unwrap _) fun _ => .pure _) (.pure _)).keeps_bind_at fun notInGroup _ =>
      updateAndReply_keeps_at self fun _ h => updateInode_ownedFrom hfs h (by cases notInGroup <;> rfl)

/-- The `chown` branch, whoever the caller: it sets the permissions and the access time, and no owner. -/
theorem chown_ownedFrom {sys : Sys} {req : Request} {inode : Nat} {attr : FileAttr} {s : σ} :
    self.fs.OwnedFrom uids s (self.chown sys req inode attr s).2 := by
  rw [chown_eq]
  exact updateAndReply_keeps_at self fun _ h => updateInode_ownedFrom hfs h rfl

/-- The adapter keeps `OwnedFrom uids` for the requests of every caller in `uids`. -/
theorem ownedFrom_kept : self.Kept (self.fs.OwnedFrom uids) (· ∈ uids) :=
  EncryptedFsFuse3.AttrsKept.kept
    { clearingPatch := fun _ _ _ _ hp h => updateInode_ownedFrom hfs h hp.1
      createNod := fun _ hreq _ _ _ _ _ _ _ _ hc h => createNod_ownedFrom hfs h (hc ▸ hreq)
      chmod := fun _ _ _ _ _ _ _ _ => chmod_ownedFrom self hfs
      chown := fun _ _ _ _ _ _ _ => chown_ownedFrom self hfs }
    hfs fun _ _ h => h.ownedFrom

end Handlers

end OwnersAux

open OwnersAux

/-- Every run of requests, from any callers, root included, to an adapter over a facade that keeps the owner contract:
every inode at its end is one from its start with the same owner, or is owned by one of the run's callers. -/
theorem run_ownedFrom {σ : Type} (self : EncryptedFsFuse3 σ) (hfs : self.fs.OwnerContract) (ops : List Op) (s : σ) :
    self.fs.OwnedFrom (ops.filterMap Op.callerUid) s (self.run ops s) :=
  run_kept self hfs (ownedFrom_kept self hfs) ops (fun op hop _ hu => List.mem_filterMap.2 ⟨op, hop, hu⟩) s

/-- Root asks for `f` to be given to uid 1000, and makes a directory. -/
theorem run_ownedFrom_rootChown :
    memFuse.fs.OwnerContract ∧
    memFuse.fs.OwnedFrom ([Op.setattr sampleSys rootReq 2 { uid := some 1000 }, .mkdir rootReq 1 [0x64] 0o755].filterMap
      Op.callerUid) MemFs.oneFile
      (memFuse.run [.setattr sampleSys rootReq 2 { uid := some 1000 }, .mkdir rootReq 1 [0x64] 0o755] MemFs.oneFile) :=
  ⟨MemFs.ownerContract, run_ownedFrom memFuse MemFs.ownerContract _ _⟩

/- After it, `f` is still root's. -/
example : ∃ a, (memFuse.run [.setattr sampleSys rootReq 2 { uid := some 1000 }] MemFs.oneFile).getInode 2 = .ok a ∧
    a.uid = 0 :=
  ⟨_, rfl, rfl⟩

end Rencfs

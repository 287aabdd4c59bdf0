import Rencfs.Fuse3.Contract
import Rencfs.Fuse3.Release

/-!
# Callers other than root only clear set-id bits of another's file

`chmod` reaches `update_inode` for a caller other than root only on a file they own. Every other patch the adapter
sends sets the permissions the inode already has, with SUID and SGID cleared (`clear_suid_sgid`, from the `chown`
branch, the `truncate` step of `setattr` and `release`), or sets none. So in a run of requests from callers other than
root, a file that none of them owns keeps its owner, and its permissions change only by losing SUID or SGID: its
`rwx` and sticky bits stay as they were (`run_modesFrom`).
-/

namespace Rencfs

open Libc Handler SetattrAux ContractAux

/-- `perm'` is `perm` with some set-id bits cleared: it has no bit `perm` lacks, and every bit of the `u16` `perm` but
`S_ISUID` and `S_ISGID` (the file type, the sticky bit and the permission bits). -/
def SetidCleared (perm perm' : Nat) : Prop :=
  perm' &&& perm = perm' ∧ perm' &&& bitNot16 (S_ISUID ||| S_ISGID) = perm &&& bitNot16 (S_ISUID ||| S_ISGID)

instance (perm perm' : Nat) : Decidable (SetidCleared perm perm') :=
  inferInstanceAs (Decidable (_ ∧ _))

namespace SetidCleared

theorem refl (perm : Nat) : SetidCleared perm perm := ⟨Nat.and_self perm, rfl⟩

theorem trans {p₁ p₂ p₃ : Nat} (h₁ : SetidCleared p₁ p₂) (h₂ : SetidCleared p₂ p₃) : SetidCleared p₁ p₃ :=
  ⟨by rw [← h₂.1, Nat.and_assoc, h₁.1], h₂.2.trans h₁.2⟩

/-- Masking by a mask that keeps every bit but the set-id ones. -/
theorem and (perm : Nat) {c : Nat} (hc : c &&& bitNot16 (S_ISUID ||| S_ISGID) = bitNot16 (S_ISUID ||| S_ISGID)) :
    SetidCleared perm (perm &&& c) :=
  ⟨by rw [Nat.and_comm, ← Nat.and_assoc, Nat.and_self], by rw [Nat.and_assoc, hc]⟩

end SetidCleared

namespace ModesAux

theorem clearSuidSgid_setidCleared (perm : Nat) : SetidCleared perm (clearSuidSgid perm) := by
  have h := SetidCleared.and perm
    (show asU16 (bitNot32 S_ISUID) &&& bitNot16 (S_ISUID ||| S_ISGID) = bitNot16 (S_ISUID ||| S_ISGID) by decide)
  dsimp only [clearSuidSgid]
  split
  · exact h.trans (.and _ (by decide))
  · exact h

theorem chownPerm_setidCleared (perm : Nat) : SetidCleared perm (chownPerm perm) := by
  unfold chownPerm
  split
  · exact clearSuidSgid_setidCleared perm
  · exact .refl perm

end ModesAux

open ModesAux

namespace EncryptedFs

variable {σ : Type} (fs : EncryptedFs σ)

/-- Every inode of `s'` is owned by one of `uids`, or was an inode of `s` with the same owner whose permissions have
only lost set-id bits. -/
def ModesFrom (uids : List Nat) (s s' : σ) : Prop :=
  ∀ ino a', fs.getInode s' ino = .ok a' →
    a'.uid ∈ uids ∨ ∃ a, fs.getInode s ino = .ok a ∧ a'.uid = a.uid ∧ SetidCleared a.perm a'.perm

variable {fs} {uids : List Nat}

theorem KeepsOwners.modesFrom {s s' : σ} (h : fs.KeepsOwners s s') : fs.ModesFrom uids s s' := fun ino a' ha' =>
  let ⟨a, ha, hu, hp⟩ := h ino a' ha'
  .inr ⟨a, ha, hu, hp ▸ .refl _⟩

instance : IsRefl σ (fs.ModesFrom uids) := ⟨fun _ _ a h => .inr ⟨a, h, rfl, .refl _⟩⟩

instance : IsTrans σ (fs.ModesFrom uids) :=
  ⟨fun _ _ _ h₁ h₂ ino a h => match h₂ ino a h with
    | .inl hu => .inl hu
    | .inr ⟨b, hb, hab, hp⟩ =>
      (h₁ ino b hb).imp (hab ▸ ·) fun ⟨c, hc, hbc, hp'⟩ => ⟨c, hc, hab.trans hbc, hp'.trans hp⟩⟩

end EncryptedFs

/-! ## One request -/

namespace ModesAux

variable {σ : Type} {uids : List Nat}

section Facade

variable {fs : EncryptedFs σ} (hfs : fs.OwnerContract) {s s' : σ}
include hfs

/-- An `update_inode` whose patch sets no owner, and sets permissions that only clear set-id bits, unless the inode is
owned by one of `uids`. -/
theorem updateInode_modesFrom {inode : Nat} {p : SetFileAttr} (h : fs.updateInode s inode p = .ok ((), s'))
    (hp : p.uid = none)
    (hperm : ∀ a q, fs.getInode s inode = .ok a → p.perm = some q → a.uid ∈ uids ∨ SetidCleared a.perm q) :
    fs.ModesFrom uids s s' := by
  intro ino a' ha'
  obtain ⟨a, ha, hu, hq⟩ := hfs.updateInode s inode p s' h ino a' ha'
  rw [hp, Option.getD_none, ite_self] at hu
  split_ifs at hq with hino
  · subst hino
    cases hpq : p.perm with
    | none => exact .inr ⟨a, ha, hu, by rw [hq, hpq, Option.getD_none]; exact .refl _⟩
    | some q =>
      rw [hpq, Option.getD_some] at hq
      exact (hperm a q ha hpq).imp (hu ▸ ·) fun hc => ⟨a, ha, hu, hq ▸ hc⟩
  · exact .inr ⟨a, ha, hu, hq ▸ .refl _⟩

/-- `create_nod` of a draft owned by one of `uids`. -/
theorem createNod_modesFrom {parent : Nat} {name : RustStr} {c : CreateFileAttr} {read write : Bool}
    {r : Nat × FileAttr} (h : fs.createNod s parent name c read write = .ok (r, s')) (hc : c.uid ∈ uids) :
    fs.ModesFrom uids s s' := fun ino a' ha' =>
  (hfs.createNod s parent name c read write r s' h ino a' ha').elim
    (fun ⟨a, ha, hu, hp⟩ => .inr ⟨a, ha, hu, hp ▸ .refl _⟩) fun (hu : a'.uid = c.uid) => .inl (hu ▸ hc)

end Facade

section Handlers

variable (self : EncryptedFsFuse3 σ) (hfs : self.fs.OwnerContract) {req : Request}
include hfs

/-- The `chmod` branch: a caller other than root gets past its check only for a file they own. -/
theorem chmod_modesFrom (hreq : req.uid ∈ uids ∧ req.uid ≠ 0) {sys : Sys} {inode : Nat} {attr : FileAttr}
    {mode : Nat} {s : σ} (hg : self.fs.getInode s inode = .ok attr) :
    self.fs.ModesFrom uids s (self.chmod sys req inode attr mode s).2 :=
  (Reads.failIf _ _).keeps_bind_at fun _ hc =>
    (Reads.ite (.bind (.unwrap _) fun _ => .pure _) (.pure _)).keeps_bind_at fun notInGroup _ =>
      updateAndReply_keeps_at self fun _ h => updateInode_modesFrom hfs h (by cases notInGroup <;> rfl)
        fun a _ ha _ => by
          obtain rfl : a = attr := Except.ok.inj (ha.symm.trans hg)
          have hc := failIf_reply hc
          simp only [Bool.and_eq_false_iff, bne_eq_false_iff_eq, hreq.2, false_or] at hc
          exact .inl (hc ▸ hreq.1)

/-- The `chown` branch: it sets no owner, and clears set-id bits of the permissions the file has. -/
theorem chown_modesFrom {sys : Sys} {inode : Nat} {attr : FileAttr} {s : σ}
    (hg : self.fs.getInode s inode = .ok attr) : self.fs.ModesFrom uids s (self.chown sys req inode attr s).2 := by
  rw [chown_eq]
  exact updateAndReply_keeps_at self fun _ h => updateInode_modesFrom hfs h rfl fun a q ha hq => by
    obtain rfl : a = attr := Except.ok.inj (ha.symm.trans hg)
    exact .inr (Option.some.inj hq ▸ chownPerm_setidCleared a.perm)

/-- The adapter keeps `ModesFrom uids` for the requests of every caller in `uids` other than root. -/
theorem modesFrom_kept : self.Kept (self.fs.ModesFrom uids) (fun u => u ∈ uids ∧ u ≠ 0) :=
  EncryptedFsFuse3.AttrsKept.kept
    { clearingPatch := fun _ _ _ _ hp h => updateInode_modesFrom hfs h hp.1 fun a q ha hq =>
        let ⟨_, hq', hperm⟩ := hp.2 q hq
        .inr (hq' ▸ hperm a ha ▸ clearSuidSgid_setidCleared a.perm)
      createNod := fun _ hreq _ _ _ _ _ _ _ _ hc h => createNod_modesFrom hfs h (hc ▸ hreq.1)
      chmod := fun _ _ hreq _ _ _ _ hg => chmod_modesFrom self hfs hreq hg
      chown := fun _ _ _ _ _ _ hg => chown_modesFrom self hfs hg }
    hfs fun _ _ h => h.modesFrom

end Handlers

end ModesAux

open ModesAux

/-- Every run of requests from callers other than root, to an adapter over a facade that keeps the owner contract:
every inode at its end is owned by one of the run's callers, or was an inode at its start with the same owner whose
permissions have only lost SUID or SGID. -/
theorem run_modesFrom {σ : Type} (self : EncryptedFsFuse3 σ) (hfs : self.fs.OwnerContract) (ops : List Op)
    (hops : ∀ op ∈ ops, op.callerUid ≠ some 0) (s : σ) :
    self.fs.ModesFrom (ops.filterMap Op.callerUid) s (self.run ops s) :=
  run_kept self hfs (modesFrom_kept self hfs) ops
    (fun op hop _ hu => ⟨List.mem_filterMap.2 ⟨op, hop, hu⟩, fun h => hops op hop (h ▸ hu)⟩) s

/-- An ordinary user truncates root's setuid file `f`, asks for `chmod 777` on it, and makes a directory. -/
theorem run_modesFrom_userRun :
    memFuse.fs.OwnerContract ∧
    (∀ op ∈ [Op.setattr sampleSys userReq 2 { size := some 0 }, .setattr sampleSys userReq 2 { mode := some 0o777 },
      .mkdir userReq 1 [0x64] 0o755], op.callerUid ≠ some 0) ∧
    memFuse.fs.ModesFrom ([Op.setattr sampleSys userReq 2 { size := some 0 },
      .setattr sampleSys userReq 2 { mode := some 0o777 }, .mkdir userReq 1 [0x64] 0o755].filterMap Op.callerUid)
      MemFs.suidWritten (memFuse.run [.setattr sampleSys userReq 2 { size := some 0 },
        .setattr sampleSys userReq 2 { mode := some 0o777 }, .mkdir userReq 1 [0x64] 0o755] MemFs.suidWritten) :=
  ⟨MemFs.ownerContract, by decide, run_modesFrom memFuse MemFs.ownerContract _ (by decide) _⟩

/- After the truncation `f` is `rwxr-xr-x`: SUID is gone, and nothing else changed. -/
example : ∃ a, (memFuse.run [.setattr sampleSys userReq 2 { size := some 0 }] MemFs.suidWritten).getInode 2 = .ok a ∧
    a.perm = 0o755 :=
  ⟨_, rfl, rfl⟩

end Rencfs

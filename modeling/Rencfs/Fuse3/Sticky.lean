import Rencfs.Fuse3.Entries
import Rencfs.Fuse3.Modes

/-!
# The sticky rule holds over every run

In a sticky directory, `unlink`, `rmdir` and `rename` let a caller remove an entry, move it away or replace it only
when the caller is root, owns the directory or owns the entry's inode (`stickyDenies`, checked on the source entry and,
by `rename`, on the entry it replaces). An entry the rule denies to every caller of a run is `Shielded` from them.

Over a facade that keeps the owner contract and the contract on entries, every run of requests keeps every shielded
entry: at its end the entry is there, names the same inode, and is still shielded (`run_shielded`). No request of the
run removes or replaces it; none clears the sticky bit of its directory, since only the directory's owner may `chmod`
it and the other patches only clear set-id bits; and none gives the directory or the inode to a caller, since no patch
sets an owner and `create_nod` keeps every inode.
-/

namespace Rencfs

open Libc Handler SetattrAux GatesAux ContractAux ModesAux

/-- Clearing set-id bits keeps the sticky bit. -/
theorem SetidCleared.sticky {perm perm' : Nat} (h : SetidCleared perm perm') :
    perm' &&& asU16 S_ISVTX = perm &&& asU16 S_ISVTX := by
  have hv : asU16 S_ISVTX = bitNot16 (S_ISUID ||| S_ISGID) &&& asU16 S_ISVTX := by decide
  rw [hv, ← Nat.and_assoc, ← Nat.and_assoc, h.2]

namespace EncryptedFs

variable {σ : Type} (fs : EncryptedFs σ)

/-- The entry `name` of `parent` in `s` names inode `ino`, and the sticky rule denies every caller in `uids` its
removal. -/
def Shielded (uids : List Nat) (s : σ) (parent : Nat) (name : RustStr) (ino : Nat) : Prop :=
  ∃ pa c, fs.getInode s parent = .ok pa ∧ fs.findByName s parent name = .ok (some c) ∧ c.ino = ino ∧
    ∀ u ∈ uids, stickyDenies pa u c = true

/-- From a state where `inv` holds, `s'` is one where it holds, and every entry of `s` shielded from `uids` is an entry
of `s'` naming the same inode, shielded from them. -/
def ShieldsKept (inv : σ → Prop) (uids : List Nat) (s s' : σ) : Prop :=
  inv s → inv s' ∧ ∀ parent name ino, fs.Shielded uids s parent name ino → fs.Shielded uids s' parent name ino

/-- Every inode of both states that none of `uids` owns keeps its owner and its sticky bit. -/
def KeepsSticky (uids : List Nat) (s s' : σ) : Prop :=
  ∀ ino a a', fs.getInode s ino = .ok a → fs.getInode s' ino = .ok a' → a.uid ∉ uids →
    a'.uid = a.uid ∧ a'.perm &&& asU16 S_ISVTX = a.perm &&& asU16 S_ISVTX

variable {fs} {inv : σ → Prop} {uids : List Nat} {s s' : σ}

instance : IsRefl σ (fs.ShieldsKept inv uids) := ⟨fun _ hs => ⟨hs, fun _ _ _ h => h⟩⟩

instance : IsTrans σ (fs.ShieldsKept inv uids) :=
  ⟨fun _ _ _ h₁ h₂ hs =>
    let ⟨hs', k₁⟩ := h₁ hs
    let ⟨hs'', k₂⟩ := h₂ hs'
    ⟨hs'', fun p n i h => k₂ p n i (k₁ p n i h)⟩⟩

theorem KeepsOwners.keepsSticky (h : fs.KeepsOwners s s') : fs.KeepsSticky uids s s' := fun ino a a' ha ha' _ =>
  let ⟨b, hb, hu, hp⟩ := h ino a' ha'
  have hab : b = a := Except.ok.inj (hb.symm.trans ha)
  ⟨hab ▸ hu, by rw [hp, hab]⟩

end EncryptedFs

/-! ## One facade call -/

namespace StickyAux

variable {σ : Type} {fs : EncryptedFs σ} {inv : σ → Prop} {uids : List Nat} {s s' : σ}

theorem stickyDenies_congr {pa pa' c c' : FileAttr} {u : Nat}
    (hp : pa'.perm &&& asU16 S_ISVTX = pa.perm &&& asU16 S_ISVTX) (hu : pa'.uid = pa.uid) (hc : c'.uid = c.uid) :
    stickyDenies pa' u c' = stickyDenies pa u c := by
  simp only [stickyDenies, hp, hu, hc]

/-- A rule that denies every caller in `uids` names neither root, nor the directory's owner, nor the entry's. -/
theorem not_mem_of_denies {pa c : FileAttr} (h : ∀ u ∈ uids, stickyDenies pa u c = true) :
    pa.uid ∉ uids ∧ c.uid ∉ uids ∧ 0 ∉ uids :=
  ⟨fun hu => by simpa [stickyDenies] using h _ hu, fun hu => by simpa [stickyDenies] using h _ hu,
    fun hu => by simpa [stickyDenies] using h _ hu⟩

/-- An entry the rule let a caller in `uids` remove is not shielded from them. -/
theorem not_shielded {req : Request} {parent : Nat} {name : RustStr} {pa attr : FileAttr} (hreq : req.uid ∈ uids)
    (hpa : fs.getInode s parent = .ok pa) (hattr : fs.findByName s parent name = .ok (some attr))
    (hs : stickyDenies pa req.uid attr = false) : ∀ p n ino, p = parent ∧ n = name → ¬fs.Shielded uids s p n ino := by
  rintro _ _ ino ⟨rfl, rfl⟩ ⟨pa', c, hpa', hc, _, hden⟩
  obtain rfl : pa' = pa := Except.ok.inj (hpa'.symm.trans hpa)
  obtain rfl : c = attr := Option.some.inj (Except.ok.inj (hc.symm.trans hattr))
  exact absurd (hden _ hreq) (by rw [hs]; decide)

section Contract

variable (hent : fs.EntryContract inv)
include hent

/-- A step that keeps every entry but the `gone` ones, none of them shielded, and keeps the owner and the sticky bit of
every inode no caller owns, keeps every shielded entry. -/
theorem shielded_step {gone : Nat → RustStr → Prop} (hE : fs.KeepsEntries gone s s')
    (hgone : ∀ p n ino, gone p n → ¬fs.Shielded uids s p n ino) (hk : fs.KeepsSticky uids s s') {p : Nat}
    {n : RustStr} {ino : Nat} (h : fs.Shielded uids s p n ino) : fs.Shielded uids s' p n ino := by
  obtain ⟨pa, c, hpa, hc, rfl, hden⟩ := h
  obtain ⟨c', hc', hino⟩ := hE p n c hc fun hg => hgone p n c.ino hg ⟨pa, c, hpa, hc, rfl, hden⟩
  obtain ⟨⟨pa', hpa'⟩, hcc'⟩ := hent.findByName _ p n c' hc'
  obtain ⟨hpu, hcu, -⟩ := not_mem_of_denies hden
  obtain ⟨hu, hst⟩ := hk p pa pa' hpa hpa' hpu
  obtain ⟨hcu', -⟩ := hk c.ino c c' (hent.findByName _ p n c hc).2 (hino ▸ hcc') hcu
  exact ⟨pa', c', hpa', hc', hino, fun u hu' => (stickyDenies_congr hst hu hcu').trans (hden u hu')⟩

theorem shieldsKept_of {gone : Nat → RustStr → Prop} (hstep : inv s → inv s' ∧ fs.KeepsEntries gone s s')
    (hgone : ∀ p n ino, gone p n → ¬fs.Shielded uids s p n ino) (hk : fs.KeepsSticky uids s s') :
    fs.ShieldsKept inv uids s s' := fun hs =>
  let ⟨hs', hE⟩ := hstep hs
  ⟨hs', fun _ _ _ => shielded_step hent hE hgone hk⟩

/-- A call that keeps every entry, owners and permissions. -/
theorem shieldsKept_of_keepsOwners (hko : fs.KeepsOwners s s')
    (hstep : inv s → inv s' ∧ fs.KeepsEntries (fun _ _ => False) s s') : fs.ShieldsKept inv uids s s' :=
  shieldsKept_of hent hstep (fun _ _ _ h => h.elim) hko.keepsSticky

/-- `create_nod` keeps every inode and every entry. -/
theorem createNod_shieldsKept {parent : Nat} {name : RustStr} {c : CreateFileAttr} {read write : Bool}
    {r : Nat × FileAttr} (h : fs.createNod s parent name c read write = .ok (r, s')) :
    fs.ShieldsKept inv uids s s' := fun hs =>
  let ⟨hs', hi, hE⟩ := hent.createNod s parent name c read write r s' hs h
  have hk : fs.KeepsSticky uids s s' := fun ino a a' ha ha' _ => by
    obtain rfl : a' = a := Except.ok.inj (ha'.symm.trans (hi ino a ha))
    exact ⟨rfl, rfl⟩
  shieldsKept_of hent (fun _ => ⟨hs', hE⟩) (fun _ _ _ h => h.elim) hk hs

/-- `update_inode` of a patch that sets no owner, and sets permissions only on an inode a caller owns or by clearing
set-id bits, unless root is a caller, from whom nothing is shielded. -/
theorem updateInode_shieldsKept (hfs : fs.OwnerContract) {inode : Nat} {p : SetFileAttr}
    (h : fs.updateInode s inode p = .ok ((), s')) (hp : p.uid = none)
    (hperm : 0 ∉ uids → ∀ a q, fs.getInode s inode = .ok a → p.perm = some q → a.uid ∈ uids ∨ SetidCleared a.perm q) :
    fs.ShieldsKept inv uids s s' := by
  have hstep := fun hs => hent.updateInode s inode p s' hs h
  by_cases h0 : 0 ∈ uids
  · exact fun hs => ⟨(hstep hs).1, fun _ _ _ ⟨_, _, _, _, _, hden⟩ => absurd h0 (not_mem_of_denies hden).2.2⟩
  refine shieldsKept_of hent hstep (fun _ _ _ h => h.elim) fun ino a a' ha ha' hau => ?_
  have hu : a'.uid = a.uid := by
    obtain ⟨b, hb, hu, -⟩ := hfs.updateInode s inode p s' h ino a' ha'
    obtain rfl : b = a := Except.ok.inj (hb.symm.trans ha)
    simpa only [hp, Option.getD_none, ite_self] using hu
  rcases updateInode_modesFrom hfs h hp (hperm h0) ino a' ha' with hm | ⟨b, hb, -, hc⟩
  · exact absurd (hu ▸ hm) hau
  · obtain rfl : b = a := Except.ok.inj (hb.symm.trans ha)
    exact ⟨hu, hc.sticky⟩

end Contract

/-! ## One request -/

section Handlers

variable (self : EncryptedFsFuse3 σ) (hfs : self.fs.OwnerContract) (hent : self.fs.EntryContract inv)
  {req : Request}
include hfs hent

/-- The `chmod` branch: its check lets a caller patch the permissions only of an inode they own, or lets root. -/
theorem chmod_shieldsKept (hreq : req.uid ∈ uids) {sys : Sys} {inode : Nat} {attr : FileAttr} {mode : Nat} {s : σ}
    (hg : self.fs.getInode s inode = .ok attr) :
    self.fs.ShieldsKept inv uids s (self.chmod sys req inode attr mode s).2 :=
  (Reads.failIf _ _).keeps_bind_at fun _ hc =>
    (Reads.ite (.bind (.unwrap _) fun _ => .pure _) (.pure _)).keeps_bind_at fun notInGroup _ =>
      updateAndReply_keeps_at self fun _ h => updateInode_shieldsKept hent hfs h (by cases notInGroup <;> rfl)
        fun h0 a _ ha _ => by
          obtain rfl : a = attr := Except.ok.inj (ha.symm.trans hg)
          have hc := failIf_reply hc
          simp only [Bool.and_eq_false_iff, bne_eq_false_iff_eq] at hc
          rcases hc with hc | hc
          · exact absurd (hc ▸ hreq) h0
          · exact .inl (hc ▸ hreq)

/-- The `chown` branch: it sets no owner, and clears set-id bits of the permissions the file has. -/
theorem chown_shieldsKept {sys : Sys} {inode : Nat} {attr : FileAttr} {s : σ}
    (hg : self.fs.getInode s inode = .ok attr) :
    self.fs.ShieldsKept inv uids s (self.chown sys req inode attr s).2 := by
  rw [chown_eq]
  exact updateAndReply_keeps_at self fun _ h => updateInode_shieldsKept hent hfs h rfl fun _ a q ha hq => by
    obtain rfl : a = attr := Except.ok.inj (ha.symm.trans hg)
    exact .inr (Option.some.inj hq ▸ chownPerm_setidCleared a.perm)

/-- The adapter keeps the shielded entries of the callers in `uids`, from every state where `inv` holds. -/
theorem shieldsKept_kept : self.Kept (self.fs.ShieldsKept inv uids) (· ∈ uids) where
  clearingPatch _ _ _ _ hp h := updateInode_shieldsKept hent hfs h hp.1 fun _ a q ha hq =>
    let ⟨_, hq', hperm⟩ := hp.2 q hq
    .inr (hq' ▸ hperm a ha ▸ clearSuidSgid_setidCleared a.perm)
  createNod _ _ _ _ _ _ _ _ _ _ _ h := createNod_shieldsKept hent h
  chmod _ _ hreq _ _ _ _ hg := chmod_shieldsKept self hfs hent hreq hg
  chown _ _ _ _ _ _ hg := chown_shieldsKept self hfs hent hg
  truncate _ _ _ _ h := shieldsKept_of_keepsOwners hent (hfs.truncate _ _ _ _ h) fun hs => hent.truncate _ _ _ _ hs h
  «open» _ _ _ _ _ _ h :=
    shieldsKept_of_keepsOwners hent (hfs.open _ _ _ _ _ _ h) fun hs => hent.open _ _ _ _ _ _ hs h
  flush _ _ _ h := shieldsKept_of_keepsOwners hent (hfs.flush _ _ _ h) fun hs => hent.flush _ _ _ hs h
  release _ _ _ h := shieldsKept_of_keepsOwners hent (hfs.release _ _ _ h) fun hs => hent.release _ _ _ hs h
  read _ _ _ _ _ _ _ h :=
    shieldsKept_of_keepsOwners hent (hfs.read _ _ _ _ _ _ _ h) fun hs => hent.read _ _ _ _ _ _ _ hs h
  write _ _ _ _ _ _ _ h :=
    shieldsKept_of_keepsOwners hent (hfs.write _ _ _ _ _ _ _ h) fun hs => hent.write _ _ _ _ _ _ _ hs h
  copyFileRange _ _ _ _ _ _ _ _ _ _ h := shieldsKept_of_keepsOwners hent (hfs.copyFileRange _ _ _ _ _ _ _ _ _ _ h)
    fun hs => hent.copyFileRange _ _ _ _ _ _ _ _ _ _ hs h
  removeFile _ hreq _ _ _ _ _ _ hpa hattr hs h :=
    shieldsKept_of hent (fun hi => hent.removeFile _ _ _ _ hi h) (not_shielded hreq hpa hattr hs)
      (hfs.removeFile _ _ _ _ h).keepsSticky
  removeDir _ hreq _ _ _ _ _ _ hpa hattr hs h :=
    shieldsKept_of hent (fun hi => hent.removeDir _ _ _ _ hi h) (not_shielded hreq hpa hattr hs)
      (hfs.removeDir _ _ _ _ h).keepsSticky
  rename _ hreq _ _ _ _ _ _ _ npa _ hpa hattr hs hnpa htarget h :=
    shieldsKept_of hent (fun hi => hent.rename _ _ _ _ _ _ hi h)
      (fun p n ino hg => hg.elim (not_shielded hreq hpa hattr hs p n ino)
        fun ⟨hp, hn⟩ ⟨npa', old, hnpa', hold, _, hden⟩ => by
          subst hp hn
          obtain rfl : npa' = npa := Except.ok.inj (hnpa'.symm.trans hnpa)
          exact absurd (hden _ hreq) (by rw [htarget old hold]; decide))
      (hfs.rename _ _ _ _ _ _ h).keepsSticky

end Handlers

end StickyAux

open StickyAux

/-- Every run of requests, from any callers, to an adapter over a facade that keeps the owner contract and the
contract on entries, from a state where the contract's invariant holds: every entry the sticky rule denies to all the
run's callers is, at the end of the run, an entry naming the same inode, which the rule still denies to them. -/
theorem run_shielded {σ : Type} (self : EncryptedFsFuse3 σ) (hfs : self.fs.OwnerContract) {inv : σ → Prop}
    (hent : self.fs.EntryContract inv) (ops : List Op) (s : σ) :
    self.fs.ShieldsKept inv (ops.filterMap Op.callerUid) s (self.run ops s) :=
  run_kept self hfs (shieldsKept_kept self hfs hent) ops (fun op hop _ hu => List.mem_filterMap.2 ⟨op, hop, hu⟩) s

namespace MemFs

/-- A sticky root directory, `rwxrwxrwt`, holding root's file `f`. -/
def stickyRoot : MemFs := ⟨[{ rootDir with perm := 0o1777 }, rootFile], [(1, nameF, 2)], 3, 1, [], []⟩

end MemFs

/-- An ordinary user tries to remove root's `f` from the sticky root, and to move it away. -/
theorem run_shielded_stickyRoot :
    memFuse.fs.OwnerContract ∧ memFuse.fs.EntryContract MemFs.Fresh ∧
    memFuse.fs.ShieldsKept MemFs.Fresh ([Op.unlink userReq 1 [0x66], .rename userReq 1 [0x66] 1 [0x67]].filterMap
      Op.callerUid) MemFs.stickyRoot
      (memFuse.run [.unlink userReq 1 [0x66], .rename userReq 1 [0x66] 1 [0x67]] MemFs.stickyRoot) :=
  ⟨MemFs.ownerContract, MemFs.entryContract, run_shielded memFuse MemFs.ownerContract MemFs.entryContract _ _⟩

/- Both are denied: `f` is still there. Without the sticky bit the same user removes it. -/
example : (memFuse.run [.unlink userReq 1 [0x66], .rename userReq 1 [0x66] 1 [0x67]] MemFs.stickyRoot).findByName 1
      MemFs.nameF = .ok (some MemFs.rootFile) ∧
    ((memFuse.run [.unlink userReq 1 [0x66]] { MemFs.stickyRoot with
      inodes := [{ MemFs.rootDir with perm := 0o777 }, MemFs.rootFile] }).findByName 1 MemFs.nameF) = .ok none :=
  ⟨rfl, rfl⟩

end Rencfs

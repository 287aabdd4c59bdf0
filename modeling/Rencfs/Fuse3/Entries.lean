import Rencfs.Fuse3.Contract

/-!
# The entries of the directories

The handlers that remove and rename entries check the sticky rule on the entries the facade finds, and leave the
entries themselves to the facade. The facade's contract on entries (`EncryptedFs.EntryContract`, after the spec's table
of its calls) says what each of its calls does to them: `find_by_name` answers the attributes of the inode an entry
names, `create_nod` keeps every inode and every entry, `remove_file` and `remove_dir` keep every entry but the one they
name, `rename` every entry but the two it names, and the other calls that write, those on contents included, keep
every entry. The in-memory facade keeps the contract from every state whose next inode number is fresh
(`MemFs.entryContract`).
-/

namespace Rencfs

namespace EncryptedFs

variable {σ : Type} (fs : EncryptedFs σ)

/-- Every entry of `s`, but those `gone` names, is an entry of `s'` naming the same inode. -/
def KeepsEntries (gone : Nat → RustStr → Prop) (s s' : σ) : Prop :=
  ∀ parent name c, fs.findByName s parent name = .ok (some c) → ¬gone parent name →
    ∃ c', fs.findByName s' parent name = .ok (some c') ∧ c'.ino = c.ino

/-- Modelled from the spec: what the facade's calls do to the entries of the directories, from every state where `inv`
holds, which they keep. `find_by_name` answers, in a parent that exists, the attributes `get_inode` answers for the
inode of the entry; `create_nod` keeps the attributes of every inode and every entry; `remove_file` and `remove_dir`
keep every entry but the one they name, `rename` every entry but the two it names; the other calls that write, those
on contents included, keep every entry. -/
structure EntryContract (inv : σ → Prop) : Prop where
  findByName : ∀ s parent name c, fs.findByName s parent name = .ok (some c) →
    (∃ pa, fs.getInode s parent = .ok pa) ∧ fs.getInode s c.ino = .ok c
  createNod : ∀ s parent name c read write r s', inv s → fs.createNod s parent name c read write = .ok (r, s') →
    inv s' ∧ (∀ ino a, fs.getInode s ino = .ok a → fs.getInode s' ino = .ok a) ∧
      fs.KeepsEntries (fun _ _ => False) s s'
  removeFile : ∀ s parent name s', inv s → fs.removeFile s parent name = .ok ((), s') →
    inv s' ∧ fs.KeepsEntries (fun p n => p = parent ∧ n = name) s s'
  removeDir : ∀ s parent name s', inv s → fs.removeDir s parent name = .ok ((), s') →
    inv s' ∧ fs.KeepsEntries (fun p n => p = parent ∧ n = name) s s'
  rename : ∀ s parent name newParent newName s', inv s → fs.rename s parent name newParent newName = .ok ((), s') →
    inv s' ∧ fs.KeepsEntries (fun p n => p = parent ∧ n = name ∨ p = newParent ∧ n = newName) s s'
  truncate : ∀ s ino size s', inv s → fs.truncate s ino size = .ok ((), s') →
    inv s' ∧ fs.KeepsEntries (fun _ _ => False) s s'
  updateInode : ∀ s ino p s', inv s → fs.updateInode s ino p = .ok ((), s') →
    inv s' ∧ fs.KeepsEntries (fun _ _ => False) s s'
  «open» : ∀ s ino read write fh s', inv s → fs.open s ino read write = .ok (fh, s') →
    inv s' ∧ fs.KeepsEntries (fun _ _ => False) s s'
  flush : ∀ s fh s', inv s → fs.flush s fh = .ok ((), s') → inv s' ∧ fs.KeepsEntries (fun _ _ => False) s s'
  release : ∀ s fh s', inv s → fs.release s fh = .ok ((), s') → inv s' ∧ fs.KeepsEntries (fun _ _ => False) s s'
  read : ∀ s ino offset buf fh r s', inv s → fs.read s ino offset buf fh = .ok (r, s') →
    inv s' ∧ fs.KeepsEntries (fun _ _ => False) s s'
  write : ∀ s ino offset data fh n s', inv s → fs.write s ino offset data fh = .ok (n, s') →
    inv s' ∧ fs.KeepsEntries (fun _ _ => False) s s'
  copyFileRange : ∀ s ino offIn inoOut offOut len fhIn fhOut n s', inv s →
    fs.copyFileRange s ino offIn inoOut offOut len fhIn fhOut = .ok (n, s') →
    inv s' ∧ fs.KeepsEntries (fun _ _ => False) s s'

end EncryptedFs

/-! ## The in-memory facade keeps the contract -/

namespace MemFs

variable {s s' : MemFs} {p : Nat} {n : RustStr} {ino : Nat} {a : FileAttr}

/-- The next inode number is fresh: every inode's number is below it. -/
def Fresh (s : MemFs) : Prop := ∀ a ∈ s.inodes, a.ino < s.nextIno

instance (s : MemFs) : Decidable s.Fresh := inferInstanceAs (Decidable (∀ a ∈ s.inodes, a.ino < s.nextIno))

theorem getInode_mem (h : s.getInode ino = .ok a) : a ∈ s.inodes := by
  unfold getInode at h
  split at h
  · cases h
    exact List.mem_of_find?_eq_some ‹_›
  · nomatch h

/-- `find_by_name` finds an entry: the parent exists, and the entry names an inode, whose attributes it answers. -/
theorem findByName_eq_some {c : FileAttr} : s.findByName p n = .ok (some c) ↔
    (∃ pa, s.getInode p = .ok pa) ∧ ∃ ino, s.entry p n = some ino ∧ s.getInode ino = .ok c := by
  unfold findByName
  rcases s.getInode p with _ | pa
  · simp [bind, Except.bind]
  rcases s.entry p n with _ | ino
  · simp [bind, Except.bind, pure, Except.pure]
  rcases hg : s.getInode ino with _ | b <;> simp [bind, Except.bind, hg, Functor.map, Except.map]

/-- A state that keeps every entry of `s` but the `gone` ones, and every inode, keeps what they name. -/
theorem keepsEntries_of {gone : Nat → RustStr → Prop}
    (he : ∀ p n ino, s.entry p n = some ino → ¬gone p n → s'.entry p n = some ino)
    (hi : ∀ ino a, s.getInode ino = .ok a → ∃ a', s'.getInode ino = .ok a') : fs.KeepsEntries gone s s' := by
  intro p n c hc hg
  obtain ⟨⟨pa, hpa⟩, ino, hino, hc⟩ := findByName_eq_some.1 hc
  obtain ⟨c', hc'⟩ := hi ino c hc
  refine ⟨c', findByName_eq_some.2 ⟨hi p pa hpa, ino, he p n ino hino hg, hc'⟩, ?_⟩
  rw [getInode_ino hc', getInode_ino hc]

/-- Entries put after the others leave the entries found before as they were. -/
theorem entry_append {l : List (Nat × RustStr × Nat)} (he : s'.entries = s.entries ++ l)
    (h : s.entry p n = some ino) : s'.entry p n = some ino := by
  unfold entry at *
  rw [he, List.find?_append]
  rcases hf : s.entries.find? _ with _ | e <;> rw [hf] at h
  · nomatch h
  · exact h

theorem entry_dropEntry {parent : Nat} {name : RustStr} (h : ¬(p = parent ∧ n = name)) :
    (s.dropEntry parent name).entry p n = s.entry p n := by
  unfold entry dropEntry
  rw [List.find?_filter]
  congr 2
  funext e
  by_cases h₁ : e.1 = p <;> by_cases h₂ : e.2.1 = n <;> simp [h₁, h₂]
  subst h₁ h₂
  exact not_and_or.1 h

/-- Replacing the attributes of `b.ino` keeps every inode, each under its own number. -/
theorem getInode_setInode_ok {b : FileAttr} (h : s.getInode ino = .ok a) :
    (s.setInode b).getInode ino = .ok (if a.ino = b.ino then b else a) := by
  have hp : ((·.ino == ino) ∘ fun c : FileAttr => if c.ino = b.ino then b else c) = (·.ino == ino) := by
    funext c
    by_cases hc : c.ino = b.ino <;> simp [hc]
  unfold getInode setInode at *
  rw [List.find?_map, hp]
  split at h
  · rename_i hf
    cases h
    rw [hf]
    rfl
  · nomatch h

theorem ino_setInode (b c : FileAttr) : (if c.ino = b.ino then b else c).ino = c.ino := by
  split_ifs with h
  exacts [h.symm, rfl]

theorem Fresh.setInode (hs : s.Fresh) (b : FileAttr) : (s.setInode b).Fresh := fun x hx => by
  obtain ⟨c, hc, rfl⟩ := List.mem_map.1 hx
  rw [ino_setInode]
  exact hs c hc

theorem Fresh.of_eq (hs : s.Fresh) (hi : s'.inodes = s.inodes) (hn : s'.nextIno = s.nextIno) : s'.Fresh := by
  unfold Fresh
  rw [hi, hn]
  exact hs

theorem getInode_of_inodes (hi : s'.inodes = s.inodes) : s'.getInode = s.getInode := by
  funext ino
  simp only [getInode, hi]

/-- The entries of a state whose inodes are replaced keep what they name. -/
theorem keepsEntries_setInode {gone : Nat → RustStr → Prop} (b : FileAttr) : fs.KeepsEntries gone s (s.setInode b) :=
  keepsEntries_of (fun _ _ _ h _ => h) fun _ _ ha => ⟨_, getInode_setInode_ok ha⟩

/-- `open`, `flush` and `release` change the handles only. -/
def SameTree (s s' : MemFs) : Prop := s'.inodes = s.inodes ∧ s'.entries = s.entries ∧ s'.nextIno = s.nextIno

theorem SameTree.refl (s : MemFs) : SameTree s s := ⟨rfl, rfl, rfl⟩

theorem SameTree.keepsEntries {gone : Nat → RustStr → Prop} (h : SameTree s s') : fs.KeepsEntries gone s s' :=
  keepsEntries_of (fun _ _ _ he _ => by rwa [entry, h.2.1]) fun _ a ha => ⟨a, by rwa [getInode_of_inodes h.1]⟩

/-- Dropping an entry keeps every other entry, and the inodes. -/
theorem keepsEntries_dropEntry {parent : Nat} {name : RustStr} :
    fs.KeepsEntries (fun p n => p = parent ∧ n = name) s (s.dropEntry parent name) :=
  keepsEntries_of (fun _ _ _ h hg => (entry_dropEntry hg).trans h) fun _ a ha => ⟨a, ha⟩

theorem createNod_eq {parent : Nat} {name : RustStr} {c : CreateFileAttr} {read write : Bool} {r : Nat × FileAttr}
    (h : s.createNod parent name c read write = .ok (r, s')) :
    ∃ b : FileAttr, b.ino = s.nextIno ∧ s'.inodes = b :: s.inodes ∧
      s'.entries = s.entries ++ [(parent, name, s.nextIno)] ∧ s'.nextIno = s.nextIno + 1 := by
  simp only [createNod, bind, Except.bind, pure, Except.pure, throw, throwThe, MonadExceptOf.throw] at h
  repeat' split at h
  all_goals cases h
  all_goals exact ⟨_, rfl, rfl, rfl, rfl⟩

theorem removeFile_eq {parent : Nat} {name : RustStr} (h : s.removeFile parent name = .ok ((), s')) :
    s' = s.dropEntry parent name := by
  simp only [removeFile, bind, Except.bind, pure, Except.pure, throw, throwThe, MonadExceptOf.throw] at h
  repeat' split at h
  all_goals cases h
  rfl

theorem removeDir_eq {parent : Nat} {name : RustStr} (h : s.removeDir parent name = .ok ((), s')) :
    s' = s.dropEntry parent name := by
  simp only [removeDir, getDir, bind, Except.bind, pure, Except.pure, throw, throwThe, MonadExceptOf.throw] at h
  repeat' split at h
  all_goals cases h
  rfl

theorem rename_eq {parent newParent : Nat} {name newName : RustStr}
    (h : s.rename parent name newParent newName = .ok ((), s')) :
    ∃ ino, s'.inodes = s.inodes ∧ s'.nextIno = s.nextIno ∧
      s'.entries = ((s.dropEntry parent name).dropEntry newParent newName).entries ++ [(newParent, newName, ino)] := by
  simp only [rename, getDir, bind, Except.bind, pure, Except.pure, throw, throwThe, MonadExceptOf.throw] at h
  repeat' split at h
  all_goals cases h
  all_goals exact ⟨_, rfl, rfl, rfl⟩

theorem open_sameTree (read : Bool) {write : Bool} {fh : Nat} (h : s.open ino read write = .ok (fh, s')) :
    SameTree s s' := by
  simp only [MemFs.open, bind, Except.bind, pure, Except.pure, throw, throwThe, MonadExceptOf.throw] at h
  repeat' split at h
  all_goals cases h
  exact ⟨rfl, rfl, rfl⟩

theorem flush_sameTree {fh : Nat} (h : s.flush fh = .ok ((), s')) : SameTree s s' := by
  unfold flush at h
  split_ifs at h
  cases h
  exact ⟨rfl, rfl, rfl⟩

theorem release_sameTree {fh : Nat} (h : s.release fh = .ok ((), s')) : SameTree s s' := by
  unfold release at h
  split_ifs at h
  cases h
  exact ⟨rfl, rfl, rfl⟩

/-- The in-memory facade keeps the contract on entries, from every state whose next inode number is fresh. -/
theorem entryContract : fs.EntryContract Fresh where
  findByName _ _ _ _ h :=
    let ⟨hp, _, _, hg⟩ := findByName_eq_some.1 h
    ⟨hp, getInode_ino hg ▸ hg⟩
  createNod s _ _ _ _ _ _ _ hs h := by
    obtain ⟨b, hb, hi, he, hn⟩ := createNod_eq h
    have hold : ∀ ino a, s.getInode ino = .ok a → getInode _ ino = .ok a := fun ino a ha => by
      have hlt := hs a (getInode_mem ha)
      rw [getInode_cons hi, if_neg (by rw [hb, ← getInode_ino ha]; omega)]
      exact ha
    refine ⟨fun x hx => ?_, hold, keepsEntries_of (fun _ _ _ h _ => entry_append he h) fun _ a ha => ⟨a, hold _ a ha⟩⟩
    rw [hn]
    rcases List.mem_cons.1 (hi ▸ hx) with rfl | hx
    exacts [hb ▸ Nat.lt_succ_self _, Nat.lt_succ_of_lt (hs x hx)]
  removeFile _ _ _ _ hs h := removeFile_eq h ▸ ⟨hs, keepsEntries_dropEntry⟩
  removeDir _ _ _ _ hs h := removeDir_eq h ▸ ⟨hs, keepsEntries_dropEntry⟩
  rename _ _ _ _ _ _ hs h := by
    obtain ⟨_, hi, hn, he⟩ := rename_eq h
    refine ⟨hs.of_eq hi hn, keepsEntries_of (fun _ _ _ h hg => entry_append he ?_) fun _ a ha =>
      ⟨a, by rwa [getInode_of_inodes hi]⟩⟩
    rw [entry_dropEntry fun h' => hg (.inr h'), entry_dropEntry fun h' => hg (.inl h')]
    exact h
  truncate _ _ _ _ hs h := by
    obtain ⟨_, _, rfl⟩ := truncate_inodes h
    exact ⟨hs.setInode _, keepsEntries_setInode _⟩
  updateInode _ _ _ _ hs h := by
    obtain ⟨_, _, rfl⟩ := updateInode_inodes h
    exact ⟨hs.setInode _, keepsEntries_setInode _⟩
  «open» _ _ read _ _ _ hs h :=
    let ht := open_sameTree read h
    ⟨hs.of_eq ht.1 ht.2.2, ht.keepsEntries⟩
  flush _ _ _ hs h :=
    let ht := flush_sameTree h
    ⟨hs.of_eq ht.1 ht.2.2, ht.keepsEntries⟩
  release _ _ _ hs h :=
    let ht := release_sameTree h
    ⟨hs.of_eq ht.1 ht.2.2, ht.keepsEntries⟩
  read _ _ _ _ _ _ _ hs h := by
    obtain ⟨-, -, rfl, -⟩ := read_ok h
    exact ⟨hs, (SameTree.refl _).keepsEntries⟩
  write _ _ _ _ _ _ _ hs h := by
    obtain ⟨_, -, -, rfl⟩ := write_ok h
    exact ⟨hs.setInode _, keepsEntries_setInode _⟩
  copyFileRange _ _ _ _ _ _ _ _ _ _ hs h := by
    obtain ⟨_, hw⟩ := copyFileRange_ok h
    obtain ⟨_, -, -, rfl⟩ := write_ok hw
    exact ⟨hs.setInode _, keepsEntries_setInode _⟩

end MemFs

end Rencfs

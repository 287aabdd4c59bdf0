import Rencfs.Fuse3.MemFs
import Mathlib.Algebra.Group.Nat.Basic

/-!
# The attributes a new inode is made with

`create_nod` (behind `mknod` and `create`) and `mkdir` hand the facade a draft (`CreateFileAttr`) built from the
request: the caller as owner, the group `creation_gid` picks (the parent's when the parent is SGID), and the mode the
kernel sent, with no umask applied. A caller other than root loses SUID and SGID first, and `creation_mode` drops both
again unless `suid_support` is on. `mkdir` adds SGID for a directory made in an SGID directory before that last step,
so without `suid_support` the new directory takes the parent's group but not its SGID bit.

`createNod_draft` and `mkdir_draft` say what the draft is when the handler replies, every bit of its permissions
included (`EncryptedFsFuse3.Draft`). They are proved bit by bit, from one `testBit` lemma per step of the mode.
-/

namespace Rencfs

open Libc Handler

namespace CreationAux

theorem and_two_pow_ne_zero (x k : Nat) : x &&& 2 ^ k ≠ 0 ↔ x.testBit k := by
  constructor
  · intro h
    by_contra hb
    exact h (Nat.eq_of_testBit_eq fun i => by
      rw [Nat.testBit_and, Nat.testBit_two_pow, Nat.zero_testBit]
      by_cases hi : k = i
      · subst hi; simpa using hb
      · simp [hi])
  · intro hb h
    simpa [hb] using congrArg (Nat.testBit · k) h

theorem suid_ne_zero_iff (x : Nat) : x &&& S_ISUID ≠ 0 ↔ x.testBit 11 := and_two_pow_ne_zero x 11

theorem sgid_ne_zero_iff (x : Nat) : x &&& S_ISGID ≠ 0 ↔ x.testBit 10 := and_two_pow_ne_zero x 10

/-- The test `perm & S_ISGID as u16 != 0` of `creation_gid` and `mkdir`. -/
theorem sgid_bne_zero (x : Nat) : (x &&& asU16 S_ISGID != 0) = x.testBit 10 :=
  Bool.eq_iff_iff.2 (by simpa using sgid_ne_zero_iff x)

theorem testBit_asU16 (x k : Nat) : (asU16 x).testBit k = (decide (k < 16) && x.testBit k) :=
  Nat.testBit_mod_two_pow x 16 k

theorem testBit_setidMask {k : Nat} (hk : k < 16) :
    (bitNot32 (S_ISUID ||| S_ISGID)).testBit k = decide (k ≠ 10 ∧ k ≠ 11) := by
  revert k; decide

theorem testBit_bitNot16_setid (k : Nat) :
    (bitNot16 (S_ISUID ||| S_ISGID)).testBit k = decide (k < 16 ∧ k ≠ 10 ∧ k ≠ 11) := by
  by_cases hk : k < 16
  · revert k; decide
  · rw [Nat.testBit_lt_two_pow (lt_of_lt_of_le (by decide : bitNot16 (S_ISUID ||| S_ISGID) < 2 ^ 16)
      (Nat.pow_le_pow_right (by omega) (by omega)))]
    simp [hk]

/-- `mode &= !(S_ISUID | S_ISGID)` for a caller other than root. -/
theorem testBit_dropSetid (uid x : Nat) {k : Nat} (hk : k < 16) :
    (if uid != 0 then x &&& bitNot32 (S_ISUID ||| S_ISGID) else x).testBit k =
      ((decide (uid = 0) || decide (k ≠ 10 ∧ k ≠ 11)) && x.testBit k) := by
  by_cases hu : uid = 0 <;> simp [hu, Nat.testBit_and, testBit_setidMask hk, Bool.and_comm]

/-- `mode |= S_ISGID` of `mkdir` in an SGID parent. -/
theorem testBit_addSgid (b : Bool) (x k : Nat) :
    (if b then x ||| S_ISGID else x).testBit k = (b && decide (k = 10) || x.testBit k) := by
  cases b
  · simp
  · rw [if_pos rfl, Nat.testBit_or, show S_ISGID = 2 ^ 10 from rfl, Nat.testBit_two_pow, Bool.or_comm]
    simp [eq_comm]

theorem asFileKind_dropSetid (uid mode : Nat) :
    asFileKind (if uid != 0 then mode &&& bitNot32 (S_ISUID ||| S_ISGID) else mode) = asFileKind mode := by
  split
  · simp only [asFileKind, Nat.and_assoc, show bitNot32 (S_ISUID ||| S_ISGID) &&& S_IFMT = S_IFMT by decide]
  · rfl

end CreationAux

open CreationAux

namespace EncryptedFsFuse3

variable {σ : Type} (self : EncryptedFsFuse3 σ)

/-- `creation_mode` keeps the bits below 16, SUID and SGID only with `suid_support`. -/
theorem testBit_creationMode (m k : Nat) :
    (self.creationMode m).testBit k =
      (decide (k < 16) && (self.suidSupport || decide (k ≠ 10 ∧ k ≠ 11)) && m.testBit k) := by
  unfold creationMode
  by_cases hk : k < 16
  · cases self.suidSupport <;> simp [testBit_asU16, hk, Nat.testBit_and, testBit_setidMask hk, Bool.and_comm]
  · cases self.suidSupport <;> simp [testBit_asU16, hk]

theorem creationMode_lt (m : Nat) : self.creationMode m < 2 ^ 16 := by
  unfold creationMode
  split <;> exact Nat.mod_lt _ (by decide)

/-- The draft `c` that `create_nod` or `mkdir` hands the facade, for the caller `req` asking for `mode` in the parent
`pa`: the caller's, in the group `creation_gid` picks, with every bit of `mode` below 16 but SUID and SGID, SUID only
with `suid_support` for root asking for it, and SGID exactly when `setgid` holds. -/
structure Draft (req : Request) (pa : FileAttr) (mode : Nat) (setgid : Prop) (c : CreateFileAttr) : Prop where
  uid : c.uid = req.uid
  gid : c.gid = creationGid pa req.gid
  rdev_flags : c.rdev = 0 ∧ c.flags = 0
  perm_lt : c.perm < 2 ^ 16
  perm_keeps : c.perm &&& bitNot16 (S_ISUID ||| S_ISGID) = mode &&& bitNot16 (S_ISUID ||| S_ISGID)
  suid : c.perm &&& S_ISUID ≠ 0 ↔ self.suidSupport ∧ req.uid = 0 ∧ mode &&& S_ISUID ≠ 0
  sgid : c.perm &&& S_ISGID ≠ 0 ↔ setgid

variable {self}

/-- A draft from the bits of its permissions. -/
theorem Draft.of_testBit {req : Request} {pa : FileAttr} {mode : Nat} {setgid : Prop} {c : CreateFileAttr}
    (huid : c.uid = req.uid) (hgid : c.gid = creationGid pa req.gid) (hrf : c.rdev = 0 ∧ c.flags = 0)
    (hlt : c.perm < 2 ^ 16) (hbit : ∀ k, k < 16 → k ≠ 10 → k ≠ 11 → c.perm.testBit k = mode.testBit k)
    (h11 : c.perm.testBit 11 ↔ self.suidSupport ∧ req.uid = 0 ∧ mode.testBit 11)
    (h10 : c.perm.testBit 10 ↔ setgid) : self.Draft req pa mode setgid c where
  uid := huid
  gid := hgid
  rdev_flags := hrf
  perm_lt := hlt
  perm_keeps := Nat.eq_of_testBit_eq fun k => by
    simp only [Nat.testBit_and, testBit_bitNot16_setid]
    by_cases hk : k < 16 <;> by_cases h10 : k = 10 <;> by_cases h11 : k = 11 <;> simp [*]
  suid := by rw [suid_ne_zero_iff, suid_ne_zero_iff, h11]
  sgid := by rw [sgid_ne_zero_iff, h10]

/-- For every facade, state and request: when `create_nod` replies, the facade's `create_nod` made the inode the
reply names, of the kind the mode asks for, from a draft with SGID only where `suid_support` is on and root asked for
it. -/
theorem createNod_draft {parent mode : Nat} {req : Request} {name : List UInt8} {read write : Bool} {s s' : σ}
    {r : Nat × FileAttr} (h : self.createNod parent mode req name read write s = (.reply r, s')) :
    ∃ pa n c, self.fs.getInode s parent = .ok pa ∧ toStr name = some n ∧
      self.fs.createNod s parent n c read write = .ok (r, s') ∧ asFileKind mode = some c.kind ∧
      self.Draft req pa mode (self.suidSupport ∧ req.uid = 0 ∧ mode &&& S_ISGID ≠ 0) c := by
  obtain ⟨_, hq, h⟩ := (Reads.query _).bind_reply h
  obtain ⟨pa, hpa, h⟩ := (Reads.orFail _ _).bind_reply h
  obtain ⟨_, -, h⟩ := (Reads.failIf _ _).bind_reply h
  obtain ⟨kind, hk, h⟩ := (Reads.unwrap _).bind_reply h
  obtain ⟨n, hn, h⟩ := (Reads.unwrap _).bind_reply h
  refine ⟨pa, n, _, (query_reply hq).trans (orFail_reply hpa), unwrap_reply hn, mutate_orFail_reply h, ?_, ?_⟩
  · rw [← asFileKind_dropSetid req.uid mode, unwrap_reply hk]
    cases kind <;> rfl
  refine .of_testBit rfl rfl (by split <;> exact ⟨rfl, rfl⟩) (creationMode_lt ..) (fun k hk h10 h11 => ?_) ?_ ?_
  · simp only [testBit_creationMode, testBit_dropSetid _ _ hk]
    simp [hk, h10, h11]
  · simp only [testBit_creationMode, testBit_dropSetid _ _ (show 11 < 16 by decide)]
    simp
  · simp only [testBit_creationMode, testBit_dropSetid _ _ (show 10 < 16 by decide), sgid_ne_zero_iff]
    simp

/-- For every facade, state and request: when `mkdir` replies, the facade's `create_nod` made the directory the reply
names from a draft with SGID only where `suid_support` is on, inherited from an SGID parent or asked for by root. -/
theorem mkdir_draft {req : Request} {parent : Nat} {name : List UInt8} {mode : Nat} {s s' : σ} {r : ReplyEntry}
    (h : self.mkdir req parent name mode s = (.reply r, s')) :
    ∃ pa n c a, self.fs.getInode s parent = .ok pa ∧ toStr name = some n ∧
      self.fs.createNod s parent n c false false = .ok (a, s') ∧ r = ⟨TTL, a.2.toFuse, 0⟩ ∧ c.kind = .directory ∧
      self.Draft req pa mode (self.suidSupport ∧ (pa.perm &&& S_ISGID ≠ 0 ∨ req.uid = 0 ∧ mode &&& S_ISGID ≠ 0))
        c := by
  obtain ⟨_, hq, h⟩ := (Reads.query _).bind_reply h
  obtain ⟨pa, hpa, h⟩ := (Reads.orFail _ _).bind_reply h
  obtain ⟨_, -, h⟩ := (Reads.failIf _ _).bind_reply h
  obtain ⟨n, hn, h⟩ := (Reads.unwrap _).bind_reply h
  obtain ⟨a, s₁, hc, h⟩ := mutate_orFail_bind_reply h
  obtain ⟨rfl, rfl⟩ : _ = r ∧ s₁ = s' := by simpa using h
  refine ⟨pa, n, _, a, (query_reply hq).trans (orFail_reply hpa), unwrap_reply hn, hc, rfl, rfl, ?_⟩
  refine .of_testBit rfl rfl ⟨rfl, rfl⟩ (creationMode_lt ..) (fun k hk h10 h11 => ?_) ?_ ?_
  · simp only [testBit_creationMode, testBit_addSgid, testBit_dropSetid _ _ hk, sgid_bne_zero]
    simp [hk, h10, h11]
  · simp only [testBit_creationMode, testBit_addSgid, testBit_dropSetid _ _ (show 11 < 16 by decide),
      sgid_bne_zero]
    simp
  · simp only [testBit_creationMode, testBit_addSgid, testBit_dropSetid _ _ (show 10 < 16 by decide),
      sgid_ne_zero_iff, sgid_bne_zero]
    simp

end EncryptedFsFuse3

namespace MemFs

/-- A root directory `rwxrwsrwx` of group 50, holding root's file `f`. -/
def sgidRoot : MemFs := ⟨[{ rootDir with perm := 0o2777, gid := 50 }, rootFile], [(1, nameF, 2)], 3, 1, [], []⟩

end MemFs

/-- An ordinary user asks for a setuid file `g` in the SGID root. -/
theorem createNod_draft_sgidRoot : ∃ r s',
    memFuse.createNod 1 0o104755 userReq [0x67] false false MemFs.sgidRoot = (.reply r, s') ∧
    ∃ pa n c, memFuse.fs.getInode MemFs.sgidRoot 1 = .ok pa ∧ toStr [0x67] = some n ∧
      memFuse.fs.createNod MemFs.sgidRoot 1 n c false false = .ok (r, s') ∧ asFileKind 0o104755 = some c.kind ∧
      memFuse.Draft userReq pa 0o104755 (memFuse.suidSupport ∧ userReq.uid = 0 ∧ 0o104755 &&& S_ISGID ≠ 0) c :=
  ⟨_, _, rfl, EncryptedFsFuse3.createNod_draft rfl⟩

/-- An ordinary user makes a directory `d` in the SGID root. -/
theorem mkdir_draft_sgidRoot : ∃ r s', memFuse.mkdir userReq 1 [0x64] 0o755 MemFs.sgidRoot = (.reply r, s') ∧
    ∃ pa n c a, memFuse.fs.getInode MemFs.sgidRoot 1 = .ok pa ∧ toStr [0x64] = some n ∧
      memFuse.fs.createNod MemFs.sgidRoot 1 n c false false = .ok (a, s') ∧ r = ⟨TTL, a.2.toFuse, 0⟩ ∧
      c.kind = .directory ∧
      memFuse.Draft userReq pa 0o755
        (memFuse.suidSupport ∧ (pa.perm &&& S_ISGID ≠ 0 ∨ userReq.uid = 0 ∧ 0o755 &&& S_ISGID ≠ 0)) c :=
  ⟨_, _, rfl, EncryptedFsFuse3.mkdir_draft rfl⟩

/- `d` takes the root's group 50; its SGID bit stays only with `suid_support`. -/
example : ∃ a, (memFuse.mkdir userReq 1 [0x64] 0o755 MemFs.sgidRoot).2.getInode 3 = .ok a ∧ a.gid = 50 ∧
    a.perm = 0o755 :=
  ⟨_, rfl, rfl, rfl⟩

example : ∃ a, ({ memFuse with suidSupport := true }.mkdir userReq 1 [0x64] 0o755 MemFs.sgidRoot).2.getInode 3 =
    .ok a ∧ a.gid = 50 ∧ a.perm = 0o2755 :=
  ⟨_, rfl, rfl, rfl⟩

end Rencfs

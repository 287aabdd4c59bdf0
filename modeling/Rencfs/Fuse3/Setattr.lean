import Rencfs.Fuse3.MemFs

/-!
# `setattr`: what each branch does to the facade

`setattr` reads the inode, then takes one of three branches: `chmod` for a request with a mode, `chown` for one with
an owner or a group, and otherwise `truncate` for a size followed by `utimens` for the times; each branch ends with
`update_inode` and reads the inode back for the reply.

* The `chown` branch checks and sets the owner and group of a fresh `SetFileAttr::default()`, never those of the
  request: whoever asks, it calls `update_inode` with the permissions (SUID and SGID cleared on an executable) and the
  access time only (`setattr_chown_eq`). Root's `chown` leaves the owner as it was (`chown_keeps_owner_oneFile`).
* The `truncate` step runs before any check, so any caller truncates any file (`setattr_size_unchecked`), and a
  request that also sets a time it may not set fails with `EACCES` after the file was truncated
  (`setattr_error_after_truncate`). An error leaves the facade as it was except after a successful `truncate` or
  `update_inode` (`setattr_open_error_state`).
* `system_time_from_timestamp` casts the seconds to `u64`: a time before 1970 becomes more than `2^63` seconds, which
  `UNIX_EPOCH + ..` cannot hold, and `setattr` panics (`setattr_negative_atime_panics`, `utimens_time`).
-/

namespace Rencfs

open Libc Handler

/-- The permissions the `chown` branch writes: SUID and SGID cleared on an executable file. -/
def chownPerm (perm : Nat) : Nat :=
  if perm &&& asU16 (S_IXUSR ||| S_IXGRP ||| S_IXOTH) != 0 then clearSuidSgid perm else perm

namespace SetattrAux

variable {σ : Type} (self : EncryptedFsFuse3 σ)

/-- The `chown` branch, whatever the caller: `update_inode` of the permissions and the access time. -/
theorem chown_eq (sys : Sys) (req : Request) (inode : Nat) (attr : FileAttr) :
    self.chown sys req inode attr =
      self.updateAndReply inode ((SetFileAttr.withPerm {} (chownPerm attr.perm)).withAtime sys.now) := by
  unfold EncryptedFsFuse3.chown EncryptedFsFuse3.chownWith chownPerm
  cases (attr.perm &&& asU16 (S_IXUSR ||| S_IXGRP ||| S_IXOTH) != 0) <;> rfl

/-- `update_inode` fails and nothing changed; or it succeeded, and the read back fails or replies. -/
theorem updateAndReply_cases (inode : Nat) (p : SetFileAttr) (s : σ) :
    (∃ err, self.fs.updateInode s inode p = .error err ∧ self.updateAndReply inode p s = (.errno EIO, s)) ∨
    (∃ s₁, self.fs.updateInode s inode p = .ok ((), s₁) ∧
      (self.updateAndReply inode p s = (.errno ENOENT, s₁) ∨ ∃ a, self.updateAndReply inode p s = (.reply a, s₁))) := by
  unfold EncryptedFsFuse3.updateAndReply
  rcases h : self.fs.updateInode s inode p with err | ⟨⟨⟩, s₁⟩
  · exact .inl ⟨err, rfl, by rw [mutate_bind_error h]; rfl⟩
  · refine .inr ⟨s₁, rfl, ?_⟩
    rw [mutate_bind_ok h]
    simp only [orFail_ok, pure_bind, query_bind]
    cases self.fs.getInode s₁ inode <;> simp

theorem updateAndReply_errno {inode : Nat} {p : SetFileAttr} {s s' : σ} {e : Nat}
    (h : self.updateAndReply inode p s = (.errno e, s')) :
    s' = s ∨ (e = ENOENT ∧ self.fs.updateInode s inode p = .ok ((), s')) := by
  rcases updateAndReply_cases self inode p s with ⟨_, _, h'⟩ | ⟨s₁, hu, h' | ⟨_, h'⟩⟩ <;> rw [h'] at h <;>
    simp only [Prod.mk.injEq, Outcome.errno.injEq, reduceCtorEq, false_and] at h
  · exact .inl h.2.symm
  · exact .inr ⟨h.1.symm, h.2 ▸ hu⟩

/-- An errno of the `chmod` branch: nothing changed, or only the read back failed. -/
theorem chmod_errno {sys : Sys} {req : Request} {inode : Nat} {attr : FileAttr} {mode : Nat} {s s' : σ} {e : Nat}
    (h : self.chmod sys req inode attr mode s = (.errno e, s')) :
    s' = s ∨ (e = ENOENT ∧ ∃ p, self.fs.updateInode s inode p = .ok ((), s')) := by
  unfold EncryptedFsFuse3.chmod at h
  rcases (Reads.failIf _ _).bind_errno h with rfl | ⟨_, _, h⟩
  · exact .inl rfl
  rcases (Reads.ite (Reads.bind (Reads.unwrap _) fun _ => Reads.pure _) (Reads.pure _)).bind_errno h
    with rfl | ⟨_, _, h⟩
  · exact .inl rfl
  exact (updateAndReply_errno self h).imp_right fun ⟨he, hu⟩ => ⟨he, _, hu⟩

/-- The `truncate` step leaves the facade as it was, or as the facade's `truncate` to the requested size left it. -/
theorem setattrSize_state (inode : Nat) (attr : FileAttr) (size : Option Nat) (s : σ) :
    (self.setattrSize inode attr size s).2 = s ∨
    ∃ n, size = some n ∧ self.fs.truncate s inode n = .ok ((), (self.setattrSize inode attr size s).2) := by
  cases size with
  | none => exact .inl rfl
  | some n =>
    simp only [EncryptedFsFuse3.setattrSize]
    rcases h : self.fs.truncate s inode n with err | ⟨⟨⟩, s₁⟩
    · rw [mutate_bind_error h]
      exact .inl rfl
    · rw [mutate_bind_ok h]
      exact .inr ⟨n, rfl, h⟩

theorem utimens_reads (sys : Sys) (req : Request) (attr : FileAttr) (set : SetFileAttr → SystemTime → SetFileAttr)
    (p : SetFileAttr) (t : Option Timestamp) : (EncryptedFsFuse3.utimens sys req attr set p t : Handler σ _).Reads := by
  cases t
  · exact Reads.pure _
  · exact .bind (.failIf _ _) fun _ => .bind (.unwrap _) fun _ => .pure _

/-- The time `system_time_from_timestamp` makes of an `i64` second and a nanosecond below `10^9`: the same time from
1970 on, and a panic before. -/
theorem systemTimeFromTimestamp_eq (t : Timestamp) (hns : t.nsec < nanosPerSec)
    (hlo : -9223372036854775808 ≤ t.sec) (hhi : t.sec ≤ i64Max) :
    systemTimeFromTimestamp t = if 0 ≤ t.sec then some ⟨t.sec, t.nsec⟩ else none := by
  obtain ⟨sec, nsec⟩ := t
  simp only [nanosPerSec, i64Max] at hns hlo hhi ⊢
  have hu : ((sec % 18446744073709551616).toNat : Int) = if 0 ≤ sec then sec else sec + 18446744073709551616 := by
    split <;> omega
  simp only [systemTimeFromTimestamp, Duration.new, nanosPerSec, Nat.div_eq_of_lt hns, Nat.mod_eq_of_lt hns,
    u64Max, Nat.add_zero, asU64, if_pos (show (sec % 18446744073709551616).toNat ≤ 18446744073709551615 by omega),
    Option.some_bind, SystemTime.add, SystemTime.checkedAdd, checkedAddUnsigned, UNIX_EPOCH, i64Max, Int.zero_add,
    hu, if_neg (show ¬1000000000 ≤ nsec by omega)]
  split_ifs <;> first | rfl | omega

/-- An errno of `setattr`: nothing changed; or the truncate succeeded; or only the read back after a successful
`update_inode` failed. -/
theorem setattr_errno {sys : Sys} {req : Request} {inode : Nat} {sa : SetAttr} {s s' : σ} {e : Nat}
    (h : self.setattr sys req inode sa s = (.errno e, s')) :
    s' = s ∨ (∃ n, sa.size = some n ∧ self.fs.truncate s inode n = .ok ((), s')) ∨
    (e = ENOENT ∧ ∃ s₀ p, (s₀ = s ∨ ∃ n, sa.size = some n ∧ self.fs.truncate s inode n = .ok ((), s₀)) ∧
      self.fs.updateInode s₀ inode p = .ok ((), s')) := by
  unfold EncryptedFsFuse3.setattr at h
  rcases orFail_query_bind_errno h with rfl | ⟨attr, -, h⟩
  · exact .inl rfl
  unfold EncryptedFsFuse3.setattrBranch at h
  rcases hm : sa.mode with _ | mode <;> simp only [hm] at h
  swap
  · exact (chmod_errno self h).imp_right fun ⟨he, p, hu⟩ => .inr ⟨he, s, p, .inl rfl, hu⟩
  split at h
  · rw [chown_eq] at h
    exact (updateAndReply_errno self h).imp_right fun ⟨he, hu⟩ => .inr ⟨he, s, _, .inl rfl, hu⟩
  rcases bind_errno_cases h with h | ⟨p, s₁, h1, h⟩
  · have := setattrSize_state self inode attr sa.size s
    rw [h] at this
    exact this.imp_right .inl
  have hs₁ := setattrSize_state self inode attr sa.size s
  rw [h1] at hs₁
  rcases (utimens_reads _ _ _ _ _ _).bind_errno h with rfl | ⟨_, _, h⟩
  · exact hs₁.imp_right .inl
  rcases (utimens_reads _ _ _ _ _ _).bind_errno h with rfl | ⟨_, _, h⟩
  · exact hs₁.imp_right .inl
  rcases updateAndReply_errno self h with rfl | ⟨he, hu⟩
  · exact hs₁.imp_right .inl
  · exact .inr (.inr ⟨he, s₁, _, hs₁, hu⟩)

theorem openAccess_reads (flags : Nat) : (EncryptedFsFuse3.openAccess flags : Handler σ _).Reads := by
  unfold EncryptedFsFuse3.openAccess
  dsimp only
  split_ifs <;> first | exact Reads.pure _ | exact Reads.fail _

/-- An errno of `open`: nothing changed, or the truncate of `O_TRUNC` succeeded. -/
theorem open_errno {req : Request} {inode flags : Nat} {s s' : σ} {e : Nat}
    (h : self.open req inode flags s = (.errno e, s')) :
    s' = s ∨ ((flags &&& O_TRUNC != 0) = true ∧
      ∃ attr, self.fs.getInode s inode = .ok attr ∧ self.fs.truncate s attr.ino 0 = .ok ((), s')) := by
  unfold EncryptedFsFuse3.open at h
  rcases (openAccess_reads flags).bind_errno h with rfl | ⟨⟨mask, rd, wr⟩, _, h⟩
  · exact .inl rfl
  rcases orFail_query_bind_errno h with rfl | ⟨attr, hg, h⟩
  · exact .inl rfl
  split at h
  swap
  · exact .inl (congrArg Prod.snd h).symm
  have hopen : ∀ s₁, (do
      let r ← mutate (self.fs.open · inode rd wr)
      let fh ← orFail r fun _ => EIO
      pure (⟨fh, if self.directIo then FOPEN_DIRECT_IO else 0⟩ : ReplyOpen)) s₁ = (.errno e, s') → s' = s₁ := by
    intro s₁ h
    rcases ho : self.fs.open s₁ inode rd wr with err | ⟨fh, s₂⟩
    · rw [mutate_bind_error ho] at h
      exact (congrArg Prod.snd h).symm
    · rw [mutate_bind_ok ho] at h
      nomatch h
  cases htr : (flags &&& O_TRUNC != 0) <;> simp only [htr, Bool.false_eq_true, if_false, if_true, pure_bind] at h
  · exact .inl (hopen s h)
  rcases ht : self.fs.truncate s attr.ino 0 with err | ⟨⟨⟩, s₁⟩ <;> rcases bind_errno_cases h with h | ⟨_, s₂, h1, h⟩
  · rw [mutate_bind_error ht] at h
    exact .inl (congrArg Prod.snd h).symm
  · rw [mutate_bind_error ht] at h1
    nomatch h1
  · rw [mutate_bind_ok ht] at h
    nomatch h
  · rw [mutate_bind_ok ht] at h1
    obtain rfl : s₂ = s₁ := (congrArg Prod.snd h1).symm
    exact .inr ⟨rfl, attr, hg, hopen s₂ h ▸ ht⟩

end SetattrAux

open SetattrAux

/-! ## `chown` -/

/-- A `setattr` with an owner or a group and no mode: whoever the caller and whatever owner or group it asks for,
the adapter calls `update_inode` with the permissions (SUID and SGID cleared on an executable) and the access time,
and nothing else: no owner, no group, no `EPERM`. -/
theorem setattr_chown_eq {σ : Type} (self : EncryptedFsFuse3 σ) (sys : Sys) (req : Request) (inode : Nat)
    (setAttr : SetAttr) (hmode : setAttr.mode = none) (hown : (setAttr.uid.isSome || setAttr.gid.isSome) = true) :
    self.setattr sys req inode setAttr = (do
      let attr ← orFail (← query (self.fs.getInode · inode)) fun _ => ENOENT
      self.updateAndReply inode ((SetFileAttr.withPerm {} (chownPerm attr.perm)).withAtime sys.now)) := by
  simp only [EncryptedFsFuse3.setattr, EncryptedFsFuse3.setattrBranch, hmode, hown, if_true, chown_eq]

/-- Root's `chown` of the file of `oneFile` to uid 1000. -/
theorem setattr_chown_eq_oneFile :
    ((⟨none, some 1000, none, none, none, none⟩ : SetAttr).uid.isSome ||
      (⟨none, some 1000, none, none, none, none⟩ : SetAttr).gid.isSome) = true ∧
    memFuse.setattr sampleSys rootReq 2 ⟨none, some 1000, none, none, none, none⟩ = (do
      let attr ← orFail (← query (memFuse.fs.getInode · 2)) fun _ => ENOENT
      memFuse.updateAndReply 2 ((SetFileAttr.withPerm {} (chownPerm attr.perm)).withAtime sampleSys.now)) :=
  ⟨rfl, setattr_chown_eq memFuse sampleSys rootReq 2 _ rfl rfl⟩

/-- Root asks to give the file of `oneFile` (root's) to uid 1000: `setattr` replies, and the file is still root's;
only its access time changed. -/
theorem chown_keeps_owner_oneFile :
    (memFuse.setattr sampleSys rootReq 2 ⟨none, some 1000, none, none, none, none⟩ MemFs.oneFile).1.toOption.map
      (·.attr.uid) = some 0 ∧
    (memFuse.setattr sampleSys rootReq 2 ⟨none, some 1000, none, none, none, none⟩ MemFs.oneFile).2.getInode 2 =
      .ok { MemFs.rootFile with atime := sampleSys.now } :=
  ⟨rfl, rfl⟩

/-! ## `truncate` and errors -/

/-- An ordinary user truncates root's `rw-r--r--` file: `setattr` replies, and the file is empty. -/
theorem setattr_size_unchecked :
    (memFuse.setattr sampleSys userReq 2 ⟨none, none, none, some 0, none, none⟩ MemFs.oneFile).1.toOption.map
      (·.attr.size) = some 0 ∧
    (memFuse.setattr sampleSys userReq 2 ⟨none, none, none, some 0, none, none⟩ MemFs.oneFile).2.getInode 2 =
      .ok { MemFs.rootFile with size := 0 } :=
  ⟨rfl, rfl⟩

/-- An ordinary user asks to empty root's file and set its access time: `setattr` fails with `EACCES`, and the file
is empty all the same. -/
theorem setattr_error_after_truncate :
    (memFuse.setattr sampleSys userReq 2 ⟨none, none, none, some 0, some ⟨0, 0⟩, none⟩ MemFs.oneFile).1 =
      .errno EACCES ∧
    (memFuse.setattr sampleSys userReq 2 ⟨none, none, none, some 0, some ⟨0, 0⟩, none⟩ MemFs.oneFile).2.getInode 2 =
      .ok { MemFs.rootFile with size := 0 } :=
  ⟨rfl, rfl⟩

/-- When `setattr` or `open` fails with an errno, the facade is as it was before the request, unless a `truncate`
(`setattr` with a size, `open` with `O_TRUNC`) or an `update_inode` of the request succeeded before the failing step:
the adapter undoes neither. After a successful `update_inode` only the read back can fail, with `ENOENT`. -/
theorem setattr_open_error_state {σ : Type} (self : EncryptedFsFuse3 σ) (sys : Sys) (req : Request) :
    (∀ inode setAttr s e s', self.setattr sys req inode setAttr s = (.errno e, s') →
      s' = s ∨ (∃ n, setAttr.size = some n ∧ self.fs.truncate s inode n = .ok ((), s')) ∨
      (e = ENOENT ∧ ∃ s₀ p, (s₀ = s ∨ ∃ n, setAttr.size = some n ∧ self.fs.truncate s inode n = .ok ((), s₀)) ∧
        self.fs.updateInode s₀ inode p = .ok ((), s'))) ∧
    (∀ inode flags s e s', self.open req inode flags s = (.errno e, s') →
      s' = s ∨ ((flags &&& O_TRUNC != 0) = true ∧
        ∃ attr, self.fs.getInode s inode = .ok attr ∧ self.fs.truncate s attr.ino 0 = .ok ((), s'))) :=
  ⟨fun _ _ _ _ _ h => setattr_errno self h, fun _ _ _ _ _ h => open_errno self h⟩

/-! ## Times -/

/-- The `utimens` step for a caller allowed to set the time, with a time of `i64` seconds and nanoseconds below
`10^9`: from 1970 on it puts `UNIX_EPOCH + sec s + nsec ns` in the patch, with the change time; for any earlier time
it panics. -/
theorem utimens_time {σ : Type} (sys : Sys) (req : Request) (attr : FileAttr)
    (set : SetFileAttr → SystemTime → SetFileAttr) (p : SetFileAttr) (t : Timestamp) (hns : t.nsec < nanosPerSec)
    (hlo : -9223372036854775808 ≤ t.sec) (hhi : t.sec ≤ i64Max)
    (hok : (attr.uid != req.uid && !checkAccess attr.uid attr.gid attr.perm req.uid req.gid W_OK) = false) (s : σ) :
    EncryptedFsFuse3.utimens sys req attr set p (some t) s =
      if 0 ≤ t.sec then (.reply ((set p ⟨t.sec, t.nsec⟩).withCtime sys.now), s) else (.panic, s) := by
  simp only [EncryptedFsFuse3.utimens, hok, failIf_false, pure_bind, systemTimeFromTimestamp_eq t hns hlo hhi]
  split_ifs <;> rfl

/-- Root sets the access time of the file of `oneFile` to one second before 1970. -/
theorem utimens_time_beforeEpoch :
    (⟨-1, 0⟩ : Timestamp).nsec < nanosPerSec ∧ -9223372036854775808 ≤ (⟨-1, 0⟩ : Timestamp).sec ∧
    (⟨-1, 0⟩ : Timestamp).sec ≤ i64Max ∧
    (MemFs.rootFile.uid != rootReq.uid &&
      !checkAccess MemFs.rootFile.uid MemFs.rootFile.gid MemFs.rootFile.perm rootReq.uid rootReq.gid W_OK) = false ∧
    EncryptedFsFuse3.utimens sampleSys rootReq MemFs.rootFile SetFileAttr.withAtime {} (some ⟨-1, 0⟩) MemFs.oneFile =
      if 0 ≤ (⟨-1, 0⟩ : Timestamp).sec then
        (.reply ((SetFileAttr.withAtime {} ⟨(⟨-1, 0⟩ : Timestamp).sec, (⟨-1, 0⟩ : Timestamp).nsec⟩).withCtime
          sampleSys.now), MemFs.oneFile)
      else (.panic, MemFs.oneFile) :=
  ⟨by decide, by decide, by decide, by decide,
    utimens_time sampleSys rootReq MemFs.rootFile SetFileAttr.withAtime {} ⟨-1, 0⟩ (by decide) (by decide) (by decide)
      (by decide) MemFs.oneFile⟩

/-- Root sets the access time of the file of `oneFile` to one second before 1970: `setattr` panics. -/
theorem setattr_negative_atime_panics :
    (memFuse.setattr sampleSys rootReq 2 ⟨none, none, none, none, some ⟨-1, 0⟩, none⟩ MemFs.oneFile).1 = .panic :=
  rfl

end Rencfs

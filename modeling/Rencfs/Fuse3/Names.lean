import Rencfs.Fuse3.MemFs

/-!
# Names that are not UTF-8

The kernel passes a name as bytes, any bytes but '/' and NUL. Every handler that hands a name to the facade turns
it into a `SecretString` with `name.to_str().unwrap()`, and `to_str` on Unix is `None` exactly when the bytes are not
UTF-8 (`toStr_isSome_iff`). So a name that is not UTF-8 panics as soon as a handler reaches that conversion
(`lookup_nonUtf8_panics`), while for UTF-8 names `lookup`, `mknod`, `mkdir`, `create`, `unlink`, `rmdir` and `rename`
never panic, from any state of any facade (`names_noPanic`). `create` needs one thing more: `create_nod` ends in
`unimplemented!` for a mode that is neither a regular file's nor a directory's, which `mknod` screens out with
`ENOSYS` and `create` leaves to the kernel, whose `create` requests carry `S_IFREG`.
-/

namespace Rencfs

open Libc Handler

namespace NamesAux

variable {σ : Type}

theorem secretName_noPanic {name : List UInt8} (h : Utf8.valid name = true) :
    (secretName name : Handler σ RustStr).NoPanic :=
  NoPanic.unwrap ((toStr_isSome_iff name).2 h)

/-- Clearing SUID and SGID leaves the file-type bits, so the kind `as_file_kind` reads. -/
theorem asFileKind_clear (mode : Nat) : asFileKind (mode &&& bitNot32 (S_ISUID ||| S_ISGID)) = asFileKind mode := by
  unfold asFileKind
  rw [Nat.and_assoc, show bitNot32 (S_ISUID ||| S_ISGID) &&& S_IFMT = S_IFMT by decide]

/-- A mode that `mknod` lets through is one `as_file_kind` knows. -/
theorem asFileKind_isSome {mode : Nat} (h : (mode &&& S_IFMT != S_IFREG && mode &&& S_IFMT != S_IFDIR) = false) :
    (asFileKind mode).isSome := by
  unfold asFileKind
  dsimp only
  split_ifs <;> simp_all

/-- `create_nod` drops SUID and SGID for a caller other than root, and the kind stays one `as_file_kind` knows. -/
theorem creationKind_isSome (req : Request) {mode : Nat} (hmode : (asFileKind mode).isSome) :
    (asFileKind (if req.uid != 0 then mode &&& bitNot32 (S_ISUID ||| S_ISGID) else mode)).isSome := by
  split <;> simp only [asFileKind_clear, hmode]

theorem createNod_noPanic (self : EncryptedFsFuse3 σ) (parent mode : Nat) (req : Request) {name : List UInt8}
    (read write : Bool) (hname : Utf8.valid name = true) (hmode : (asFileKind mode).isSome) :
    (self.createNod parent mode req name read write).NoPanic :=
  .bind (.query _) fun _ => .bind (.orFail _ _) fun _ => .bind (.failIf _ _) fun _ =>
    .bind (.unwrap (creationKind_isSome req hmode)) fun _ => .bind (secretName_noPanic hname) fun _ =>
    .bind (.mutate _) fun _ => .orFail _ _

end NamesAux

open NamesAux

/-- For names that are UTF-8, and a `create` mode of a regular file or a directory, none of the handlers that take
a name panics, from any state of any facade. -/
theorem names_noPanic {σ : Type} (self : EncryptedFsFuse3 σ) (req : Request) (parent newParent createMode flags : Nat)
    (name newName : List UInt8) (hname : Utf8.valid name = true) (hnew : Utf8.valid newName = true)
    (hmode : (asFileKind createMode).isSome) :
    (self.lookup req parent name).NoPanic ∧
    (∀ mode, (self.mknod req parent name mode).NoPanic) ∧
    (∀ mode, (self.mkdir req parent name mode).NoPanic) ∧
    (self.create req parent name createMode flags).NoPanic ∧
    (self.unlink req parent name).NoPanic ∧
    (self.rmdir req parent name).NoPanic ∧
    (self.rename req parent name newParent newName).NoPanic := by
  have hn := secretName_noPanic (σ := σ) hname
  have hnn := secretName_noPanic (σ := σ) hnew
  refine ⟨?lookup, fun mode => ?mknod, fun mode => ?mkdir, ?create, ?unlink, ?rmdir, ?rename⟩
  case lookup =>
    exact .bind (.query _) fun _ => .bind (.orFail _ _) fun _ => .bind (.failIf _ _) fun _ =>
      .bind hn fun _ => .bind (.query _) fun _ => .bind (.foundOr _ _) fun _ => .pure _
  case mknod =>
    unfold EncryptedFsFuse3.mknod
    cases h : (mode &&& S_IFMT != S_IFREG && mode &&& S_IFMT != S_IFDIR)
    · simp only [h, failIf_false, pure_bind]
      exact .bind (createNod_noPanic self _ _ _ _ _ hname (asFileKind_isSome h)) fun _ => .pure _
    · simp only [h, failIf_true, fail_bind]
      exact .fail _
  case mkdir =>
    exact .bind (.query _) fun _ => .bind (.orFail _ _) fun _ => .bind (.failIf _ _) fun _ =>
      .bind hn fun _ => .bind (.mutate _) fun _ => .bind (.orFail _ _) fun _ => .pure _
  case create =>
    exact .bind (fun _ => by unfold EncryptedFsFuse3.createAccess; split_ifs <;> exact Outcome.noConfusion) fun _ =>
      .bind (.remapErrno (createNod_noPanic self _ _ _ _ _ hname hmode) _) fun _ => .pure _
  case unlink =>
    exact .bind (.query _) fun _ => .bind (.orFail _ _) fun _ => .bind (.failIf _ _) fun _ =>
      .bind hn fun _ => .bind (.query _) fun _ => .bind (.foundOr _ _) fun _ => .bind (.failIf _ _) fun _ =>
      .bind hn fun _ => .bind (.mutate _) fun _ => .orFail _ _
  case rmdir =>
    exact .bind (.query _) fun _ => .bind (.orFail _ _) fun _ => .bind (.failIf _ _) fun _ =>
      .bind hn fun _ => .bind (.query _) fun _ => .bind (.foundOr _ _) fun _ => .bind (.failIf _ _) fun _ =>
      .bind (.failIf _ _) fun _ => .bind hn fun _ => .bind (.mutate _) fun _ => .orFail _ _
  case rename =>
    exact .bind hn fun _ => .bind (.query _) fun _ => .bind (.foundOr _ _) fun _ =>
      .bind (.query _) fun _ => .bind (.orFail _ _) fun _ => .bind (.failIf _ _) fun _ =>
      .bind (.failIf _ _) fun _ => .bind (.query _) fun _ => .bind (.orFail _ _) fun _ =>
      .bind (.failIf _ _) fun _ =>
      .bind (.ite (.bind hnn fun _ => .bind (.query _) fun _ => .failIf _ _) (.pure _)) fun _ =>
      .bind (.failIf _ _) fun _ => .bind hn fun _ => .bind hnn fun _ => .bind (.mutate _) fun _ => .orFail _ _

/-- The names `f` and `g`, and the mode of a regular file. -/
theorem names_noPanic_fg :
    Utf8.valid [0x66] = true ∧ Utf8.valid [0x67] = true ∧ (asFileKind S_IFREG).isSome ∧
    ((memFuse.lookup rootReq 1 [0x66]).NoPanic ∧
    (∀ mode, (memFuse.mknod rootReq 1 [0x66] mode).NoPanic) ∧
    (∀ mode, (memFuse.mkdir rootReq 1 [0x66] mode).NoPanic) ∧
    (memFuse.create rootReq 1 [0x66] S_IFREG O_RDWR).NoPanic ∧
    (memFuse.unlink rootReq 1 [0x66]).NoPanic ∧
    (memFuse.rmdir rootReq 1 [0x66]).NoPanic ∧
    (memFuse.rename rootReq 1 [0x66] 1 [0x67]).NoPanic) :=
  ⟨rfl, rfl, rfl, names_noPanic memFuse rootReq 1 1 S_IFREG O_RDWR [0x66] [0x67] rfl rfl rfl⟩

/-- Root looks up the one-byte name `0xFF`, which has no '/' and no NUL but is not UTF-8, in the root of `oneFile`:
`lookup` panics. -/
theorem lookup_nonUtf8_panics : (memFuse.lookup rootReq 1 [0xFF] MemFs.oneFile).1 = .panic := rfl

end Rencfs

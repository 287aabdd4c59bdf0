import Rencfs.Fuse3.Types

/-!
# `check_access` against the POSIX rule

`check_access` works on bits: it takes the bits of the caller's class off the mask and grants the request when nothing
is left. `posixGrants` says what the check is for, in rights rather than bits, after the rule of `access` for regular
files: root may read and write anything and execute what the owner, the group or the others may execute, and anyone
else has the rights of the one class they are in, the owner's, the group's or the others'. For every mask made of
`R_OK`, `W_OK` and `X_OK`, and every mode, the two agree (`checkAccess_eq_posixGrants`). The class is chosen by the
request's own group: the supplementary groups that `get_groups` reads play no part in it, and root needs an execute
bit to search a directory as well.
-/

namespace Rencfs

open Libc

/-- Read, write and execute: what a request asks for, or what a class of callers may do. -/
structure Rights where
  read : Bool
  write : Bool
  exec : Bool
  deriving DecidableEq, Repr

namespace Rights

/-- The rights of an octal digit `rwx` of a mode, or of a mask of `R_OK` (4), `W_OK` (2) and `X_OK` (1). -/
def ofDigit (d : Nat) : Rights := ⟨d / 4 % 2 = 1, d / 2 % 2 = 1, d % 2 = 1⟩

/-- Every right `a` asks for is among the rights `b`. -/
def le (a b : Rights) : Bool := (!a.read || b.read) && (!a.write || b.write) && (!a.exec || b.exec)

/-- Only the last octal digit counts. -/
theorem ofDigit_mod (d : Nat) : ofDigit (d % 8) = ofDigit d := by
  simp only [ofDigit, mk.injEq, decide_eq_decide]
  omega

end Rights

/-- The digit of the mode POSIX judges a caller other than root by: the owner's if they own the file, else the group's
if the file is in their group, else the others'. -/
def classDigit (fileUid fileGid fileMode uid gid : Nat) : Nat :=
  if uid = fileUid then fileMode / 64 else if gid = fileGid then fileMode / 8 else fileMode

/-- POSIX access checking for a mask of `R_OK`, `W_OK` and `X_OK`: root may read and write anything and execute what
the owner, the group or the others may execute; anyone else has the rights of their class. -/
def posixGrants (fileUid fileGid fileMode uid gid mask : Nat) : Bool :=
  if uid = 0 then
    !(Rights.ofDigit mask).exec || (Rights.ofDigit (fileMode / 64)).exec || (Rights.ofDigit (fileMode / 8)).exec ||
      (Rights.ofDigit fileMode).exec
  else (Rights.ofDigit mask).le (Rights.ofDigit (classDigit fileUid fileGid fileMode uid gid))

namespace AccessAux

/-- The bits of `y` above the three of a mask do not matter to their `&&&`. -/
theorem and_mod_eight {m : Nat} (hm : m < 8) (y : Nat) : m &&& y = m &&& (y % 8) := by
  rw [← Nat.and_pow_two_sub_one_eq_mod y 3, Nat.and_comm y, ← Nat.and_assoc, Nat.and_pow_two_sub_one_eq_mod,
    Nat.mod_eq_of_lt hm]

/-- One class, on the digits: the mask less the class's bits is empty exactly when the class has every right asked
for. -/
theorem digit_grants : ∀ m < 8, ∀ d < 8, (m - (m &&& d) == 0) = (Rights.ofDigit m).le (Rights.ofDigit d) := by
  decide

/-- One class: the mask less the class's bits is empty exactly when the class has every right asked for. -/
theorem sub_and_eq_zero {m : Nat} (hm : m < 8) (y : Nat) :
    (m - (m &&& y) == 0) = (Rights.ofDigit m).le (Rights.ofDigit y) := by
  rw [and_mod_eight hm, ← Rights.ofDigit_mod y]
  exact digit_grants m hm (y % 8) (Nat.mod_lt _ (by decide))

end AccessAux

open AccessAux

/-- For every mask of `R_OK`, `W_OK` and `X_OK`, every mode and every caller, `check_access` grants what the POSIX
rule grants. -/
theorem checkAccess_eq_posixGrants (fileUid fileGid fileMode uid gid mask : Nat) (h : mask < 8) :
    checkAccess fileUid fileGid fileMode uid gid mask = posixGrants fileUid fileGid fileMode uid gid mask := by
  have h6 : fileMode >>> 6 = fileMode / 64 := Nat.shiftRight_eq_div_pow fileMode 6
  have h3 : fileMode >>> 3 = fileMode / 8 := Nat.shiftRight_eq_div_pow fileMode 3
  unfold checkAccess posixGrants classDigit
  by_cases h0 : mask = F_OK
  · subst h0
    rw [if_pos rfl]
    split <;> rfl
  rw [if_neg h0]
  split_ifs with hu hfu hfg
  · simp only [X_OK, Nat.and_one_is_mod, h6, h3, Rights.ofDigit]
    rcases Nat.mod_two_eq_zero_or_one mask with hm | hm <;> simp only [hm]
    · simp
    rcases Nat.mod_two_eq_zero_or_one (fileMode / 64) with ha | ha <;>
      rcases Nat.mod_two_eq_zero_or_one (fileMode / 8) with hb | hb <;>
      rcases Nat.mod_two_eq_zero_or_one fileMode with hc | hc <;> simp [ha, hb, hc]
  · simp only [h6]
    exact sub_and_eq_zero h _
  · simp only [h3]
    exact sub_and_eq_zero h _
  · exact sub_and_eq_zero h _

/-- An ordinary user asking to write a file of root's that is `rw-r--r--`. -/
theorem checkAccess_eq_posixGrants_other : W_OK < 8 ∧
    checkAccess 0 0 0o644 1000 1000 W_OK = posixGrants 0 0 0o644 1000 1000 W_OK :=
  ⟨by decide, checkAccess_eq_posixGrants 0 0 0o644 1000 1000 W_OK (by decide)⟩

end Rencfs

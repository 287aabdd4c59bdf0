import Mathlib.Data.List.Basic

/-!
# `str::from_utf8`, and `OsStr::to_str` on Unix

On Unix an `OsStr` is a byte string, and `to_str` is `str::from_utf8(bytes).ok()`: the same bytes as a `str` when they
are well-formed UTF-8, `None` otherwise. Well-formed is the Unicode standard's table of byte sequences, which
`from_utf8` checks one character at a time: no overlong form, no surrogate, nothing above U+10FFFF. `validFrom` runs
that check over a list, one byte at a time; a `RustStr` (a `str` or a `String`) carries it.
-/

namespace Rencfs.Utf8

/-- What the check expects next: `need` continuation bytes, the first of them in `lo..=hi`, the others in
`0x80..=0xBF`. -/
structure Expect where
  need : Nat
  lo : UInt8
  hi : UInt8

/-- Between two characters. -/
def Expect.between : Expect := ⟨0, 0x80, 0xBF⟩

/-- What a character's first byte `b` makes the check expect, or `none` when no character starts with `b`. -/
def lead (b : UInt8) : Option Expect :=
  if b ≤ 0x7F then some ⟨0, 0x80, 0xBF⟩
  else if 0xC2 ≤ b ∧ b ≤ 0xDF then some ⟨1, 0x80, 0xBF⟩
  else if b = 0xE0 then some ⟨2, 0xA0, 0xBF⟩
  else if 0xE1 ≤ b ∧ b ≤ 0xEC then some ⟨2, 0x80, 0xBF⟩
  else if b = 0xED then some ⟨2, 0x80, 0x9F⟩
  else if 0xEE ≤ b ∧ b ≤ 0xEF then some ⟨2, 0x80, 0xBF⟩
  else if b = 0xF0 then some ⟨3, 0x90, 0xBF⟩
  else if 0xF1 ≤ b ∧ b ≤ 0xF3 then some ⟨3, 0x80, 0xBF⟩
  else if b = 0xF4 then some ⟨3, 0x80, 0x8F⟩
  else none

/-- The bytes left are well formed, given what the check expects. -/
def validFrom : Expect → List UInt8 → Bool
  | ⟨0, _, _⟩, [] => true
  | ⟨_ + 1, _, _⟩, [] => false
  | ⟨0, _, _⟩, b :: bs =>
    match lead b with
    | some e => validFrom e bs
    | none => false
  | ⟨n + 1, lo, hi⟩, b :: bs => lo ≤ b && b ≤ hi && validFrom ⟨n, 0x80, 0xBF⟩ bs

/-- `str::from_utf8(bytes).is_ok()`. -/
def valid (bs : List UInt8) : Bool := validFrom .between bs

end Utf8

/-- A `str`, or a `String`: well-formed UTF-8. -/
structure RustStr where
  bytes : List UInt8
  valid : Utf8.valid bytes = true
  deriving DecidableEq

/-- `OsStr::to_str` on Unix. -/
def toStr (bs : List UInt8) : Option RustStr := if h : Utf8.valid bs = true then some ⟨bs, h⟩ else none

theorem toStr_isSome_iff (bs : List UInt8) : (toStr bs).isSome ↔ Utf8.valid bs = true := by
  unfold toStr
  split <;> simp_all

/-- A name that is a single `0xFF` byte has no '/' and no NUL, and is not UTF-8: no character starts with `0xFF`. -/
example : toStr [0xFF] = none := by decide

end Rencfs

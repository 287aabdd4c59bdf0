import Rencfs.Rust.Utf8
import Mathlib.Data.Nat.Digits

/-!
# Reading text: `BufRead::lines`, `&s[i..]`, `str::split`, `str::trim` and `u32::from_str`

The pieces of the standard library that `get_groups` reads a status file with, over bytes. Each is `none` where the
library returns an error that the source unwraps, or where the library panics:

* `lines` is `BufRead::lines`: a line is what `read_until(b'\n')` read, an error unless it is UTF-8, and otherwise the
  line without its `\n` and then a `\r` before it;
* `sliceFrom` is `&s[i..]`, which panics unless `i` is a character boundary;
* `str::split(' ')` is `List.splitOn 0x20`: a space is one byte, and no other character holds that byte;
* `trimIsEmpty` is `s.trim().is_empty()`, after `char::is_whitespace`;
* `parseU32` is `u32::from_str`.
-/

namespace Rencfs

namespace Utf8

/-- `str::chars` as a byte-at-a-time machine, like the check: `need` continuation bytes are still to come for the
character whose bits so far are `acc`. A first byte below `0x80` is a character of its own; `0xC2..`, `0xE0..` and
`0xF0..` start characters of two, three and four bytes, and each continuation byte adds its last six bits. -/
def decodeFrom : Nat → Nat → List UInt8 → List Nat
  | _, _, [] => []
  | 0, _, b :: bs =>
    if b.toNat < 0x80 then b.toNat :: decodeFrom 0 0 bs
    else if b.toNat < 0xE0 then decodeFrom 1 (b.toNat % 0x20) bs
    else if b.toNat < 0xF0 then decodeFrom 2 (b.toNat % 0x10) bs
    else decodeFrom 3 (b.toNat % 0x08) bs
  | 1, acc, b :: bs => (acc * 0x40 + b.toNat % 0x40) :: decodeFrom 0 0 bs
  | n + 2, acc, b :: bs => decodeFrom (n + 1) (acc * 0x40 + b.toNat % 0x40) bs

/-- `str::chars`: the code points of well-formed UTF-8. -/
def decode (bs : List UInt8) : List Nat := decodeFrom 0 0 bs

/-- A line separator, `U+2028`, then `A`. -/
example : decode [0xE2, 0x80, 0xA8, 0x41] = [0x2028, 0x41] := by decide

theorem decode_ascii {b : UInt8} (h : b.toNat < 0x80) (bs : List UInt8) : decode (b :: bs) = b.toNat :: decode bs := by
  rw [decode, decodeFrom, if_pos h]
  rfl

/-- A byte below `0x80` is a character of its own. -/
theorem lead_ascii {b : UInt8} (h : b.toNat < 0x80) : lead b = some .between := by
  rw [lead, if_pos (show b ≤ 0x7F from show b.toNat ≤ 0x7F by omega)]
  rfl

theorem ite_some_eq {c : Prop} [Decidable c] {x e : Expect} {r : Option Expect}
    (h : (if c then some x else r) = some e) : x = e ∨ r = some e := by
  split at h
  exacts [.inl (Option.some.inj h), .inr h]

/-- Every continuation byte the check expects is at least `0x80`. -/
theorem lead_lo {b : UInt8} {e : Expect} (h : lead b = some e) : 0x80 ≤ e.lo.toNat := by
  unfold lead at h
  repeat' rcases ite_some_eq h with rfl | h
  all_goals first | decide | cases h

/-- An ASCII byte at the end changes nothing: after a whole character it is one, inside one it is not a continuation
byte. -/
theorem validFrom_append_ascii {b : UInt8} (hb : b.toNat < 0x80) :
    ∀ (e : Expect), 0x80 ≤ e.lo.toNat → ∀ bs, validFrom e (bs ++ [b]) = validFrom e bs
  | ⟨0, _, _⟩, _, [] => by simp [validFrom, lead_ascii hb, Expect.between]
  | ⟨_ + 1, lo, _⟩, he, [] => by
    dsimp only at he
    have : ¬lo ≤ b := fun h => absurd (show lo.toNat ≤ b.toNat from h) (by omega)
    simp [validFrom, this]
  | ⟨0, _, _⟩, _, c :: bs => by
    rw [List.cons_append]
    simp only [validFrom]
    split
    · exact validFrom_append_ascii hb _ (lead_lo ‹_›) bs
    · rfl
  | ⟨n + 1, _, _⟩, _, c :: bs => by
    rw [List.cons_append]
    simp only [validFrom, validFrom_append_ascii hb ⟨n, 0x80, 0xBF⟩ (Nat.le_refl _) bs]

theorem valid_append_ascii {b : UInt8} (hb : b.toNat < 0x80) (bs : List UInt8) : valid (bs ++ [b]) = valid bs :=
  validFrom_append_ascii hb .between (by decide) bs

/-- ASCII bytes are well formed. -/
theorem valid_ascii : ∀ {bs : List UInt8}, (∀ b ∈ bs, b.toNat < 0x80) → valid bs = true
  | [], _ => rfl
  | b :: bs, h => by
    rw [valid, Expect.between, validFrom, lead_ascii (h b (.head _))]
    exact valid_ascii fun c hc => h c (.tail _ hc)

end Utf8

/-! ## `BufRead::lines` -/

/-- What `BufRead::lines` makes of the bytes `read_until(b'\n')` read for a line: `Err(InvalidData)` (`none`) unless
they are UTF-8, and otherwise the line without its `\n` and then without a `\r` before it. -/
def lineOf (raw : List UInt8) : Option (List UInt8) :=
  if Utf8.valid raw then
    some (if raw.getLast? = some 0x0A then
      if raw.dropLast.getLast? = some 0x0D then raw.dropLast.dropLast else raw.dropLast
    else raw)
  else none

/-- `BufRead::lines`, from the bytes `cur` read so far for a line, last first: a line ends after each `\n`, and at the
end of the bytes unless nothing was read for it. -/
def linesFrom (cur : List UInt8) : List UInt8 → List (Option (List UInt8))
  | [] => if cur = [] then [] else [lineOf cur.reverse]
  | b :: bs => if b = 0x0A then lineOf (b :: cur).reverse :: linesFrom [] bs else linesFrom (b :: cur) bs

/-- `BufRead::lines`. -/
def lines (bs : List UInt8) : List (Option (List UInt8)) := linesFrom [] bs

/-- A line, then `\n`, then the rest: the line comes first, and the rest starts afresh. -/
theorem linesFrom_append (cur : List UInt8) {l : List UInt8} (hl : 0x0A ∉ l) (rest : List UInt8) :
    linesFrom cur (l ++ 0x0A :: rest) = lineOf (cur.reverse ++ l ++ [0x0A]) :: lines rest := by
  induction l generalizing cur with
  | nil => simp [linesFrom, lines]
  | cons c l ih =>
    have hc : c ≠ 0x0A := fun h => hl (h ▸ .head _)
    rw [List.cons_append, linesFrom, if_neg hc, ih (c :: cur) fun h => hl (.tail _ h)]
    simp

theorem lines_append {l : List UInt8} (hl : 0x0A ∉ l) (rest : List UInt8) :
    lines (l ++ 0x0A :: rest) = lineOf (l ++ [0x0A]) :: lines rest :=
  linesFrom_append [] hl rest

/-- Lines that each end with `\n`, then the rest. -/
theorem lines_flatten {ls : List (List UInt8)} (hls : ∀ l ∈ ls, 0x0A ∉ l) (rest : List UInt8) :
    lines ((ls.map (· ++ [0x0A])).flatten ++ rest) = ls.map (fun l => lineOf (l ++ [0x0A])) ++ lines rest := by
  induction ls with
  | nil => rfl
  | cons l ls ih =>
    simp only [List.map_cons, List.flatten_cons, List.append_assoc, List.singleton_append, List.cons_append,
      List.nil_append]
    rw [lines_append (hls l (.head _)), ih fun l' h => hls l' (.tail _ h)]

/-- A line read with its `\n` is read as the line, less a `\r` at its end. -/
theorem lineOf_newline (l : List UInt8) :
    lineOf (l ++ [0x0A]) = if Utf8.valid l then some (if l.getLast? = some 0x0D then l.dropLast else l) else none := by
  simp [lineOf, Utf8.valid_append_ascii (show (0x0A : UInt8).toNat < 0x80 by decide)]

/-- What `lines` gives for a line is a prefix of it. -/
theorem lineOf_newline_isPrefix {l l' : List UInt8} (h : lineOf (l ++ [0x0A]) = some l') : l' <+: l := by
  rw [lineOf_newline] at h
  split_ifs at h <;> cases h
  exacts [ List.dropLast_prefix l, List.prefix_refl l]

/-! ## `&s[i..]` -/

/-- `str::is_char_boundary(i)`: the start, the end, or a byte that starts a character (`(b as i8) >= -0x40`). -/
def isCharBoundary (s : List UInt8) (i : Nat) : Bool :=
  i == 0 ||
    match s[i]? with
    | none => i == s.length
    | some b => !(0x80 ≤ b.toNat && b.toNat ≤ 0xBF)

/-- `&s[i..]`: the bytes from `i` on; a panic (`none`) unless `i` is a character boundary. -/
def sliceFrom (s : List UInt8) (i : Nat) : Option (List UInt8) :=
  if isCharBoundary s i then some (s.drop i) else none

/-- Slicing after the first `l.length` bytes, where an ASCII byte or nothing follows. -/
theorem sliceFrom_append (l : List UInt8) {r : List UInt8} (hr : ∀ b ∈ r.head?, b.toNat < 0x80) :
    sliceFrom (l ++ r) l.length = some r := by
  have hb : isCharBoundary (l ++ r) l.length = true := by
    cases r with
    | nil => simp [isCharBoundary]
    | cons b r =>
      have := hr b rfl
      simp only [isCharBoundary, List.getElem?_append_right (Nat.le_refl _), Nat.sub_self, List.getElem?_cons_zero]
      simp only [Bool.or_eq_true, beq_iff_eq, Bool.not_eq_true', Bool.and_eq_false_iff, decide_eq_false_iff_not,
        Nat.not_le]
      omega
  simp [sliceFrom, hb]

/-! ## `str::trim` -/

/-- `char::is_whitespace`: `' '` and `'\x09'..='\x0d'`, and above `'\x7f'` the characters of Unicode's `White_Space`. -/
def isWhitespace (c : Nat) : Bool :=
  c == 0x20 || (0x09 ≤ c && c ≤ 0x0D) ||
    (0x7F < c && (c == 0x85 || c == 0xA0 || c == 0x1680 || (0x2000 ≤ c && c ≤ 0x200A) || c == 0x2028 ||
      c == 0x2029 || c == 0x202F || c == 0x205F || c == 0x3000))

/-- `s.trim().is_empty()`: `trim` takes white space off both ends, so nothing is left exactly when every character is
white space. -/
def trimIsEmpty (s : List UInt8) : Bool := (Utf8.decode s).all isWhitespace

/-! ## `u32::from_str` -/

/-- The digits loop of `u32::from_str`, from the value `acc` on: an ASCII digit `d` makes it `acc * 10 + d`
(`checked_mul(10)`, then `checked_add(d)`); any other byte, or a value past `u32::MAX`, is an error (`none`). -/
def u32Digits (acc : Nat) : List UInt8 → Option Nat
  | [] => some acc
  | b :: bs =>
    if 0x30 ≤ b.toNat ∧ b.toNat ≤ 0x39 ∧ acc * 10 + (b.toNat - 0x30) < 2 ^ 32 then
      u32Digits (acc * 10 + (b.toNat - 0x30)) bs
    else none

/-- `u32::from_str`: empty, or `+` or `-` alone, is an error; a `+` may lead the digits. -/
def parseU32 : List UInt8 → Option Nat
  | [] => none
  | b :: bs =>
    if (b = 0x2B ∨ b = 0x2D) ∧ bs = [] then none
    else if b = 0x2B then u32Digits 0 bs
    else u32Digits 0 (b :: bs)

/-- `"+42"`, `"-1"`, and `u32::MAX + 1`. -/
example : parseU32 [0x2B, 0x34, 0x32] = some 42 ∧ parseU32 [0x2D, 0x31] = none ∧
    parseU32 [0x34, 0x32, 0x39, 0x34, 0x39, 0x36, 0x37, 0x32, 0x39, 0x36] = none := by decide

theorem u32Digits_lt {acc v : Nat} (hacc : acc < 2 ^ 32) : ∀ {bs}, u32Digits acc bs = some v → v < 2 ^ 32
  | [], h => by cases h; exact hacc
  | b :: bs, h => by
    simp only [u32Digits] at h
    split_ifs at h with hd
    exact u32Digits_lt hd.2.2 h

/-- What `u32::from_str` accepts fits in a `u32`. -/
theorem parseU32_lt {s : List UInt8} {v : Nat} (h : parseU32 s = some v) : v < 2 ^ 32 := by
  unfold parseU32 at h
  split at h
  · nomatch h
  · split_ifs at h
    all_goals exact u32Digits_lt (by decide) h

/-- The byte of a decimal digit. -/
def digitByte (d : Nat) : UInt8 := (0x30 + d).toUInt8

theorem digitByte_toNat {d : Nat} (h : d < 10) : (digitByte d).toNat = 0x30 + d :=
  show (0x30 + d) % 256 = _ by omega

/-- The value of decimal digits, most significant first, read on from `acc`. -/
def digitsValue (acc : Nat) (ds : List Nat) : Nat := ds.foldl (fun a d => a * 10 + d) acc

theorem le_digitsValue (acc : Nat) (ds : List Nat) : acc ≤ digitsValue acc ds := by
  induction ds generalizing acc with
  | nil => exact Nat.le_refl _
  | cons d ds ih => exact Nat.le_trans (by omega) (ih (acc * 10 + d))

/-- Digits whose value fits in a `u32` are read as that value. -/
theorem u32Digits_digitBytes {acc : Nat} {ds : List Nat} (hds : ∀ d ∈ ds, d < 10) (hv : digitsValue acc ds < 2 ^ 32) :
    u32Digits acc (ds.map digitByte) = some (digitsValue acc ds) := by
  induction ds generalizing acc with
  | nil => rfl
  | cons d ds ih =>
    have hd10 := hds d (.head _)
    have hle : acc * 10 + d ≤ digitsValue acc (d :: ds) := le_digitsValue (acc * 10 + d) ds
    simp only [List.map_cons, u32Digits, digitByte_toNat hd10, Nat.add_sub_cancel_left]
    rw [if_pos ⟨by omega, by omega, by omega⟩]
    exact ih (fun d' h => hds d' (.tail _ h)) hv

end Rencfs

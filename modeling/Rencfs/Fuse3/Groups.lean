import Rencfs.Rust.Text
import Rencfs.Fuse3.MemFs

/-!
# `get_groups`: the supplementary groups of a caller

`chmod` asks for the groups of a caller other than root when the file's group is not the caller's own, and
`get_groups(pid)` reads them from `/proc/{pid}/task/{pid}/status`: it reads the file line by line, takes the first line
that starts with `Groups:`, cuts off its first `"Groups: ".len()` bytes, splits the rest at spaces, drops the blank
pieces and parses each other piece as a `u32`, unwrapping every step. `getGroups` follows it over the bytes of the
status files (Linux; the `target_os = "macos"` build returns no group).

* It reads back the groups of the line the kernel writes (`Groups:`, a tab, the groups in decimal separated by spaces,
  and a space), whatever well-formed lines come before it and whatever follows (`getGroups_groupsLine`), and every
  group it returns fits in a `u32` (`getGroups_lt`).
* A line before it that is not UTF-8 makes `line.unwrap()` panic, and with it `chmod`: a caller other than root who
  changes the mode of a file of theirs in another group (`chmod_panics_of_status`).
-/

namespace Rencfs

open Libc Handler

/-- The bytes of `"Groups:"`. -/
def groupsTag : List UInt8 := [0x47, 0x72, 0x6F, 0x75, 0x70, 0x73, 0x3A]

/-- The loop of `get_groups` over the lines of a status file: the groups of the first line that starts with `Groups:`,
read after its first `"Groups: ".len()` bytes, split at spaces, without the blank pieces, each parsed as a `u32`; no
group when no line starts so; `none` where `line.unwrap()`, the slice or a `parse::<u32>().unwrap()` panics. -/
def groupsOfLines : List (Option (List UInt8)) → Option (List Nat)
  | [] => some []
  | none :: _ => none
  | some line :: rest =>
    if groupsTag.isPrefixOf line then
      (sliceFrom line 8).bind fun groups => ((groups.splitOn 0x20).filter fun x => !trimIsEmpty x).mapM parseU32
    else groupsOfLines rest

/-- `get_groups(pid)`: `procStatus pid` is the content of `/proc/{pid}/task/{pid}/status`, `none` where
`File::open(path).unwrap()` panics. -/
def getGroups (procStatus : Nat → Option (List UInt8)) (pid : Nat) : Option (List Nat) :=
  (procStatus pid).bind fun file => groupsOfLines (lines file)

/-- The system the adapter runs on, with `get_groups` reading the status files `procStatus`. -/
def procSys (now : SystemTime) (procStatus : Nat → Option (List UInt8)) : Sys := ⟨now, getGroups procStatus⟩

/-! ## The line the kernel writes -/

/-- The decimal digits of `n`, most significant first: `0` for zero. -/
def decimalDigits (n : Nat) : List Nat := if n = 0 then [0] else (Nat.digits 10 n).reverse

/-- `n` in decimal ASCII. -/
def decimal (n : Nat) : List UInt8 := (decimalDigits n).map digitByte

/-- The groups as the kernel's loop writes them: a space before every group but the first. -/
def groupsBody : List Nat → List UInt8
  | [] => []
  | g :: gs => decimal g ++ (gs.map fun g => 0x20 :: decimal g).flatten

/-- The `Groups:` line of a status file as the kernel writes it: a tab after the colon, the groups, and a space. -/
def groupsLine (gs : List Nat) : List UInt8 := groupsTag ++ 0x09 :: (groupsBody gs ++ [0x20])

namespace GroupsAux

theorem decimalDigits_lt {n d : Nat} (h : d ∈ decimalDigits n) : d < 10 := by
  unfold decimalDigits at h
  split_ifs at h
  · simp_all
  · exact Nat.digits_lt_base (by decide) (List.mem_reverse.1 h)

theorem digitsValue_decimalDigits (n : Nat) : digitsValue 0 (decimalDigits n) = n := by
  unfold decimalDigits
  split_ifs with h
  · exact h.symm
  · have hf : (fun a d => a * 10 + d : Nat → Nat → Nat) = fun a d => d + 10 * a := by
      funext a d
      omega
    rw [digitsValue, hf, List.foldl_reverse]
    conv_rhs => rw [← Nat.ofDigits_digits 10 n]
    rw [Nat.ofDigits_eq_foldr]
    rfl

theorem decimalDigits_ne_nil (n : Nat) : decimalDigits n ≠ [] := by
  unfold decimalDigits
  split_ifs with h
  · exact List.cons_ne_nil _ _
  · simpa using Nat.digits_ne_nil_iff_ne_zero.2 h

/-- The bytes of a number are digits. -/
theorem mem_decimal {n : Nat} {b : UInt8} (h : b ∈ decimal n) : 0x30 ≤ b.toNat ∧ b.toNat ≤ 0x39 := by
  obtain ⟨d, hd, rfl⟩ := List.mem_map.1 h
  rw [digitByte_toNat (decimalDigits_lt hd)]
  have := decimalDigits_lt hd
  omega

theorem ne_of_mem_decimal {n : Nat} {b c : UInt8} (h : b ∈ decimal n) (hc : c.toNat < 0x30) : b ≠ c :=
  fun hbc => absurd (mem_decimal h).1 (by rw [hbc]; omega)

/-- A number is read back by `u32::from_str` when it fits. -/
theorem parseU32_decimal {n : Nat} (h : n < 2 ^ 32) : parseU32 (decimal n) = some n := by
  have hv : digitsValue 0 (decimalDigits n) < 2 ^ 32 := by rwa [digitsValue_decimalDigits]
  have hdig : u32Digits 0 (decimal n) = some n := by
    rw [decimal, u32Digits_digitBytes (fun _ => decimalDigits_lt) hv, digitsValue_decimalDigits]
  obtain ⟨b, bs, hb⟩ := List.exists_cons_of_ne_nil (List.map_eq_nil_iff.not.2 (decimalDigits_ne_nil n))
  have hmem : b ∈ decimal n := by rw [decimal, hb]; exact .head _
  rw [decimal, hb] at hdig ⊢
  rw [parseU32, if_neg fun h => h.1.elim (ne_of_mem_decimal hmem (by decide)) (ne_of_mem_decimal hmem (by decide)),
    if_neg (ne_of_mem_decimal hmem (by decide)), hdig]

/-- A number is not blank. -/
theorem trimIsEmpty_decimal (n : Nat) : trimIsEmpty (decimal n) = false := by
  obtain ⟨b, bs, hb⟩ := List.exists_cons_of_ne_nil (List.map_eq_nil_iff.not.2 (decimalDigits_ne_nil n))
  have hd := mem_decimal (show b ∈ decimal n by rw [decimal, hb]; exact .head _)
  rw [decimal, hb, trimIsEmpty, Utf8.decode_ascii (by omega), List.all_cons]
  simp only [isWhitespace, Bool.and_eq_false_iff]
  left
  simp only [Bool.or_eq_false_iff, beq_eq_false_iff_ne, ne_eq, Bool.and_eq_false_iff, decide_eq_false_iff_not,
    Nat.not_le, Nat.not_lt]
  omega

theorem not_mem_decimal_space (n : Nat) : 0x20 ∉ decimal n := fun h => ne_of_mem_decimal h (by decide) rfl

/-- A first piece `d`, the numbers after it each behind a space, and a space: split at spaces, the pieces and an empty
last one. -/
theorem splitOn_body {d : List UInt8} (hd : 0x20 ∉ d) (gs : List Nat) :
    (d ++ ((gs.map fun g => 0x20 :: decimal g).flatten ++ [0x20])).splitOn 0x20 = d :: gs.map decimal ++ [[]] := by
  have hsep : ∀ x ∈ d, ¬(x == 0x20) = true := fun x hx h => hd (beq_iff_eq.1 h ▸ hx)
  induction gs generalizing d with
  | nil => exact List.splitOnP_first (· == 0x20) d hsep 0x20 rfl []
  | cons g gs ih =>
    simp only [List.map_cons, List.flatten_cons, List.append_assoc, List.cons_append]
    rw [List.splitOn, List.splitOnP_first (· == 0x20) d hsep 0x20 rfl, ← List.splitOn,
      ih (not_mem_decimal_space g) fun x hx h => not_mem_decimal_space g (beq_iff_eq.1 h ▸ hx)]
    rfl

theorem mapM_parseU32_decimal {gs : List Nat} (hgs : ∀ g ∈ gs, g < 2 ^ 32) :
    (gs.map decimal).mapM parseU32 = some gs := by
  induction gs with
  | nil => rfl
  | cons g gs ih =>
    rw [List.map_cons, List.mapM_cons, parseU32_decimal (hgs g (.head _)), ih fun g' h => hgs g' (.tail _ h)]
    rfl

/-- The groups of the kernel's line, after the tag and the tab: read back. -/
theorem body_groups {gs : List Nat} (hgs : ∀ g ∈ gs, g < 2 ^ 32) :
    (((groupsBody gs ++ [0x20]).splitOn 0x20).filter fun x => !trimIsEmpty x).mapM parseU32 = some gs := by
  cases gs with
  | nil => rfl
  | cons g gs =>
    have hkeep : ((g :: gs).map decimal).filter (fun x => !trimIsEmpty x) = (g :: gs).map decimal :=
      List.filter_eq_self.2 fun x hx => by
        obtain ⟨g', -, rfl⟩ := List.mem_map.1 hx
        simp [trimIsEmpty_decimal]
    rw [groupsBody, List.append_assoc, splitOn_body (not_mem_decimal_space g), ← List.map_cons, List.filter_append,
      hkeep, show List.filter (fun x : List UInt8 => !trimIsEmpty x) [[]] = [] from rfl, List.append_nil]
    exact mapM_parseU32_decimal hgs

/-- The bytes of the kernel's line: ASCII, and no `\n`. -/
theorem groupsLine_bytes (gs : List Nat) : ∀ b ∈ groupsLine gs, b.toNat < 0x80 ∧ b.toNat ≠ 0x0A := by
  have hdec : ∀ {n b}, b ∈ decimal n → b.toNat < 0x80 ∧ b.toNat ≠ 0x0A := fun h => by
    have := mem_decimal h
    omega
  intro b hb
  simp only [groupsLine, List.mem_append, List.mem_cons, List.not_mem_nil, or_false] at hb
  rcases hb with h | rfl | h | rfl
  · have : ∀ c ∈ groupsTag, c.toNat < 0x80 ∧ c.toNat ≠ 0x0A := by decide
    exact this b h
  · decide
  · cases gs with
    | nil => nomatch h
    | cons g gs =>
      rcases List.mem_append.1 h with h | h
      · exact hdec h
      · obtain ⟨l, hl, hbl⟩ := List.mem_flatten.1 h
        obtain ⟨g', -, rfl⟩ := List.mem_map.1 hl
        rcases List.mem_cons.1 hbl with rfl | h
        · decide
        · exact hdec h
  · decide

/-- `lines` reads the kernel's line as it is. -/
theorem lineOf_groupsLine (gs : List Nat) : lineOf (groupsLine gs ++ [0x0A]) = some (groupsLine gs) := by
  have hlast : (groupsLine gs).getLast? = some 0x20 := by
    rw [show groupsLine gs = (groupsTag ++ 0x09 :: groupsBody gs) ++ [0x20] by simp [groupsLine], List.getLast?_concat]
  rw [lineOf_newline, if_pos (Utf8.valid_ascii fun b hb => (groupsLine_bytes gs b hb).1), hlast, if_neg (by decide)]

/-- The kernel's line, first among the lines left: its groups. -/
theorem groupsOfLines_groupsLine {gs : List Nat} (hgs : ∀ g ∈ gs, g < 2 ^ 32) (rest : List (Option (List UInt8))) :
    groupsOfLines (some (groupsLine gs) :: rest) = some gs := by
  have hsplit : groupsLine gs = (groupsTag ++ [0x09]) ++ (groupsBody gs ++ [0x20]) := by simp [groupsLine]
  have hslice : sliceFrom (groupsLine gs) 8 = some (groupsBody gs ++ [0x20]) := by
    rw [hsplit]
    refine sliceFrom_append (groupsTag ++ [0x09]) fun b hb => ?_
    have hmem : b ∈ groupsLine gs := by
      rw [hsplit]
      exact List.mem_append_right _ (List.mem_of_mem_head? hb)
    exact (groupsLine_bytes gs b hmem).1
  have htag : groupsTag.isPrefixOf (groupsLine gs) = true := List.isPrefixOf_iff_prefix.2 (List.prefix_append _ _)
  rw [groupsOfLines, if_pos htag, hslice, Option.some_bind, body_groups hgs]

/-- Well-formed lines that do not start with `Groups:` are passed over. -/
theorem groupsOfLines_pre {pre : List (List UInt8)}
    (hpre : ∀ p ∈ pre, Utf8.valid p = true ∧ groupsTag.isPrefixOf p = false) (ls : List (Option (List UInt8))) :
    groupsOfLines (pre.map (fun l => lineOf (l ++ [0x0A])) ++ ls) = groupsOfLines ls := by
  induction pre with
  | nil => rfl
  | cons p pre ih =>
    obtain ⟨hv, ht⟩ := hpre p (.head _)
    obtain ⟨p', hp'⟩ : ∃ p', lineOf (p ++ [0x0A]) = some p' := by
      rw [lineOf_newline, if_pos hv]
      exact ⟨_, rfl⟩
    have ht' : ¬groupsTag.isPrefixOf p' = true := fun h =>
      absurd ( List.isPrefixOf_iff_prefix.2 (( List.isPrefixOf_iff_prefix.1 h).trans (lineOf_newline_isPrefix hp')))
        (by rw [ht]; decide)
    rw [List.map_cons, List.cons_append, hp', groupsOfLines, if_neg ht', ih fun q h => hpre q (.tail _ h)]

theorem mapM_parseU32_lt : ∀ {xs : List (List UInt8)} {gs : List Nat}, xs.mapM parseU32 = some gs →
    ∀ g ∈ gs, g < 2 ^ 32
  | [], _, h => by
    cases h
    simp
  | x :: xs, gs, h => by
    rw [List.mapM_cons] at h
    simp only [bind, Option.bind_eq_some, pure, Option.some.injEq] at h
    obtain ⟨v, hv, vs, hvs, rfl⟩ := h
    intro g hg
    rcases List.mem_cons.1 hg with rfl | hg
    · exact parseU32_lt hv
    · exact mapM_parseU32_lt hvs g hg

theorem groupsOfLines_lt : ∀ {ls : List (Option (List UInt8))} {gs : List Nat}, groupsOfLines ls = some gs →
    ∀ g ∈ gs, g < 2 ^ 32
  | [], _, h => by
    cases h
    simp
  | none :: _, _, h => nomatch h
  | some line :: rest, gs, h => by
    rw [groupsOfLines] at h
    split_ifs at h
    · obtain ⟨_, -, h⟩ := Option.bind_eq_some.1 h
      exact mapM_parseU32_lt h
    · exact groupsOfLines_lt h

/-- A line that is not UTF-8 after well-formed lines that do not start with `Groups:`: `line.unwrap()` panics. -/
theorem getGroups_invalid {procStatus : Nat → Option (List UInt8)} {pid : Nat} {pre : List (List UInt8)}
    {bad rest : List UInt8} (hfile : procStatus pid = some ((pre.map (· ++ [0x0A])).flatten ++ bad ++ 0x0A :: rest))
    (hpre : ∀ p ∈ pre, 0x0A ∉ p ∧ Utf8.valid p = true ∧ groupsTag.isPrefixOf p = false) (hbad : 0x0A ∉ bad)
    (hinvalid : Utf8.valid bad = false) : getGroups procStatus pid = none := by
  rw [getGroups, hfile, Option.some_bind, List.append_assoc, lines_flatten (fun p hp => (hpre p hp).1),
    lines_append hbad, groupsOfLines_pre (fun p hp => (hpre p hp).2), lineOf_newline, if_neg (by simp [hinvalid])]
  rfl

end GroupsAux

open GroupsAux

/-- `get_groups` reads back the groups of the line the kernel writes, for every list of `u32` groups, after any
well-formed lines that do not start with `Groups:`, and whatever follows. -/
theorem getGroups_groupsLine (procStatus : Nat → Option (List UInt8)) (pid : Nat) (pre : List (List UInt8))
    (gs : List Nat) (rest : List UInt8)
    (hfile : procStatus pid = some ((pre.map (· ++ [0x0A])).flatten ++ groupsLine gs ++ 0x0A :: rest))
    (hpre : ∀ p ∈ pre, 0x0A ∉ p ∧ Utf8.valid p = true ∧ groupsTag.isPrefixOf p = false)
    (hgs : ∀ g ∈ gs, g < 2 ^ 32) : getGroups procStatus pid = some gs := by
  have hnl : 0x0A ∉ groupsLine gs := fun h => (groupsLine_bytes gs _ h).2 rfl
  rw [getGroups, hfile, Option.some_bind, List.append_assoc, lines_flatten (fun p hp => (hpre p hp).1),
    lines_append hnl, groupsOfLines_pre (fun p hp => (hpre p hp).2), lineOf_groupsLine, groupsOfLines_groupsLine hgs]

/-- A status file of a name line `N:`, then the kernel's line for the groups 4 and 24. -/
theorem getGroups_groupsLine_name :
    (fun _ => some ([0x4E, 0x3A, 0x0A] ++ groupsLine [4, 24] ++ [0x0A]) : Nat → Option (List UInt8)) 2 =
      some (([[0x4E, 0x3A]].map (· ++ [0x0A])).flatten ++ groupsLine [4, 24] ++ 0x0A :: []) ∧
    (∀ p ∈ [[0x4E, 0x3A]], 0x0A ∉ p ∧ Utf8.valid p = true ∧ groupsTag.isPrefixOf p = false) ∧
    (∀ g ∈ [4, 24], g < 2 ^ 32) ∧
    getGroups (fun _ => some ([0x4E, 0x3A, 0x0A] ++ groupsLine [4, 24] ++ [0x0A])) 2 = some [4, 24] :=
  ⟨rfl, by decide, by decide, getGroups_groupsLine _ 2 [[0x4E, 0x3A]] [4, 24] [] rfl (by decide) (by decide)⟩

/-- Every group `get_groups` returns fits in a `u32`, whatever the status files hold. -/
theorem getGroups_lt (procStatus : Nat → Option (List UInt8)) (pid : Nat) (gs : List Nat)
    (h : getGroups procStatus pid = some gs) : ∀ g ∈ gs, g < 2 ^ 32 := by
  obtain ⟨_, -, h⟩ := Option.bind_eq_some.1 h
  exact groupsOfLines_lt h

/-- A caller other than root who changes the mode of a file of theirs whose group is not their own: `chmod` asks
`get_groups` for their groups, and a line of their status file before the `Groups:` line that is not UTF-8 makes the
handler panic, on every facade. -/
theorem chmod_panics_of_status {σ : Type} (self : EncryptedFsFuse3 σ) (now : SystemTime)
    (procStatus : Nat → Option (List UInt8)) (req : Request) (inode mode : Nat) (s : σ) (attr : FileAttr)
    (pre : List (List UInt8)) (bad rest : List UInt8) (hattr : self.fs.getInode s inode = .ok attr)
    (hroot : req.uid ≠ 0) (howner : req.uid = attr.uid) (hgid : req.gid ≠ attr.gid)
    (hfile : procStatus req.pid = some ((pre.map (· ++ [0x0A])).flatten ++ bad ++ 0x0A :: rest))
    (hpre : ∀ p ∈ pre, 0x0A ∉ p ∧ Utf8.valid p = true ∧ groupsTag.isPrefixOf p = false) (hbad : 0x0A ∉ bad)
    (hinvalid : Utf8.valid bad = false) :
    (self.setattr (procSys now procStatus) req inode { mode := some mode } s).1 = .panic := by
  have hg : (procSys now procStatus).getGroups req.pid = none := getGroups_invalid hfile hpre hbad hinvalid
  have hroot' : attr.uid ≠ 0 := howner ▸ hroot
  simp [EncryptedFsFuse3.setattr, EncryptedFsFuse3.setattrBranch, EncryptedFsFuse3.chmod, hattr, hroot', howner,
    hgid, hg]
  rfl

namespace MemFs

/-- A root directory holding a file `f` of the ordinary user's, in root's group. -/
def userFile : MemFs := ⟨[rootDir, { rootFile with uid := 1000 }], [(1, nameF, 2)], 3, 1, [], []⟩

end MemFs

/-- The ordinary user's `chmod u+s` on their file `f`, from a process whose status file starts with the byte `0xFF`. -/
theorem chmod_panics_of_status_userFile :
    memFuse.fs.getInode MemFs.userFile 2 = .ok { MemFs.rootFile with uid := 1000 } ∧ userReq.uid ≠ 0 ∧
    userReq.uid = ({ MemFs.rootFile with uid := 1000 } : FileAttr).uid ∧
    userReq.gid ≠ ({ MemFs.rootFile with uid := 1000 } : FileAttr).gid ∧
    (fun _ => some [0xFF, 0x0A] : Nat → Option (List UInt8)) userReq.pid =
      some ((([] : List (List UInt8)).map (· ++ [0x0A])).flatten ++ [0xFF] ++ 0x0A :: []) ∧
    (∀ p ∈ ([] : List (List UInt8)), 0x0A ∉ p ∧ Utf8.valid p = true ∧ groupsTag.isPrefixOf p = false) ∧
    (0x0A : UInt8) ∉ [0xFF] ∧ Utf8.valid [0xFF] = false ∧
    (memFuse.setattr (procSys sampleSys.now fun _ => some [0xFF, 0x0A]) userReq 2 { mode := some 0o4755 }
      MemFs.userFile).1 = .panic :=
  ⟨rfl, by decide, rfl, by decide, rfl, by decide, by decide, by decide,
    chmod_panics_of_status memFuse sampleSys.now _ userReq 2 0o4755 MemFs.userFile _ [] [0xFF] [] rfl (by decide) rfl
      (by decide) rfl (by decide) (by decide) (by decide)⟩

end Rencfs

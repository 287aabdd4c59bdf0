import Rencfs.Rust.HashMap
import Mathlib.Logic.Function.Basic

/-!
# The holder map (`arc_hashmap.rs`)

`ArcHashMap<K, V>` keeps a `HashMap<K, (Arc<V>, Arc<AtomicUsize>)>` behind an `RwLock` and hands out `Holder`s: a holder
clones both `Arc`s of its entry, and the counter counts the holders. `get_or_insert_with` runs under the write lock,
`get` under the read lock, and `Holder::drop` first runs `fetch_sub` with no lock and then `purge`, which takes the
write lock and keeps only the entries whose counter is positive.

The model keeps no thread, only what a thread holds between two of its steps: a holder (`live`), a holder whose `drop`
has run `fetch_sub` and waits to purge (`dropping`), or a `get` that holds the read lock and has looked its key up but
not yet run `fetch_add` (`reading`). A step is one thread's atomic action (`Action`), so a run of any number of threads,
interleaved in any order, is a sequence of steps. A step under the write lock waits for the readers: it is enabled only
when no read is in progress.

An `Arc` is its allocation number; clones of one `Arc` carry the same number, and `counts` gives the `AtomicUsize`
behind each counter's `Arc`. `fetch_sub` wraps as `usize` does; `fetch_add` is `+ 1`, as a wrap takes `2^64` holders.
-/

namespace Rencfs.ArcHashMap

/-- `Value<V> = (Arc<V>, Arc<AtomicUsize>)`, by the allocations of its two `Arc`s. -/
structure Value where
  val : Nat
  rc : Nat
  deriving DecidableEq, Repr

/-- A `Holder`: clones of its entry's two `Arc`s. The Rust holder does not store its key; the model keeps the key it was
handed out for, to state what the holders of one key share. -/
structure Holder (K : Type) where
  key : K
  val : Nat
  rc : Nat
  deriving DecidableEq, Repr

/-- The entry value a holder clones. -/
def Holder.value {K : Type} (h : Holder K) : Value := ⟨h.val, h.rc⟩

/-- The largest `usize`, `2^64 - 1` on a 64-bit target. -/
def usizeMax : Nat := 18446744073709551615

/-- `AtomicUsize::fetch_sub(1)`: the counter after it, wrapping at zero. -/
def wrappingSubOne (n : Nat) : Nat := if n = 0 then usizeMax else n - 1

/-- The holder map and every thread's part in it. -/
structure State (K : Type) where
  /-- The `HashMap` behind the `RwLock`. -/
  map : HashMap K Value
  /-- Each `AtomicUsize`, by the allocation of its `Arc`. -/
  counts : Nat → Nat
  /-- The next allocation. -/
  next : Nat
  /-- The holders not yet dropped. -/
  live : List (Holder K)
  /-- The holders whose `drop` has run `fetch_sub` and not yet `purge`. -/
  dropping : List (Holder K)
  /-- The `get` calls that hold the read lock and have found their key, before `fetch_add`. -/
  reading : List (K × Value)

namespace State

variable {K : Type} [DecidableEq K]

/-- `ArcHashMap::default()`. -/
def init : State K := ⟨HashMap.empty, fun _ => 0, 0, [], [], []⟩

/-- The two `Arc`s that `get_or_insert_with`'s closure allocates. -/
def fresh (s : State K) : Value := ⟨s.next, s.next⟩

/-- `get_internal(Some((v, rc)))`: `rc.fetch_add(1)`, and a holder of `v` and `rc` for the caller. -/
def getInternal (s : State K) (k : K) (v : Value) : State K :=
  { s with counts := Function.update s.counts v.rc (s.counts v.rc + 1), live := ⟨k, v.val, v.rc⟩ :: s.live }

/-- `get_or_insert_with(key, f)` (and `insert`), under the write lock. For an absent key the closure runs: it allocates
the value's `Arc` and a counter at `0`, stored under the key; then `get_internal` on the entry now stored. -/
def getOrInsertWith (s : State K) (k : K) : State K :=
  match s.map.get k with
  | some v => s.getInternal k v
  | none =>
    getInternal { s with
      map := (s.map.orInsertWith k s.fresh).1
      counts := Function.update s.counts s.next 0
      next := s.next + 1 } k (s.map.orInsertWith k s.fresh).2

/-- The first half of `get`, under the read lock: `map.get(key)`. A present key leaves the read in progress; an absent
one ends the call with `None`. -/
def getLookup (s : State K) (k : K) : State K :=
  match s.map.get k with
  | some v => { s with reading := (k, v) :: s.reading }
  | none => s

/-- The second half of `get`: `get_internal` on the entry found, and the read lock released. -/
def getAdd (s : State K) (r : K × Value) : State K :=
  { s.getInternal r.1 r.2 with reading := s.reading.erase r }

/-- The first half of `Holder::drop`: `self.rc.fetch_sub(1)`, outside any lock. -/
def fetchSub (s : State K) (h : Holder K) : State K :=
  { s with
    counts := Function.update s.counts h.rc (wrappingSubOne (s.counts h.rc))
    live := s.live.erase h
    dropping := h :: s.dropping }

/-- `purge`, under the write lock: `map.retain(|_, v| v.1.load() > 0)`. -/
def purge (s : State K) : State K :=
  { s with map := s.map.retain fun _ v => decide (0 < s.counts v.rc) }

/-- The second half of `Holder::drop`: `self.map.purge()`, after which the holder is gone. -/
def purgeBy (s : State K) (h : Holder K) : State K :=
  { s.purge with dropping := s.dropping.erase h }

/-- `len()`. -/
def len (s : State K) : Nat := s.map.len

/-- `is_empty()`: `self.len() == 0`. -/
def isEmpty (s : State K) : Bool := s.len == 0

end State

/-- One thread's atomic action. -/
inductive Action (K : Type) where
  /-- `get_or_insert_with(key, f)` or `insert(key, value)`. -/
  | getOrInsertWith (key : K)
  /-- `get(key)`, up to and including `map.get(key)`. -/
  | getLookup (key : K)
  /-- The rest of a `get` in progress. -/
  | getAdd (read : K × Value)
  /-- `Holder::drop`, up to and including `fetch_sub`. -/
  | fetchSub (holder : Holder K)
  /-- The rest of a `Holder::drop` in progress. -/
  | purge (holder : Holder K)

variable {K : Type} [DecidableEq K]

/-- The step of one thread, when the thread exists and its lock is free: a step under the write lock needs every read
finished. -/
def step (s : State K) : Action K → Option (State K)
  | .getOrInsertWith k => if s.reading = [] then some (s.getOrInsertWith k) else none
  | .getLookup k => some (s.getLookup k)
  | .getAdd r => if r ∈ s.reading then some (s.getAdd r) else none
  | .fetchSub h => if h ∈ s.live then some (s.fetchSub h) else none
  | .purge h => if h ∈ s.dropping ∧ s.reading = [] then some (s.purgeBy h) else none

/-- What a step can do: the action, its guard, and the state it leads to. -/
theorem step_cases {s s' : State K} {a : Action K} (h : step s a = some s') :
    (∃ k, a = .getOrInsertWith k ∧ s.reading = [] ∧ s' = s.getOrInsertWith k) ∨
    (∃ k, a = .getLookup k ∧ s' = s.getLookup k) ∨
    (∃ r, a = .getAdd r ∧ r ∈ s.reading ∧ s' = s.getAdd r) ∨
    (∃ hd, a = .fetchSub hd ∧ hd ∈ s.live ∧ s' = s.fetchSub hd) ∨
    (∃ hd, a = .purge hd ∧ hd ∈ s.dropping ∧ s.reading = [] ∧ s' = s.purgeBy hd) := by
  cases a <;> simp only [step, Option.ite_none_right_eq_some, Option.some.injEq] at h
  · exact .inl ⟨_, rfl, h.1, h.2.symm⟩
  · exact .inr (.inl ⟨_, rfl, h.symm⟩)
  · exact .inr (.inr (.inl ⟨_, rfl, h.1, h.2.symm⟩))
  · exact .inr (.inr (.inr (.inl ⟨_, rfl, h.1, h.2.symm⟩)))
  · exact .inr (.inr (.inr (.inr ⟨_, rfl, h.1.1, h.1.2, h.2.symm⟩)))

/-- The states some run of some threads reaches from `ArcHashMap::default()`. -/
inductive Reachable : State K → Prop where
  | init : Reachable State.init
  | step {s s' : State K} (a : Action K) : Reachable s → step s a = some s' → Reachable s'

/-- A state with no `get` in progress and no `drop` between `fetch_sub` and `purge`; `get_or_insert_with` is one step,
never in progress. -/
def Quiescent (s : State K) : Prop := s.reading = [] ∧ s.dropping = []

end Rencfs.ArcHashMap

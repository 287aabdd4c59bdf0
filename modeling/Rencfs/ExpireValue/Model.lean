import Mathlib.Data.List.Basic

/-!
# The expiring value (`expire_value.rs`)

`ExpireValue` keeps one value `Arc<T>` two ways: in a `retainer::Cache` under the one key `KEY`, until the monitor
removes it at the end of its time to live, and as a `Weak<T>` in `weak`, behind a `tokio::sync::RwLock`, for as long as
some strong reference to it lives. `get` answers from the weak slot, then from the cache, and otherwise calls the
provider and stores what it gives in both.

An `Arc<T>` is its allocation number. `held` lists the strong references outside the cache, once per clone: the ones
`get` returned and the callers have not dropped, and the ones a `get` in progress holds. A `Weak` upgrades exactly when
the strong count of its allocation is positive; allocations are never reused, so a value whose count reached zero never
comes back. An entry whose time to live is over is removed by the monitor (`expire`); until then it holds its value.

`provided` lists the values the provider gave, newest first, and `calls` counts the provider's calls: neither is state
of the Rust code, both are there to state what `get` does.
-/

namespace Rencfs.ExpireValue

/-- The state of one `ExpireValue` and of the strong references to its values. -/
structure State where
  /-- The cache's entry under `KEY`. -/
  cache : Option Nat
  /-- `weak: RwLock<Option<Weak<T>>>`. -/
  weak : Option Nat
  /-- The strong references outside the cache, one per clone. -/
  held : List Nat
  /-- The next allocation. -/
  next : Nat
  /-- How many times the provider was called. -/
  calls : Nat
  /-- The values the provider gave, newest first. -/
  provided : List Nat
  deriving DecidableEq, Repr

namespace State

/-- `ExpireValue::new(provider, duration)`: an empty cache and an empty weak slot. -/
def new : State := ⟨none, none, [], 0, 0, []⟩

/-- The strong count of the allocation `v`. -/
def strong (s : State) (v : Nat) : Nat := (if s.cache = some v then 1 else 0) + s.held.count v

/-- A strong reference to `v` remains exactly when the cache or a clone holds it. -/
theorem strong_pos_iff (s : State) (v : Nat) : 0 < s.strong v ↔ s.cache = some v ∨ v ∈ s.held := by
  by_cases h : s.cache = some v <;> simp [strong, h, List.count_pos_iff, Nat.add_pos_left]

/-- A clone of `v` handed to the caller. -/
def hold (s : State) (v : Nat) : State := { s with held := v :: s.held }

/-- `get_from_ref_or_cache()`, under the read lock: the weak slot's value if it upgrades; if it does not, the cache's
value; if the slot is empty, nothing, and the cache is not looked at. -/
def getFromRefOrCache (s : State) : Option Nat :=
  match s.weak with
  | some w => if 0 < s.strong w then some w else s.cache
  | none => none

/-- The provider's call and, when it gives a value, `Arc::new(value)`: the provider's outcome `r` is the input. -/
def provide {E : Type} (s : State) (r : Except E Unit) : Except E Nat × State :=
  match r with
  | .error e => (.error e, { s with calls := s.calls + 1 })
  | .ok () =>
    (.ok s.next, { s with
      calls := s.calls + 1
      provided := s.next :: s.provided
      next := s.next + 1
      held := s.next :: s.held })

/-- `self.cache.insert(KEY.to_string(), v.clone(), self.duration)`: the entry before is dropped. -/
def insert (s : State) (v : Nat) : State := { s with cache := some v }

/-- `*self.weak.write().await = Some(Arc::downgrade(&v))`. -/
def setWeak (s : State) (v : Nat) : State := { s with weak := some v }

/-- `get()`, with no other step between its own: a value found is cloned for the caller; otherwise the provider's
value is inserted into the cache, the weak slot points to it, and the caller gets it. The provider's error is returned
with nothing stored. -/
def get {E : Type} (s : State) (r : Except E Unit) : Except E Nat × State :=
  match s.getFromRefOrCache with
  | some v => (.ok v, s.hold v)
  | none =>
    match s.provide r with
    | (.ok v, s') => (.ok v, (s'.insert v).setWeak v)
    | (.error e, s') => (.error e, s')

/-- `clear()`: `self.cache.clear()`. -/
def clear (s : State) : State := { s with cache := none }

/-- The monitor removes the entry whose time to live is over. -/
def expire (s : State) : State := { s with cache := none }

/-- A caller drops one clone of `v`. -/
def drop (s : State) (v : Nat) : State := { s with held := s.held.erase v }

end State

/-- What happens next to a value used by one task at a time. -/
inductive Event (E : Type) where
  /-- A call of `get`, whose provider, if called, gives `r`. -/
  | get (r : Except E Unit)
  | clear
  | expire
  /-- A caller drops a clone of `v`. -/
  | drop (v : Nat)

/-- One event, with the clones the callers hold (the values the run's `get`s returned and the callers have not
dropped yet): a `get` hands its value to its caller, and a caller drops only a clone it holds. -/
def seqStep {E : Type} (p : State × List Nat) : Event E → Option (State × List Nat)
  | .get r => some ((p.1.get r).2, (p.1.get r).1.toOption.toList ++ p.2)
  | .clear => some (p.1.clear, p.2)
  | .expire => some (p.1.expire, p.2)
  | .drop v => if v ∈ p.2 then some (p.1.drop v, p.2.erase v) else none

/-- A sequence of events run from `p`, one task at a time; `none` when a caller drops a clone it does not hold. -/
def runEvents {E : Type} (p : State × List Nat) : List (Event E) → Option (State × List Nat)
  | [] => some p
  | e :: es => (seqStep p e).bind fun q => runEvents q es

end Rencfs.ExpireValue

import Rencfs.ExpireValue.Model

/-!
# The expiring value, one task at a time

`SeqInv` holds after every run of `get`s, `clear`s, expiries and drops (`runEvents_inv`): the weak slot points to the
value the provider gave last, a value in the cache is that value, and the clones outside the cache are exactly the
values the run's `get`s returned and the callers have not dropped. So `get_from_ref_or_cache`'s shortcut, which skips
the cache when the slot is empty, loses nothing, and `get_most_recent` follows: `get` returns the value the provider
gave last exactly when the cache or a caller still holds it, and otherwise calls the provider once, storing nothing when
the provider fails.
-/

namespace Rencfs.ExpireValue

open State

/-- The invariant of the expiring value used by one task at a time, whose callers hold the clones `out`. -/
structure SeqInv (s : State) (out : List Nat) : Prop where
  /-- A value in the cache is the one the weak slot points to. -/
  cache_weak : ∀ v, s.cache = some v → s.weak = some v
  /-- The weak slot points to the value the provider gave last. -/
  weak_eq : s.weak = s.provided.head?
  /-- Every value given is allocated. -/
  provided_lt : ∀ v ∈ s.provided, v < s.next
  /-- The clones outside the cache are the callers'. -/
  held_eq : s.held = out
  /-- Every clone held is of an allocated value. -/
  held_lt : ∀ v ∈ s.held, v < s.next

namespace State

variable {E : Type}

/-! ## The three ways through `get` -/

/-- A value found is cloned for the caller. -/
theorem get_of_found {s : State} {v : Nat} (h : s.getFromRefOrCache = some v) (r : Except E Unit) :
    s.get r = (.ok v, s.hold v) := by
  simp only [State.get, h]

/-- Nothing found and the provider fails: only the call is counted. -/
theorem get_of_error {s : State} (h : s.getFromRefOrCache = none) (e : E) :
    s.get (.error e) = (.error e, { s with calls := s.calls + 1 }) := by
  simp only [State.get, h, State.provide]

/-- Nothing found and the provider gives a value: it is allocated, cached, pointed to and returned. -/
theorem get_of_ok {s : State} (h : s.getFromRefOrCache = none) (u : Unit) :
    s.get (E := E) (.ok u) = (.ok s.next, { s with
      cache := some s.next
      weak := some s.next
      held := s.next :: s.held
      next := s.next + 1
      calls := s.calls + 1
      provided := s.next :: s.provided }) := by
  simp only [State.get, h, State.provide, State.insert, State.setWeak]

end State

namespace SequentialAux

variable {E : Type} {out : List Nat}

/-- The value `get_from_ref_or_cache` finds is the one the provider gave last. -/
theorem getFromRefOrCache_eq {s : State} (hi : SeqInv s out) {v : Nat} (h : s.getFromRefOrCache = some v) :
    s.provided.head? = some v := by
  rw [← hi.weak_eq]
  unfold getFromRefOrCache at h
  split at h
  · rename_i w hw
    split at h
    · cases h
      exact hw
    · exact hi.cache_weak v h
  · cases h

/-- `get_from_ref_or_cache` finds a value exactly when the value the provider gave last has a strong reference. -/
theorem getFromRefOrCache_isSome {s : State} (hi : SeqInv s out) :
    s.getFromRefOrCache.isSome ↔ ∃ v, s.provided.head? = some v ∧ 0 < s.strong v := by
  unfold getFromRefOrCache
  rw [← hi.weak_eq]
  split
  · rename_i w hw
    split
    · exact ⟨fun _ => ⟨w, hw, by assumption⟩, fun _ => rfl⟩
    · rename_i hpos
      constructor
      · intro hc
        obtain ⟨c, hc⟩ := Option.isSome_iff_exists.1 hc
        have hcw := hi.cache_weak c hc
        rw [hw] at hcw
        cases hcw
        exact absurd (by rw [strong, hc, if_pos rfl]; omega) hpos
      · rintro ⟨v, hv, hpos'⟩
        rw [hw] at hv
        cases hv
        exact absurd hpos' hpos
  · rename_i hw
    simp [hw]

/-- The value last given is allocated. -/
theorem head_lt {s : State} (hi : SeqInv s out) {v : Nat} (h : s.provided.head? = some v) : v < s.next :=
  hi.provided_lt v (List.mem_of_mem_head? h)

/-- `get` keeps the invariant, its caller holding the value it returns. -/
theorem get {s : State} (hi : SeqInv s out) (r : Except E Unit) :
    SeqInv (s.get r).2 ((s.get r).1.toOption.toList ++ out) := by
  cases hf : s.getFromRefOrCache with
  | some v =>
    rw [get_of_found hf]
    have hlt := head_lt hi (getFromRefOrCache_eq hi hf)
    exact { hi with
      held_eq := congrArg (v :: ·) hi.held_eq
      held_lt := fun w hw => (List.mem_cons.1 hw).elim (· ▸ hlt) (hi.held_lt w) }
  | none =>
    cases r with
    | error e =>
      rw [get_of_error hf]
      exact { hi with }
    | ok u =>
      rw [get_of_ok hf]
      refine ⟨fun _ h => ?_, rfl, fun w hw => ?_, congrArg (_ :: ·) hi.held_eq, fun w hw => ?_⟩
      · cases h
        rfl
      · exact (List.mem_cons.1 hw).elim (· ▸ Nat.lt_succ_self _) fun hw => Nat.lt_succ_of_lt (hi.provided_lt w hw)
      · exact (List.mem_cons.1 hw).elim (· ▸ Nat.lt_succ_self _) fun hw => Nat.lt_succ_of_lt (hi.held_lt w hw)

/-- Every event keeps the invariant. -/
theorem step {p q : State × List Nat} (hi : SeqInv p.1 p.2) {e : Event E} (h : seqStep p e = some q) :
    SeqInv q.1 q.2 := by
  cases e with
  | get r =>
    cases h
    exact get hi r
  | clear =>
    cases h
    exact { hi with cache_weak := fun _ h => nomatch h }
  | expire =>
    cases h
    exact { hi with cache_weak := fun _ h => nomatch h }
  | drop v =>
    simp only [seqStep, Option.ite_none_right_eq_some, Option.some.injEq] at h
    obtain ⟨-, rfl⟩ := h
    exact { hi with
      held_eq := congrArg (List.erase · v) hi.held_eq
      held_lt := fun w hw => hi.held_lt w (List.mem_of_mem_erase hw) }

/-- A `get` that finds nothing: one call of the provider, a value never given before on success, and nothing stored
on an error. -/
theorem get_miss {s : State} (hi : SeqInv s out) (r : Except E Unit)
    (hno : ¬∃ v, s.provided.head? = some v ∧ 0 < s.strong v) :
    (s.get r).2.calls = s.calls + 1 ∧
    (∀ v, (s.get r).1 = .ok v → (s.get r).2.provided.head? = some v ∧ v ∉ s.provided) ∧
    (∀ e, (s.get r).1 = .error e → (s.get r).2.weak = s.weak ∧ (s.get r).2.cache = s.cache) := by
  have hnone : s.getFromRefOrCache = none :=
    Option.not_isSome_iff_eq_none.1 (mt (getFromRefOrCache_isSome hi).1 hno)
  cases r with
  | error e =>
    rw [get_of_error hnone]
    exact ⟨rfl, (fun _ h => nomatch h), fun _ _ => ⟨rfl, rfl⟩⟩
  | ok u =>
    rw [get_of_ok hnone]
    refine ⟨rfl, fun v hv => ?_, fun _ h => nomatch h⟩
    cases hv
    exact ⟨rfl, fun hm => Nat.lt_irrefl _ (hi.provided_lt _ hm)⟩

end SequentialAux

open SequentialAux

/-- `ExpireValue::new` has no value and no caller holds a clone. -/
theorem SeqInv.new : SeqInv State.new [] :=
  ⟨(fun _ h => nomatch h), rfl, (fun _ h => nomatch h), rfl, (fun _ h => nomatch h)⟩

/-- A run keeps the invariant, with the clones its callers hold. -/
theorem runEvents_inv {E : Type} (evs : List (Event E)) {p q : State × List Nat} (hi : SeqInv p.1 p.2)
    (h : runEvents p evs = some q) : SeqInv q.1 q.2 := by
  induction evs generalizing p with
  | nil => exact Option.some.inj h ▸ hi
  | cons e es ih =>
    obtain ⟨p', hp', h⟩ := Option.bind_eq_some.1 h
    exact ih (SequentialAux.step hi hp') h

/-- After any run of `get`s (the provider succeeding or failing), `clear`s, expiries and drops of the values the run's
`get`s returned: the strong references outside the cache are the callers' clones `out`; a value in the cache is the one
the weak slot points to; `get` returns the value the provider gave last exactly when the cache or a caller still holds
it, and then calls no provider; otherwise it calls the provider once, returns the new value, allocated afresh, or the
provider's error, and on an error leaves the weak slot and the cache as they were. -/
theorem get_most_recent {E : Type} (evs : List (Event E)) (s : State) (out : List Nat)
    (hrun : runEvents (State.new, []) evs = some (s, out)) (r : Except E Unit) :
    s.held = out ∧
    (∀ v, s.cache = some v → s.weak = some v) ∧
    (∀ v, s.provided.head? = some v → ((s.get r).1 = .ok v ↔ s.cache = some v ∨ v ∈ out)) ∧
    ((∃ v, s.provided.head? = some v ∧ (s.cache = some v ∨ v ∈ out)) → (s.get r).2.calls = s.calls) ∧
    ((¬∃ v, s.provided.head? = some v ∧ (s.cache = some v ∨ v ∈ out)) →
      (s.get r).2.calls = s.calls + 1 ∧
      (∀ v, (s.get r).1 = .ok v → (s.get r).2.provided.head? = some v ∧ v ∉ s.provided) ∧
      (∀ e, (s.get r).1 = .error e → (s.get r).2.weak = s.weak ∧ (s.get r).2.cache = s.cache)) := by
  have hi : SeqInv s out := runEvents_inv evs SeqInv.new hrun
  have hpos : ∀ v, 0 < s.strong v ↔ s.cache = some v ∨ v ∈ out := fun v => hi.held_eq ▸ State.strong_pos_iff s v
  simp only [← hpos]
  have hfind := getFromRefOrCache_isSome hi
  refine ⟨hi.held_eq, hi.cache_weak, fun v hv => ⟨fun hget => ?_, fun hpos => ?_⟩, fun hex => ?_, get_miss hi r⟩
  · by_contra hpos
    have hno : ¬∃ w, s.provided.head? = some w ∧ 0 < s.strong w := fun ⟨w, hw, hw'⟩ =>
      hpos (Option.some.inj (hw.symm.trans hv) ▸ hw')
    exact ((get_miss hi r hno).2.1 v hget).2 (List.mem_of_mem_head? hv)
  · obtain ⟨w, hw⟩ := Option.isSome_iff_exists.1 (hfind.2 ⟨v, hv, hpos⟩)
    have hwv : w = v := Option.some.inj ((getFromRefOrCache_eq hi hw).symm.trans hv)
    rw [get_of_found hw, hwv]
  · obtain ⟨w, hw⟩ := Option.isSome_iff_exists.1 (hfind.2 hex)
    rw [get_of_found hw]
    rfl

/-- The run of `test_expired_value_with_living_reference`: a `get` whose provider succeeds, then the entry expires while
the caller still holds the value. -/
def expiredWhileHeld : State := (State.new.get (E := Unit) (.ok ())).2.expire

/-- `get_most_recent` after `expiredWhileHeld`: the next `get` finds the same value through the weak slot. -/
theorem get_most_recent_expiredWhileHeld :
    runEvents (State.new, []) [Event.get (E := Unit) (.ok ()), .expire] = some (expiredWhileHeld, [0]) ∧
      (expiredWhileHeld.get (E := Unit) (.ok ())).1 = .ok 0 ∧
      (expiredWhileHeld.held = [0] ∧
      (∀ v, expiredWhileHeld.cache = some v → expiredWhileHeld.weak = some v) ∧
      (∀ v, expiredWhileHeld.provided.head? = some v →
        ((expiredWhileHeld.get (E := Unit) (.ok ())).1 = .ok v ↔ expiredWhileHeld.cache = some v ∨ v ∈ [0])) ∧
      ((∃ v, expiredWhileHeld.provided.head? = some v ∧ (expiredWhileHeld.cache = some v ∨ v ∈ [0])) →
        (expiredWhileHeld.get (E := Unit) (.ok ())).2.calls = expiredWhileHeld.calls) ∧
      ((¬∃ v, expiredWhileHeld.provided.head? = some v ∧ (expiredWhileHeld.cache = some v ∨ v ∈ [0])) →
        (expiredWhileHeld.get (E := Unit) (.ok ())).2.calls = expiredWhileHeld.calls + 1 ∧
        (∀ v, (expiredWhileHeld.get (E := Unit) (.ok ())).1 = .ok v →
          (expiredWhileHeld.get (E := Unit) (.ok ())).2.provided.head? = some v ∧ v ∉ expiredWhileHeld.provided) ∧
        (∀ e, (expiredWhileHeld.get (E := Unit) (.ok ())).1 = .error e →
          (expiredWhileHeld.get (E := Unit) (.ok ())).2.weak = expiredWhileHeld.weak ∧
          (expiredWhileHeld.get (E := Unit) (.ok ())).2.cache = expiredWhileHeld.cache))) :=
  ⟨rfl, rfl, get_most_recent [.get (.ok ()), .expire] expiredWhileHeld [0] rfl (.ok ())⟩

end Rencfs.ExpireValue

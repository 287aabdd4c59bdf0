import Rencfs.ArcHashMap.Model
import Mathlib.Data.List.Dedup

/-!
# The holder map's invariant

`Inv` holds of every reachable state (`Reachable.inv`). Its first field is the one the design rests on: each counter is
the number of holders of it whose `fetch_sub` has not run. The others say where those holders point: every such holder's
entry is still in the map, and so is the entry a `get` in progress found; entries have distinct counters allocated
before `next`; and an entry whose counter is zero has a purge pending, which `purge`'s retain will remove.

Each action has its lemma; `Core` (the fields but the last) and the last field are kept apart for `getInternal`, which
increments the counter of an entry `get_or_insert_with` has just stored at zero.
-/

namespace Rencfs.ArcHashMap

variable {K : Type}

namespace State

/-- The holders of the counter `c` whose `fetch_sub` has not run. -/
def holdersOf (s : State K) (c : Nat) : Nat := s.live.countP fun h => h.rc = c

@[simp] theorem getInternal_map (s : State K) (k : K) (v : Value) : (s.getInternal k v).map = s.map := rfl
@[simp] theorem getInternal_next (s : State K) (k : K) (v : Value) : (s.getInternal k v).next = s.next := rfl
@[simp] theorem getInternal_dropping (s : State K) (k : K) (v : Value) :
    (s.getInternal k v).dropping = s.dropping := rfl
@[simp] theorem getInternal_reading (s : State K) (k : K) (v : Value) :
    (s.getInternal k v).reading = s.reading := rfl
@[simp] theorem getInternal_live (s : State K) (k : K) (v : Value) :
    (s.getInternal k v).live = ⟨k, v.val, v.rc⟩ :: s.live := rfl
@[simp] theorem getInternal_counts (s : State K) (k : K) (v : Value) :
    (s.getInternal k v).counts = Function.update s.counts v.rc (s.counts v.rc + 1) := rfl

/-- The holders of a counter, after a holder of `c'` is handed out. -/
theorem holdersOf_getInternal (s : State K) (k : K) (v : Value) (c : Nat) :
    (s.getInternal k v).holdersOf c = s.holdersOf c + if v.rc = c then 1 else 0 := by
  simp [holdersOf, List.countP_cons]

/-- Erasing a holder of `c` takes one off its count. -/
theorem countP_erase [DecidableEq K] (l : List (Holder K)) {h : Holder K} (hh : h ∈ l) (c : Nat) :
    l.countP (fun x => x.rc = c) = (l.erase h).countP (fun x => x.rc = c) + if h.rc = c then 1 else 0 := by
  rw [(List.perm_cons_erase hh).countP_eq, List.countP_cons]
  simp

end State

open State

/-- The invariant of the holder map, but for pending purges. -/
structure Core (s : State K) : Prop where
  /-- Each counter is the number of holders of it whose `fetch_sub` has not run. -/
  counts_eq : ∀ c, s.counts c = s.holdersOf c
  /-- The entry a holder clones is in the map. -/
  live_mem : ∀ h ∈ s.live, (h.key, h.value) ∈ s.map.entries
  /-- The entry a `get` in progress found is in the map. -/
  reading_mem : ∀ r ∈ s.reading, r ∈ s.map.entries
  /-- Counters are allocated before `next`. -/
  rc_lt : ∀ e ∈ s.map.entries, e.2.rc < s.next
  /-- No two entries share a counter. -/
  rc_inj : ∀ e₁ ∈ s.map.entries, ∀ e₂ ∈ s.map.entries, e₁.2.rc = e₂.2.rc → e₁ = e₂

/-- An entry whose counter is zero, other than the counter `c`, has a purge pending. -/
def ZeroPending (s : State K) (c : Nat) : Prop :=
  ∀ e ∈ s.map.entries, e.2.rc ≠ c → s.counts e.2.rc = 0 → s.dropping ≠ []

/-- The invariant of the holder map. -/
structure Inv (s : State K) extends Core s : Prop where
  /-- An entry whose counter is zero has a purge pending. -/
  zero_pending : ∀ e ∈ s.map.entries, s.counts e.2.rc = 0 → s.dropping ≠ []

/-- A holder's `fetch_sub` finds its counter positive. -/
theorem Core.counts_pos {s : State K} (hi : Core s) {h : Holder K} (hh : h ∈ s.live) : 0 < s.counts h.rc := by
  rw [hi.counts_eq]
  exact List.countP_pos_iff.2 ⟨h, hh, by simp⟩

/-- A counter beyond the map's entries has no holder. -/
theorem Core.holdersOf_next {s : State K} (hi : Core s) : s.holdersOf s.next = 0 := by
  refine List.countP_eq_zero.2 fun h hh hc => ?_
  have := hi.rc_lt _ (hi.live_mem h hh)
  simp only [Holder.value, decide_eq_true_eq] at this hc
  omega

/-! ## `get_internal` -/

/-- `get_internal` on an entry of the map keeps `Core`. -/
theorem Core.getInternal {s : State K} (hi : Core s) {k : K} {v : Value} (hk : (k, v) ∈ s.map.entries) :
    Core (s.getInternal k v) where
  counts_eq c := by
    rw [holdersOf_getInternal, getInternal_counts, Function.update_apply, hi.counts_eq]
    split_ifs <;> simp_all [hi.counts_eq]
  live_mem h hh := by
    rcases List.mem_cons.1 hh with rfl | hh
    · exact hk
    · exact hi.live_mem h hh
  reading_mem := hi.reading_mem
  rc_lt := hi.rc_lt
  rc_inj := hi.rc_inj

/-- `get_internal` on `c` leaves every zero counter with a pending purge, if every zero counter but `c` had one. -/
theorem ZeroPending.getInternal {s : State K} {k : K} {v : Value} (hz : ZeroPending s v.rc) :
    ∀ e ∈ (s.getInternal k v).map.entries, (s.getInternal k v).counts e.2.rc = 0 →
      (s.getInternal k v).dropping ≠ [] := by
  intro e he h0
  by_cases hc : e.2.rc = v.rc
  · rw [getInternal_counts, hc, Function.update_same] at h0
    omega
  · rw [getInternal_counts, Function.update_noteq hc] at h0
    exact hz e he hc h0

theorem Inv.zeroPending {s : State K} (hi : Inv s) (c : Nat) : ZeroPending s c :=
  fun e he _ h0 => hi.zero_pending e he h0

/-- `get_internal` on an entry of the map keeps the invariant. -/
theorem Inv.getInternal {s : State K} (hi : Inv s) {k : K} {v : Value} (hk : (k, v) ∈ s.map.entries) :
    Inv (s.getInternal k v) :=
  { hi.toCore.getInternal hk with zero_pending := (hi.zeroPending v.rc).getInternal }

/-! ## One lemma per action -/

theorem Inv.init : Inv (State.init : State K) where
  counts_eq _ := rfl
  live_mem _ h := nomatch h
  reading_mem _ h := nomatch h
  rc_lt _ h := nomatch h
  rc_inj _ h := nomatch h
  zero_pending _ h := nomatch h

variable [DecidableEq K]

/-- The map after `get_or_insert_with` on an absent key, before `get_internal`: the new entry, its counter at zero. -/
theorem Core.alloc {s : State K} (hi : Core s) {k : K} (hk : s.map.get k = none) :
    Core { s with
      map := (s.map.orInsertWith k s.fresh).1
      counts := Function.update s.counts s.next 0
      next := s.next + 1 } := by
  have hk' := (HashMap.get_eq_none_iff _ _).1 hk
  have he := (HashMap.orInsertWith_entries_of_not_mem s.map s.fresh hk').1
  have hfresh : ∀ e ∈ s.map.entries, e.2.rc ≠ s.next := fun e he => Nat.ne_of_lt (hi.rc_lt e he)
  refine ⟨fun c => ?_, fun h hh => ?_, fun r hr => ?_, fun e he' => ?_, fun e₁ h₁ e₂ h₂ => ?_⟩
  · by_cases hc : c = s.next
    · subst hc
      simp only [Function.update_same]
      exact hi.holdersOf_next.symm
    · simp only [Function.update_noteq hc]
      exact hi.counts_eq c
  · simp only [he]
    exact List.mem_cons_of_mem _ (hi.live_mem h hh)
  · simp only [he]
    exact List.mem_cons_of_mem _ (hi.reading_mem r hr)
  · simp only [he, List.mem_cons] at he'
    rcases he' with rfl | he'
    · simp [fresh]
    · exact Nat.lt_succ_of_lt (hi.rc_lt e he')
  · simp only [he, List.mem_cons] at h₁ h₂
    rcases h₁ with rfl | h₁ <;> rcases h₂ with rfl | h₂
    · exact fun _ => rfl
    · exact fun hc => absurd hc.symm (hfresh _ h₂)
    · exact fun hc => absurd hc (hfresh _ h₁)
    · exact hi.rc_inj e₁ h₁ e₂ h₂

theorem Inv.getOrInsertWith {s : State K} (hi : Inv s) (k : K) : Inv (s.getOrInsertWith k) := by
  unfold State.getOrInsertWith
  split
  · rename_i v hv
    exact hi.getInternal ((HashMap.get_eq_some_iff _ _ _).1 hv)
  · rename_i hk
    have hc := hi.toCore.alloc hk
    have hmem := (HashMap.orInsertWith_spec s.map k s.fresh).1
    refine { hc.getInternal hmem with zero_pending := ZeroPending.getInternal ?_ }
    intro e he hne h0
    have hv := (HashMap.orInsertWith_entries_of_not_mem s.map s.fresh ((HashMap.get_eq_none_iff _ _).1 hk)).2
    rcases HashMap.mem_orInsertWith _ _ _ he with he | ⟨rfl, -⟩
    · simp only [Function.update_noteq (Nat.ne_of_lt (hi.rc_lt e he))] at h0
      exact hi.zero_pending e he h0
    · exact absurd (by rw [hv]) hne

theorem Inv.getLookup {s : State K} (hi : Inv s) (k : K) : Inv (s.getLookup k) := by
  unfold State.getLookup
  split
  · rename_i v hv
    refine { hi with reading_mem := fun r hr => ?_ }
    rcases List.mem_cons.1 hr with rfl | hr
    · exact (HashMap.get_eq_some_iff _ _ _).1 hv
    · exact hi.reading_mem r hr
  · exact hi

theorem Inv.getAdd {s : State K} (hi : Inv s) {r : K × Value} (hr : r ∈ s.reading) : Inv (s.getAdd r) :=
  let hg := hi.getInternal (hi.reading_mem r hr)
  { hg with reading_mem := fun r' hr' => hi.reading_mem r' (List.mem_of_mem_erase hr') }

theorem Inv.fetchSub {s : State K} (hi : Inv s) {h : Holder K} (hh : h ∈ s.live) : Inv (s.fetchSub h) where
  counts_eq c := by
    have herase := State.countP_erase s.live hh c
    have hc := hi.counts_eq c
    simp only [holdersOf, State.fetchSub] at hc ⊢
    by_cases hrc : c = h.rc
    · subst hrc
      rw [if_pos rfl] at herase
      rw [Function.update_same, wrappingSubOne, if_neg (Nat.pos_iff_ne_zero.1 (hi.counts_pos hh))]
      omega
    · rw [if_neg (Ne.symm hrc)] at herase
      rw [Function.update_noteq hrc]
      omega
  live_mem h' hh' := hi.live_mem h' (List.mem_of_mem_erase hh')
  reading_mem := hi.reading_mem
  rc_lt := hi.rc_lt
  rc_inj := hi.rc_inj
  zero_pending _ _ _ := List.cons_ne_nil _ _

theorem Inv.purgeBy {s : State K} (hi : Inv s) (h : Holder K) (hr : s.reading = []) : Inv (s.purgeBy h) where
  counts_eq := hi.counts_eq
  live_mem h' hh' := by
    simp only [State.purgeBy, State.purge, HashMap.mem_retain, decide_eq_true_eq]
    exact ⟨hi.live_mem h' hh', hi.counts_pos hh'⟩
  reading_mem r hr' := by simp [State.purgeBy, State.purge, hr] at hr'
  rc_lt e he := hi.rc_lt e (by simp only [State.purgeBy, State.purge, HashMap.mem_retain] at he; exact he.1)
  rc_inj e₁ h₁ e₂ h₂ := by
    simp only [State.purgeBy, State.purge, HashMap.mem_retain] at h₁ h₂
    exact hi.rc_inj e₁ h₁.1 e₂ h₂.1
  zero_pending e he h0 := by
    simp only [State.purgeBy, State.purge, HashMap.mem_retain, decide_eq_true_eq] at he
    simp only [State.purgeBy, State.purge] at h0
    omega

/-! ## Every reachable state -/

/-- Every step keeps the invariant. -/
theorem Inv.step {s s' : State K} (hi : Inv s) {a : Action K} (h : step s a = some s') : Inv s' := by
  rcases step_cases h with ⟨k, -, -, rfl⟩ | ⟨k, -, rfl⟩ | ⟨r, -, hr, rfl⟩ | ⟨hd, -, hl, rfl⟩ | ⟨hd, -, -, hr, rfl⟩
  exacts [hi.getOrInsertWith k, hi.getLookup k, hi.getAdd hr, hi.fetchSub hl, hi.purgeBy hd hr]

/-- The invariant holds of every state that some run of some threads reaches. -/
theorem Reachable.inv {s : State K} (hs : Reachable s) : Inv s := by
  induction hs with
  | init => exact Inv.init
  | step a _ hstep ih => exact ih.step hstep

end Rencfs.ArcHashMap

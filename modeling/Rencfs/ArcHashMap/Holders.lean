import Rencfs.ArcHashMap.Invariant

/-!
# What the holders of the map see

Over every run of any number of threads (`Reachable`), from `Reachable.inv`:

- `holders_counted`: each counter counts the holders of it whose `fetch_sub` has not run, so `fetch_sub` never finds a
  counter at zero; `purge` keeps the entry of every such holder; the holders of one key hold one value, of which a `get`
  (its lookup, then its `fetch_add`) or a `get_or_insert_with` of that key hands out another clone; and no step replaces
  a stored value.
- `quiescent_keys`: once no `get` is in progress and every dropped holder has purged, the keys of the map are the keys
  of the holders, so `len()` counts them and `is_empty()` holds exactly when no holder is alive.
- `holder_keys_le_len`: in every state, `len()` is at least the number of keys with a holder.
-/

namespace Rencfs.ArcHashMap

variable {K : Type}

open State

namespace HoldersAux

/-- A live holder's entry survives `purge`: its counter is positive. -/
theorem mem_purge {s : State K} (hi : Inv s) {h : Holder K} (hh : h ∈ s.live) :
    (h.key, h.value) ∈ s.purge.map.entries := by
  simp only [State.purge, HashMap.mem_retain, decide_eq_true_eq]
  exact ⟨hi.live_mem h hh, hi.counts_pos hh⟩

/-- Every key of the map has a holder, once no purge is pending. -/
theorem key_held {s : State K} (hi : Inv s) (hd : s.dropping = []) {e : K × Value} (he : e ∈ s.map.entries) :
    ∃ h ∈ s.live, h.key = e.1 := by
  have hpos : 0 < s.counts e.2.rc := Nat.pos_of_ne_zero fun h0 => hi.zero_pending e he h0 hd
  rw [hi.counts_eq] at hpos
  obtain ⟨h, hh, hrc⟩ := List.countP_pos_iff.1 hpos
  simp only [decide_eq_true_eq] at hrc
  have := hi.rc_inj _ (hi.live_mem h hh) e he hrc
  exact ⟨h, hh, by rw [← this]⟩

/-- The keys of the holders are keys of the map. -/
theorem holder_key_mem {s : State K} (hi : Inv s) {h : Holder K} (hh : h ∈ s.live) : h.key ∈ s.map.keys :=
  (HashMap.mem_keys _ _).2 ⟨_, hi.live_mem h hh⟩

variable [DecidableEq K]

/-- Holders of one key hold the one value stored under it. -/
theorem value_eq {s : State K} (hi : Inv s) {h₁ h₂ : Holder K} (h₁l : h₁ ∈ s.live) (h₂l : h₂ ∈ s.live)
    (hk : h₁.key = h₂.key) : h₁.value = h₂.value := by
  have h₂m := hi.live_mem h₂ h₂l
  rw [← hk] at h₂m
  exact s.map.eq_of_mem (hi.live_mem h₁ h₁l) h₂m

/-- `get_or_insert_with` on a stored key hands out a holder of the stored value and leaves the map. -/
theorem getOrInsertWith_of_get {s : State K} {k : K} {v : Value} (hv : s.map.get k = some v) :
    s.getOrInsertWith k = s.getInternal k v := by
  simp only [State.getOrInsertWith, hv]

/-- A step stores no value under a key that had one: it only removes entries or adds one under an absent key. -/
theorem step_entries {s s' : State K} {a : Action K} (h : step s a = some s') :
    ∀ e ∈ s'.map.entries, e ∈ s.map.entries ∨ e.1 ∉ s.map.keys := by
  intro e he
  rcases step_cases h with ⟨k, -, -, rfl⟩ | ⟨k, -, rfl⟩ | ⟨r, -, -, rfl⟩ | ⟨hd, -, -, rfl⟩ | ⟨hd, -, -, -, rfl⟩
  · unfold State.getOrInsertWith at he
    split at he
    · exact .inl he
    · rcases HashMap.mem_orInsertWith _ _ _ he with he | ⟨rfl, hk⟩
      exacts [.inl he, .inr hk]
  · unfold State.getLookup at he
    split at he <;> exact .inl he
  · exact .inl he
  · exact .inl he
  · simp only [State.purgeBy, State.purge, HashMap.mem_retain] at he
    exact .inl he.1

/-- The holders' keys, once each, are a sublist of the map's keys up to order. -/
theorem dedup_subperm {s : State K} (hi : Inv s) : (s.live.map Holder.key).dedup.Subperm s.map.keys :=
  List.subperm_of_subset (List.nodup_dedup _) fun k hk => by
    obtain ⟨h, hh, rfl⟩ := List.mem_map.1 (List.mem_dedup.1 hk)
    exact holder_key_mem hi hh

/-- Two threads: one inserts key `1` and keeps its holder; the other inserts key `2`, drops its holder and purges. -/
def runOfTwo : State Nat :=
  ((((State.init : State Nat).getOrInsertWith 1).getOrInsertWith 2).fetchSub ⟨2, 1, 1⟩).purgeBy ⟨2, 1, 1⟩

theorem reachable_runOfTwo : Reachable runOfTwo :=
  .step (.purge ⟨2, 1, 1⟩) (.step (.fetchSub ⟨2, 1, 1⟩) (.step (.getOrInsertWith 2)
    (.step (.getOrInsertWith 1) .init rfl) rfl) rfl) rfl

theorem quiescent_runOfTwo : Quiescent runOfTwo := ⟨rfl, by decide⟩

end HoldersAux

open HoldersAux

variable [DecidableEq K]

/-- In every state a run of any number of threads reaches: each counter is the number of holders of it whose `fetch_sub`
has not run, so a holder's `fetch_sub` finds its counter positive; `purge` keeps every such holder's entry; holders of
one key hold one value (one `Arc` and one counter), the one stored under the key. A `get` of a held key finds that
value, a `get` in progress on it has found it, and either hands the caller a clone of the holder; `get_or_insert_with`
does too, with no closure run; and no step stores a value under a key that already has one. -/
theorem holders_counted (s : State K) (hs : Reachable s) :
    (∀ c, s.counts c = s.live.countP fun h => h.rc = c) ∧
    (∀ h ∈ s.live, 0 < s.counts h.rc) ∧
    (∀ h ∈ s.live, (h.key, h.value) ∈ s.purge.map.entries) ∧
    (∀ h₁ ∈ s.live, ∀ h₂ ∈ s.live, h₁.key = h₂.key → h₁.value = h₂.value) ∧
    (∀ h ∈ s.live, s.map.get h.key = some h.value ∧
      s.getLookup h.key = { s with reading := (h.key, h.value) :: s.reading } ∧
      (∀ r ∈ s.reading, r.1 = h.key → r = (h.key, h.value) ∧ (s.getAdd r).live = h :: s.live) ∧
      s.getOrInsertWith h.key = s.getInternal h.key h.value ∧ (s.getOrInsertWith h.key).live = h :: s.live) ∧
    (∀ a s', step s a = some s' → ∀ e ∈ s'.map.entries, e ∈ s.map.entries ∨ e.1 ∉ s.map.keys) := by
  have hi := hs.inv
  refine ⟨hi.counts_eq, fun h hh => hi.counts_pos hh, fun h hh => mem_purge hi hh,
    fun h₁ h₁l h₂ h₂l => value_eq hi h₁l h₂l, fun h hh => ?_, fun a s' => step_entries⟩
  have hg := (HashMap.get_eq_some_iff _ _ _).2 (hi.live_mem h hh)
  refine ⟨hg, by simp only [State.getLookup, hg], fun r hr hk => ?_, getOrInsertWith_of_get hg,
    by rw [getOrInsertWith_of_get hg]; rfl⟩
  obtain rfl : r = (h.key, h.value) := Prod.ext hk (s.map.eq_of_mem (hk ▸ hi.reading_mem r hr) (hi.live_mem h hh))
  exact ⟨rfl, rfl⟩

/-- `holders_counted` on the run of `runOfTwo`: the holder of key `1` is the only one, and its counter is `1`. -/
theorem holders_counted_runOfTwo :
    Reachable runOfTwo ∧ runOfTwo.live = [⟨1, 0, 0⟩] ∧ runOfTwo.counts 0 = 1 ∧
      ((∀ c, runOfTwo.counts c = runOfTwo.live.countP fun h => h.rc = c) ∧
      (∀ h ∈ runOfTwo.live, 0 < runOfTwo.counts h.rc) ∧
      (∀ h ∈ runOfTwo.live, (h.key, h.value) ∈ runOfTwo.purge.map.entries) ∧
      (∀ h₁ ∈ runOfTwo.live, ∀ h₂ ∈ runOfTwo.live, h₁.key = h₂.key → h₁.value = h₂.value) ∧
      (∀ h ∈ runOfTwo.live, runOfTwo.map.get h.key = some h.value ∧
        runOfTwo.getLookup h.key = { runOfTwo with reading := (h.key, h.value) :: runOfTwo.reading } ∧
        (∀ r ∈ runOfTwo.reading, r.1 = h.key → r = (h.key, h.value) ∧ (runOfTwo.getAdd r).live = h :: runOfTwo.live) ∧
        runOfTwo.getOrInsertWith h.key = runOfTwo.getInternal h.key h.value ∧
        (runOfTwo.getOrInsertWith h.key).live = h :: runOfTwo.live) ∧
      (∀ a s', step runOfTwo a = some s' →
        ∀ e ∈ s'.map.entries, e ∈ runOfTwo.map.entries ∨ e.1 ∉ runOfTwo.map.keys)) :=
  ⟨reachable_runOfTwo, by decide, rfl, holders_counted runOfTwo reachable_runOfTwo⟩

/-- Once no `get` is in progress and every dropped holder has purged, the map holds exactly the keys that have a
holder: `len()` is the number of those keys and `is_empty()` holds exactly when no holder is alive. -/
theorem quiescent_keys (s : State K) (hs : Reachable s) (hq : Quiescent s) :
    (∀ k, k ∈ s.map.keys ↔ ∃ h ∈ s.live, h.key = k) ∧
    s.len = (s.live.map Holder.key).dedup.length ∧
    (s.isEmpty = true ↔ s.live = []) := by
  have hi := hs.inv
  have hkeys : ∀ k, k ∈ s.map.keys ↔ ∃ h ∈ s.live, h.key = k := fun k => by
    constructor
    · intro hk
      obtain ⟨v, hv⟩ := (HashMap.mem_keys _ _).1 hk
      exact key_held hi hq.2 hv
    · rintro ⟨h, hh, rfl⟩
      exact holder_key_mem hi hh
  have hperm : (s.live.map Holder.key).dedup.Perm s.map.keys :=
    (List.perm_ext_iff_of_nodup (List.nodup_dedup _) s.map.nodup).2 fun k => by
      change _ ↔ k ∈ s.map.keys
      rw [List.mem_dedup, hkeys k]
      simp
  have hlen : s.len = (s.live.map Holder.key).dedup.length := by
    rw [State.len, HashMap.len_eq_keys_length, hperm.length_eq]
  refine ⟨hkeys, hlen, ?_⟩
  rw [State.isEmpty, hlen, beq_iff_eq, List.length_eq_zero, List.dedup_eq_nil, List.map_eq_nil_iff]

/-- `quiescent_keys` on the run of `runOfTwo`, where one key of two is left. -/
theorem quiescent_keys_runOfTwo :
    Reachable runOfTwo ∧ Quiescent runOfTwo ∧ runOfTwo.len = 1 ∧
      ((∀ k, k ∈ runOfTwo.map.keys ↔ ∃ h ∈ runOfTwo.live, h.key = k) ∧
        runOfTwo.len = (runOfTwo.live.map Holder.key).dedup.length ∧
        (runOfTwo.isEmpty = true ↔ runOfTwo.live = [])) :=
  ⟨reachable_runOfTwo, quiescent_runOfTwo, by decide, quiescent_keys runOfTwo reachable_runOfTwo quiescent_runOfTwo⟩

/-- In every reachable state `len()` is at least the number of keys with a holder alive: a map with a holder is not
empty. -/
theorem holder_keys_le_len (s : State K) (hs : Reachable s) : (s.live.map Holder.key).dedup.length ≤ s.len := by
  rw [State.len, HashMap.len_eq_keys_length]
  exact (dedup_subperm hs.inv).length_le

theorem holder_keys_le_len_runOfTwo :
    Reachable runOfTwo ∧ (runOfTwo.live.map Holder.key).dedup.length ≤ runOfTwo.len :=
  ⟨reachable_runOfTwo, holder_keys_le_len runOfTwo reachable_runOfTwo⟩

end Rencfs.ArcHashMap

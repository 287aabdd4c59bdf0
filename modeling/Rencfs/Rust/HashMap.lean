import Mathlib.Data.List.Nodup

/-!
# `std::collections::HashMap`, as the holder map uses it

The holder map keeps a `HashMap<K, Value<V>>` behind its lock and calls four of its methods: `get`,
`entry(key).or_insert_with(..)`, `retain` and `len`. A map is a list of entries whose keys are pairwise distinct; the
field `nodup` carries that, so a map with a repeated key cannot be built and `len` is the number of keys. The order of
the entries is the model's and means nothing: no method here depends on it.
-/

namespace Rencfs

/-- A `HashMap<K, V>`: its entries, no key twice. -/
structure HashMap (K V : Type) where
  entries : List (K × V)
  nodup : (entries.map Prod.fst).Nodup

namespace HashMap

variable {K V : Type}

/-- `HashMap::new()`. -/
def empty : HashMap K V := ⟨[], List.nodup_nil⟩

/-- `HashMap::retain(f)`: the entries `f` keeps. -/
def retain (m : HashMap K V) (f : K → V → Bool) : HashMap K V :=
  ⟨m.entries.filter (fun e => f e.1 e.2), m.nodup.sublist ((List.filter_sublist _).map _)⟩

/-- `HashMap::len`. -/
def len (m : HashMap K V) : Nat := m.entries.length

/-- The keys of the map. -/
def keys (m : HashMap K V) : List K := m.entries.map Prod.fst

theorem mem_keys (m : HashMap K V) (k : K) : k ∈ m.keys ↔ ∃ v, (k, v) ∈ m.entries := by
  simp [keys]

/-- `len` counts the keys. -/
theorem len_eq_keys_length (m : HashMap K V) : m.len = m.keys.length := by
  simp [len, keys]

@[simp] theorem entries_empty : (empty : HashMap K V).entries = [] := rfl

@[simp] theorem mem_retain (m : HashMap K V) (f : K → V → Bool) (e : K × V) :
    e ∈ (m.retain f).entries ↔ e ∈ m.entries ∧ f e.1 e.2 = true := by
  simp [retain]

variable [DecidableEq K]

/-- `HashMap::get`. -/
def get (m : HashMap K V) (k : K) : Option V := m.entries.lookup k

/-- `HashMap::entry(k).or_insert_with(|| v)`: the map, with `v` stored under `k` when `k` was absent, and the value now
stored under `k`. A present value is kept. -/
def orInsertWith (m : HashMap K V) (k : K) (v : V) : HashMap K V × V :=
  match h : m.get k with
  | some w => (m, w)
  | none =>
    (⟨(k, v) :: m.entries, List.nodup_cons.2 ⟨fun hk => by
        obtain ⟨p, hp, rfl⟩ := List.mem_map.1 hk
        simpa using (List.lookup_eq_none_iff.1 h) p hp, m.nodup⟩⟩, v)

/-! ## Lookup is membership -/

/-- In a map, `get` finds exactly the entries: no key is stored twice. -/
theorem get_eq_some_iff (m : HashMap K V) (k : K) (v : V) : m.get k = some v ↔ (k, v) ∈ m.entries := by
  constructor
  · intro h
    obtain ⟨l₁, l₂, he, -⟩ := List.lookup_eq_some_iff.1 h
    simp [he]
  · intro h
    obtain ⟨l₁, l₂, he⟩ := List.append_of_mem h
    have hnd := m.nodup
    rw [he, List.map_append, List.map_cons] at hnd
    have hk : ∀ p ∈ l₁, k ≠ p.1 := fun p hp hkp =>
      (List.nodup_middle.1 hnd |> List.nodup_cons.1).1 (List.mem_append_left _ (List.mem_map.2 ⟨p, hp, hkp.symm⟩))
    exact List.lookup_eq_some_iff.2 ⟨l₁, l₂, he, fun p hp => by simpa using hk p hp⟩

theorem get_eq_none_iff (m : HashMap K V) (k : K) : m.get k = none ↔ k ∉ m.keys := by
  constructor
  · intro h hk
    obtain ⟨w, hw⟩ := (mem_keys m k).1 hk
    rw [(get_eq_some_iff m k w).2 hw] at h
    cases h
  · intro h
    cases hg : m.get k with
    | none => rfl
    | some w => exact absurd ((mem_keys m k).2 ⟨w, (get_eq_some_iff m k w).1 hg⟩) h

/-- Two entries of one map with the same key are the same entry. -/
theorem eq_of_mem (m : HashMap K V) {k : K} {v w : V} (hv : (k, v) ∈ m.entries) (hw : (k, w) ∈ m.entries) :
    v = w := by
  rw [← get_eq_some_iff] at hv hw
  exact Option.some.inj (hv.symm.trans hw)

/-! ## `or_insert_with` -/

/-- A present key: the map is unchanged and its value is returned. -/
theorem orInsertWith_of_mem (m : HashMap K V) {k : K} {w : V} (v : V) (h : (k, w) ∈ m.entries) :
    m.orInsertWith k v = (m, w) := by
  have hg := (get_eq_some_iff m k w).2 h
  unfold orInsertWith
  split
  · rename_i w' h'
    rw [hg] at h'
    cases h'
    rfl
  · rename_i h'
    rw [hg] at h'
    cases h'

/-- An absent key: `v` is stored under it. -/
theorem orInsertWith_entries_of_not_mem (m : HashMap K V) {k : K} (v : V) (h : k ∉ m.keys) :
    (m.orInsertWith k v).1.entries = (k, v) :: m.entries ∧ (m.orInsertWith k v).2 = v := by
  have hg : m.get k = none := List.lookup_eq_none_iff.2 fun p hp => by
    exact bne_iff_ne.2 fun hkp => h (List.mem_map.2 ⟨p, hp, hkp.symm⟩)
  unfold orInsertWith
  split
  · rename_i w h'
    rw [hg] at h'
    cases h'
  · exact ⟨rfl, rfl⟩

/-- After `or_insert_with`, the value returned is the one stored under the key, and every entry of the map before is
still there. -/
theorem orInsertWith_spec (m : HashMap K V) (k : K) (v : V) :
    (k, (m.orInsertWith k v).2) ∈ (m.orInsertWith k v).1.entries ∧
      ∀ e ∈ m.entries, e ∈ (m.orInsertWith k v).1.entries := by
  by_cases hk : k ∈ m.keys
  · obtain ⟨w, hw⟩ := (mem_keys m k).1 hk
    rw [orInsertWith_of_mem m v hw]
    exact ⟨hw, fun _ he => he⟩
  · obtain ⟨he, hv⟩ := orInsertWith_entries_of_not_mem m v hk
    rw [he, hv]
    exact ⟨List.mem_cons_self _ _, fun _ h => List.mem_cons_of_mem _ h⟩

/-- Every entry after `or_insert_with` was there before, or is the new one under `k`. -/
theorem mem_orInsertWith (m : HashMap K V) (k : K) (v : V) {e : K × V} (he : e ∈ (m.orInsertWith k v).1.entries) :
    e ∈ m.entries ∨ (e = (k, v) ∧ k ∉ m.keys) := by
  by_cases hk : k ∈ m.keys
  · obtain ⟨w, hw⟩ := (mem_keys m k).1 hk
    rw [orInsertWith_of_mem m v hw] at he
    exact .inl he
  · rw [(orInsertWith_entries_of_not_mem m v hk).1] at he
    rcases List.mem_cons.1 he with rfl | he
    · exact .inr ⟨rfl, hk⟩
    · exact .inl he

end HashMap

end Rencfs

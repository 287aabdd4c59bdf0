import Rencfs.ExpireValue.Sequential

/-!
# Concurrent `get`s

A `get` in progress stands at one of its await points (`Phase`); between two await points it runs alone. Tasks run in
any order (`Conc.step`), with one rule from the lock: `self.weak.write()` waits while a task holds the read lock, which
a task holds from `self.weak.read()` through `self.cache.get(..)`.

`Phase.runSolo_start` says a `get` whose steps follow each other with no other step in between is the sequential `get`
of `Model.lean`. `getTwice_run` is a run of two `get`s started on a new value in which both miss before either stores:
the provider is called twice and the two calls return two different values. `Conc.get_race` does the same for any
number of `get`s: `get_from_ref_or_cache` and the provider's call are not done under one lock, and nothing checks the
weak slot again after the provider returns.
-/

namespace Rencfs.ExpireValue

/-- Where a `get` in progress stands. -/
inductive Phase (E : Type) where
  /-- Called: next, `self.weak.read().await` and `upgrade`. -/
  | start
  /-- Holds the read lock and the weak slot did not upgrade: next, `self.cache.get(..).await`. -/
  | cacheGet
  /-- Found nothing, the lock released: next, `self.provider.provide().await`. -/
  | provide
  /-- Holds the new value `v`: next, `self.cache.insert(..).await`. -/
  | insert (v : Nat)
  /-- Next, `self.weak.write().await` and the store of `Some(Arc::downgrade(&v))`. -/
  | setWeak (v : Nat)
  /-- Returned `r`. -/
  | done (r : Except E Nat)

namespace Phase

variable {E : Type}

/-- A task's step from one await point to the next, the provider giving `r` if it is called; a returned task has
none. -/
def step (s : State) : Phase E → Except E Unit → Option (State × Phase E)
  | .start, _ =>
    some (match s.weak with
      | some w => if 0 < s.strong w then (s.hold w, .done (.ok w)) else (s, .cacheGet)
      | none => (s, .provide))
  | .cacheGet, _ =>
    some (match s.cache with
      | some v => (s.hold v, .done (.ok v))
      | none => (s, .provide))
  | .provide, r =>
    some (match s.provide r with
      | (.ok v, s') => (s', .insert v)
      | (.error e, s') => (s', .done (.error e)))
  | .insert v, _ => some (s.insert v, .setWeak v)
  | .setWeak v, _ => some (s.setWeak v, .done (.ok v))
  | .done _, _ => none

/-- The task holds the read lock. -/
def isCacheGet : Phase E → Bool
  | .cacheGet => true
  | _ => false

/-- A task's steps with none of another task between them, at most `fuel` of them. -/
def runSolo (s : State) (r : Except E Unit) : Nat → Phase E → State × Phase E
  | 0, p => (s, p)
  | fuel + 1, p =>
    match p.step s r with
    | some (s', p') => runSolo s' r fuel p'
    | none => (s, p)

/-- A `get` whose five await points follow each other with no other task's step between them is the sequential `get`. -/
theorem runSolo_start (s : State) (r : Except E Unit) :
    runSolo s r 5 .start = ((s.get r).2, .done (s.get r).1) := by
  cases hw : s.weak with
  | none =>
    have hf : s.getFromRefOrCache = none := by simp [State.getFromRefOrCache, hw]
    cases r <;> simp [runSolo, step, hw, State.get, hf, State.provide]
  | some w =>
    by_cases hpos : 0 < s.strong w
    · have hf : s.getFromRefOrCache = some w := by simp [State.getFromRefOrCache, hw, hpos]
      simp [runSolo, step, hw, hpos, State.get, hf]
    · cases hc : s.cache with
      | some v =>
        have hf : s.getFromRefOrCache = some v := by simp [State.getFromRefOrCache, hw, hpos, hc]
        simp [runSolo, step, hw, hpos, hc, State.get, hf]
      | none =>
        have hf : s.getFromRefOrCache = none := by simp [State.getFromRefOrCache, hw, hpos, hc]
        cases r <;> simp [runSolo, step, hw, hpos, hc, State.get, hf, State.provide]

end Phase

/-- The expiring value and the `get`s called on it, by the order of their calls. -/
structure Conc (E : Type) where
  shared : State
  tasks : List (Phase E)

namespace Conc

variable {E : Type}

/-- A task holds the read lock between `self.weak.read()` and the end of `get_from_ref_or_cache`. -/
def readLocked (c : Conc E) : Bool := c.tasks.any Phase.isCacheGet

/-- The step of task `i`, the provider giving `r` if it is called. `self.weak.write()` waits while a task holds the read
lock. -/
def step (c : Conc E) (i : Nat) (r : Except E Unit) : Option (Conc E) :=
  match c.tasks[i]? with
  | none => none
  | some p =>
    match p, c.readLocked with
    | .setWeak _, true => none
    | p, _ => (p.step c.shared r).map fun (s', p') => ⟨s', c.tasks.set i p'⟩

/-- Run the steps of a schedule, each a task and the provider's outcome if it calls the provider; `none` when a step of
the schedule cannot be taken. -/
def run (c : Conc E) : List (Nat × Except E Unit) → Option (Conc E)
  | [] => some c
  | (i, r) :: sched => (c.step i r).bind fun c' => c'.run sched

end Conc

/-- Two `get`s called on a new value, before either has taken a step. -/
def getTwice : Conc Unit := ⟨State.new, [.start, .start]⟩

/-- Both `get`s find the weak slot empty before either stores a value: the provider is called twice, and the two calls
return two different values. -/
theorem getTwice_run :
    getTwice.run [(0, .ok ()), (1, .ok ()), (0, .ok ()), (1, .ok ()), (0, .ok ()), (0, .ok ()), (1, .ok ()),
      (1, .ok ())] =
      some ⟨⟨some 1, some 1, [1, 0], 2, 2, [1, 0]⟩, [.done (.ok 0), .done (.ok 1)]⟩ := by
  rfl

/-! ## Every number of `get`s -/

namespace Conc

variable {E : Type}

/-- The step of the task after `pre`, when it does not wait for the lock. -/
theorem step_middle {s s' : State} {pre post : List (Phase E)} {p p' : Phase E} {r : Except E Unit}
    (hp : p.step s r = some (s', p')) (hl : (pre ++ p :: post).any Phase.isCacheGet = false) :
    Conc.step ⟨s, pre ++ p :: post⟩ pre.length r = some ⟨s', pre ++ p' :: post⟩ := by
  have hget : (pre ++ p :: post)[pre.length]? = some p := by
    rw [List.getElem?_append_right (Nat.le_refl _), Nat.sub_self, List.getElem?_cons_zero]
  have hset : (pre ++ p :: post).set pre.length p' = pre ++ p' :: post := by
    rw [List.set_append_right _ _ (Nat.le_refl _), Nat.sub_self]
    rfl
  simp only [Conc.step, hget, readLocked, hl, hp, Option.map_some', hset]

theorem run_append (c : Conc E) (a b : List (Nat × Except E Unit)) :
    c.run (a ++ b) = (c.run a).bind fun c' => c'.run b := by
  induction a generalizing c with
  | nil => rfl
  | cons x a ih =>
    simp only [List.cons_append, run]
    cases c.step x.1 x.2 <;> simp [ih]

/-- With the weak slot empty, each `get` in turn finds nothing and goes on to the provider. -/
theorem run_starts (s : State) (hw : s.weak = none) (j m : Nat) :
    Conc.run ⟨s, List.replicate j .provide ++ List.replicate m .start⟩
      ((List.range' j m).map fun i => (i, (.ok () : Except E Unit))) =
      some ⟨s, List.replicate (j + m) .provide⟩ := by
  induction m generalizing j with
  | zero => simp [run]
  | succ m ih =>
    have hs : (Phase.start : Phase E).step s (.ok ()) = some (s, .provide) := by simp [Phase.step, hw]
    have hl : (List.replicate j Phase.provide ++ Phase.start :: List.replicate m .start).any
        (Phase.isCacheGet (E := E)) = false := by
      simp [List.any_eq_false, Phase.isCacheGet]
    rw [List.range'_succ, List.map_cons, List.replicate_succ, run]
    have := step_middle hs hl
    rw [List.length_replicate] at this
    have hsplit : List.replicate j Phase.provide ++ Phase.provide :: List.replicate m (Phase.start : Phase E) =
        List.replicate (j + 1) .provide ++ List.replicate m .start := by
      rw [List.replicate_succ', List.append_assoc]
      rfl
    rw [this, Option.some_bind, hsplit, ih, Nat.add_right_comm]
    rfl

/-- The three steps of each `get` in turn, from the provider's call to the store in the weak slot. -/
def storeSchedule (j m : Nat) : List (Nat × Except E Unit) :=
  (List.range' j m).flatMap fun i => [(i, .ok ()), (i, .ok ()), (i, .ok ())]

/-- The tasks `pre`, returned, and the tasks `post`, waiting for the provider, hold no read lock. -/
theorem any_isCacheGet (j : Nat) (p : Phase E) (hp : p.isCacheGet = false) (m : Nat) :
    ((List.range j).map (fun i => (Phase.done (.ok i) : Phase E)) ++ p :: List.replicate m .provide).any
      Phase.isCacheGet = false := by
  rw [List.any_eq_false]
  intro x hx
  simp only [List.mem_append, List.mem_map, List.mem_cons, List.mem_replicate] at hx
  rcases hx with ⟨i, -, rfl⟩ | rfl | ⟨-, rfl⟩
  · exact Bool.false_ne_true
  · exact hp ▸ Bool.false_ne_true
  · exact Bool.false_ne_true

/-- Each `get` waiting for the provider in turn gets a value, stores it and returns it. -/
theorem run_provides (s : State) (j m : Nat) (hn : s.next = j) (hc : s.calls = j) :
    ∃ s', Conc.run ⟨s, (List.range j).map (fun i => (Phase.done (.ok i) : Phase E)) ++ List.replicate m .provide⟩
      (storeSchedule j m) = some ⟨s', (List.range (j + m)).map fun i => .done (.ok i)⟩ ∧ s'.calls = j + m := by
  induction m generalizing s j with
  | zero => exact ⟨s, by simp [storeSchedule, run], hc⟩
  | succ m ih =>
    subst hn
    have hlen : ((List.range s.next).map fun i => (Phase.done (.ok i) : Phase E)).length = s.next := by simp
    have hp₁ : (Phase.provide : Phase E).step s (.ok ()) = some ((s.provide (E := E) (.ok ())).2, .insert s.next) :=
      rfl
    have hp₂ : (Phase.insert s.next : Phase E).step (s.provide (E := E) (.ok ())).2 (.ok ()) =
        some ((s.provide (E := E) (.ok ())).2.insert s.next, .setWeak s.next) := rfl
    have hp₃ : (Phase.setWeak s.next : Phase E).step ((s.provide (E := E) (.ok ())).2.insert s.next) (.ok ()) =
        some (((s.provide (E := E) (.ok ())).2.insert s.next).setWeak s.next, .done (.ok s.next)) := rfl
    have h₁ := step_middle hp₁ (any_isCacheGet s.next .provide rfl m)
    have h₂ := step_middle hp₂ (any_isCacheGet s.next (.insert s.next) rfl m)
    have h₃ := step_middle hp₃ (any_isCacheGet s.next (.setWeak s.next) rfl m)
    rw [hlen] at h₁ h₂ h₃
    have hdone : (List.range s.next).map (fun i => (Phase.done (.ok i) : Phase E)) ++
        Phase.done (.ok s.next) :: List.replicate m .provide =
        (List.range (s.next + 1)).map (fun i => .done (.ok i)) ++ List.replicate m .provide := by
      simp [List.range_succ]
    obtain ⟨s', hrun, hcalls⟩ := ih (((s.provide (E := E) (.ok ())).2.insert s.next).setWeak s.next) (s.next + 1)
      rfl (by simp [State.provide, State.insert, State.setWeak, hc])
    refine ⟨s', ?_, by rw [hcalls]; omega⟩
    rw [storeSchedule, List.range'_succ, List.flatMap_cons, ← storeSchedule, List.replicate_succ]
    simp only [List.cons_append, List.append_eq, List.nil_append, run, h₁, h₂, h₃, Option.some_bind, hdone]
    rw [show s.next + (m + 1) = s.next + 1 + m by omega]
    exact hrun

end Conc

/-- The schedule of `get_race`: every `get` looks in the weak slot, then each in turn calls the provider and stores
its value. -/
def raceSchedule {E : Type} (n : Nat) : List (Nat × Except E Unit) :=
  ((List.range' 0 n).map fun i => (i, .ok ())) ++ Conc.storeSchedule 0 n

/-- For every number `n` of `get`s called on a new value, some order of their steps has each of them call the provider:
the provider is called `n` times, and the `n` calls return `n` different values. -/
theorem get_race {E : Type} (n : Nat) :
    ∃ c, (⟨State.new, List.replicate n .start⟩ : Conc E).run (raceSchedule n) = some c ∧ c.shared.calls = n ∧
      c.tasks = (List.range n).map fun i => .done (.ok i) := by
  have h₁ := Conc.run_starts (E := E) State.new rfl 0 n
  obtain ⟨s', h₂, hc⟩ := Conc.run_provides (E := E) State.new 0 n rfl rfl
  simp only [List.replicate_zero, List.nil_append, Nat.zero_add, List.range_zero, List.map_nil] at h₁ h₂ hc
  exact ⟨_, by rw [raceSchedule, Conc.run_append, h₁, Option.some_bind, h₂], hc, rfl⟩

end Rencfs.ExpireValue

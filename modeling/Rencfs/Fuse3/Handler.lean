import Rencfs.Fuse3.Types

/-!
# The adapter's handlers as state-passing computations

A handler of `EncryptedFsFuse3` runs against the facade's state `σ` and ends in one of three ways: a reply, an errno
(`Err(E.into())`, `map_err(..)?`), or a panic (`unwrap` on `None`, `unimplemented!`, an overflowing `SystemTime`
addition). In every case the facade is left in some state, which is what `Handler σ α := σ → Outcome α × σ` records:
an errno after a facade call that wrote keeps what the call did.

The facade's calls are atomic: a call that reads leaves the state as it is (`query`), a call that writes either
succeeds with a new state or fails with the state unchanged (`mutate`). Every other step (`pure`, `fail`, `failIf`,
`orFail`, `foundOr`, `unwrap`) reads nothing and writes nothing.

Two properties of handlers are closed under `>>=`: `Reads` (the facade is left as it was) and `NoPanic`. The inversion
lemmas at the end take a run of `x >>= f` apart when it changed the state or ended in an errno.
-/

namespace Rencfs

/-- How a handler ends. -/
inductive Outcome (α : Type) where
  | reply (a : α)
  | errno (e : Nat)
  | panic
  deriving DecidableEq, Repr

/-- The reply, if there is one. -/
def Outcome.toOption : Outcome α → Option α
  | .reply a => some a
  | _ => none

/-- A handler over a facade state `σ`. -/
def Handler (σ α : Type) : Type := σ → Outcome α × σ

namespace Handler

variable {σ α β : Type}

protected def pure (a : α) : Handler σ α := fun s => (.reply a, s)

protected def bind (x : Handler σ α) (f : α → Handler σ β) : Handler σ β := fun s =>
  match x s with
  | (.reply a, s₁) => f a s₁
  | (.errno e, s₁) => (.errno e, s₁)
  | (.panic, s₁) => (.panic, s₁)

instance : Monad (Handler σ) where
  pure := Handler.pure
  bind := Handler.bind

/-- `return Err(e.into())`. -/
def fail (e : Nat) : Handler σ α := fun s => (.errno e, s)

/-- `opt.unwrap()`, `unimplemented!()` on `None`. -/
def unwrap : Option α → Handler σ α
  | some a => pure a
  | none => fun s => (.panic, s)

/-- `if c { return Err(e.into()) }`. -/
def failIf (c : Bool) (e : Nat) : Handler σ Unit := if c then fail e else pure ()

/-- `r.map_err(|err| g(err))?`. -/
def orFail : Except FsError α → (FsError → Nat) → Handler σ α
  | .ok a, _ => pure a
  | .error err, g => fail (g err)

/-- `match r { Ok(Some(a)) => a, _ => return Err(e.into()) }`. -/
def foundOr : Except FsError (Option α) → Nat → Handler σ α
  | .ok (some a), _ => pure a
  | _, e => fail e

/-- `h.map_err(|err| g(err))?` on a handler that fails with an errno. -/
def remapErrno (x : Handler σ α) (g : Nat → Nat) : Handler σ α := fun s =>
  match x s with
  | (.errno e, s') => (.errno (g e), s')
  | r => r

/-- A facade call that reads. -/
def query (f : σ → α) : Handler σ α := fun s => (.reply (f s), s)

/-- A facade call that writes: the new state when it succeeds, the state as it was when it fails. -/
def mutate (f : σ → Except FsError (α × σ)) : Handler σ (Except FsError α) := fun s =>
  match f s with
  | .ok (a, s') => (.reply (.ok a), s')
  | .error err => (.reply (.error err), s)

/-! ## Running a handler -/

@[simp] theorem run_pure (a : α) (s : σ) : (pure a : Handler σ α) s = (.reply a, s) := rfl

@[simp] theorem run_fail (e : Nat) (s : σ) : (fail e : Handler σ α) s = (.errno e, s) := rfl

@[simp] theorem run_query (f : σ → α) (s : σ) : query f s = (.reply (f s), s) := rfl

@[simp] theorem unwrap_some (a : α) : (unwrap (some a) : Handler σ α) = pure a := rfl

@[simp] theorem orFail_ok (a : α) (g : FsError → Nat) : (orFail (.ok a) g : Handler σ α) = pure a := rfl

@[simp] theorem orFail_error (err : FsError) (g : FsError → Nat) :
    (orFail (.error err) g : Handler σ α) = fail (g err) := rfl

@[simp] theorem failIf_true (e : Nat) : (failIf true e : Handler σ Unit) = fail e := rfl

@[simp] theorem failIf_false (e : Nat) : (failIf false e : Handler σ Unit) = pure () := rfl

@[simp] theorem foundOr_some (a : α) (e : Nat) : (foundOr (.ok (some a)) e : Handler σ α) = pure a := rfl

@[simp] theorem pure_bind (a : α) (f : α → Handler σ β) : (pure a >>= f) = f a := rfl

@[simp] theorem fail_bind (e : Nat) (f : α → Handler σ β) : (fail e >>= f) = fail e := rfl

@[simp] theorem query_bind (g : σ → α) (f : α → Handler σ β) (s : σ) : (query g >>= f) s = f (g s) s := rfl

theorem run_mutate_ok {f : σ → Except FsError (α × σ)} {s s' : σ} {a : α} (h : f s = .ok (a, s')) :
    mutate f s = (.reply (.ok a), s') := by
  simp only [mutate, h]

theorem run_mutate_error {f : σ → Except FsError (α × σ)} {s : σ} {err : FsError} (h : f s = .error err) :
    mutate f s = (.reply (.error err), s) := by
  simp only [mutate, h]

theorem bind_reply {x : Handler σ α} {f : α → Handler σ β} {s s₁ : σ} {a : α} (h : x s = (.reply a, s₁)) :
    (x >>= f) s = f a s₁ := by
  show Handler.bind x f s = _
  simp only [Handler.bind, h]

theorem bind_errno {x : Handler σ α} {f : α → Handler σ β} {s s₁ : σ} {e : Nat} (h : x s = (.errno e, s₁)) :
    (x >>= f) s = (.errno e, s₁) := by
  show Handler.bind x f s = _
  simp only [Handler.bind, h]

theorem bind_panic {x : Handler σ α} {f : α → Handler σ β} {s s₁ : σ} (h : x s = (.panic, s₁)) :
    (x >>= f) s = (.panic, s₁) := by
  show Handler.bind x f s = _
  simp only [Handler.bind, h]

theorem mutate_bind_ok {f : σ → Except FsError (α × σ)} {g : Except FsError α → Handler σ β} {s s' : σ} {a : α}
    (h : f s = .ok (a, s')) : (mutate f >>= g) s = g (.ok a) s' :=
  bind_reply (run_mutate_ok h)

theorem mutate_bind_error {f : σ → Except FsError (α × σ)} {g : Except FsError α → Handler σ β} {s : σ}
    {err : FsError} (h : f s = .error err) : (mutate f >>= g) s = g (.error err) s :=
  bind_reply (run_mutate_error h)

/-- A facade write followed by `g`, by what the facade answers. -/
theorem run_mutate_bind (f : σ → Except FsError (α × σ)) (g : Except FsError α → Handler σ β) (s : σ) :
    (mutate f >>= g) s = match f s with
      | .ok (a, s') => g (.ok a) s'
      | .error err => g (.error err) s := by
  rcases h : f s with err | ⟨a, s'⟩
  exacts [mutate_bind_error h, mutate_bind_ok h]

/-- `>>=` is associative on handlers. -/
theorem bind_bind {γ : Type} (x : Handler σ α) (f : α → Handler σ β) (g : β → Handler σ γ) :
    x >>= f >>= g = x >>= fun a => f a >>= g := by
  funext s
  show Handler.bind (Handler.bind x f) g s = Handler.bind x (fun a => Handler.bind (f a) g) s
  unfold Handler.bind
  rcases x s with ⟨a | e | _, s₁⟩ <;> rfl

/-- The three ways a step can end, and what `>>=` does after each. -/
theorem bind_cases (x : Handler σ α) (f : α → Handler σ β) (s : σ) :
    (∃ a s₁, x s = (.reply a, s₁) ∧ (x >>= f) s = f a s₁) ∨
    (∃ e s₁, x s = (.errno e, s₁) ∧ (x >>= f) s = (.errno e, s₁)) ∨
    (∃ s₁, x s = (.panic, s₁) ∧ (x >>= f) s = (.panic, s₁)) := by
  rcases h : x s with ⟨a | e | _, s₁⟩
  · exact .inl ⟨a, s₁, rfl, bind_reply h⟩
  · exact .inr (.inl ⟨e, s₁, rfl, bind_errno h⟩)
  · exact .inr (.inr ⟨s₁, rfl, bind_panic h⟩)

/-! ## Handlers that leave the facade as it was -/

/-- The handler leaves the facade as it found it, however it ends. -/
def Reads (h : Handler σ α) : Prop := ∀ s, (h s).2 = s

theorem Reads.pure (a : α) : (pure a : Handler σ α).Reads := fun _ => rfl

theorem Reads.fail (e : Nat) : (fail e : Handler σ α).Reads := fun _ => rfl

theorem Reads.query (f : σ → α) : (query f).Reads := fun _ => rfl

theorem Reads.unwrap (o : Option α) : (unwrap o : Handler σ α).Reads := by
  cases o <;> exact fun _ => rfl

theorem Reads.failIf (c : Bool) (e : Nat) : (failIf c e : Handler σ Unit).Reads := by
  cases c <;> exact fun _ => rfl

theorem Reads.foundOr (r : Except FsError (Option α)) (e : Nat) : (foundOr r e : Handler σ α).Reads := by
  rcases r with _ | _ | _ <;> exact fun _ => rfl

theorem Reads.orFail (r : Except FsError α) (g : FsError → Nat) : (orFail r g : Handler σ α).Reads := by
  cases r <;> exact fun _ => rfl

theorem Reads.ite {c : Prop} [Decidable c] {x y : Handler σ α} (hx : x.Reads) (hy : y.Reads) :
    (if c then x else y).Reads := by
  split
  exacts [hx, hy]

/-- How `x >>= f` ends when `x` only reads: `f` runs from the state `x` found, or the run ends there. -/
theorem Reads.run_bind {x : Handler σ α} (hx : x.Reads) (f : α → Handler σ β) (s : σ) :
    (∃ a, x s = (.reply a, s) ∧ (x >>= f) s = f a s) ∨ (∃ e, (x >>= f) s = (.errno e, s)) ∨
      (x >>= f) s = (.panic, s) := by
  have hs := hx s
  rcases bind_cases x f s with ⟨a, s₁, h, e⟩ | ⟨n, s₁, h, e⟩ | ⟨s₁, h, e⟩ <;> simp only [h] at hs <;> subst hs
  exacts [.inl ⟨a, h, e⟩, .inr (.inl ⟨n, e⟩), .inr (.inr e)]

theorem Reads.bind {x : Handler σ α} {f : α → Handler σ β} (hx : x.Reads) (hf : ∀ a, (f a).Reads) :
    (x >>= f).Reads := by
  intro s
  rcases hx.run_bind f s with ⟨a, -, e⟩ | ⟨_, e⟩ | e <;> rw [e]
  exact hf a s

/-- A run of `x >>= f` that changed the facade, where `x` only reads: `x` replied, and the run of `f` from the same
state made the change. -/
theorem Reads.bind_of_ne {x : Handler σ α} {f : α → Handler σ β} {s : σ} (hx : x.Reads)
    (hne : ((x >>= f) s).2 ≠ s) : ∃ a, x s = (.reply a, s) ∧ (f a s).2 ≠ s := by
  rcases hx.run_bind f s with ⟨a, h, e⟩ | ⟨_, e⟩ | e <;> rw [e] at hne
  · exact ⟨a, h, hne⟩
  all_goals exact absurd rfl hne

/-- After steps that only read, the state is the one the first step left. -/
theorem Reads.bind_snd {x : Handler σ α} {f : α → Handler σ β} (hf : ∀ a, (f a).Reads) (s : σ) :
    ((x >>= f) s).2 = (x s).2 := by
  rcases bind_cases x f s with ⟨a, s₁, h, e⟩ | ⟨_, s₁, h, e⟩ | ⟨s₁, h, e⟩ <;> rw [e, h]
  exact hf a s₁

/-- A run of `x >>= f` that replied, where `x` only reads: `x` replied, and so did `f` from the same state. -/
theorem Reads.bind_reply {x : Handler σ α} {f : α → Handler σ β} {s s' : σ} {b : β} (hx : x.Reads)
    (h : (x >>= f) s = (.reply b, s')) : ∃ a, x s = (.reply a, s) ∧ f a s = (.reply b, s') := by
  rcases hx.run_bind f s with ⟨a, hxs, e⟩ | ⟨_, e⟩ | e <;> rw [e] at h
  · exact ⟨a, hxs, h⟩
  all_goals nomatch h

theorem remapErrno_snd (x : Handler σ α) (g : Nat → Nat) (s : σ) : (remapErrno x g s).2 = (x s).2 := by
  unfold remapErrno
  split <;> simp_all

theorem remapErrno_errno {x : Handler σ α} {g : Nat → Nat} {s s' : σ} {e : Nat} (h : x s = (.errno e, s')) :
    remapErrno x g s = (.errno (g e), s') := by
  simp only [remapErrno, h]

theorem query_reply {f : σ → α} {s s' : σ} {a : α} (h : query f s = (.reply a, s')) : f s = a := by
  simp only [run_query, Prod.mk.injEq, Outcome.reply.injEq] at h
  exact h.1

theorem orFail_reply {r : Except FsError α} {g : FsError → Nat} {s s' : σ} {a : α}
    (h : (orFail r g : Handler σ α) s = (.reply a, s')) : r = .ok a := by
  cases r <;> simp_all [orFail]

theorem foundOr_reply {r : Except FsError (Option α)} {e : Nat} {s s' : σ} {a : α}
    (h : (foundOr r e : Handler σ α) s = (.reply a, s')) : r = .ok (some a) := by
  rcases r with _ | _ | _ <;> simp_all [foundOr]

theorem unwrap_reply {o : Option α} {s s' : σ} {a : α} (h : (unwrap o : Handler σ α) s = (.reply a, s')) :
    o = some a := by
  cases o <;> simp_all [unwrap]

theorem failIf_reply {c : Bool} {e : Nat} {s s' : σ} {u : Unit}
    (h : (failIf c e : Handler σ Unit) s = (.reply u, s')) : c = false := by
  cases c <;> simp_all [failIf]

/-- A facade write whose errors are sent as errnos, that replied: the write succeeded with that answer and state. -/
theorem mutate_orFail_reply {f : σ → Except FsError (α × σ)} {g : FsError → Nat} {s s' : σ} {a : α}
    (h : (mutate f >>= fun r => orFail r g) s = (.reply a, s')) : f s = .ok (a, s') := by
  rw [run_mutate_bind] at h
  rcases hf : f s with e | ⟨b, s₁⟩ <;> rw [hf] at h
  · nomatch h
  · cases h; rfl

/-- The same write followed by `k`: the write succeeded, and `k` replied on its answer. -/
theorem mutate_orFail_bind_reply {f : σ → Except FsError (α × σ)} {g : FsError → Nat} {k : α → Handler σ β}
    {s s' : σ} {b : β} (h : (mutate f >>= fun r => orFail r g >>= k) s = (.reply b, s')) :
    ∃ a s₁, f s = .ok (a, s₁) ∧ k a s₁ = (.reply b, s') := by
  rw [run_mutate_bind] at h
  rcases hf : f s with e | ⟨a, s₁⟩ <;> rw [hf] at h
  · nomatch h
  · exact ⟨a, s₁, rfl, h⟩

/-- A run of `x >>= f` that ended in an errno, where `x` only reads: the facade is as it was, or `x` replied and `f`
failed. -/
theorem Reads.bind_errno {x : Handler σ α} {f : α → Handler σ β} {s s' : σ} {e : Nat} (hx : x.Reads)
    (h : (x >>= f) s = (.errno e, s')) : s' = s ∨ ∃ a, x s = (.reply a, s) ∧ f a s = (.errno e, s') := by
  rcases hx.run_bind f s with ⟨a, hxs, e₁⟩ | ⟨_, e₁⟩ | e₁ <;> rw [e₁] at h
  · exact .inr ⟨a, hxs, h⟩
  · exact .inl (congrArg Prod.snd h).symm
  · nomatch h

/-- A run of `x >>= f` that ended in an errno: `x` failed, or it replied and `f` failed from where `x` left off. -/
theorem bind_errno_cases {x : Handler σ α} {f : α → Handler σ β} {s s' : σ} {e : Nat}
    (h : (x >>= f) s = (.errno e, s')) :
    x s = (.errno e, s') ∨ ∃ a s₁, x s = (.reply a, s₁) ∧ f a s₁ = (.errno e, s') := by
  rcases bind_cases x f s with ⟨a, s₁, hxs, e₁⟩ | ⟨_, s₁, hxs, e₁⟩ | ⟨s₁, hxs, e₁⟩ <;> rw [e₁] at h
  · exact .inr ⟨a, s₁, hxs, h⟩
  · simp only [Prod.mk.injEq, Outcome.errno.injEq] at h
    obtain ⟨rfl, rfl⟩ := h
    exact .inl hxs
  · nomatch h

/-- A facade read answered with an errno when the facade errs (`.map_err(..)?`), then `k`: a run that changed the
facade read a value, and `k` made the change from the same state. -/
theorem orFail_query_bind_of_ne {g : σ → Except FsError α} {e : FsError → Nat} {k : α → Handler σ β} {s : σ}
    (h : ((do let a ← orFail (← query g) e; k a) s).2 ≠ s) : ∃ a, g s = .ok a ∧ (k a s).2 ≠ s := by
  obtain ⟨r, hq, h⟩ := (Reads.query _).bind_of_ne h
  obtain ⟨a, ho, h⟩ := (Reads.orFail _ _).bind_of_ne h
  exact ⟨a, query_reply hq ▸ orFail_reply ho, h⟩

/-- The same for a lookup that fails with an errno when nothing is found (`Ok(None)`). -/
theorem foundOr_query_bind_of_ne {g : σ → Except FsError (Option α)} {e : Nat} {k : α → Handler σ β} {s : σ}
    (h : ((do let a ← foundOr (← query g) e; k a) s).2 ≠ s) : ∃ a, g s = .ok (some a) ∧ (k a s).2 ≠ s := by
  obtain ⟨r, hq, h⟩ := (Reads.query _).bind_of_ne h
  obtain ⟨a, hf, h⟩ := (Reads.foundOr _ _).bind_of_ne h
  exact ⟨a, query_reply hq ▸ foundOr_reply hf, h⟩

/-- The same read, in a run that ended in an errno: the facade is as it was, or the read gave a value and `k` failed
from the same state. -/
theorem orFail_query_bind_errno {g : σ → Except FsError α} {e : FsError → Nat} {k : α → Handler σ β} {s s' : σ}
    {n : Nat} (h : (do let a ← orFail (← query g) e; k a) s = (.errno n, s')) :
    s' = s ∨ ∃ a, g s = .ok a ∧ k a s = (.errno n, s') := by
  rcases (Reads.query _).bind_errno h with rfl | ⟨r, hq, h⟩
  · exact .inl rfl
  rcases (Reads.orFail _ _).bind_errno h with rfl | ⟨a, ho, h⟩
  · exact .inl rfl
  exact .inr ⟨a, query_reply hq ▸ orFail_reply ho, h⟩

/-! ## Handlers that never panic -/

/-- The handler replies or fails with an errno, from every state. -/
def NoPanic (h : Handler σ α) : Prop := ∀ s, (h s).1 ≠ .panic

theorem NoPanic.pure (a : α) : (pure a : Handler σ α).NoPanic := fun _ => Outcome.noConfusion

theorem NoPanic.fail (e : Nat) : (fail e : Handler σ α).NoPanic := fun _ => Outcome.noConfusion

theorem NoPanic.query (f : σ → α) : (query f).NoPanic := fun _ => Outcome.noConfusion

theorem NoPanic.mutate (f : σ → Except FsError (α × σ)) : (mutate f).NoPanic := by
  intro s
  unfold Handler.mutate
  split <;> exact Outcome.noConfusion

theorem NoPanic.failIf (c : Bool) (e : Nat) : (failIf c e : Handler σ Unit).NoPanic := by
  cases c
  exacts [NoPanic.pure (), NoPanic.fail e]

theorem NoPanic.foundOr (r : Except FsError (Option α)) (e : Nat) : (foundOr r e : Handler σ α).NoPanic := by
  rcases r with _ | _ | _
  exacts [NoPanic.fail e, NoPanic.fail e, NoPanic.pure _]

theorem NoPanic.remapErrno {x : Handler σ α} (hx : x.NoPanic) (g : Nat → Nat) : (remapErrno x g).NoPanic := by
  intro s
  have := hx s
  unfold Handler.remapErrno
  split
  · exact Outcome.noConfusion
  · assumption

theorem NoPanic.orFail (r : Except FsError α) (g : FsError → Nat) : (orFail r g : Handler σ α).NoPanic := by
  cases r
  exacts [NoPanic.fail _, NoPanic.pure _]

theorem NoPanic.unwrap {o : Option α} (h : o.isSome) : (unwrap o : Handler σ α).NoPanic := by
  cases o
  · cases h
  · exact NoPanic.pure _

theorem NoPanic.ite {c : Prop} [Decidable c] {x y : Handler σ α} (hx : x.NoPanic) (hy : y.NoPanic) :
    (if c then x else y).NoPanic := by
  split
  exacts [hx, hy]

theorem NoPanic.bind {x : Handler σ α} {f : α → Handler σ β} (hx : x.NoPanic) (hf : ∀ a, (f a).NoPanic) :
    (x >>= f).NoPanic := by
  intro s
  rcases bind_cases x f s with ⟨a, s₁, _, e⟩ | ⟨_, s₁, _, e⟩ | ⟨s₁, h, _⟩
  · exact e ▸ hf a s₁
  · rw [e]
    exact Outcome.noConfusion
  · exact absurd (congrArg Prod.fst h) (hx s)

/-! ## Handlers that keep a relation between the state before and the state after -/

section Keeps

variable (R : σ → σ → Prop)

/-- Every run of the handler, however it ends, goes from a state to one related to it by `R`. -/
def Keeps (h : Handler σ α) : Prop := ∀ s, R s (h s).2

variable {R}

theorem Keeps.ite {c : Prop} [Decidable c] {x y : Handler σ α} (hx : x.Keeps R) (hy : y.Keeps R) :
    (if c then x else y).Keeps R := by
  split
  exacts [hx, hy]

theorem Keeps.remapErrno {x : Handler σ α} (hx : x.Keeps R) (g : Nat → Nat) : (remapErrno x g).Keeps R :=
  fun s => remapErrno_snd x g s ▸ hx s

section Refl

variable [IsRefl σ R]

theorem Reads.keeps {h : Handler σ α} (hh : h.Reads) : h.Keeps R := by
  intro s
  rw [hh s]
  exact refl_of R s

theorem Keeps.pure (a : α) : (pure a : Handler σ α).Keeps R := (Reads.pure a).keeps

theorem Keeps.fail (e : Nat) : (fail e : Handler σ α).Keeps R := (Reads.fail e).keeps

theorem Keeps.query (f : σ → α) : (query f).Keeps R := (Reads.query f).keeps

theorem Keeps.unwrap (o : Option α) : (unwrap o : Handler σ α).Keeps R := (Reads.unwrap o).keeps

theorem Keeps.failIf (c : Bool) (e : Nat) : (failIf c e : Handler σ Unit).Keeps R := (Reads.failIf c e).keeps

theorem Keeps.foundOr (r : Except FsError (Option α)) (e : Nat) : (foundOr r e : Handler σ α).Keeps R :=
  (Reads.foundOr r e).keeps

theorem Keeps.orFail (r : Except FsError α) (g : FsError → Nat) : (orFail r g : Handler σ α).Keeps R :=
  (Reads.orFail r g).keeps

/-- A facade write from one state keeps `R` when its successful call does. -/
theorem mutate_keeps_at {f : σ → Except FsError (α × σ)} {s : σ} (hf : ∀ a s', f s = .ok (a, s') → R s s') :
    R s (mutate f s).2 := by
  rcases h : f s with err | ⟨a, s'⟩
  · rw [run_mutate_error h]
    exact refl_of R s
  · rw [run_mutate_ok h]
    exact hf a s' h

/-- A facade write keeps `R` when every successful call does. -/
theorem Keeps.mutate {f : σ → Except FsError (α × σ)} (hf : ∀ s a s', f s = .ok (a, s') → R s s') :
    (mutate f).Keeps R :=
  fun s => mutate_keeps_at (hf s)

/-- A step that only reads, then `f`: `f` runs from the same state, knowing what the step gave. -/
theorem Reads.keeps_bind_at {x : Handler σ α} {f : α → Handler σ β} {s : σ} (hx : x.Reads)
    (hf : ∀ a, x s = (.reply a, s) → R s (f a s).2) : R s ((x >>= f) s).2 := by
  rcases hx.run_bind f s with ⟨a, h, e⟩ | ⟨_, e⟩ | e <;> rw [e]
  exacts [hf a h, refl_of R s, refl_of R s]

/-- A facade read answered with an errno when the facade errs, then `k`, which knows the value read. -/
theorem orFail_query_keeps_at {g : σ → Except FsError α} {e : FsError → Nat} {k : α → Handler σ β} {s : σ}
    (hk : ∀ a, g s = .ok a → R s (k a s).2) : R s ((do let a ← orFail (← query g) e; k a) s).2 :=
  (Reads.query g).keeps_bind_at fun r hq => (Reads.orFail r e).keeps_bind_at fun a ho =>
    hk a (query_reply hq ▸ orFail_reply ho)

/-- A facade lookup answered with an errno when the facade errs or finds nothing, then `k`, which knows what was
found. -/
theorem foundOr_query_keeps_at {g : σ → Except FsError (Option α)} {e : Nat} {k : α → Handler σ β} {s : σ}
    (hk : ∀ a, g s = .ok (some a) → R s (k a s).2) : R s ((do let a ← foundOr (← query g) e; k a) s).2 :=
  (Reads.query g).keeps_bind_at fun r hq => (Reads.foundOr r e).keeps_bind_at fun a ho =>
    hk a (query_reply hq ▸ foundOr_reply ho)

end Refl

section Trans

variable [IsTrans σ R]

/-- `x >>= f` from one state: `x` keeps `R`, and so does `f` from wherever `x` replied. -/
theorem keeps_bind_at {x : Handler σ α} {f : α → Handler σ β} {s : σ} (hx : R s (x s).2)
    (hf : ∀ a s₁, x s = (.reply a, s₁) → R s₁ (f a s₁).2) : R s ((x >>= f) s).2 := by
  rcases bind_cases x f s with ⟨a, s₁, h, e⟩ | ⟨_, s₁, h, e⟩ | ⟨s₁, h, e⟩ <;> rw [e] <;> rw [h] at hx
  exacts [trans_of R hx (hf a s₁ h), hx, hx]

theorem Keeps.bind {x : Handler σ α} {f : α → Handler σ β} (hx : x.Keeps R) (hf : ∀ a, (f a).Keeps R) :
    (x >>= f).Keeps R :=
  fun s => keeps_bind_at (hx s) fun a s₁ _ => hf a s₁

/-- The last step of most handlers, from one state: a facade call that writes, its errors sent as errnos. -/
theorem mutate_orFail_keeps_at [IsRefl σ R] {f : σ → Except FsError (α × σ)} {g : FsError → Nat} {s : σ}
    (hf : ∀ a s', f s = .ok (a, s') → R s s') : R s ((mutate f >>= fun r => orFail r g) s).2 :=
  keeps_bind_at (mutate_keeps_at hf) fun _ _ _ => (Reads.orFail _ _).keeps _

end Trans

end Keeps

end Handler

end Rencfs

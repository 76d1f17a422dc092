import Proxxy.Python.Value

/-!
# Running Python statements: state, exceptions, `try` and the exit status

`Py σ α` runs Python code from a state `σ`: the code returns a value or raises, and in both
cases hands back the state it reached, so a `finally` clause sees every effect that happened
before an exception.

## Main definitions

- `Py.tryFinally`, `Py.tryCatch` — `try ... finally` and `try ... except C`.
- `Py.forEach` — `for x in xs` over a list.
- `Py.Keeps` — a computation leaves one part of the state unchanged, however it ends.
- `Py.Extends` — when a computation returns, one list in the state has only grown at its end.
- `exitStatus` — the status the shell sees when the top level returns or an exception escapes.
-/

namespace Proxxy.Python

/-- How a piece of Python ends: a returned value or a raised exception, and the state. -/
inductive Result (σ α : Type) where
  | ret (a : α) (s : σ)
  | raise (e : PyExc) (s : σ)

/-- The state a computation reached. -/
def Result.state : Result σ α → σ
  | .ret _ s | .raise _ s => s

/-- Python code over the state `σ`. -/
def Py (σ α : Type) : Type := σ → Result σ α

namespace Py

variable {σ α β : Type}

/-- `return a`. -/
protected def pure (a : α) : Py σ α := fun s => .ret a s

/-- Run `x`, then `f` on its value; an exception skips `f`. -/
protected def bind (x : Py σ α) (f : α → Py σ β) : Py σ β := fun s =>
  match x s with
  | .ret a s' => f a s'
  | .raise e s' => .raise e s'

instance : Monad (Py σ) where
  pure := Py.pure
  bind := Py.bind

/-- `raise e`. -/
def raise (e : PyExc) : Py σ α := fun s => .raise e s

/-- Pure code that may raise. -/
def lift (x : Except PyExc α) : Py σ α := fun s =>
  match x with
  | .ok a => .ret a s
  | .error e => .raise e s

/-- Change the state. -/
def modify (f : σ → σ) : Py σ Unit := fun s => .ret () (f s)

/-- Run `x` on the part of the state that `get` reads and `set` writes back. -/
def focus {τ : Type} (get : σ → τ) (set : σ → τ → σ) (x : Py τ α) : Py σ α := fun s =>
  match x (get s) with
  | .ret a t => .ret a (set s t)
  | .raise e t => .raise e (set s t)

/-- `try: body finally: fin`. `fin` runs however `body` ends; an exception that `fin`
    raises replaces the one `body` raised. -/
def tryFinally (body : Py σ α) (fin : Py σ Unit) : Py σ α := fun s =>
  match body s with
  | .ret a s' =>
    match fin s' with
    | .ret _ s'' => .ret a s''
    | .raise e s'' => .raise e s''
  | .raise e s' =>
    match fin s' with
    | .ret _ s'' => .raise e s''
    | .raise e' s'' => .raise e' s''

/-- `try: body except C: handler`, where `catches` says which exceptions the clause names. -/
def tryCatch (body : Py σ α) (catches : PyExc → Bool) (handler : PyExc → Py σ α) :
    Py σ α := fun s =>
  match body s with
  | .ret a s' => .ret a s'
  | .raise e s' => if catches e then handler e s' else .raise e s'

/-- `for x in xs: body x`. -/
def forEach : List α → (α → Py σ Unit) → Py σ Unit
  | [], _ => Py.pure ()
  | x :: xs, body => Py.bind (body x) fun _ => forEach xs body

/-- `if not step(): return False` for each step in turn, then `return True`. -/
def allTrue : List (Py σ Bool) → Py σ Bool
  | [] => Py.pure true
  | x :: xs => Py.bind x fun b => if b then allTrue xs else Py.pure false

@[simp] theorem pure_apply (a : α) (s : σ) : (pure a : Py σ α) s = .ret a s := rfl

theorem bind_apply (x : Py σ α) (f : α → Py σ β) (s : σ) :
    (x >>= f) s = match x s with
      | .ret a s' => f a s'
      | .raise e s' => .raise e s' := rfl

theorem bind_of_ret {x : Py σ α} {s s' : σ} {a : α} (h : x s = .ret a s') (f : α → Py σ β) :
    (x >>= f) s = f a s' := by
  rw [bind_apply, h]

theorem bind_of_raise {x : Py σ α} {s s' : σ} {e : PyExc} (h : x s = .raise e s')
    (f : α → Py σ β) : (x >>= f) s = .raise e s' := by
  rw [bind_apply, h]

theorem bind_eq_ret {x : Py σ α} {f : α → Py σ β} {s s'' : σ} {b : β}
    (h : (x >>= f) s = .ret b s'') : ∃ a s', x s = .ret a s' ∧ f a s' = .ret b s'' := by
  rw [bind_apply] at h
  cases hx : x s with
  | ret a s' => rw [hx] at h; exact ⟨a, s', rfl, h⟩
  | raise e s' => rw [hx] at h; cases h

theorem lift_eq_ret {x : Except PyExc α} {s s' : σ} {a : α} (h : (lift x : Py σ α) s = .ret a s') :
    x = .ok a := by
  cases x <;> cases h; rfl

/-- Code that ends in `return b` returns `b`, whatever came before. -/
theorem bind_pure_ret {x : Py σ α} {b b' : β} {s s' : σ} (h : (x >>= fun _ => pure b) s = .ret b' s') :
    b' = b := by
  obtain ⟨_, _, _, h⟩ := bind_eq_ret h
  cases h; rfl

theorem bind_assoc (x : Py σ α) (f : α → Py σ β) (g : β → Py σ γ) :
    (x >>= f) >>= g = x >>= fun a => f a >>= g := by
  funext s
  simp only [bind_apply]
  cases x s <;> rfl

@[simp] theorem raise_apply (e : PyExc) (s : σ) : (raise e : Py σ α) s = .raise e s := rfl

@[simp] theorem modify_apply (f : σ → σ) (s : σ) : modify f s = .ret () (f s) := rfl

@[simp] theorem lift_ok (a : α) (s : σ) : (lift (.ok a) : Py σ α) s = .ret a s := rfl

@[simp] theorem lift_error (e : PyExc) (s : σ) : (lift (.error e) : Py σ α) s = .raise e s := rfl

@[simp] theorem lift_pure (a : α) (s : σ) : (lift (pure a) : Py σ α) s = .ret a s := rfl

@[simp] theorem pure_bind (a : α) (f : α → Py σ β) : (pure a >>= f : Py σ β) = f a := rfl

@[simp] theorem lift_ok_bind (a : α) (f : α → Py σ β) : (lift (.ok a) >>= f : Py σ β) = f a := rfl

theorem tryFinally_state (body : Py σ α) (fin : Py σ Unit) (s : σ) :
    (tryFinally body fin s).state = (fin (body s).state).state := by
  simp only [tryFinally]
  cases body s <;> dsimp only [Result.state] <;> cases fin _ <;> rfl

/-- `try ... finally` ends as its body did when the `finally` clause returns. -/
theorem tryFinally_of_fin_ret {body : Py σ α} {fin : Py σ Unit} {s s' : σ}
    (h : fin (body s).state = .ret () s') :
    tryFinally body fin s = match body s with
      | .ret a _ => .ret a s'
      | .raise e _ => .raise e s' := by
  simp only [tryFinally]
  cases hb : body s <;> rw [hb] at h <;> simp only [Result.state] at h <;> simp only [h]

/-- `try ... except` returns a value exactly when its body returned it, or raised an exception
    the clause catches and the handler then returned it. -/
theorem tryCatch_eq_ret {body : Py σ α} {catches : PyExc → Bool} {handler : PyExc → Py σ α}
    {s s' : σ} {a : α} : tryCatch body catches handler s = .ret a s' ↔ body s = .ret a s' ∨
      ∃ e s₁, body s = .raise e s₁ ∧ catches e = true ∧ handler e s₁ = .ret a s' := by
  simp only [tryCatch]
  cases body s with
  | ret b s₁ => simp
  | raise e s₁ => by_cases hc : catches e = true <;> simp [hc, and_assoc]

/-- A run returns `b` when its first step returns `a` and the rest returns `b` after it. -/
theorem exists_bind_of_ret {x : Py σ α} {f : α → Py σ β} {s s' : σ} {a : α} {b : β}
    (hx : x s = .ret a s') (hf : ∃ s'', f a s' = .ret b s'') : ∃ s'', (x >>= f) s = .ret b s'' :=
  let ⟨s'', h⟩ := hf
  ⟨s'', (bind_of_ret hx f).trans h⟩

/-- A `try` whose body returns `a` returns `a`. -/
theorem exists_tryCatch {body : Py σ α} {catches : PyExc → Bool} {handler : PyExc → Py σ α}
    {s : σ} {a : α} (h : ∃ s', body s = .ret a s') :
    ∃ s', tryCatch body catches handler s = .ret a s' :=
  let ⟨s', h⟩ := h
  ⟨s', tryCatch_eq_ret.2 (.inl h)⟩

@[simp] theorem forEach_nil (body : α → Py σ Unit) : forEach [] body = pure () := rfl

theorem forEach_cons (x : α) (xs : List α) (body : α → Py σ Unit) :
    forEach (x :: xs) body = (body x >>= fun _ => forEach xs body) := rfl

/-- `x` leaves the part `f` of the state as it found it, whether it returns or raises. -/
def Keeps (f : σ → β) (x : Py σ α) : Prop := ∀ s, f (x s).state = f s

theorem Keeps.pure (f : σ → β) (a : α) : Keeps f (pure a : Py σ α) := fun _ => rfl

theorem Keeps.raise (f : σ → β) (e : PyExc) : Keeps f (raise e : Py σ α) := fun _ => rfl

theorem Keeps.lift (f : σ → β) (x : Except PyExc α) : Keeps f (lift x : Py σ α) := by
  intro s; cases x <;> rfl

theorem Keeps.modify {f : σ → β} {g : σ → σ} (h : ∀ s, f (g s) = f s) :
    Keeps f (modify g) := h

theorem Keeps.bind {f : σ → β} {x : Py σ α} {k : α → Py σ γ} (hx : Keeps f x)
    (hk : ∀ a, Keeps f (k a)) : Keeps f (x >>= k) := by
  intro s
  rw [bind_apply]
  have := hx s
  cases h : x s with
  | ret a s' => rw [h] at this; exact (hk a s').trans this
  | raise e s' => rw [h] at this; exact this

theorem Keeps.seq {f : σ → β} {x : Py σ α} {y : Py σ γ} (hx : Keeps f x) (hy : Keeps f y) :
    Keeps f (x >>= fun _ => y) := hx.bind fun _ => hy

theorem Keeps.forEach {f : σ → β} {body : α → Py σ Unit} (h : ∀ a, Keeps f (body a))
    (xs : List α) : Keeps f (Py.forEach xs body) := by
  induction xs with
  | nil => exact Keeps.pure f ()
  | cons x xs ih => exact (h x).seq ih

theorem Keeps.tryCatch {f : σ → β} {body : Py σ α} {catches : PyExc → Bool}
    {handler : PyExc → Py σ α} (hb : Keeps f body) (hh : ∀ e, Keeps f (handler e)) :
    Keeps f (Py.tryCatch body catches handler) := by
  intro s
  have := hb s
  simp only [Py.tryCatch]
  cases h : body s with
  | ret a s' => rw [h] at this; exact this
  | raise e s' =>
    rw [h] at this
    by_cases hc : catches e
    · simpa [hc] using (hh e s').trans this
    · simpa [hc] using this

theorem Keeps.eq_of_ret {f : σ → β} {x : Py σ α} (hx : Keeps f x) {s s' : σ} {a : α}
    (h : x s = .ret a s') : f s' = f s := by
  rw [← hx s, h]; rfl

theorem Keeps.ite {f : σ → β} {c : Prop} [Decidable c] {x y : Py σ α} (hx : Keeps f x)
    (hy : Keeps f y) : Keeps f (if c then x else y) := by
  split <;> assumption

/-- With handlers that keep `f`, `try ... except` ends with the `f` its body ended with. -/
theorem Keeps.tryCatch_state {f : σ → β} {body : Py σ α} {catches : PyExc → Bool}
    {handler : PyExc → Py σ α} (hh : ∀ e, Keeps f (handler e)) (s : σ) :
    f (Py.tryCatch body catches handler s).state = f (body s).state := by
  simp only [Py.tryCatch]
  cases body s with
  | ret a s' => rfl
  | raise e s' =>
    by_cases hc : catches e
    · simpa only [hc, if_true] using hh e s'
    · simp [hc, Result.state]

/-- Through a chain of `if not step(): return False`, a first step that keeps `f` changes
    it only by way of the steps after it, which run only when it returned `True`. -/
theorem Keeps.allTrue_cons {f : σ → β} {x : Py σ Bool} {xs : List (Py σ Bool)} (hx : Keeps f x)
    {s : σ} (h : ∀ s', x s = .ret true s' → f (allTrue xs s').state = f s') :
    f (allTrue (x :: xs) s).state = f s := by
  have hs := hx s
  simp only [allTrue, Py.bind]
  cases hxs : x s with
  | ret b s' =>
    rw [hxs] at hs
    cases b
    · exact hs
    · exact (h s' hxs).trans hs
  | raise e s' => rw [hxs] at hs; exact hs

/-- When `x` returns, the part `f` of the state has only grown at its end. -/
def Extends (f : σ → List ε) (x : Py σ α) : Prop := ∀ s a s', x s = .ret a s' → f s <+: f s'

theorem Extends.pure (f : σ → List ε) (a : α) : Extends f (pure a : Py σ α) := by
  rintro s _ _ ⟨⟩
  exact List.prefix_refl _

theorem Extends.lift (f : σ → List ε) (x : Except PyExc α) : Extends f (lift x : Py σ α) := by
  intro s a s' h
  cases x <;> cases h
  exact List.prefix_refl _

theorem Extends.modify {f : σ → List ε} {g : σ → σ} (h : ∀ s, f s <+: f (g s)) :
    Extends f (modify g) := by
  rintro s _ _ ⟨⟩
  exact h s

theorem Extends.bind {f : σ → List ε} {x : Py σ α} {k : α → Py σ β} (hx : Extends f x)
    (hk : ∀ a, Extends f (k a)) : Extends f (x >>= k) := fun s b s'' h =>
  let ⟨a, s', h₁, h₂⟩ := bind_eq_ret h
  (hx s a s' h₁).trans (hk a s' b s'' h₂)

theorem Extends.seq {f : σ → List ε} {x : Py σ α} {y : Py σ β} (hx : Extends f x)
    (hy : Extends f y) : Extends f (x >>= fun _ => y) := hx.bind fun _ => hy

theorem Extends.raise (f : σ → List ε) (e : PyExc) : Extends f (raise e : Py σ α) := by
  rintro _ _ _ ⟨⟩

theorem Extends.ite {f : σ → List ε} {c : Prop} [Decidable c] {x y : Py σ α} (hx : Extends f x)
    (hy : Extends f y) : Extends f (if c then x else y) := by
  split <;> assumption

/-- `x` returns from every state: it never raises. -/
def Returns (x : Py σ α) : Prop := ∀ s, ∃ a s', x s = .ret a s'

theorem Returns.pure (a : α) : Returns (pure a : Py σ α) := fun s => ⟨a, s, rfl⟩

theorem Returns.modify (f : σ → σ) : Returns (modify f) := fun s => ⟨(), f s, rfl⟩

theorem Returns.bind {x : Py σ α} {k : α → Py σ β} (hx : Returns x) (hk : ∀ a, Returns (k a)) :
    Returns (x >>= k) := by
  intro s
  obtain ⟨a, s', h⟩ := hx s
  rw [bind_of_ret h]
  exact hk a s'

theorem Returns.seq {x : Py σ α} {y : Py σ β} (hx : Returns x) (hy : Returns y) :
    Returns (x >>= fun _ => y) := hx.bind fun _ => hy

theorem Returns.ite {c : Prop} [Decidable c] {x y : Py σ α} (hx : Returns x) (hy : Returns y) :
    Returns (if c then x else y) := by
  split <;> assumption

theorem Returns.forEach {body : α → Py σ Unit} (h : ∀ a, Returns (body a)) (xs : List α) :
    Returns (Py.forEach xs body) := by
  induction xs with
  | nil => exact Returns.pure ()
  | cons x xs ih => exact (h x).seq ih

/-- A run returns `b` when its first step returns, whatever it returns, and the rest returns
    `b` after it. -/
theorem Returns.exists_bind {x : Py σ α} {f : α → Py σ β} {b : β} (hx : Returns x)
    (hf : ∀ a s', ∃ s'', f a s' = .ret b s'') (s : σ) : ∃ s'', (x >>= f) s = .ret b s'' :=
  let ⟨a, s', h⟩ := hx s
  exists_bind_of_ret h (hf a s')

/-- Every exception `x` lets escape satisfies `p`. -/
def RaisesOnly (p : PyExc → Bool) (x : Py σ α) : Prop :=
  ∀ s e s', x s = .raise e s' → p e = true

theorem Returns.raisesOnly {p : PyExc → Bool} {x : Py σ α} (h : Returns x) : RaisesOnly p x :=
  fun s e s' hx => by obtain ⟨a, s'', h'⟩ := h s; rw [h'] at hx; cases hx

theorem RaisesOnly.lift {p : PyExc → Bool} {x : Except PyExc α}
    (h : ∀ e, x = .error e → p e = true) : RaisesOnly p (lift x : Py σ α) := fun s e s' hx => by
  cases x with
  | ok a => cases hx
  | error e' => cases hx; exact h _ rfl

theorem RaisesOnly.bind {p : PyExc → Bool} {x : Py σ α} {k : α → Py σ β} (hx : RaisesOnly p x)
    (hk : ∀ a, RaisesOnly p (k a)) : RaisesOnly p (x >>= k) := fun s e s' h => by
  rw [bind_apply] at h
  cases hs : x s with
  | ret a s₁ => rw [hs] at h; exact hk a s₁ e s' h
  | raise e₁ s₁ => rw [hs] at h; cases h; exact hx s _ _ hs

theorem RaisesOnly.seq {p : PyExc → Bool} {x : Py σ α} {y : Py σ β} (hx : RaisesOnly p x)
    (hy : RaisesOnly p y) : RaisesOnly p (x >>= fun _ => y) := hx.bind fun _ => hy

theorem RaisesOnly.ite {p : PyExc → Bool} {c : Prop} [Decidable c] {x y : Py σ α}
    (hx : RaisesOnly p x) (hy : RaisesOnly p y) : RaisesOnly p (if c then x else y) := by
  split <;> assumption

theorem RaisesOnly.forEach {p : PyExc → Bool} {body : α → Py σ Unit}
    (h : ∀ a, RaisesOnly p (body a)) (xs : List α) : RaisesOnly p (Py.forEach xs body) := by
  induction xs with
  | nil => exact (Returns.pure ()).raisesOnly
  | cons x xs ih => exact (h x).seq ih

/-- What a `try` lets escape comes from its body, uncaught, or from its handler. -/
theorem RaisesOnly.tryCatch_of {p : PyExc → Bool} {catches : PyExc → Bool} {body : Py σ α}
    {handler : PyExc → Py σ α} (hb : RaisesOnly p body) (hh : ∀ e, RaisesOnly p (handler e)) :
    RaisesOnly p (Py.tryCatch body catches handler) := fun s e s' h => by
  simp only [Py.tryCatch] at h
  cases hs : body s with
  | ret a s₁ => simp [hs] at h
  | raise e₁ s₁ =>
    by_cases hc : catches e₁
    · simp only [hs, hc, if_true] at h; exact hh e₁ s₁ e s' h
    · simp only [hs, hc, Bool.false_eq_true, if_false, Result.raise.injEq] at h
      obtain ⟨rfl, rfl⟩ := h
      exact hb s _ _ hs

/-- A `try` whose clause catches every exception its body lets escape, and whose handler
    returns, returns. -/
theorem RaisesOnly.tryCatch_returns {catches : PyExc → Bool} {body : Py σ α}
    {handler : PyExc → Py σ α} (hb : RaisesOnly catches body) (hh : ∀ e, Returns (handler e)) :
    Returns (tryCatch body catches handler) := fun s => by
  simp only [tryCatch]
  cases hs : body s with
  | ret a s' => exact ⟨a, s', rfl⟩
  | raise e s' => simp only [hb s e s' hs, if_true]; exact hh e s'

end Py

-- ════════════════════════════════════════════════════════════════════════
-- Exit status
-- ════════════════════════════════════════════════════════════════════════

/-- What a shell sees when a Python script ends. -/
inductive ExitStatus where
  | code (n : Nat)
  | signal (n : Nat)
  deriving DecidableEq, Repr

/-- The exit status of a script whose top level ended with `r`. `sys.exit(n)` gives `n`,
    any other escaping exception gives 1, and an escaping `KeyboardInterrupt` makes the
    interpreter kill itself with SIGINT. -/
def exitStatus : Result σ α → ExitStatus
  | .ret _ _ => .code 0
  | .raise e _ =>
    match e.cls with
    | .systemExit n => .code n
    | .keyboardInterrupt => .signal 2
    | _ => .code 1

end Proxxy.Python

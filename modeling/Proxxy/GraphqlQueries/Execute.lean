import Proxxy.Python.Json
import Proxxy.Python.Exec

/-!
# Running one GraphQL query

`execute_graphql` of `test_graphql_queries.py` posts a query and its variables to the
orchestrator, prints the query, the variables and the decoded reply, and answers whether the
reply has no `errors` key. Every exception an `except Exception` clause catches becomes a
printed line and the answer `False`. Its docstring says it returns the result; it returns
only that verdict.

## Main results

- `executeGraphql_trace` — for every server behaviour, a call posts its query once and then
  only prints.
- `executeGraphql_returns` — when the server and the transport raise only `Exception`s, a
  call returns a verdict.

## Design notes

The server, the transport, `raise_for_status()` and `response.json()` are one function of
the instant, the query and the variables: the decoded document, or the exception one of them
raises. An action's instant is the length of the trace before it.
-/

namespace Proxxy.GraphqlQueries
open Python Python.Json

/-- What posting a query with its variables gives at an instant: the decoded reply, or the
    exception `requests.post`, `raise_for_status()` or `response.json()` raises. -/
structure World where
  post : Nat → String → Value → Except PyExc Value

/-- One action of the suite. -/
inductive Event where
  | print (line : String)
  | sleep (ms : Nat)
  | post (query : String) (vars : Value)

/-- Whether an action is a `print`. -/
def Event.isPrint : Event → Bool
  | .print _ => true
  | _ => false

/-- The state of the suite: the trace of its actions. -/
structure Suite where
  trace : List Event

variable (w : World)

/-- Record an action. -/
def emit (e : Event) : Py Suite Unit := Py.modify fun s => ⟨s.trace ++ [e]⟩

/-- `print(line)`. -/
def print (line : String) : Py Suite Unit := emit (.print line)

/-- `time.sleep(ms / 1000)`. -/
def sleep (ms : Nat) : Py Suite Unit := emit (.sleep ms)

/-- The current instant. -/
def now : Py Suite Nat := fun s => .ret s.trace.length s

@[simp] theorem emit_apply (e : Event) (s : Suite) : emit e s = .ret () ⟨s.trace ++ [e]⟩ := rfl

@[simp] theorem print_apply (line : String) (s : Suite) :
    print line s = .ret () ⟨s.trace ++ [.print line]⟩ := rfl

/-- `'=' * 60`. -/
def rule : String := String.mk (List.replicate 60 '=')

/-- `variables or {}`: the variables the payload carries. -/
def payloadVariables (vars : Value) : Value :=
  if vars.truthy then vars else .dict []

/-- The line each `except` clause of `execute_graphql` prints: `RequestException`,
    `json.JSONDecodeError`, then any other `Exception`. -/
def failureLine (e : PyExc) : String :=
  match e.cls with
  | .requestException => "❌ HTTP Request failed: " ++ e.msg
  | .jsonDecodeError => "❌ JSON decode failed: " ++ e.msg
  | _ => "❌ Unexpected error: " ++ e.msg

/-- `for error in result["errors"]: print(f"  - {error.get('message', 'Unknown error')}")`. -/
def printErrors (result : Value) : Py Suite Unit := do
  let errors ← Py.lift (result.getItem "errors")
  Py.forEach (← Py.lift errors.iter) fun error => do
    let message ← Py.lift (error.get "message" (.str "Unknown error"))
    print ("  - " ++ pyStr message)

/-- The part of `execute_graphql` after the reply is decoded: print it and answer whether it
    has no `errors` key. -/
def reportReply (query : String) (vars : Value) (description : String) (result : Value) :
    Py Suite Bool := do
  print ("\n" ++ rule)
  print ("TEST: " ++ description)
  print rule
  print ("Query: " ++ String.mk ((Value.stripChars query.toList).take 100) ++ "...")
  (if vars.truthy then print ("Variables: " ++ dumpsIndent vars) else pure ())
  print "\nResponse:"
  print (dumpsIndent result)
  if ← Py.lift (result.contains "errors") then
    print "❌ GraphQL Errors Found:"
    printErrors result
    pure false
  else
    print "✅ Query executed successfully"
    pure true

/-- `execute_graphql(query, variables, description)`, `None` variables being `Value.null`. -/
def executeGraphql (query : String) (vars : Value) (description : String) :
    Py Suite Bool :=
  Py.tryCatch
    (do
      let t ← now
      emit (.post query (payloadVariables vars))
      let result ← Py.lift (w.post t query (payloadVariables vars))
      reportReply query vars description result)
    PyExc.isException
    fun e => do
      print (failureLine e)
      pure false

-- ════════════════════════════════════════════════════════════════════════
-- What a call does
-- ════════════════════════════════════════════════════════════════════════

/-- The server and the transport raise only exceptions an `except Exception` clause catches. -/
def ExceptionsOnly : Prop := ∀ t q v e, w.post t q v = .error e → e.isException = true

/-- An action that only prints, whatever it returns or raises. -/
def PrintsOnly {α : Type} (x : Py Suite α) : Prop :=
  ∀ s, ∃ new, (x s).state.trace = s.trace ++ new ∧ ∀ e ∈ new, e.isPrint = true

theorem PrintsOnly.pure {α : Type} (a : α) : PrintsOnly (pure a : Py Suite α) :=
  fun _ => ⟨[], by simp [Result.state]⟩

theorem PrintsOnly.raise {α : Type} (e : PyExc) : PrintsOnly (Py.raise e : Py Suite α) :=
  fun _ => ⟨[], by simp [Result.state]⟩

theorem PrintsOnly.lift {α : Type} (x : Except PyExc α) : PrintsOnly (Py.lift x : Py Suite α) :=
  fun _ => ⟨[], by cases x <;> simp [Result.state]⟩

theorem PrintsOnly.print (line : String) : PrintsOnly (print line) :=
  fun _ => ⟨[.print line], rfl, by simp [Event.isPrint]⟩

theorem PrintsOnly.bind {α β : Type} {x : Py Suite α} {k : α → Py Suite β} (hx : PrintsOnly x)
    (hk : ∀ a, PrintsOnly (k a)) : PrintsOnly (x >>= k) := fun s => by
  obtain ⟨n₁, h₁, p₁⟩ := hx s
  rw [Py.bind_apply]
  cases hs : x s with
  | ret a s₁ =>
    rw [hs] at h₁
    obtain ⟨n₂, h₂, p₂⟩ := hk a s₁
    exact ⟨n₁ ++ n₂, by rw [h₂, show s₁.trace = _ from h₁, List.append_assoc],
      fun e he => (List.mem_append.1 he).elim (p₁ e) (p₂ e)⟩
  | raise e s₁ => rw [hs] at h₁; exact ⟨n₁, h₁, p₁⟩

theorem PrintsOnly.seq {α β : Type} {x : Py Suite α} {y : Py Suite β} (hx : PrintsOnly x)
    (hy : PrintsOnly y) : PrintsOnly (x >>= fun _ => y) :=
  hx.bind fun _ => hy

theorem PrintsOnly.forEach {α : Type} {body : α → Py Suite Unit} (h : ∀ a, PrintsOnly (body a))
    (xs : List α) : PrintsOnly (Py.forEach xs body) := by
  induction xs with
  | nil => exact PrintsOnly.pure ()
  | cons x xs ih => exact (h x).seq ih

theorem PrintsOnly.ite {α : Type} {c : Prop} [Decidable c] {x y : Py Suite α}
    (hx : PrintsOnly x) (hy : PrintsOnly y) : PrintsOnly (if c then x else y) := by
  split
  · exact hx
  · exact hy

theorem printsOnly_printErrors (result : Value) : PrintsOnly (printErrors result) :=
  (PrintsOnly.lift _).bind fun _ => (PrintsOnly.lift _).bind fun _ =>
    PrintsOnly.forEach (fun _ => (PrintsOnly.lift _).bind fun _ => PrintsOnly.print _) _

theorem printsOnly_reportReply (query : String) (vars : Value) (description : String)
    (result : Value) : PrintsOnly (reportReply query vars description result) := by
  unfold reportReply
  refine (PrintsOnly.print _).seq <| (PrintsOnly.print _).seq <| (PrintsOnly.print _).seq <|
    (PrintsOnly.print _).seq <| (PrintsOnly.ite (PrintsOnly.print _) (PrintsOnly.pure _)).seq <|
    (PrintsOnly.print _).seq <| (PrintsOnly.print _).seq <| (PrintsOnly.lift _).bind fun _ =>
    PrintsOnly.ite ?_ ?_
  · exact (PrintsOnly.print _).seq <| (printsOnly_printErrors _).seq (PrintsOnly.pure _)
  · exact (PrintsOnly.print _).seq (PrintsOnly.pure _)

/-- A `try` whose body adds `pre` and then only prints, and whose handler only prints, adds
    `pre` and then only prints. -/
theorem PrintsOnly.tryCatch_after {α : Type} {body : Py Suite α} {catches : PyExc → Bool}
    {handler : PyExc → Py Suite α} {s : Suite} {pre : List Event}
    (hb : ∃ new, (body s).state.trace = s.trace ++ pre ++ new ∧ ∀ e ∈ new, e.isPrint = true)
    (hh : ∀ e, PrintsOnly (handler e)) :
    ∃ new, (Py.tryCatch body catches handler s).state.trace = s.trace ++ pre ++ new ∧
      ∀ e ∈ new, e.isPrint = true := by
  obtain ⟨n₁, h₁, p₁⟩ := hb
  simp only [Py.tryCatch]
  cases hs : body s with
  | ret a s₁ => rw [hs] at h₁; exact ⟨n₁, h₁, p₁⟩
  | raise e s₁ =>
    rw [hs] at h₁
    by_cases hc : catches e = true
    · obtain ⟨n₂, h₂, p₂⟩ := hh e s₁
      simp only [hc, if_true]
      exact ⟨n₁ ++ n₂, by rw [h₂, show s₁.trace = _ from h₁]; simp,
        fun x hx => (List.mem_append.1 hx).elim (p₁ x) (p₂ x)⟩
    · simp only [hc]
      exact ⟨n₁, h₁, p₁⟩

/-- For every server behaviour, a call posts its query with `variables or {}` once, first,
    and then only prints, whether it returns or lets an exception escape. -/
theorem executeGraphql_trace (query : String) (vars : Value) (description : String)
    (s : Suite) :
    ∃ new, (executeGraphql w query vars description s).state.trace =
      s.trace ++ .post query (payloadVariables vars) :: new ∧
      ∀ e ∈ new, e.isPrint = true := by
  have hb := ((PrintsOnly.lift (w.post s.trace.length query (payloadVariables vars))).bind
    (printsOnly_reportReply query vars description)) ⟨s.trace ++ [.post query (payloadVariables vars)]⟩
  simpa using @PrintsOnly.tryCatch_after _ _ _ _ _ [.post query (payloadVariables vars)] hb
    fun _ => (PrintsOnly.print _).seq (PrintsOnly.pure _)

theorem returns_emit (e : Event) : Py.Returns (emit e) := Py.Returns.modify _

theorem returns_print (line : String) : Py.Returns (print line) := returns_emit _

theorem returns_now : Py.Returns now := fun _ => ⟨_, _, rfl⟩

theorem raisesOnly_printErrors (result : Value) :
    Py.RaisesOnly PyExc.isException (printErrors result) :=
  (Py.RaisesOnly.lift fun _ => Value.getItem_error).bind fun _ =>
    (Py.RaisesOnly.lift fun _ => Value.iter_error).bind fun _ =>
      Py.RaisesOnly.forEach (fun _ => (Py.RaisesOnly.lift fun _ => Value.get_error).bind fun _ =>
        (returns_print _).raisesOnly) _

theorem raisesOnly_reportReply (query : String) (vars : Value) (description : String)
    (result : Value) : Py.RaisesOnly PyExc.isException (reportReply query vars description result) := by
  have hp : ∀ line, Py.RaisesOnly PyExc.isException (print line) :=
    fun line => (returns_print line).raisesOnly
  unfold reportReply
  refine (hp _).seq <| (hp _).seq <| (hp _).seq <| (hp _).seq <|
    (Py.RaisesOnly.ite (hp _) (Py.Returns.pure _).raisesOnly).seq <| (hp _).seq <| (hp _).seq <|
    (Py.RaisesOnly.lift fun _ => Value.contains_error).bind fun _ => Py.RaisesOnly.ite ?_ ?_
  · exact (hp _).seq <| (raisesOnly_printErrors _).seq (Py.Returns.pure _).raisesOnly
  · exact (hp _).seq (Py.Returns.pure _).raisesOnly

/-- When the server and the transport raise only `Exception`s, a call returns a verdict. -/
theorem executeGraphql_returns (hw : ExceptionsOnly w) (query : String) (vars : Value)
    (description : String) : Py.Returns (executeGraphql w query vars description) :=
  Py.RaisesOnly.tryCatch_returns
    (returns_now.raisesOnly.bind fun t => (returns_emit _).raisesOnly.seq <|
      (Py.RaisesOnly.lift fun e => hw t _ _ e).bind fun _ => raisesOnly_reportReply _ _ _ _)
    fun _ => (returns_print _).seq (Py.Returns.pure _)

-- ════════════════════════════════════════════════════════════════════════
-- The verdict
-- ════════════════════════════════════════════════════════════════════════

section
variable {w}

/-- A reply that makes the report answer `True` has no `errors`. -/
theorem reportReply_true {query : String} {vars : Value} {description : String} {result : Value}
    {s s' : Suite} (h : reportReply query vars description result s = .ret true s') :
    result.contains "errors" = .ok false := by
  cases hc : result.contains "errors" with
  | error e => cases hv : vars.truthy <;> simp [reportReply, hc, hv, Py.bind_apply] at h
  | ok b =>
    cases b
    · rfl
    · cases hv : vars.truthy <;> simp [reportReply, hc, hv, Py.bind_apply] at h <;>
        split at h <;> cases h

/-- The report of a reply without `errors` answers `True`. -/
theorem reportReply_of_no_errors (query : String) (vars : Value) (description : String)
    {result : Value} (hc : result.contains "errors" = .ok false) (s : Suite) :
    ∃ s', reportReply query vars description result s = .ret true s' := by
  cases hv : vars.truthy <;> simp [reportReply, hc, hv, Py.bind_apply]

/-- A run of `execute_graphql` that returns answers `True` exactly when the post got a decoded
    reply in which `"errors" in result` is false. -/
theorem executeGraphql_verdict {query : String} {vars : Value} {description : String}
    {s s' : Suite} {b : Bool} (h : executeGraphql w query vars description s = .ret b s') :
    b = true ↔ ∃ result, w.post s.trace.length query (payloadVariables vars) = .ok result ∧
      result.contains "errors" = .ok false := by
  refine ⟨fun hb => ?_, fun ⟨result, hp, hc⟩ => ?_⟩
  · subst hb
    rcases Py.tryCatch_eq_ret.1 h with h | ⟨e, s₁, -, -, h⟩
    · obtain ⟨t, _, ht, h⟩ := Py.bind_eq_ret h
      cases ht
      obtain ⟨_, _, -, h⟩ := Py.bind_eq_ret h
      obtain ⟨result, _, hp, h⟩ := Py.bind_eq_ret h
      exact ⟨result, Py.lift_eq_ret hp, reportReply_true h⟩
    · exact absurd (Py.bind_pure_ret h) Bool.noConfusion
  · obtain ⟨s'', hr⟩ := reportReply_of_no_errors query vars description hc
      ⟨s.trace ++ [.post query (payloadVariables vars)]⟩
    have : executeGraphql w query vars description s = .ret true s'' := by
      simp [executeGraphql, Py.tryCatch, Py.bind_apply, now, hp, hr]
    rw [this] at h
    cases h; rfl

end

/-- A server that answers every post with the same document, which has no `errors`. -/
def helloWorld : World where
  post _ _ _ := .ok (.dict [("data", .dict [("hello", .str "Hello from Proxxy")])])

end Proxxy.GraphqlQueries

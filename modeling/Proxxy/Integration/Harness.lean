import Proxxy.Python.Exec

/-!
# The integration harness and the world it drives

`test_integration.py` launches three binaries, probes their ports, sends scripted traffic
through the relay, queries the orchestrator's GraphQL endpoint and finally stops the
processes. The object `IntegrationTest` holds `procs` and `id_matrix`; every other step is an
action on the outside world.

## Main definitions

- `World` — how the outside world answers each action, as a function of the instant the
  action happens at (its position in the run).
- `Event` — one action of the harness, as the trace of a run records it.
- `Harness` — the object's fields, the processes as the harness's signals leave them, and
  the trace.
- `checkPort`, `launch`, `graphql`, `request`, `terminate`, `wait`, `kill`, `input` — the
  primitive actions.

## Design notes

The trace also records when each method of `IntegrationTest` is entered (`Event.enter`).
These marks are observation only: no action reads them back. An action's instant is the
length of the trace before it, so a world that is an arbitrary function of the instant
covers every timing of the services.
-/

namespace Proxxy.IntegrationTest
open Python

/-- The binaries `start_services` launches. -/
inductive Service where
  | orchestrator | testServer | proxyAgent
  deriving DecidableEq, Repr

/-- The methods of `IntegrationTest` whose calls the trace marks. -/
inductive Method where
  | startServices | generateTraffic | verifyCapture | cleanup
  deriving DecidableEq, Repr

/-- The signals `cleanup` can send. -/
inductive Signal where
  | sigterm | sigkill
  deriving DecidableEq, Repr

/-- A launched process as `poll()` sees it. -/
inductive Proc where
  /-- Running; `exitsOnTerm` says whether it is gone within the one-second wait that
      follows a SIGTERM. -/
  | running (exitsOnTerm : Bool)
  | exited
  deriving DecidableEq, Repr

/-- One action of the harness. -/
inductive Event where
  | enter (m : Method)
  | log (level msg : String)
  | print (line : String)
  | removeWorkspace
  | launch (svc : Service) (pid : Nat)
  | probe (port : Nat) (isOpen : Bool)
  | sleep (ms : Nat)
  | query (doc : String) (vars : Value)
  | request (method url : String) (body : Value)
  | signal (pid : Nat) (sig : Signal)
  | prompt
  /-- The line `f"{short_ep.ljust(25)} : {req_id}"` of `run`'s id listing. -/
  | printId (shortEp : String) (reqId : Value)

namespace Event

/-- The event marks a call of method `m`. -/
def isEnter (m : Method) : Event → Bool
  | .enter m' => m' == m
  | _ => false

/-- The event is a signal sent to process `pid`. -/
def signals (pid : Nat) : Event → Bool
  | .signal p _ => p == pid
  | _ => false

end Event

/-- How the world answers the harness. Answers may depend on the instant of the action. -/
structure World where
  /-- `os.path.exists` of the stale project directory. -/
  staleWorkspace : Bool
  /-- What `shutil.rmtree` raises, if anything. -/
  rmtree : Option PyExc
  /-- What `subprocess.Popen` raises for a binary, if anything. -/
  spawn : Service → Option PyExc
  /-- Whether `connect_ex` on `127.0.0.1:port` succeeds at an instant. -/
  portOpen : Nat → Nat → Bool
  /-- What `requests.post(GRAPHQL_URL, ...).json()` gives or raises at an instant. -/
  graphql : Nat → String → Value → Except PyExc Value
  /-- What a request through the relay raises at an instant, if anything. -/
  relay : Nat → String → String → Option PyExc
  /-- What `input()` returns or raises. -/
  stdin : Except PyExc String
  /-- How each launched process stands when the harness first signals it. -/
  proc : Nat → Proc

/-- The harness: `self.procs`, `self.id_matrix`, the processes and the trace. -/
structure Harness where
  procs : List Nat
  idMatrix : PyDict
  table : Nat → Proc
  trace : List Event

/-- `IntegrationTest()` in a world. -/
def Harness.init (w : World) : Harness := ⟨[], PyDict.empty, w.proc, []⟩

/-- How many times the trace marks a call of `m`. -/
def Harness.calls (s : Harness) (m : Method) : Nat := s.trace.countP (·.isEnter m)

/-- The harness after the actions `new`. -/
def Harness.record (s : Harness) (new : List Event) : Harness := { s with trace := s.trace ++ new }

@[simp] theorem Harness.record_trace (s : Harness) (new : List Event) :
    (s.record new).trace = s.trace ++ new := rfl

@[simp] theorem Harness.record_procs (s : Harness) (new : List Event) :
    (s.record new).procs = s.procs := rfl

@[simp] theorem Harness.record_nil (s : Harness) : s.record [] = s := by
  cases s; simp [Harness.record]

@[simp] theorem Harness.record_record (s : Harness) (a b : List Event) :
    (s.record a).record b = s.record (a ++ b) := by
  simp [Harness.record, List.append_assoc]

variable (w : World)

/-- Record an action. -/
def emit (e : Event) : Py Harness Unit := Py.modify fun s => s.record [e]

/-- The instant the next action happens at. -/
def now : Py Harness Nat := fun s => .ret s.trace.length s

/-- `self.log(msg, level)`. -/
def log (level msg : String) : Py Harness Unit := emit (.log level msg)

/-- `self.check_port(port)`. -/
def checkPort (port : Nat) : Py Harness Bool := do
  let t ← now
  let isOpen := w.portOpen t port
  emit (.probe port isOpen)
  return isOpen

/-- `time.sleep(ms / 1000)`. -/
def sleep (ms : Nat) : Py Harness Unit := emit (.sleep ms)

/-- `self.procs.append(subprocess.Popen([binary, ...]))`. -/
def launch (svc : Service) : Py Harness Unit := fun s =>
  match w.spawn svc with
  | some e => .raise e s
  | none =>
    .ret () { s with procs := s.procs ++ [s.procs.length],
                     trace := s.trace ++ [.launch svc s.procs.length] }

/-- `self.graphql(query, variables)`: any `Exception` is logged and turned into `None`. -/
def graphql (query : String) (vars : Value) : Py Harness Value := do
  let t ← now
  emit (.query query vars)
  match w.graphql t query vars with
  | .ok v => return v
  | .error e =>
    if e.isException then
      log "ERROR" ("GraphQL Error: " ++ e.msg)
      return .null
    else Py.raise e

/-- `requests.get(url, ...)` or `requests.post(url, json=body, ...)` through the relay. -/
def request (method url : String) (body : Value) : Py Harness Unit := do
  let t ← now
  emit (.request method url body)
  match w.relay t method url with
  | none => return ()
  | some e => Py.raise e

/-- `input()`. -/
def input : Py Harness String := do
  emit .prompt
  Py.lift w.stdin

/-- `p.terminate()`: SIGTERM, sent only to a process that `poll()` finds running. -/
def terminate (pid : Nat) : Py Harness Unit := fun s =>
  match s.table pid with
  | .running b =>
    .ret () { s with table := Function.update s.table pid (if b then .exited else .running b),
                     trace := s.trace ++ [.signal pid .sigterm] }
  | .exited => .ret () s

/-- `p.wait(timeout=1)`. -/
def wait (pid : Nat) : Py Harness Unit := fun s =>
  match s.table pid with
  | .running _ => .raise ⟨.timeoutExpired, "timed out after 1 seconds"⟩ s
  | .exited => .ret () s

/-- `p.kill()`: SIGKILL, sent only to a process that `poll()` finds running. -/
def kill (pid : Nat) : Py Harness Unit := fun s =>
  match s.table pid with
  | .running _ =>
    .ret () { s with table := Function.update s.table pid .exited,
                     trace := s.trace ++ [.signal pid .sigkill] }
  | .exited => .ret () s

@[simp] theorem emit_apply (e : Event) (s : Harness) : emit e s = .ret () (s.record [e]) := rfl

@[simp] theorem log_apply (level msg : String) (s : Harness) :
    log level msg s = .ret () (s.record [.log level msg]) := rfl

@[simp] theorem sleep_apply (ms : Nat) (s : Harness) : sleep ms s = .ret () (s.record [.sleep ms]) :=
  rfl

@[simp] theorem checkPort_apply (port : Nat) (s : Harness) :
    checkPort w port s = .ret (w.portOpen s.trace.length port)
      (s.record [.probe port (w.portOpen s.trace.length port)]) := rfl

theorem launch_ret {svc : Service} {s s' : Harness} (h : launch w svc s = .ret () s') :
    s'.trace = s.trace ++ [.launch svc s.procs.length] := by
  simp only [launch] at h
  split at h
  · cases h
  · cases h; rfl

-- ════════════════════════════════════════════════════════════════════════
-- Frame lemmas
-- ════════════════════════════════════════════════════════════════════════

/-- `x` only adds events to the end of the trace, all of them satisfying `P`, whether it
    returns or raises. -/
def Appends (P : Event → Prop) (x : Py Harness α) : Prop :=
  ∀ s, ∃ new, (x s).state.trace = s.trace ++ new ∧ ∀ e ∈ new, P e

namespace Appends

variable {w} {P Q : Event → Prop}

theorem pure (a : α) : Appends P (Pure.pure a : Py Harness α) :=
  fun s => ⟨[], by simp [Result.state, Py.pure_apply]⟩

theorem raise (e : PyExc) : Appends P (Py.raise e : Py Harness α) :=
  fun s => ⟨[], by simp [Result.state]⟩

theorem lift (x : Except PyExc α) : Appends P (Py.lift x : Py Harness α) := by
  intro s; cases x <;> exact ⟨[], by simp [Result.state]⟩

theorem emit {e : Event} (h : P e) : Appends P (IntegrationTest.emit e) :=
  fun s => ⟨[e], rfl, by simpa using h⟩

theorem modify {f : Harness → Harness} (h : ∀ s, (f s).trace = s.trace) :
    Appends P (Py.modify f) := fun s => ⟨[], by simp [Result.state, h]⟩

theorem focus {τ : Type} {get : Harness → τ} {set : Harness → τ → Harness} {x : Py τ α}
    (h : ∀ s t, (set s t).trace = s.trace) : Appends P (Py.focus get set x) := by
  intro s
  refine ⟨[], ?_, by simp⟩
  simp only [Py.focus]
  split <;> simp [Result.state, h]

theorem now : Appends P IntegrationTest.now := fun s => ⟨[], by simp [Result.state, IntegrationTest.now]⟩

theorem trace_of_ret {x : Py Harness α} (h : Appends P x) {s s' : Harness} {a : α}
    (hx : x s = .ret a s') : ∃ new, s'.trace = s.trace ++ new ∧ ∀ e ∈ new, P e := by
  obtain ⟨new, he, hP⟩ := h s
  rw [hx] at he
  exact ⟨new, he, hP⟩

theorem mono (h : Appends P x) (hPQ : ∀ e, P e → Q e) : Appends Q x := fun s =>
  let ⟨new, he, hP⟩ := h s
  ⟨new, he, fun e hm => hPQ e (hP e hm)⟩

theorem bind {x : Py Harness α} {k : α → Py Harness β} (hx : Appends P x)
    (hk : ∀ a, Appends P (k a)) : Appends P (x >>= k) := by
  intro s
  obtain ⟨n₁, h₁, p₁⟩ := hx s
  rw [Py.bind_apply]
  cases h : x s with
  | ret a s' =>
    rw [h] at h₁
    change s'.trace = _ at h₁
    obtain ⟨n₂, h₂, p₂⟩ := hk a s'
    exact ⟨n₁ ++ n₂, by rw [h₂, h₁, List.append_assoc],
      fun e he => (List.mem_append.1 he).elim (p₁ e) (p₂ e)⟩
  | raise e s' => rw [h] at h₁; exact ⟨n₁, h₁, p₁⟩

/-- What follows `x` in `x >>= k` only adds events to those `x` left. -/
theorem trace_bind {x : Py Harness α} {k : α → Py Harness β} (hk : ∀ a, Appends P (k a))
    (s : Harness) : ∃ new, ((x >>= k) s).state.trace = (x s).state.trace ++ new ∧
      ∀ e ∈ new, P e := by
  rw [Py.bind_apply]
  cases x s with
  | ret a s' => exact hk a s'
  | raise e s' => exact ⟨[], by simp [Result.state]⟩

/-- A method that begins by marking its call: the mark, then what the rest appends. -/
theorem emit_bind {e : Event} {k : Unit → Py Harness β} (hk : ∀ a, Appends P (k a))
    (s : Harness) : ∃ post, ((IntegrationTest.emit e >>= k) s).state.trace = s.trace ++ e :: post ∧
      ∀ x ∈ post, P x :=
  let ⟨post, h, hp⟩ := hk () (s.record [e])
  ⟨post, by rw [Py.bind_of_ret (emit_apply e s), h]; simp, hp⟩

theorem seq {x : Py Harness α} {y : Py Harness β} (hx : Appends P x) (hy : Appends P y) :
    Appends P (x >>= fun _ => y) := hx.bind fun _ => hy

theorem ite {c : Prop} [Decidable c] {x y : Py Harness α} (hx : Appends P x)
    (hy : Appends P y) : Appends P (if c then x else y) := by
  split <;> assumption

theorem forEach {body : α → Py Harness Unit} (h : ∀ a, Appends P (body a)) (xs : List α) :
    Appends P (Py.forEach xs body) := by
  induction xs with
  | nil => exact pure ()
  | cons x xs ih => exact (h x).seq ih

theorem tryCatch {body : Py Harness α} {catches : PyExc → Bool}
    {handler : PyExc → Py Harness α} (hb : Appends P body) (hh : ∀ e, Appends P (handler e)) :
    Appends P (Py.tryCatch body catches handler) := by
  intro s
  obtain ⟨n₁, h₁, p₁⟩ := hb s
  simp only [Py.tryCatch]
  cases h : body s with
  | ret a s' => rw [h] at h₁; exact ⟨n₁, h₁, p₁⟩
  | raise e s' =>
    rw [h] at h₁
    change s'.trace = _ at h₁
    by_cases hc : catches e
    · obtain ⟨n₂, h₂, p₂⟩ := hh e s'
      refine ⟨n₁ ++ n₂, ?_, fun e he => (List.mem_append.1 he).elim (p₁ e) (p₂ e)⟩
      simp only [hc, if_true]; rw [h₂, h₁, List.append_assoc]
    · exact ⟨n₁, by simp only [hc]; exact h₁, p₁⟩

theorem tryFinally {body : Py Harness α} {fin : Py Harness Unit} (hb : Appends P body)
    (hf : Appends P fin) : Appends P (Py.tryFinally body fin) := by
  intro s
  obtain ⟨n₁, h₁, p₁⟩ := hb s
  obtain ⟨n₂, h₂, p₂⟩ := hf (body s).state
  refine ⟨n₁ ++ n₂, ?_, fun e he => (List.mem_append.1 he).elim (p₁ e) (p₂ e)⟩
  rw [Py.tryFinally_state, h₂, h₁, List.append_assoc]

/-- The trace's marks of method `m` are those it had, when no appended event is one. -/
theorem calls_eq {x : Py Harness α} {m : Method} (h : Appends (·.isEnter m = false) x)
    (s : Harness) : (x s).state.calls m = s.calls m := by
  obtain ⟨new, he, hP⟩ := h s
  have hz : new.countP (·.isEnter m) = 0 := List.countP_eq_zero.2 fun e hm => by simp [hP e hm]
  rw [Harness.calls, he, List.countP_append, hz, Nat.add_zero]
  rfl

end Appends

theorem appends_log {P : Event → Prop} {level msg : String} (h : P (.log level msg)) :
    Appends P (log level msg) := Appends.emit h

theorem appends_sleep {P : Event → Prop} {ms : Nat} (h : P (.sleep ms)) :
    Appends P (sleep ms) := Appends.emit h

theorem appends_checkPort {P : Event → Prop} {port : Nat} (h : ∀ b, P (.probe port b)) :
    Appends P (checkPort w port) :=
  Appends.now.bind fun _ => (Appends.emit (h _)).seq (Appends.pure _)

theorem appends_launch {P : Event → Prop} {svc : Service} (h : ∀ pid, P (.launch svc pid)) :
    Appends P (launch w svc) := by
  intro s
  simp only [launch]
  split
  · exact ⟨[], by simp [Result.state]⟩
  · exact ⟨[.launch svc s.procs.length], rfl, by simpa using h _⟩

theorem appends_graphql {P : Event → Prop} {query : String} {vars : Value}
    (hq : P (.query query vars)) (hl : ∀ msg, P (.log "ERROR" msg)) :
    Appends P (graphql w query vars) := by
  refine Appends.now.bind fun t => (Appends.emit hq).seq ?_
  split
  · exact Appends.pure _
  · exact Appends.ite ((appends_log (hl _)).seq (Appends.pure _)) (Appends.raise _)

theorem appends_request {P : Event → Prop} {method url : String} {body : Value}
    (h : P (.request method url body)) : Appends P (request w method url body) := by
  refine Appends.now.bind fun t => (Appends.emit h).seq ?_
  split
  · exact Appends.pure _
  · exact Appends.raise _

theorem appends_input {P : Event → Prop} (h : P .prompt) : Appends P (input w) :=
  (Appends.emit h).seq (Appends.lift _)

end Proxxy.IntegrationTest

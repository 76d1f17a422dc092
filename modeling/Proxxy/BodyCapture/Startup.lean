import Proxxy.Python.Exec

/-!
# Starting the services of the body-capture test

`ResponseBodyCaptureTest.start_orchestrator` and `start_proxy_agent` check for their binary,
launch it, watch it for ten one-second polls, and then probe an HTTP endpoint at most five
times: the orchestrator's GraphQL endpoint, accepted on status 200 or 405, and a request
through the proxy agent, accepted on status 200. Both loops share one shape, `httpReady`.

## Main results

- `httpReady_spec` — what the readiness loop answers, for every sequence of attempt
  outcomes: `True` when an attempt got an accepted status, and also when none did but the
  last attempt got an answer at all; `False` only when the last attempt was refused.
- `startOrchestrator_ready_on_server_errors` — an orchestrator whose endpoint answers 500
  five times is reported ready.
- `startOrchestrator_true_iff`, `startProxyAgent_true_iff` — when each start method returns
  `True`: its binary exists, a stale project directory was removed, `Popen` did not fail, the
  binary was still running at the tenth poll, and the readiness loop reported ready.
-/

namespace Proxxy.BodyCapture
open Python

/-- The binaries the test launches. -/
inductive Service where
  | orchestrator | proxyAgent
  deriving DecidableEq, Repr

/-- What one attempt of a readiness probe gets: `requests.get` raised a
    `RequestException`, or an answer with a status code. -/
inductive Probe where
  | refused
  | status (code : Nat)
  deriving DecidableEq, Repr

/-- How a launched binary reacts when the cleanup stops it: it had already exited, it exits
    within the five seconds `wait(timeout=5)` allows after `terminate()`, or it has to be
    killed. -/
inductive Stop where
  | exited | exitsOnTerm | ignoresTerm
  deriving DecidableEq, Repr

/-- How the world answers the test. -/
structure World where
  /-- `os.path.exists` of each binary. -/
  binaryExists : Service → Bool
  /-- `os.path.exists` of the stale test project directory. -/
  staleProject : Bool
  /-- What `shutil.rmtree` raises, if anything. -/
  rmtree : Option PyExc
  /-- What `subprocess.Popen` raises for each binary, if anything. -/
  spawn : Service → Option PyExc
  /-- The process id `Popen` gives each binary. -/
  pid : Service → Nat
  /-- The first of the ten polls at which the launched binary has exited, if any. -/
  exitsAt : Service → Option Nat
  /-- What `communicate()` returns from a binary that exited: its stdout and stderr. -/
  output : Service → String × String
  /-- What attempt `i` of each readiness probe gets. -/
  probe : Service → Nat → Probe
  /-- `os.environ`, in its order. -/
  environ : List (String × String)
  /-- What `requests.post(GRAPHQL_URL, ...)`, `raise_for_status()` and `response.json()` give
      at an instant for a query and its variables. -/
  graphql : Nat → String → Value → Except PyExc Value
  /-- What a request through the proxy gives at an instant: the status and
      `len(response.content)`, or the exception. -/
  fetch : Nat → String → Except PyExc (Nat × Nat)
  /-- How many nested arrays and objects `json.loads` of check 4 can enter before it raises
      `RecursionError`: the interpreter's recursion limit less the frames below the call. -/
  jsonDepth : Nat
  /-- How each binary reacts when the cleanup stops it. -/
  stop : Service → Stop

/-- A signal `Popen.terminate()` or `Popen.kill()` sends. -/
inductive Signal where
  | sigterm | sigkill
  deriving DecidableEq, Repr

/-- One action of the test. -/
inductive Event where
  | log (level msg : String)
  /-- Text `print` writes without a log prefix: the progress dots, the newline after them,
      and the lines of `main`. -/
  | stdout (text : String)
  | sleep (ms : Nat)
  | launch (svc : Service) (args : List String) (env : List (String × String))
  | removeProject
  | probe (svc : Service) (attempt : Nat)
  | query (text : String) (vars : Value)
  | fetch (url : String)
  | signal (svc : Service) (sig : Signal)

/-- The test object: its process handles and the trace of its actions. -/
structure Test where
  orchestratorProcess : Option Nat
  proxyAgentProcess : Option Nat
  trace : List Event

/-- A fresh `ResponseBodyCaptureTest()`. -/
def Test.init : Test := ⟨none, none, []⟩

variable (w : World)

/-- Record an action. -/
def emit (e : Event) : Py Test Unit := Py.modify fun s => { s with trace := s.trace ++ [e] }

/-- `self.log(message, level)`, whose `level` defaults to `"INFO"`. The timestamp it prints is
    left out. -/
def log (level msg : String) : Py Test Unit := emit (.log level msg)

/-- `time.sleep(ms / 1000)`. -/
def sleep (ms : Nat) : Py Test Unit := emit (.sleep ms)

/-- Attempt `attempt` of the readiness probe of `svc`. -/
def probe (svc : Service) (attempt : Nat) : Py Test Probe := do
  emit (.probe svc attempt)
  pure (w.probe svc attempt)

/-- The texts of one readiness loop: what it logs on success, between attempts and after
    the last refusal. -/
structure ReadyTexts where
  ready : String
  retry : Nat → String
  gaveUp : String

/-- `for attempt in range(5): try: response = requests.get(...); if response.status_code in
    accepted: log(ready); return True; except RequestException: if attempt < 4:
    log(retry); time.sleep(2) else: log(gaveUp); return False`, then `return True`, over
    the attempts from `attempt` on. -/
def httpReady (svc : Service) (accepted : List Nat) (texts : ReadyTexts) : Nat → Nat →
    Py Test Bool
  | 0, _ => pure true
  | n + 1, attempt => do
    match ← probe w svc attempt with
    | .status code =>
      if code ∈ accepted then do
        log "INFO" texts.ready
        pure true
      else httpReady svc accepted texts n (attempt + 1)
    | .refused =>
      if attempt < 4 then do
        log "INFO" (texts.retry attempt)
        sleep 2000
        httpReady svc accepted texts n (attempt + 1)
      else do
        log "ERROR" texts.gaveUp
        pure false

/-- The GraphQL endpoint check of `start_orchestrator`. -/
def graphqlReady : Py Test Bool :=
  httpReady w .orchestrator [200, 405]
    ⟨"✅ GraphQL endpoint hazır",
     fun a => "GraphQL endpoint hazır değil, tekrar deneniyor... (" ++ toString (a + 1) ++ "/5)",
     "GraphQL endpoint 5 denemeden sonra yanıt vermedi"⟩ 5 0

/-- The proxy endpoint check of `start_proxy_agent`. -/
def proxyReady : Py Test Bool :=
  httpReady w .proxyAgent [200]
    ⟨"✅ Proxy Agent hazır ve çalışıyor",
     fun a => "Proxy endpoint hazır değil, tekrar deneniyor... (" ++ toString (a + 1) ++ "/5)",
     "Proxy endpoint 5 denemeden sonra yanıt vermedi"⟩ 5 0

/-- `for i in range(10): time.sleep(1); if process.poll() is not None: ...; return False;
    print(".", end="")`, then `print()`: false when the binary exited during the wait, with
    its output logged under `name`. -/
def watchLaunch (svc : Service) (name : String) : Nat → Nat → Py Test Bool
  | 0, _ => do
    emit (.stdout "\n")
    pure true
  | n + 1, i => do
    sleep 1000
    if (w.exitsAt svc).any (· ≤ i) then do
      log "ERROR" (name ++ " erken kapandı. STDOUT: " ++ (w.output svc).1)
      log "ERROR" ("STDERR: " ++ (w.output svc).2)
      pure false
    else do
      emit (.stdout ".")
      watchLaunch svc name n (i + 1)

/-- `subprocess.Popen(cmd, ...)`: the new process id, or the exception it raises. -/
def launch (svc : Service) (args : List String) (env : List (String × String)) :
    Py Test Nat := do
  match w.spawn svc with
  | some e => Py.raise e
  | none =>
    emit (.launch svc args env)
    pure (w.pid svc)

/-- `ResponseBodyCaptureTest.start_orchestrator`. -/
def startOrchestrator : Py Test Bool := do
  log "INFO" "Orchestrator başlatılıyor..."
  Py.tryCatch (do
      if !w.binaryExists .orchestrator then do
        log "ERROR" "Orchestrator binary bulunamadı: ./target/debug/orchestrator"
        log "ERROR" "Önce projeyi build edin: cargo build"
        pure false
      else do
        if w.staleProject then do
          log "INFO" ("Mevcut test projesi dizini temizleniyor: " ++
            "workspace/response_body_test.proxxy")
          emit .removeProject
          match w.rmtree with
          | some e => Py.raise e
          | none => pure ()
        log "INFO" ("Komut çalıştırılıyor: ./target/debug/orchestrator " ++
          "--project response_body_test")
        let pid ← launch w .orchestrator ["--project", "response_body_test"] []
        Py.modify fun s => { s with orchestratorProcess := some pid }
        log "INFO" ("Orchestrator başlatıldı (PID: " ++ toString pid ++ ")")
        if ← watchLaunch w .orchestrator "Orchestrator" 10 0 then do
          log "INFO" "GraphQL endpoint kontrol ediliyor..."
          graphqlReady w
        else pure false)
    PyExc.isException
    fun e => do
      log "ERROR" ("Orchestrator başlatılamadı: " ++ e.msg)
      pure false

/-- The variables `start_proxy_agent` adds to a copy of `os.environ`. -/
def bodyCaptureEnv : List (String × String) :=
  [("PROXXY_BODY_CAPTURE_ENABLED", "true"), ("PROXXY_MAX_BODY_SIZE", "1048576"),
   ("PROXXY_MEMORY_LIMIT", "10485760"), ("PROXXY_RESPONSE_TIMEOUT", "30"),
   ("PROXXY_STREAM_TIMEOUT", "5"), ("PROXXY_CONTENT_TYPE_MODE", "capture_all")]

/-- `s.startswith(pre)`. -/
def startswith (s pre : String) : Bool := pre.toList.isPrefixOf s.toList

/-- `ResponseBodyCaptureTest.start_proxy_agent`. -/
def startProxyAgent : Py Test Bool := do
  log "INFO" "Proxy Agent başlatılıyor (body capture etkin)..."
  Py.tryCatch (do
      if !w.binaryExists .proxyAgent then do
        log "ERROR" "Proxy agent binary bulunamadı: ./target/debug/proxy-agent"
        log "ERROR" "Önce projeyi build edin: cargo build"
        pure false
      else do
        let env := updateItems w.environ bodyCaptureEnv
        log "INFO" ("Komut çalıştırılıyor: ./target/debug/proxy-agent --listen-port 9095 " ++
          "--admin-port 9091")
        log "INFO" "Environment variables:"
        Py.forEach (env.filter fun kv => startswith kv.1 "PROXXY_") fun kv =>
          log "INFO" ("  " ++ kv.1 ++ "=" ++ kv.2)
        let pid ← launch w .proxyAgent ["--listen-port", "9095", "--admin-port", "9091"] env
        Py.modify fun s => { s with proxyAgentProcess := some pid }
        log "INFO" ("Proxy Agent başlatıldı (PID: " ++ toString pid ++ ")")
        if ← watchLaunch w .proxyAgent "Proxy Agent" 10 0 then do
          log "INFO" "Proxy endpoint kontrol ediliyor..."
          proxyReady w
        else pure false)
    PyExc.isException
    fun e => do
      log "ERROR" ("Proxy Agent başlatılamadı: " ++ e.msg)
      pure false

-- ════════════════════════════════════════════════════════════════════════
-- The readiness loop
-- ════════════════════════════════════════════════════════════════════════

@[simp] theorem emit_apply (e : Event) (s : Test) :
    emit e s = .ret () { s with trace := s.trace ++ [e] } := rfl

@[simp] theorem log_apply (level msg : String) (s : Test) :
    log level msg s = .ret () { s with trace := s.trace ++ [.log level msg] } := rfl

@[simp] theorem probe_apply (svc : Service) (a : Nat) (s : Test) :
    probe w svc a s = .ret (w.probe svc a) { s with trace := s.trace ++ [.probe svc a] } := rfl

/-- Whether an attempt's outcome makes a loop that accepts the statuses `accepted` report
    ready at once. -/
def accepts (accepted : List Nat) : Probe → Bool
  | .status code => code ∈ accepted
  | .refused => false

/-- The loop from attempt `a` on, with `5 - a` attempts left, answers true iff one of those
    attempts got an accepted status or the last attempt got an answer at all. -/
theorem httpReady_result (svc : Service) (accepted : List Nat) (texts : ReadyTexts) :
    ∀ n a, a + n = 5 → 0 < n → ∀ s, ∃ s', httpReady w svc accepted texts n a s =
      .ret ((List.range' a n).any (fun i => accepts accepted (w.probe svc i)) ||
        w.probe svc 4 != .refused) s'
  | 0, _, _, hn, _ => absurd hn (Nat.lt_irrefl 0)
  | n + 1, a, h, _, s => by
    rw [httpReady, Py.bind_of_ret (probe_apply w svc a s)]
    simp only [List.range'_succ, List.any_cons]
    cases hp : w.probe svc a with
    | refused =>
      by_cases ha : a < 4
      · obtain ⟨s', hs'⟩ :=
          httpReady_result svc accepted texts n (a + 1) (by omega) (by omega) _
        simp only [hp, ha, if_true, accepts, Bool.false_or]
        exact ⟨s', hs'⟩
      · obtain ⟨rfl, rfl⟩ : a = 4 ∧ n = 0 := by omega
        simp [ha, hp, accepts, Py.bind_apply]
    | status code =>
      by_cases hc : code ∈ accepted
      · simp [hc, accepts, Py.bind_apply]
      · cases n with
        | zero =>
          obtain rfl : a = 4 := by omega
          simp [hc, hp, accepts, httpReady]
        | succ n =>
          obtain ⟨s', hs'⟩ := httpReady_result svc accepted texts (n + 1) (a + 1) (by omega)
            (by omega) _
          simp only [hc, if_false, accepts, decide_False, Bool.false_or]
          exact ⟨s', hs'⟩

/-- What the readiness loop answers, for every sequence of attempt outcomes: ready when one of
    the five attempts got an accepted status, and also when none did but the fifth got an
    answer; not ready only when the fifth attempt was refused. -/
theorem httpReady_spec (svc : Service) (accepted : List Nat) (texts : ReadyTexts) (s : Test) :
    ∃ b s', httpReady w svc accepted texts 5 0 s = .ret b s' ∧
      (b = true ↔ (∃ i < 5, accepts accepted (w.probe svc i) = true) ∨
        w.probe svc 4 ≠ .refused) := by
  obtain ⟨s', hs'⟩ := httpReady_result w svc accepted texts 5 0 rfl (by decide) s
  refine ⟨_, s', hs', ?_⟩
  simp [List.any_eq_true, List.mem_range']

/-- Both binaries present and running, and every readiness attempt answered with status 500. -/
def serverErrorWorld : World where
  binaryExists _ := true
  staleProject := false
  rmtree := none
  spawn _ := none
  pid _ := 4242
  exitsAt _ := none
  output _ := ("", "")
  probe _ _ := .status 500
  environ := []
  graphql _ _ _ := .ok (.dict [])
  fetch _ _ := .ok (200, 0)
  jsonDepth := 990
  stop _ := .exitsOnTerm

/-- No attempt gets an accepted status, yet both services are reported ready: after five
    answers outside the accepted set the loops fall through to their final `return True`. -/
theorem startOrchestrator_ready_on_server_errors :
    (∀ i < 5, accepts [200, 405] (serverErrorWorld.probe .orchestrator i) = false) ∧
    (∀ i < 5, accepts [200] (serverErrorWorld.probe .proxyAgent i) = false) ∧
    (∃ s, startOrchestrator serverErrorWorld Test.init = .ret true s) ∧
    ∃ s, startProxyAgent serverErrorWorld Test.init = .ret true s :=
  ⟨by decide, by decide, ⟨_, rfl⟩, ⟨_, rfl⟩⟩

-- ════════════════════════════════════════════════════════════════════════
-- When a service is reported started
-- ════════════════════════════════════════════════════════════════════════

/-- The launched binary is still running at each of the ten one-second polls. -/
def Survives (svc : Service) : Prop := ∀ j, w.exitsAt svc = some j → 10 ≤ j

/-- What a readiness loop over `accepted` reports ready on: an accepted status at one of the
    five attempts, or an answer with any status at the fifth. -/
def Ready (svc : Service) (accepted : List Nat) : Prop :=
  (∃ i < 5, accepts accepted (w.probe svc i) = true) ∨ w.probe svc 4 ≠ .refused

section
variable {w}

/-- The wait loop from poll `i` on, with `n` polls left, answers whether the binary was still
    running at every one of them. -/
theorem watchLaunch_ret (svc : Service) (name : String) : ∀ n i (s : Test), ∃ s',
    watchLaunch w svc name n i s =
      .ret (!(List.range' i n).any fun k => (w.exitsAt svc).any (· ≤ k)) s'
  | 0, _, _ => ⟨_, rfl⟩
  | n + 1, i, s => by
    by_cases h : (w.exitsAt svc).any (· ≤ i) = true
    · simp [watchLaunch, Py.bind_apply, sleep, h, List.range'_succ]
    · obtain ⟨s', hs⟩ := watchLaunch_ret svc name n (i + 1)
        { s with trace := s.trace ++ [.sleep 1000, .stdout "."] }
      refine ⟨s', ?_⟩
      simp only [watchLaunch, Py.bind_apply, sleep, emit_apply, h, List.range'_succ, List.any_cons]
      simpa [Py.bind_apply] using hs

/-- The ten polls see the binary running exactly when it `Survives`. -/
theorem survives_iff {svc : Service} :
    (!(List.range' 0 10).any fun k => (w.exitsAt svc).any (· ≤ k)) = true ↔ Survives w svc := by
  unfold Survives
  cases w.exitsAt svc with
  | none => simp
  | some j =>
    simp only [Option.any_some, Bool.not_eq_true', List.any_eq_false, List.mem_range'_1,
      decide_eq_true_eq, Option.some.injEq, forall_eq']
    exact ⟨fun h => Nat.not_lt.1 fun hj => h j ⟨Nat.zero_le _, hj⟩ le_rfl,
      fun h k hk hjk => by omega⟩

/-- The two readiness loops, with their accepted statuses. -/
theorem proxyReady_spec (s : Test) : ∃ b s', proxyReady w s = .ret b s' ∧
    (b = true ↔ Ready w .proxyAgent [200]) :=
  httpReady_spec w _ _ _ s

theorem graphqlReady_spec (s : Test) : ∃ b s', graphqlReady w s = .ret b s' ∧
    (b = true ↔ Ready w .orchestrator [200, 405]) :=
  httpReady_spec w _ _ _ s

/-- `Popen` of a binary it does not fail on records the launch and gives its process id. -/
theorem launch_of_spawn {svc : Service} {args : List String} {env : List (String × String)}
    (hs : w.spawn svc = none) (s : Test) : launch w svc args env s =
      .ret (w.pid svc) { s with trace := s.trace ++ [.launch svc args env] } := by
  simp [launch, hs, Py.bind_apply]

/-- What both start methods do once the binary's checks pass: launch it, record its handle,
    wait ten polls, and ask the readiness loop. This returns `True` exactly when `Popen` does
    not fail, the binary survives the polls, and the loop reports ready. -/
theorem launchAndWait_true_iff {svc : Service} {args : List String}
    {env : List (String × String)} {name checking : String} {record : Nat → Test → Test}
    {launched : Nat → String} {ready : Py Test Bool} {R : Prop}
    (hr : ∀ s, ∃ b s', ready s = .ret b s' ∧ (b = true ↔ R)) (s : Test) :
    (∃ s', (do
        let pid ← launch w svc args env
        Py.modify (record pid)
        log "INFO" (launched pid)
        if ← watchLaunch w svc name 10 0 then do
          log "INFO" checking
          ready
        else pure false) s = .ret true s') ↔ w.spawn svc = none ∧ Survives w svc ∧ R := by
  constructor
  · rintro ⟨s', h⟩
    obtain ⟨pid, _, hl, h⟩ := Py.bind_eq_ret h
    have hs : w.spawn svc = none := by
      cases hsp : w.spawn svc
      · rfl
      · simp [launch, hsp] at hl
    iterate 2 obtain ⟨_, _, -, h⟩ := Py.bind_eq_ret h
    obtain ⟨ok, s₁, hw, h⟩ := Py.bind_eq_ret h
    obtain ⟨_, hw'⟩ := @watchLaunch_ret w svc name 10 0 _
    rw [hw'] at hw
    cases hw
    by_cases hsv : Survives w svc
    · rw [if_pos (survives_iff.2 hsv)] at h
      obtain ⟨_, _, -, h⟩ := Py.bind_eq_ret h
      obtain ⟨b, _, hb, hiff⟩ := hr _
      rw [hb] at h
      cases h
      exact ⟨hs, hsv, hiff.1 rfl⟩
    · rw [if_neg (mt survives_iff.1 hsv)] at h
      cases h
  · rintro ⟨hs, hsv, hR⟩
    refine Py.Returns.exists_bind (fun s => ⟨_, _, launch_of_spawn hs s⟩) (fun _ s₁ => ?_) s
    refine Py.Returns.exists_bind (Py.Returns.modify _) (fun _ s₂ => ?_) _
    refine Py.Returns.exists_bind (Py.Returns.modify _) (fun _ s₃ => ?_) _
    obtain ⟨s₄, hw⟩ := @watchLaunch_ret w svc name 10 0 s₃
    refine Py.exists_bind_of_ret hw ?_
    rw [if_pos (survives_iff.2 hsv)]
    refine Py.Returns.exists_bind (Py.Returns.modify _) (fun _ s₅ => ?_) _
    obtain ⟨b, s₆, hb, hiff⟩ := hr s₅
    exact ⟨s₆, hiff.2 hR ▸ hb⟩

/-- `start_proxy_agent` returns `True` exactly when the binary exists, `Popen` does not fail,
    the agent is still running at the tenth poll, and the readiness loop reports ready. -/
theorem startProxyAgent_true_iff (s : Test) :
    (∃ s', startProxyAgent w s = .ret true s') ↔ w.binaryExists .proxyAgent = true ∧
      w.spawn .proxyAgent = none ∧ Survives w .proxyAgent ∧ Ready w .proxyAgent [200] := by
  constructor
  · rintro ⟨s', h⟩
    obtain ⟨_, _, -, h⟩ := Py.bind_eq_ret h
    rcases Py.tryCatch_eq_ret.1 h with h | ⟨e, _, -, -, h⟩
    swap
    · cases Py.bind_pure_ret h
    cases hb : w.binaryExists .proxyAgent
    · simp only [hb, Bool.not_false, if_true] at h
      obtain ⟨_, _, -, h⟩ := Py.bind_eq_ret h
      cases Py.bind_pure_ret h
    simp only [hb, Bool.not_true, if_false, Bool.false_eq_true] at h
    iterate 3 obtain ⟨_, _, -, h⟩ := Py.bind_eq_ret h
    exact ⟨rfl, (launchAndWait_true_iff proxyReady_spec _).1 ⟨_, h⟩⟩
  · rintro ⟨hb, hrest⟩
    refine Py.Returns.exists_bind (Py.Returns.modify _) (fun _ s₁ => Py.exists_tryCatch ?_) s
    simp only [hb, Bool.not_true, Bool.false_eq_true, if_false]
    refine Py.Returns.exists_bind (Py.Returns.modify _) (fun _ s₂ => ?_) _
    refine Py.Returns.exists_bind (Py.Returns.modify _) (fun _ s₃ => ?_) _
    refine Py.Returns.exists_bind (Py.Returns.forEach (fun _ => Py.Returns.modify _) _)
      (fun _ s₄ => ?_) _
    exact (launchAndWait_true_iff proxyReady_spec _).2 hrest

/-- `start_orchestrator` returns `True` exactly when the binary exists, `shutil.rmtree` does not
    fail on a stale project directory, `Popen` does not fail, the orchestrator is still running
    at the tenth poll, and the readiness loop reports ready. -/
theorem startOrchestrator_true_iff (s : Test) :
    (∃ s', startOrchestrator w s = .ret true s') ↔ w.binaryExists .orchestrator = true ∧
      (w.staleProject = true → w.rmtree = none) ∧ w.spawn .orchestrator = none ∧
      Survives w .orchestrator ∧ Ready w .orchestrator [200, 405] := by
  constructor
  · rintro ⟨s', h⟩
    obtain ⟨_, _, -, h⟩ := Py.bind_eq_ret h
    rcases Py.tryCatch_eq_ret.1 h with h | ⟨e, _, -, -, h⟩
    swap
    · cases Py.bind_pure_ret h
    cases hb : w.binaryExists .orchestrator
    · simp only [hb, Bool.not_false, if_true] at h
      obtain ⟨_, _, -, h⟩ := Py.bind_eq_ret h
      cases Py.bind_pure_ret h
    simp only [hb, Bool.not_true, if_false, Bool.false_eq_true] at h
    -- the stale project directory, removed when present
    have hrm : w.staleProject = true → w.rmtree = none := fun hsp => by
      cases hr : w.rmtree
      · rfl
      · simp only [hsp, if_true, hr] at h
        iterate 2 obtain ⟨_, _, -, h⟩ := Py.bind_eq_ret h
        obtain ⟨_, _, h, -⟩ := Py.bind_eq_ret h
        cases h
    by_cases hsp : w.staleProject = true
    on_goal 1 =>
      simp only [hsp, if_true, hrm hsp] at h
      iterate 2 obtain ⟨_, _, -, h⟩ := Py.bind_eq_ret h
    on_goal 2 => simp only [hsp, if_false, Bool.false_eq_true] at h
    all_goals
      iterate 2 obtain ⟨_, _, -, h⟩ := Py.bind_eq_ret h
      exact ⟨rfl, hrm, (launchAndWait_true_iff graphqlReady_spec _).1 ⟨_, h⟩⟩
  · rintro ⟨hb, hrm, hrest⟩
    refine Py.Returns.exists_bind (Py.Returns.modify _) (fun _ s₁ => Py.exists_tryCatch ?_) s
    simp only [hb, Bool.not_true, Bool.false_eq_true, if_false]
    by_cases hsp : w.staleProject = true
    on_goal 1 =>
      simp only [hsp, if_true, hrm hsp]
      refine Py.Returns.exists_bind (Py.Returns.modify _) (fun _ s₂ => ?_) _
      refine Py.Returns.exists_bind (Py.Returns.modify _) (fun _ s₂ => ?_) _
    on_goal 2 => simp only [hsp, if_false, Bool.false_eq_true]
    all_goals
      refine Py.Returns.exists_bind (Py.Returns.pure _) (fun _ s₂ => ?_) _
      refine Py.Returns.exists_bind (Py.Returns.modify _) (fun _ s₃ => ?_) _
      exact (launchAndWait_true_iff graphqlReady_spec _).2 hrest

end

-- ════════════════════════════════════════════════════════════════════════
-- Start-up sends no test traffic
-- ════════════════════════════════════════════════════════════════════════

/-- Whether an action is a request of the test traffic. -/
def Event.isFetch : Event → Bool
  | .fetch _ => true
  | _ => false

/-- How many requests of the test traffic the trace holds. -/
def fetchCount (s : Test) : Nat := s.trace.countP Event.isFetch

section
variable {w}

theorem keeps_emit {e : Event} (he : e.isFetch = false) : Py.Keeps fetchCount (emit e) :=
  Py.Keeps.modify fun s => by simp [fetchCount, he]

theorem keeps_log (level msg : String) : Py.Keeps fetchCount (log level msg) := keeps_emit rfl

theorem keeps_launch (svc : Service) (args : List String) (env : List (String × String)) :
    Py.Keeps fetchCount (launch w svc args env) := by
  unfold launch
  split
  · exact Py.Keeps.raise _ _
  · exact (keeps_emit (by rfl)).seq (Py.Keeps.pure _ _)

theorem keeps_httpReady (svc : Service) (accepted : List Nat) (texts : ReadyTexts) :
    ∀ n attempt, Py.Keeps fetchCount (httpReady w svc accepted texts n attempt)
  | 0, _ => Py.Keeps.pure _ _
  | n + 1, attempt => by
    have ih := keeps_httpReady svc accepted texts n (attempt + 1)
    refine ((keeps_emit (by rfl)).seq (Py.Keeps.pure _ _)).bind fun p => ?_
    cases p with
    | status code => exact Py.Keeps.ite ((keeps_log _ _).seq (Py.Keeps.pure _ _)) ih
    | refused =>
      exact Py.Keeps.ite ((keeps_log _ _).seq ((keeps_emit (by rfl)).seq ih))
        ((keeps_log _ _).seq (Py.Keeps.pure _ _))

theorem keeps_watchLaunch (svc : Service) (name : String) :
    ∀ n i, Py.Keeps fetchCount (watchLaunch w svc name n i)
  | 0, _ => (keeps_emit (by rfl)).seq (Py.Keeps.pure _ _)
  | n + 1, i => (keeps_emit (by rfl)).seq <| Py.Keeps.ite
      ((keeps_log _ _).seq ((keeps_log _ _).seq (Py.Keeps.pure _ _)))
      ((keeps_emit (by rfl)).seq (keeps_watchLaunch svc name n (i + 1)))

/-- The launch, the wait and the readiness loop that end both start methods. -/
theorem keeps_launchAndWait {svc : Service} {args : List String} {env : List (String × String)}
    {name checking : String} {record : Nat → Test → Test} {launched : Nat → String}
    {ready : Py Test Bool} (hrec : ∀ pid s, fetchCount (record pid s) = fetchCount s)
    (hr : Py.Keeps fetchCount ready) :
    Py.Keeps fetchCount (do
      let pid ← launch w svc args env
      Py.modify (record pid)
      log "INFO" (launched pid)
      if ← watchLaunch w svc name 10 0 then do
        log "INFO" checking
        ready
      else pure false) :=
  (keeps_launch _ _ _).bind fun _ => (Py.Keeps.modify (hrec _)).seq <| (keeps_log _ _).seq <|
    (keeps_watchLaunch _ _ 10 0).bind fun _ =>
      Py.Keeps.ite ((keeps_log _ _).seq hr) (Py.Keeps.pure _ _)

/-- Starting the orchestrator adds no request of the test traffic, however it ends. -/
theorem keeps_startOrchestrator : Py.Keeps fetchCount (startOrchestrator w) := by
  unfold startOrchestrator
  refine (keeps_log _ _).seq (Py.Keeps.tryCatch (Py.Keeps.ite
    ((keeps_log _ _).seq ((keeps_log _ _).seq (Py.Keeps.pure _ _))) (Py.Keeps.ite
      ((keeps_log _ _).seq ((keeps_emit (by rfl)).seq ?_)) ?_)) fun _ =>
    (keeps_log _ _).seq (Py.Keeps.pure _ _))
  -- the stale project directory: `rmtree` raises or not, and then the launch
  on_goal 1 => split
  all_goals refine Py.Keeps.seq (by first | exact Py.Keeps.raise _ _ | exact Py.Keeps.pure _ _) ?_
  all_goals exact (keeps_log _ _).seq <|
    keeps_launchAndWait (fun _ _ => rfl) (keeps_httpReady _ _ _ 5 0)

/-- Starting the proxy agent adds no request of the test traffic, however it ends. -/
theorem keeps_startProxyAgent : Py.Keeps fetchCount (startProxyAgent w) :=
  (keeps_log _ _).seq <| Py.Keeps.tryCatch (Py.Keeps.ite
    ((keeps_log _ _).seq ((keeps_log _ _).seq (Py.Keeps.pure _ _)))
    ((keeps_log _ _).seq <| (keeps_log _ _).seq <| (Py.Keeps.forEach (fun _ => keeps_log _ _) _).seq
      (keeps_launchAndWait (fun _ _ => rfl) (keeps_httpReady _ _ _ 5 0)))) fun _ =>
    (keeps_log _ _).seq (Py.Keeps.pure _ _)

end

end Proxxy.BodyCapture

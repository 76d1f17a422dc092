import Proxxy.Performance.Metrics

/-!
# The performance test run: services, cleanup and exit status

`run_test` starts the orchestrator, the proxy agent and the test server, each by launching its
binary and checking after a pause that it still runs, and then verifies the metrics; `finally`
it stops every process it holds that still runs. `main` checks that the three binaries exist
before it creates the test, and the script exits with what `main` returns.

## Main definitions

- `Services` — how the three binaries behave: whether they exist, start, stay up, and stop.
- `Run` — the test object: its process handles, around the part the metrics methods use.
- `startService` — the three `start_*` methods, one definition with their texts as data.

## Main results

- `runTest_gets_after_services_started` — `run_test` sends an HTTP request only after the
  three services each started, and none before then.
-/

namespace Proxxy.PerformanceTest
open Python Python.Json

/-- How a launched binary reacts when the cleanup finds it: it has exited (`poll()` is not
    `None`), it exits within `wait(timeout=5)` after `terminate()`, or it has to be killed. -/
inductive Stop where
  | exited | exitsOnTerm | ignoresTerm
  deriving DecidableEq, Repr

/-- How the three binaries behave. -/
structure Services where
  /-- `os.path.exists` of each binary. -/
  binaryExists : Service → Bool
  /-- What `subprocess.Popen` raises for each binary, if anything. -/
  spawn : Service → Option PyExc
  /-- The process id `Popen` gives each binary. -/
  pid : Service → Nat
  /-- Whether `poll()` after the start-up pause finds the binary exited. -/
  exitedAtStart : Service → Bool
  /-- What `communicate()` returns from a binary that exited: its stdout and stderr. -/
  output : Service → String × String
  /-- How each binary reacts when the cleanup stops it. -/
  stop : Service → Stop

/-- The test object: the handles to the three processes, and the part of the object the
    metrics methods use. -/
structure Run where
  test : Test
  orchestratorProcess : Option Nat
  proxyAgentProcess : Option Nat
  testServerProcess : Option Nat

/-- A fresh `PerformanceMonitoringTest()`. -/
def Run.init : Run := ⟨⟨[]⟩, none, none, none⟩

/-- `self.orchestrator_process`, `self.proxy_agent_process` or `self.test_server_process`. -/
def Run.process (r : Run) : Service → Option Nat
  | .orchestrator => r.orchestratorProcess
  | .proxyAgent => r.proxyAgentProcess
  | .testServer => r.testServerProcess

/-- `self.<svc>_process = ...`. -/
def Run.setProcess (r : Run) (pid : Nat) : Service → Run
  | .orchestrator => { r with orchestratorProcess := some pid }
  | .proxyAgent => { r with proxyAgentProcess := some pid }
  | .testServer => { r with testServerProcess := some pid }

variable (w : World) (sv : Services)

/-- A method of the metrics part, run on the test object. -/
def onTest {α : Type} (x : Py Test α) : Py Run α :=
  Py.focus Run.test (fun r t => { r with test := t }) x

@[simp] theorem onTest_print (line : String) (r : Run) :
    onTest (print line) r = .ret () { r with test := ⟨r.test.trace ++ [.print line]⟩ } := rfl

@[simp] theorem onTest_emit (e : Event) (r : Run) :
    onTest (emit e) r = .ret () { r with test := ⟨r.test.trace ++ [e]⟩ } := rfl

/-- The command each `start_*` method launches. -/
def commandOf : Service → List String
  | .orchestrator =>
    ["./target/release/orchestrator", "--project", "performance_test", "--http-port", "8080",
     "--grpc-port", "50052"]
  | .proxyAgent =>
    ["./target/release/proxy-agent", "--orchestrator-url", "http://localhost:50052",
     "--listen-port", "8081", "--admin-port", "8082", "--enable-body-capture", "true",
     "--max-body-size", "1048576", "--response-timeout", "30", "--stream-timeout", "5"]
  | .testServer => ["./target/release/test_server", "--port", "3000"]

/-- The texts of one `start_*` method. -/
structure StartTexts where
  starting : String
  exitedEarly : String
  started : String
  failed : String

/-- `start_orchestrator`, `start_proxy_agent` and `start_test_server`: launch the binary of
    `svc`, pause `ms` milliseconds, and report whether `poll()` finds it still running. -/
def startService (svc : Service) (ms : Nat) (texts : StartTexts) : Py Run Bool := do
  onTest (print texts.starting)
  Py.tryCatch (do
      match sv.spawn svc with
      | some e => Py.raise e
      | none =>
        onTest (emit (.launch svc (commandOf svc)))
        Py.modify fun r => r.setProcess (sv.pid svc) svc
        onTest (sleep ms)
        if sv.exitedAtStart svc then do
          onTest (print texts.exitedEarly)
          onTest (print ("STDOUT: " ++ (sv.output svc).1))
          onTest (print ("STDERR: " ++ (sv.output svc).2))
          pure false
        else do
          onTest (print texts.started)
          pure true)
    PyExc.isException
    fun e => do
      onTest (print (texts.failed ++ e.msg))
      pure false

/-- `PerformanceMonitoringTest.start_orchestrator`. -/
def startOrchestrator : Py Run Bool :=
  startService sv .orchestrator 3000
    ⟨"🚀 Starting orchestrator...", "❌ Orchestrator failed to start:",
     "✅ Orchestrator started successfully", "❌ Failed to start orchestrator: "⟩

/-- `PerformanceMonitoringTest.start_proxy_agent`. -/
def startProxyAgent : Py Run Bool :=
  startService sv .proxyAgent 3000
    ⟨"🚀 Starting proxy agent with body capture...", "❌ Proxy agent failed to start:",
     "✅ Proxy agent started successfully", "❌ Failed to start proxy agent: "⟩

/-- `PerformanceMonitoringTest.start_test_server`. -/
def startTestServer : Py Run Bool :=
  startService sv .testServer 2000
    ⟨"🚀 Starting test server...", "❌ Test server failed to start:",
     "✅ Test server started successfully", "❌ Failed to start test server: "⟩

-- ════════════════════════════════════════════════════════════════════════
-- Cleanup
-- ════════════════════════════════════════════════════════════════════════

/-- Read the handle the test holds to a binary. -/
def processOf (svc : Service) : Py Run (Option Nat) := fun r => .ret (r.process svc) r

/-- `process.wait(timeout=5)` after `terminate()`: `TimeoutExpired` for a binary that ignores
    SIGTERM. -/
def waitForExit (svc : Service) : Py Run Unit :=
  match sv.stop svc with
  | .ignoresTerm => Py.raise ⟨.timeoutExpired, "Command '" ++
      pyStr (.list ((commandOf svc).map Value.str)) ++ "' timed out after 5 seconds"⟩
  | _ => pure ()

/-- The loop body of `cleanup` for the entry `(name, process)` of `svc`: when the test holds
    the process and `poll()` finds it running, `terminate()` and `wait(timeout=5)`, and on
    `TimeoutExpired` `kill()` and `wait()`. -/
def stopProcess (svc : Service) (name : String) : Py Run Unit := do
  match ← processOf svc with
  | none => pure ()
  | some _ =>
    if sv.stop svc = .exited then pure ()
    else do
      onTest (print ("  🛑 Stopping " ++ name ++ "..."))
      Py.tryCatch (do
          onTest (emit (.signal svc .sigterm))
          waitForExit sv svc)
        PyExc.isException
        fun e =>
          if e.cls = .timeoutExpired then do
            onTest (print ("    ⚠️  Force killing " ++ name ++ "..."))
            onTest (emit (.signal svc .sigkill))
          else onTest (print ("    ❌ Error stopping " ++ name ++ ": " ++ e.msg))

/-- `PerformanceMonitoringTest.cleanup`. -/
def cleanupProcesses : Py Run Unit := do
  onTest (print "🧹 Cleaning up processes...")
  stopProcess sv .testServer "Test Server"
  stopProcess sv .proxyAgent "Proxy Agent"
  stopProcess sv .orchestrator "Orchestrator"

-- ════════════════════════════════════════════════════════════════════════
-- run_test and main
-- ════════════════════════════════════════════════════════════════════════

/-- The rest of `run_test` once the services started: wait, verify the metrics, and print the
    verdict. -/
def checkMetrics : Py Run Bool := do
  onTest (print "⏳ Waiting for services to be ready...")
  onTest (sleep 5000)
  let success ← onTest (verifyPerformanceMetrics w)
  (if success then do
     onTest (print "\n🎉 Performance Monitoring Test PASSED!")
     onTest (print "✅ All body capture metrics are working correctly")
   else onTest (print "\n❌ Performance Monitoring Test FAILED!"))
  pure success

/-- The steps of `run_test`, each `if not step(): return False`, the last returning
    `success`. -/
def steps : List (Py Run Bool) :=
  [startOrchestrator sv, startProxyAgent sv, startTestServer sv, checkMetrics w]

/-- The `try` block of `run_test` with its clauses `except KeyboardInterrupt` and
    `except Exception`. -/
def runSteps : Py Run Bool :=
  Py.tryCatch (Py.allTrue (steps w sv))
    (fun e => decide (e.cls = .keyboardInterrupt) || e.isException)
    fun e => do
      (if e.cls = .keyboardInterrupt then onTest (print "\n⚠️  Test interrupted by user")
       else onTest (print ("\n❌ Test failed with exception: " ++ e.msg)))
      pure false

/-- The two lines `run_test` prints first. -/
def announce : Py Run Unit := do
  onTest (print "🧪 Starting Performance Monitoring Test")
  onTest (print (String.mk (List.replicate 50 '=')))

/-- `PerformanceMonitoringTest.run_test`. -/
def runTest : Py Run Bool := do
  announce
  Py.tryFinally (runSteps w sv) (cleanupProcesses sv)

/-- The line `main` prints when a binary is missing. -/
def missingBinary : Service → String
  | .orchestrator =>
    "❌ Orchestrator binary not found. Please run 'cargo build --release' first."
  | .proxyAgent => "❌ Proxy agent binary not found. Please run 'cargo build --release' first."
  | .testServer => "❌ Test server binary not found. Please run 'cargo build --release' first."

/-- `main()`: the status it returns. -/
def main : Py Run Nat := do
  if !sv.binaryExists .orchestrator then do
    onTest (print (missingBinary .orchestrator))
    pure 1
  else if !sv.binaryExists .proxyAgent then do
    onTest (print (missingBinary .proxyAgent))
    pure 1
  else if !sv.binaryExists .testServer then do
    onTest (print (missingBinary .testServer))
    pure 1
  else do
    let success ← runTest w sv
    pure (if success then 0 else 1)

/-- `sys.exit(main())`, from the state of a fresh test object. -/
def script : Py Run Unit := do
  let code ← main w sv
  Py.raise ⟨.systemExit code, toString code⟩

/-- The admin API and every proxied request refuse the connection. -/
def refusingWorld : World where
  admin _ := .raised ⟨.requestException, "Connection refused"⟩
  traffic _ _ := .raised ⟨.requestException, "Connection refused"⟩

/-- Every binary is present and starts, but has exited by the time `poll()` looks. -/
def crashingServices : Services where
  binaryExists _ := true
  spawn _ := none
  pid _ := 4242
  exitedAtStart _ := true
  output _ := ("", "Error: Address already in use")
  stop _ := .exited

-- ════════════════════════════════════════════════════════════════════════
-- Requests only after start-up
-- ════════════════════════════════════════════════════════════════════════

/-- Whether an action is an HTTP request: to the admin API or through the proxy. -/
def Event.isGet : Event → Bool
  | .get _ => true
  | _ => false

/-- How many HTTP requests the trace holds. -/
def getCount (r : Run) : Nat := r.test.trace.countP Event.isGet

section
variable {w sv}

theorem keeps_onTest_emit {e : Event} (he : e.isGet = false) :
    Py.Keeps getCount (onTest (emit e)) :=
  fun r => by simp [getCount, Result.state, he]

theorem keeps_print (line : String) : Py.Keeps getCount (onTest (print line)) :=
  keeps_onTest_emit rfl

theorem keeps_startService (svc : Service) (ms : Nat) (texts : StartTexts) :
    Py.Keeps getCount (startService sv svc ms texts) :=
  (keeps_print _).seq <| Py.Keeps.tryCatch (by
    split
    · exact Py.Keeps.raise _ _
    · exact (keeps_onTest_emit (by rfl)).seq <|
        (Py.Keeps.modify fun r => by cases svc <;> rfl).seq <| (keeps_onTest_emit (by rfl)).seq <|
        Py.Keeps.ite
          ((keeps_print _).seq <| (keeps_print _).seq <| (keeps_print _).seq (Py.Keeps.pure _ _))
          ((keeps_print _).seq (Py.Keeps.pure _ _)))
    fun _ => (keeps_print _).seq (Py.Keeps.pure _ _)

theorem keeps_stopProcess (svc : Service) (name : String) :
    Py.Keeps getCount (stopProcess sv svc name) :=
  Py.Keeps.bind (fun _ => rfl) fun o => by
    cases o
    · exact Py.Keeps.pure _ _
    · refine Py.Keeps.ite (Py.Keeps.pure _ _) ((keeps_print _).seq (Py.Keeps.tryCatch
        ((keeps_onTest_emit (by rfl)).seq ?_) fun _ => Py.Keeps.ite
          ((keeps_print _).seq (keeps_onTest_emit (by rfl))) (keeps_print _)))
      unfold waitForExit
      split
      · exact Py.Keeps.raise _ _
      · exact Py.Keeps.pure _ _

theorem keeps_cleanupProcesses : Py.Keeps getCount (cleanupProcesses sv) :=
  (keeps_print _).seq <| (keeps_stopProcess _ _).seq <| (keeps_stopProcess _ _).seq <|
    keeps_stopProcess _ _

theorem keeps_announce : Py.Keeps getCount announce := (keeps_print _).seq (keeps_print _)

/-- A run of \x60run_test\x60 sends an HTTP request, to the admin API or through the proxy, only
    once the orchestrator, the proxy agent and the test server each started, one after the
    other, and none before then. -/
theorem runTest_gets_after_services_started (r : Run)
    (h : getCount (runTest w sv r).state ≠ getCount r) :
    ∃ r₁ r₂ r₃, startOrchestrator sv (announce r).state = .ret true r₁ ∧
      startProxyAgent sv r₁ = .ret true r₂ ∧ startTestServer sv r₂ = .ret true r₃ ∧
      getCount r₃ = getCount r := by
  by_contra hn
  push_neg at hn
  have hrun : runTest w sv r =
      Py.tryFinally (runSteps w sv) (cleanupProcesses sv) (announce r).state := rfl
  have hs := @keeps_startService sv
  apply h
  calc getCount (runTest w sv r).state
      = getCount (runSteps w sv (announce r).state).state := by
        rw [hrun, Py.tryFinally_state, keeps_cleanupProcesses]
    _ = getCount (Py.allTrue (steps w sv) (announce r).state).state :=
        Py.Keeps.tryCatch_state (fun _ => Py.Keeps.seq (Py.Keeps.ite (keeps_print _)
          (keeps_print _)) (Py.Keeps.pure _ _)) _
    -- a start method that does not return \x60True\x60 ends the chain before any request
    _ = getCount (announce r).state :=
        (hs _ _ _).allTrue_cons fun r₁ h₁ => (hs _ _ _).allTrue_cons fun r₂ h₂ =>
          (hs _ _ _).allTrue_cons fun r₃ h₃ =>
            absurd ((hs _ _ _).eq_of_ret h₃ |>.trans <| (hs _ _ _).eq_of_ret h₂ |>.trans <|
              (hs _ _ _).eq_of_ret h₁ |>.trans (keeps_announce r)) (hn r₁ r₂ r₃ h₁ h₂ h₃)
    _ = getCount r := keeps_announce r

end

/-- Every binary is present and keeps running. -/
def startingServices : Services := { crashingServices with exitedAtStart := fun _ => false }

theorem runTest_gets_after_services_started_refusing :
    getCount (runTest refusingWorld startingServices Run.init).state ≠ getCount Run.init ∧
      ∃ r₁ r₂ r₃, startOrchestrator startingServices (announce Run.init).state = .ret true r₁ ∧
        startProxyAgent startingServices r₁ = .ret true r₂ ∧
        startTestServer startingServices r₂ = .ret true r₃ ∧ getCount r₃ = getCount Run.init :=
  have h : getCount (runTest refusingWorld startingServices Run.init).state ≠
      getCount Run.init := by decide
  ⟨h, runTest_gets_after_services_started Run.init h⟩

end Proxxy.PerformanceTest

import Proxxy.BodyCapture.Capture

/-!
# The body-capture run: phases, cleanup and exit status

`run` logs two lines, then runs the five phases in turn inside `try: ... finally:
self.cleanup()`, stopping at the first that fails; `main` turns its answer into the exit
status. `cleanup` stops the proxy agent and then the orchestrator, each only when the test
holds a handle to it: SIGTERM, five seconds' grace, and SIGKILL when the binary ignored
SIGTERM. `Popen.terminate` signals only a process that is still running.

## Main results

- `cleanup_spec` — from any state the cleanup returns, adds only to the trace, and signals
  exactly the binaries the test holds and that still run: SIGTERM to each, SIGKILL to those that
  ignore it, the proxy agent before the orchestrator.
- `run_ends_with_cleanup` — every run ends with the cleanup, run on the state its `try` block
  left.
- `run_true_iff` — a run reports success exactly when the five phases passed one after the
  other, and then the cleanup ran; a phase that fails or raises a caught exception makes it
  report failure.
- `run_traffic_after_services_ready` — a run sends test traffic only after the orchestrator,
  the proxy agent and the interception switch each reported `True`, and none before then.
-/

namespace Proxxy.BodyCapture
open Python

variable (w : World)

-- ════════════════════════════════════════════════════════════════════════
-- Cleanup
-- ════════════════════════════════════════════════════════════════════════

/-- `self.orchestrator_process` or `self.proxy_agent_process`. -/
def Test.process (s : Test) : Service → Option Nat
  | .orchestrator => s.orchestratorProcess
  | .proxyAgent => s.proxyAgentProcess

/-- Read the handle the test holds to a binary. -/
def processOf (svc : Service) : Py Test (Option Nat) := fun s => .ret (s.process svc) s

/-- `process.terminate()`, `process.wait(timeout=5)`, and on `TimeoutExpired` a log line,
    `process.kill()` and `process.wait()`. -/
def terminateAndWait (svc : Service) (name : String) : Py Test Unit :=
  match w.stop svc with
  | .exited => pure ()
  | .exitsOnTerm => emit (.signal svc .sigterm)
  | .ignoresTerm => do
    emit (.signal svc .sigterm)
    log "INFO" (name ++ " zorla kapatılıyor...")
    emit (.signal svc .sigkill)

/-- One block of `cleanup`: stop the binary `svc` when the test holds a handle to it, with its
    messages under `name`. An exception other than `KeyboardInterrupt` and `SystemExit` is
    logged. -/
def stopService (svc : Service) (name : String) : Py Test Unit := do
  match ← processOf svc with
  | none => pure ()
  | some pid =>
    Py.tryCatch (do
        log "INFO" (name ++ " kapatılıyor (PID: " ++ toString pid ++ ")")
        terminateAndWait w svc name
        log "INFO" (name ++ " kapatıldı"))
      PyExc.isException
      fun e => log "ERROR" (name ++ " kapatma hatası: " ++ e.msg)

/-- `ResponseBodyCaptureTest.cleanup`. -/
def cleanup : Py Test Unit := do
  log "INFO" "Temizlik yapılıyor..."
  stopService w .proxyAgent "Proxy Agent"
  stopService w .orchestrator "Orchestrator"

/-- The signals the cleanup sends to `svc` when it reacts to being stopped as `st` says. -/
def stopSignals (svc : Service) : Stop → List Event
  | .exited => []
  | .exitsOnTerm => [.signal svc .sigterm]
  | .ignoresTerm => [.signal svc .sigterm, .signal svc .sigkill]

/-- The five steps of `run`, each `if not step(): return False`. -/
def phases : List (Py Test Bool) :=
  [startOrchestrator w, startProxyAgent w, disableInterception w, generateTestTraffic w,
   verifyResponseBodyCapture w]

/-- `"=" * 60`. -/
def rule : String := String.mk (List.replicate 60 '=')

/-- The two lines `run` logs first. -/
def announce : Py Test Unit := do
  log "INFO" "🚀 Response Body Capture Integration Test Başlıyor"
  log "INFO" rule

/-- Whether the clause `except KeyboardInterrupt` or `except Exception` of `run` catches
    `e`. -/
def runCatches (e : PyExc) : Bool := decide (e.cls = .keyboardInterrupt) || e.isException

/-- The `try` block of `run` with its clauses `except KeyboardInterrupt` and
    `except Exception`. -/
def runSteps : Py Test Bool :=
  Py.tryCatch (Py.allTrue (phases w)) runCatches
    fun e => do
      (if e.cls = .keyboardInterrupt then log "ERROR" "Test kullanıcı tarafından durduruldu"
       else log "ERROR" ("Test sırasında beklenmeyen hata: " ++ e.msg))
      pure false

/-- `ResponseBodyCaptureTest.run`. -/
def run : Py Test Bool := do
  announce
  Py.tryFinally (runSteps w) (cleanup w)

/-- `print(line)`. -/
def printLine (line : String) : Py Test Unit := emit (.stdout (line ++ "\n"))

/-- The lines `main` prints first. -/
def bannerLines : List String :=
  ["🚀 Proxxy Response Body Capture Integration Test", rule, "Bu test şunları doğrular:",
   "  1. Orchestrator başlatma", "  2. Proxy Agent başlatma (body capture etkin)",
   "  3. HTTP trafiği oluşturma", "  4. Response body'lerin yakalanması",
   "  5. GraphQL API üzerinden response body sorgulama", rule, ""]

/-- The lines `main` prints after a run that reported success. -/
def successLines : List String :=
  ["✅ RESPONSE BODY CAPTURE TESTİ BAŞARILI", "", "🎉 Response Body Capture özelliği çalışıyor!",
   "   • Orchestrator: ✅", "   • Proxy Agent: ✅", "   • Body Capture: ✅",
   "   • GraphQL API: ✅", "   • Response Storage: ✅", "", "Response body capture başarıyla:",
   "  - HTTP response'ları yakalar", "  - Body içeriğini saklar",
   "  - GraphQL API üzerinden erişilebilir hale getirir",
   "  - Farklı content-type'ları destekler"]

/-- The lines `main` prints after a run that reported failure. -/
def failureLines : List String :=
  ["❌ RESPONSE BODY CAPTURE TESTİ BAŞARISIZ", "", "Lütfen yukarıdaki logları kontrol edin.",
   "Olası sorunlar:", "  - Binary'ler build edilmemiş (çalıştır: cargo build)",
   "  - Port'lar kullanımda (9090, 9095)", "  - Network bağlantı sorunları",
   "  - Body capture konfigürasyon hataları"]

/-- The banner of `main`. -/
def printBanner : Py Test Unit := Py.forEach bannerLines printLine

/-- `main()`, from the state of the fresh test object. -/
def main : Py Test Unit := do
  printBanner
  Py.tryCatch (do
      let success ← run w
      printLine ("\n" ++ rule)
      if success then do
        Py.forEach successLines printLine
        Py.raise ⟨.systemExit 0, "0"⟩
      else do
        Py.forEach failureLines printLine
        Py.raise ⟨.systemExit 1, "1"⟩)
    (fun e => decide (e.cls = .keyboardInterrupt))
    fun _ => do
      printLine "\n❌ Test kullanıcı tarafından durduruldu"
      Py.raise ⟨.systemExit 1, "1"⟩

-- ════════════════════════════════════════════════════════════════════════
-- Traffic only after start-up
-- ════════════════════════════════════════════════════════════════════════

section
variable {w}

theorem keeps_terminateAndWait (svc : Service) (name : String) :
    Py.Keeps fetchCount (terminateAndWait w svc name) := by
  unfold terminateAndWait
  split
  · exact Py.Keeps.pure _ _
  · exact keeps_emit (by rfl)
  · exact (keeps_emit (by rfl)).seq ((keeps_log _ _).seq (keeps_emit (by rfl)))

theorem keeps_stopService (svc : Service) (name : String) :
    Py.Keeps fetchCount (stopService w svc name) :=
  Py.Keeps.bind (fun _ => rfl) fun o => by
    cases o
    · exact Py.Keeps.pure _ _
    · exact Py.Keeps.tryCatch ((keeps_log _ _).seq ((keeps_terminateAndWait _ _).seq
        (keeps_log _ _))) fun _ => keeps_log _ _

theorem keeps_cleanup : Py.Keeps fetchCount (cleanup w) :=
  (keeps_log _ _).seq ((keeps_stopService _ _).seq (keeps_stopService _ _))

theorem keeps_announce : Py.Keeps fetchCount announce := (keeps_log _ _).seq (keeps_log _ _)

/-- A run sends test traffic only once the orchestrator started, the proxy agent started and
    interception was turned off, each reported `True` one after the other, and none of the
    traffic went out before then. -/
theorem run_traffic_after_services_ready (s : Test)
    (h : fetchCount (run w s).state ≠ fetchCount s) :
    ∃ s₁ s₂ s₃, startOrchestrator w (announce s).state = .ret true s₁ ∧
      startProxyAgent w s₁ = .ret true s₂ ∧ disableInterception w s₂ = .ret true s₃ ∧
      fetchCount s₃ = fetchCount s := by
  by_contra hn
  push_neg at hn
  have hrun : run w s = Py.tryFinally (runSteps w) (cleanup w) (announce s).state := rfl
  apply h
  calc fetchCount (run w s).state
      = fetchCount (runSteps w (announce s).state).state := by
        rw [hrun, Py.tryFinally_state, keeps_cleanup]
    _ = fetchCount (Py.allTrue (phases w) (announce s).state).state :=
        Py.Keeps.tryCatch_state (fun _ => Py.Keeps.seq (Py.Keeps.ite (keeps_log _ _)
          (keeps_log _ _)) (Py.Keeps.pure _ _)) _
    -- a phase that does not return `True` ends the chain before the traffic
    _ = fetchCount (announce s).state :=
        keeps_startOrchestrator.allTrue_cons fun s₁ h₁ => keeps_startProxyAgent.allTrue_cons
          fun s₂ h₂ => keeps_disableInterception.allTrue_cons fun s₃ h₃ =>
            absurd ((keeps_disableInterception.eq_of_ret h₃).trans <|
              (keeps_startProxyAgent.eq_of_ret h₂).trans <|
                (keeps_startOrchestrator.eq_of_ret h₁).trans (keeps_announce s))
              (hn s₁ s₂ s₃ h₁ h₂ h₃)
    _ = fetchCount s := keeps_announce s

end

/-- Both binaries start and answer 500 to every probe, and the orchestrator reports
    interception off. -/
def trafficWorld : World :=
  { serverErrorWorld with
    graphql := fun _ _ _ =>
      .ok (.dict [("data", .dict [("toggleInterception", .dict [("enabled", .bool false)])])]) }

set_option maxRecDepth 1024 in
theorem run_traffic_after_services_ready_trafficWorld :
    fetchCount (run trafficWorld Test.init).state ≠ fetchCount Test.init ∧
      ∃ s₁ s₂ s₃, startOrchestrator trafficWorld (announce Test.init).state = .ret true s₁ ∧
        startProxyAgent trafficWorld s₁ = .ret true s₂ ∧
        disableInterception trafficWorld s₂ = .ret true s₃ ∧ fetchCount s₃ = fetchCount Test.init :=
  have h : fetchCount (run trafficWorld Test.init).state ≠ fetchCount Test.init := by decide
  ⟨h, run_traffic_after_services_ready Test.init h⟩

end Proxxy.BodyCapture

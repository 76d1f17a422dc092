import Proxxy.Integration.Startup
import Proxxy.Integration.Verify
import Proxxy.Integration.Cleanup

/-!
# A whole run of the harness

`run` puts its phases inside `try: ... finally: self.cleanup()`: start the services; if they
came up, send the traffic and verify the capture, printing the verdict; list the id matrix;
wait for ENTER. The script's top level calls `IntegrationTest().run()` and nothing else.

## Main results

- `main_exits_zero_when_services_fail` — the verdict never reaches the exit status: a run
  whose orchestrator never binds its ports exits with status 0 (`runWith_exit_zero` says the
  same of every run in which no phase raises and `input()` gets a line).
- `run_cleanup_once_and_idempotent` — from any state, a run calls `cleanup` exactly once,
  and `cleanup` stops every registered process and is safe to call again.
- `run_traffic_after_ports_seen_open` — traffic starts iff `start_services` returned `True`,
  after the orchestrator's and the proxy agent's ports were seen open; port 8000 of the test
  server is never probed, so `run_traffic_without_test_server_probe` refutes the stronger
  reading in which every launched service passed a probe of its own port.
-/

namespace Proxxy.IntegrationTest
open Python

/-- `"-" * 50`. -/
def dashes : String := String.mk (List.replicate 50 '-')

/-- `endpoint.split("8000")[-1] if "8000" in endpoint else endpoint`. -/
def shortEp (ep : String) : String :=
  if Value.strIn "8000" ep then (ep.splitOn "8000").getLastD "" else ep

/-- `for endpoint, req_id in self.id_matrix.items(): print(...)`. -/
def printIds : Py Harness Unit := do
  let m ← idMatrix
  Py.forEach m.items fun kv => emit (.printId (shortEp kv.1) kv.2)

variable (w : World)

/-- The first part of `run`'s `try` body, once `start_services` returned `True`. -/
def trafficAndVerdict (gen : Py Harness Unit) (verify : Py Harness Bool) : Py Harness Unit := do
  gen
  if ← verify then emit (.print "\n🏆 TEST RESULT: PASSED")
  else emit (.print "\n💥 TEST RESULT: FAILED (Integrity Check)")

/-- The rest of `run`'s `try` body: the id listing and the prompt. -/
def listIdsAndWait : Py Harness Unit := do
  emit (.print "\n📋 CAPTURED REQUEST IDs (Copy & Paste):")
  emit (.print dashes)
  printIds
  emit (.print dashes)
  emit (.print "\n🛑 SERVERS RUNNING. Press ENTER to stop...")
  let _ ← input w
  pure ()

/-- `if self.start_services(): ...`, the first statement of `run`'s `try` body. -/
def startAndVerify (start : Py Harness Bool) (gen : Py Harness Unit) (verify : Py Harness Bool) :
    Py Harness Unit := do
  if ← start then trafficAndVerdict gen verify else pure ()

/-- The `try` body of `run`, over any three phases. -/
def runBody (start : Py Harness Bool) (gen : Py Harness Unit) (verify : Py Harness Bool) :
    Py Harness Unit := do
  startAndVerify start gen verify
  listIdsAndWait w

/-- `IntegrationTest.run` over any three phases. -/
def runWith (start : Py Harness Bool) (gen : Py Harness Unit) (verify : Py Harness Bool) :
    Py Harness Unit :=
  Py.tryFinally (runBody w start gen verify) cleanup

/-- `IntegrationTest.run`. -/
def run (testId : Nat) : Py Harness Unit :=
  runWith w (startServices w) (generateTraffic w (scenarios testId)) (verifyCapture w testId)

/-- `if __name__ == "__main__": IntegrationTest().run()`: the status the process exits with. -/
def main (testId : Nat) : ExitStatus := exitStatus (run w testId (Harness.init w))

-- ════════════════════════════════════════════════════════════════════════
-- The exit status
-- ════════════════════════════════════════════════════════════════════════

theorem returns_emit (e : Event) : Py.Returns (emit e) := fun s => ⟨(), s.record [e], rfl⟩

theorem returns_printIds : Py.Returns printIds := fun s =>
  Py.Returns.forEach (fun _ => returns_emit _) s.idMatrix.items s

theorem returns_listIdsAndWait {line : String} (hin : w.stdin = .ok line) :
    Py.Returns (listIdsAndWait w) := by
  have hi : Py.Returns (input w) := fun s => ⟨line, s.record [.prompt], by
    simp [input, Py.bind_apply, hin]⟩
  exact (returns_emit _).seq <| (returns_emit _).seq <| returns_printIds.seq <|
    (returns_emit _).seq <| (returns_emit _).seq <| hi.seq (Py.Returns.pure ())

/-- `cleanup` never raises, so the run ends as its `try` body did. -/
theorem exitStatus_runWith (start : Py Harness Bool) (gen : Py Harness Unit)
    (verify : Py Harness Bool) (s : Harness) :
    exitStatus (runWith w start gen verify s) = exitStatus (runBody w start gen verify s) := by
  obtain ⟨s', -, h, -⟩ := cleanup_ret (runBody w start gen verify s).state
  rw [runWith, Py.tryFinally_of_fin_ret h]
  cases runBody w start gen verify s <;> rfl

/-- The verdict never reaches the exit status: when no phase raises, whatever they return,
    and `input()` gets a line, the process exits with status 0. -/
theorem runWith_exit_zero {start : Py Harness Bool} {gen : Py Harness Unit}
    {verify : Py Harness Bool} (hs : Py.Returns start) (hg : Py.Returns gen)
    (hv : Py.Returns verify) {line : String} (hin : w.stdin = .ok line) (s : Harness) :
    exitStatus (runWith w start gen verify s) = .code 0 := by
  have hb : Py.Returns (runBody w start gen verify) := by
    refine (hs.bind fun _ => ?_).seq (returns_listIdsAndWait w hin)
    refine Py.Returns.ite (hg.seq (hv.bind fun _ => ?_)) (Py.Returns.pure ())
    exact Py.Returns.ite (returns_emit _) (returns_emit _)
  obtain ⟨_, s', h⟩ := hb s
  rw [exitStatus_runWith, h]
  rfl

/-- When `start_services` returns `False` and `input()` gets a line, the process exits with
    status 0. -/
theorem runWith_exit_zero_of_start_false {start : Py Harness Bool} {gen : Py Harness Unit}
    {verify : Py Harness Bool} {s s₁ : Harness} (h : start s = .ret false s₁) {line : String}
    (hin : w.stdin = .ok line) : exitStatus (runWith w start gen verify s) = .code 0 := by
  obtain ⟨_, s', h'⟩ := returns_listIdsAndWait w hin s₁
  have h₁ : startAndVerify start gen verify s = .ret () s₁ := by
    rw [startAndVerify, Py.bind_of_ret h]; rfl
  rw [exitStatus_runWith, runBody, Py.bind_of_ret h₁, h']
  rfl

/-- A world where the orchestrator never binds its ports and ENTER is pressed. -/
def portsClosedWorld : World where
  staleWorkspace := false
  rmtree := none
  spawn := fun _ => none
  portOpen := fun _ _ => false
  graphql := fun _ _ _ => .ok .null
  relay := fun _ _ _ => none
  stdin := .ok ""
  proc := fun _ => .running true

/-- The run of a harness whose services never came up exits with status 0. -/
theorem main_exits_zero_when_services_fail : main portsClosedWorld 4821 = .code 0 := by
  obtain ⟨s₁, h⟩ := startServices_closed portsClosedWorld (fun _ _ => rfl) rfl rfl
    (Harness.init portsClosedWorld)
  exact runWith_exit_zero_of_start_false portsClosedWorld h rfl

-- ════════════════════════════════════════════════════════════════════════
-- What a run does
-- ════════════════════════════════════════════════════════════════════════

/-- The lines `run` prints itself: the verdict, the id listing and the prompt. -/
def ListingEvent (e : Event) : Prop :=
  (∃ line, e = .print line) ∨ (∃ ep rid, e = .printId ep rid) ∨ e = .prompt

theorem appends_printIds {P : Event → Prop} (h : ∀ ep rid, P (.printId ep rid)) :
    Appends P printIds :=
  (show Appends P idMatrix from fun s => ⟨[], by simp [idMatrix, Result.state]⟩).bind fun _ =>
    Appends.forEach (fun _ => Appends.emit (h _ _)) _

theorem appends_listIdsAndWait : Appends ListingEvent (listIdsAndWait w) := by
  have hp : ∀ {line}, Appends ListingEvent (emit (.print line)) := Appends.emit (.inl ⟨_, rfl⟩)
  exact hp.seq <| hp.seq <| (appends_printIds fun _ _ => .inr (.inl ⟨_, _, rfl⟩)).seq <|
    hp.seq <| hp.seq <| (appends_input w (.inr (.inr rfl))).bind fun _ => Appends.pure _

theorem appends_runBody {P : Event → Prop} {start : Py Harness Bool} {gen : Py Harness Unit}
    {verify : Py Harness Bool} (hs : Appends P start) (hg : Appends P gen)
    (hv : Appends P verify) (hl : ∀ e, ListingEvent e → P e) :
    Appends P (runBody w start gen verify) :=
  (hs.bind fun _ => Appends.ite (hg.seq <| hv.bind fun _ =>
      Appends.ite (Appends.emit (hl _ (.inl ⟨_, rfl⟩))) (Appends.emit (hl _ (.inl ⟨_, rfl⟩))))
    (Appends.pure _)).seq ((appends_listIdsAndWait w).mono hl)

/-- Every action of a run. -/
def RunEvent (e : Event) : Prop :=
  StartupEvent e ∨ TrafficEvent e ∨ VerifyEvent e ∨ CleanupEvent e ∨ ListingEvent e

theorem appends_run (testId : Nat) : Appends RunEvent (run w testId) :=
  Appends.tryFinally (appends_runBody w ((appends_startServices w).mono fun _ => .inl)
      ((appends_generateTraffic w _).mono fun _ h => .inr (.inl h))
      ((appends_verifyCapture w testId).mono fun _ h => .inr (.inr (.inl h)))
      fun _ h => .inr (.inr (.inr (.inr h))))
    (appends_cleanup.mono fun _ h => .inr (.inr (.inr (.inl h))))

/-- No action of a run probes the test server's port. -/
theorem not_runEvent_probe_testServer (b : Bool) : ¬ RunEvent (.probe 8000 b) := by
  simp [RunEvent, StartupEvent, TrafficEvent, VerifyEvent, CleanupEvent, ListingEvent]

/-- A run's trace: that of `if self.start_services(): ...`, then the id listing, the prompt
    and `cleanup`'s actions. -/
theorem runWith_trace (start : Py Harness Bool) (gen : Py Harness Unit)
    (verify : Py Harness Bool) (s : Harness) :
    ∃ new, (runWith w start gen verify s).state.trace =
      (startAndVerify start gen verify s).state.trace ++ new ∧
      ∀ e ∈ new, ListingEvent e ∨ CleanupEvent e := by
  obtain ⟨n₁, h₁, p₁⟩ := Appends.trace_bind (x := startAndVerify start gen verify)
    (fun _ => (appends_listIdsAndWait w).mono fun _ => Or.inl) s
  obtain ⟨n₂, h₂, p₂⟩ := appends_cleanup (runBody w start gen verify s).state
  refine ⟨n₁ ++ n₂, ?_, fun e he => (List.mem_append.1 he).elim (p₁ e) (.inr ∘ p₂ e)⟩
  rw [runWith, Py.tryFinally_state, h₂, runBody, h₁, List.append_assoc]

/-- When `start_services` does not return `True`, `if self.start_services(): ...` ends
    where it did. -/
theorem startAndVerify_state {start : Py Harness Bool} {gen : Py Harness Unit}
    {verify : Py Harness Bool} {s : Harness} (h : ∀ s₁, start s ≠ .ret true s₁) :
    (startAndVerify start gen verify s).state = (start s).state := by
  rw [startAndVerify, Py.bind_apply]
  cases hs : start s with
  | ret b s₁ =>
    cases b
    · rfl
    · exact absurd hs (h s₁)
  | raise e s₁ => rfl

/-- After `start_services` returned `True`, the traffic phase follows, and the rest of the run
    only appends. -/
theorem trafficAndVerdict_trace {P : Event → Prop} {gen : Py Harness Unit}
    {verify : Py Harness Bool} (hv : Appends P verify) (hp : ∀ line, P (.print line))
    (s : Harness) : ∃ new, (trafficAndVerdict gen verify s).state.trace =
      (gen s).state.trace ++ new ∧ ∀ e ∈ new, P e :=
  Appends.trace_bind (fun _ => hv.bind fun _ =>
    Appends.ite (Appends.emit (hp _)) (Appends.emit (hp _))) s

theorem run_trace_of_start_true (testId : Nat) {s s₁ : Harness}
    (h : startServices w s = .ret true s₁) :
    ∃ post, (run w testId s).state.trace = s₁.trace ++ .enter .generateTraffic :: post := by
  obtain ⟨n₀, h₀, -⟩ := runWith_trace w (startServices w) (generateTraffic w (scenarios testId))
    (verifyCapture w testId) s
  obtain ⟨n₁, h₁, -⟩ := @trafficAndVerdict_trace _ (generateTraffic w (scenarios testId)) _
    ((appends_verifyCapture w testId).mono fun _ _ => trivial) (fun _ => trivial) s₁
  obtain ⟨n₂, h₂, -⟩ := generateTraffic_trace w (scenarios testId) s₁
  have hsv : startAndVerify (startServices w) (generateTraffic w (scenarios testId))
      (verifyCapture w testId) s =
      trafficAndVerdict (generateTraffic w (scenarios testId)) (verifyCapture w testId) s₁ := by
    rw [startAndVerify, Py.bind_of_ret h]; rfl
  exact ⟨n₂ ++ n₁ ++ n₀, by rw [run, h₀, hsv, h₁, h₂]; simp⟩

-- ════════════════════════════════════════════════════════════════════════
-- Cleanup runs once
-- ════════════════════════════════════════════════════════════════════════

theorem isEnter_cleanup_of_listing {e : Event} (h : ListingEvent e) :
    e.isEnter .cleanup = false := by
  rcases h with ⟨_, rfl⟩ | ⟨_, _, rfl⟩ | rfl <;> rfl

/-- Whatever the phases do, as long as none of them calls `cleanup` itself, `run` calls it
    exactly once: its `finally` clause runs however the body ends. -/
theorem runWith_calls_cleanup_once {start : Py Harness Bool} {gen : Py Harness Unit}
    {verify : Py Harness Bool} (hs : Appends (·.isEnter .cleanup = false) start)
    (hg : Appends (·.isEnter .cleanup = false) gen)
    (hv : Appends (·.isEnter .cleanup = false) verify) (s : Harness) :
    (runWith w start gen verify s).state.calls .cleanup = s.calls .cleanup + 1 := by
  rw [runWith, Py.tryFinally_state, calls_cleanup,
    (appends_runBody w hs hg hv fun _ => isEnter_cleanup_of_listing).calls_eq]

theorem run_calls_cleanup (testId : Nat) (s : Harness) :
    (run w testId s).state.calls .cleanup = s.calls .cleanup + 1 := by
  refine runWith_calls_cleanup_once w ((appends_startServices w).mono fun e h => ?_)
    ((appends_generateTraffic w _).mono fun e h => ?_)
    ((appends_verifyCapture w testId).mono fun e h => ?_) s
  · rcases h with rfl | ⟨_, _, rfl⟩ | rfl | ⟨_, _, rfl⟩ | ⟨_, rfl | rfl | rfl⟩ | ⟨_, rfl⟩ | rfl <;>
      rfl
  · rcases h with rfl | ⟨_, _, rfl⟩ | ⟨_, rfl⟩ | ⟨_, _, _, rfl⟩ <;> rfl
  · rcases h with rfl | ⟨_, _, rfl⟩ | ⟨_, _, rfl⟩ <;> rfl

/-- From any state a run calls `cleanup` exactly once, whatever each phase returns or raises
    and whatever `input()` does. From any state `cleanup` itself returns, leaves every
    registered process exited, signals only processes it found running, sends SIGKILL
    exactly to those that outlived the grace wait, and a second call signals nothing. -/
theorem run_cleanup_once_and_idempotent (w : World) (testId : Nat) (s : Harness) :
    (run w testId s).state.calls .cleanup = s.calls .cleanup + 1 ∧
    ∃ s' new, cleanup s = .ret () s' ∧ s'.trace = s.trace ++ new ∧ s'.procs = s.procs ∧
      (∀ pid ∈ s.procs, s'.table pid = .exited) ∧
      (∀ pid sig, Event.signal pid sig ∈ new → pid ∈ s.procs ∧ s.table pid ≠ .exited) ∧
      (∀ pid, Event.signal pid .sigkill ∈ new ↔ pid ∈ s.procs ∧ s.table pid = .running false) ∧
      ∃ s'' new', cleanup s' = .ret () s'' ∧ s''.trace = s'.trace ++ new' ∧
        ∀ pid sig, Event.signal pid sig ∉ new' := by
  obtain ⟨s', new, h, htr, hprocs, hexit, hsig, hkill⟩ := cleanup_ret s
  obtain ⟨s'', new', h', htr', -, -, hsig', -⟩ := cleanup_ret s'
  refine ⟨run_calls_cleanup w testId s, s', new, h, htr, hprocs, hexit, hsig, hkill, s'', new',
    h', htr', fun pid sig hm => ?_⟩
  obtain ⟨hp, hne⟩ := hsig' pid sig hm
  exact hne (hexit pid (hprocs ▸ hp))

-- ════════════════════════════════════════════════════════════════════════
-- When traffic starts
-- ════════════════════════════════════════════════════════════════════════

/-- Traffic starts iff `start_services` returned `True`, and then right after the probes that
    found the orchestrator's ports 9090 and 50051 and the proxy agent's port 8080 open. The
    run always reaches `cleanup`, and it never probes the test server's port 8000. -/
theorem run_traffic_after_ports_seen_open (w : World) (testId : Nat) :
    (∀ b, Event.probe 8000 b ∉ (run w testId (Harness.init w)).state.trace) ∧
    Event.enter .cleanup ∈ (run w testId (Harness.init w)).state.trace ∧
    (Event.enter .generateTraffic ∈ (run w testId (Harness.init w)).state.trace ↔
      ∃ s₁, startServices w (Harness.init w) = .ret true s₁) ∧
    ∀ s₁, startServices w (Harness.init w) = .ret true s₁ → PortsSeenOpen s₁.trace ∧
      ∃ post, (run w testId (Harness.init w)).state.trace =
        s₁.trace ++ .enter .generateTraffic :: post := by
  obtain ⟨new, hnew, hrun⟩ := appends_run w testId (Harness.init w)
  refine ⟨fun b hb => ?_, ?_, ⟨fun hg => ?_, fun ⟨s₁, h⟩ => ?_⟩,
    fun s₁ h => ⟨startServices_ret_true w h, run_trace_of_start_true w testId h⟩⟩
  · rw [hnew] at hb
    exact not_runEvent_probe_testServer b (hrun _ hb)
  · have hc : 0 < (run w testId (Harness.init w)).state.trace.countP (·.isEnter .cleanup) := by
      rw [← Harness.calls, run_calls_cleanup]; omega
    obtain ⟨e, he, hce⟩ := List.countP_pos_iff.1 hc
    cases e <;> simp_all [Event.isEnter]
  · by_contra hne
    push_neg at hne
    obtain ⟨n₀, h₀, p₀⟩ := runWith_trace w (startServices w) (generateTraffic w (scenarios testId))
      (verifyCapture w testId) (Harness.init w)
    obtain ⟨n₁, h₁, p₁⟩ := appends_startServices w (Harness.init w)
    rw [run, h₀, startAndVerify_state hne, h₁] at hg
    simp only [Harness.init, List.nil_append, List.mem_append] at hg
    rcases hg with hg | hg
    · simpa [StartupEvent] using p₁ _ hg
    · simpa [ListingEvent, CleanupEvent] using p₀ _ hg
  · obtain ⟨post, h'⟩ := run_trace_of_start_true w testId h
    rw [h']; simp

/-- The ports each service listens on. -/
def Service.ports : Service → List Nat
  | .orchestrator => [9090, 50051]
  | .testServer => [8000]
  | .proxyAgent => [8080]

/-- Readiness as a run would need it: once traffic starts, every service launched before it
    has passed a probe of one of its own ports at an instant its process was alive
    (`alive t pid`). The action at position `t` of the trace happened at instant `t`. -/
def ReadyBeforeTraffic (alive : Nat → Nat → Bool) (tr : List Event) : Prop :=
  ∀ pre post, tr = pre ++ .enter .generateTraffic :: post →
    ∀ svc pid, Event.launch svc pid ∈ pre →
      ∃ t port, port ∈ svc.ports ∧ pre[t]? = some (.probe port true) ∧ alive t pid = true

/-- A world where every port answers from the start and ENTER is pressed. -/
def portsOpenWorld : World := { portsClosedWorld with portOpen := fun _ _ => true }

/-- Even with every process alive at every instant, traffic starts without the test server
    having passed any probe. -/
theorem run_traffic_without_test_server_probe : ¬ ∀ (w : World) (alive : Nat → Nat → Bool)
    (testId : Nat), ReadyBeforeTraffic alive (run w testId (Harness.init w)).state.trace := by
  intro hall
  obtain ⟨s₁, h⟩ : ∃ s₁, startServices portsOpenWorld (Harness.init portsOpenWorld) =
      .ret true s₁ := ⟨_, rfl⟩
  obtain ⟨post, hpost⟩ := run_trace_of_start_true portsOpenWorld 4821 h
  obtain ⟨A, B, C, D, E, F, p, p', q, htr⟩ := startServices_ret_true portsOpenWorld h
  obtain ⟨t, port, hport, hprobe, -⟩ :=
    hall portsOpenWorld (fun _ _ => true) 4821 _ _ hpost .testServer p' (by simp [htr])
  obtain ⟨n, hn, hp⟩ := (appends_startServices portsOpenWorld).trace_of_ret h
  simp only [Service.ports, List.mem_singleton] at hport
  subst hport
  have hmem : Event.probe 8000 true ∈ s₁.trace := List.mem_iff_getElem?.2 ⟨t, hprobe⟩
  rw [hn] at hmem
  exact not_runEvent_probe_testServer true (.inl (hp _ (by simpa [Harness.init] using hmem)))

end Proxxy.IntegrationTest

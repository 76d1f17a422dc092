import Proxxy.Integration.Harness

/-!
# Starting the services

`start_services` launches the orchestrator, the test server and the proxy agent, in that
order. It waits for the orchestrator's ports 9090 and 50051 and for the proxy agent's port
8080 by probing them once a second, and returns `False` when a port loop runs out. The test
server gets a fixed two-second sleep and no probe, and no probe asks whether the launched
process is still running.

A port loop sleeps after every closed round, its last one included, so the whole start-up
sleeps 26 seconds at most (`startServices_sleeps_at_most`), not the 27 its three waits add up to.
-/

namespace Proxxy.IntegrationTest
open Python

variable (w : World)

/-- `if os.path.exists(dir): shutil.rmtree(dir)` for the project directory of the run. -/
def removeStaleWorkspace : Py Harness Unit :=
  if w.staleWorkspace then do
    emit .removeWorkspace
    match w.rmtree with
    | none => pure ()
    | some e => Py.raise e
  else pure ()

/-- `self.check_port(p₁) and self.check_port(p₂) and ...`, stopping at the first closed port. -/
def portsOpen : List Nat → Py Harness Bool
  | [] => pure true
  | p :: ps => do
    if ← checkPort w p then portsOpen ps else pure false

/-- `for _ in range(n): if <ports open>: break; time.sleep(1)`. True when the loop breaks,
    false when it runs out and reaches its `else` clause. -/
def waitForPorts (ports : List Nat) : Nat → Py Harness Bool
  | 0 => pure false
  | n + 1 => do
    if ← portsOpen w ports then pure true
    else do
      sleep 1000
      waitForPorts ports n

/-- The mutation `start_services` sends once every port answered. -/
def toggleInterceptionOff : String :=
  "mutation \x7b toggleInterception(enabled: false) \x7b enabled \x7d \x7d"

/-- `IntegrationTest.start_services`. -/
def startServices : Py Harness Bool := do
  emit (.enter .startServices)
  log "INFO" "🚀 Starting Services..."
  removeStaleWorkspace w
  log "INFO" "   Starting Orchestrator..."
  launch w .orchestrator
  if ← waitForPorts w [9090, 50051] 15 then
    log "INFO" "   Starting Test Server..."
    launch w .testServer
    sleep 2000
    log "INFO" "   Starting Proxy Agent..."
    launch w .proxyAgent
    if ← waitForPorts w [8080] 10 then
      log "INFO" "   ✅ All Services Ready"
      let _ ← graphql w toggleInterceptionOff (.dict [])
      pure true
    else
      log "ERROR" "❌ Proxy Agent failed to bind port 8080"
      pure false
  else
    log "ERROR" "❌ Orchestrator failed to bind ports"
    pure false

/-- What `start_services` has seen before it returns `True`: after the orchestrator's launch,
    a probe round that found 9090 and 50051 open, and after the proxy agent's launch, a probe
    that found 8080 open. -/
def PortsSeenOpen (tr : List Event) : Prop :=
  ∃ A B C D E F p p' q, tr = A ++ .launch .orchestrator p :: B ++ .probe 9090 true ::
    .probe 50051 true :: C ++ .launch .testServer p' :: D ++ .launch .proxyAgent q :: E ++
    .probe 8080 true :: F

-- ════════════════════════════════════════════════════════════════════════
-- The port loops
-- ════════════════════════════════════════════════════════════════════════

/-- A round of probes never raises; it records one probe per port it reached, and when it
    answers true it reached every port and found each open. -/
theorem portsOpen_spec (ports : List Nat) (s : Harness) :
    ∃ b new, portsOpen w ports s = .ret b (s.record new) ∧
      (b = true → new = ports.map (.probe · true)) := by
  induction ports generalizing s with
  | nil => exact ⟨true, [], by simp [portsOpen], fun _ => rfl⟩
  | cons p ps ih =>
    simp only [portsOpen]
    rw [Py.bind_of_ret (checkPort_apply w p s)]
    cases hp : w.portOpen s.trace.length p
    · exact ⟨false, _, rfl, fun h => absurd h Bool.false_ne_true⟩
    · obtain ⟨b, new, hb, hnew⟩ := ih (s.record [.probe p true])
      refine ⟨b, [.probe p true] ++ new, by simpa using hb, fun h => ?_⟩
      simp [hnew h]

/-- When a port loop answers true, its last round found every port open. -/
theorem waitForPorts_ret_true {ports : List Nat} {n : Nat} {s s' : Harness}
    (h : waitForPorts w ports n s = .ret true s') :
    ∃ A, s' = s.record (A ++ ports.map (.probe · true)) := by
  induction n generalizing s with
  | zero => cases h
  | succ n ih =>
    simp only [waitForPorts] at h
    obtain ⟨b, new, hb, hnew⟩ := portsOpen_spec w ports s
    rw [Py.bind_of_ret hb] at h
    cases b
    · obtain ⟨A, rfl⟩ := ih h
      exact ⟨new ++ [.sleep 1000] ++ A, by simp⟩
    · cases h
      exact ⟨[], by simp [hnew rfl]⟩

/-- A port loop over ports that are never open runs out and answers false. -/
theorem waitForPorts_closed (hc : ∀ t p, w.portOpen t p = false) (p : Nat) (ps : List Nat) :
    ∀ n s, ∃ s', waitForPorts w (p :: ps) n s = .ret false s'
  | 0, s => ⟨s, rfl⟩
  | n + 1, s => by
    obtain ⟨s', h⟩ := waitForPorts_closed hc p ps n ((s.record [.probe p false]).record [.sleep 1000])
    refine ⟨s', ?_⟩
    simp only [waitForPorts, portsOpen, Py.bind_apply, checkPort_apply, hc]
    exact h

/-- When no port is ever open, `start_services` gives up after the orchestrator's loop. -/
theorem startServices_closed (hc : ∀ t p, w.portOpen t p = false)
    (hspawn : w.spawn .orchestrator = none) (hstale : w.staleWorkspace = false) (s : Harness) :
    ∃ s', startServices w s = .ret false s' := by
  simp only [startServices, removeStaleWorkspace, hstale, Bool.false_eq_true, ↓reduceIte,
    Py.bind_apply, emit_apply, log_apply, Py.pure_apply, launch, hspawn]
  obtain ⟨s', h⟩ := waitForPorts_closed w hc 9090 [50051] 15 _
  rw [h]
  exact ⟨_, rfl⟩

theorem appends_removeStaleWorkspace {P : Event → Prop} (h : P .removeWorkspace) :
    Appends P (removeStaleWorkspace w) := by
  unfold removeStaleWorkspace
  refine Appends.ite ((Appends.emit h).seq ?_) (Appends.pure _)
  split
  · exact Appends.pure _
  · exact Appends.raise _

theorem appends_portsOpen {P : Event → Prop} {ports : List Nat}
    (h : ∀ p ∈ ports, ∀ b, P (.probe p b)) : Appends P (portsOpen w ports) := by
  induction ports with
  | nil => exact Appends.pure _
  | cons p ps ih =>
    exact (appends_checkPort w (h p (by simp))).bind fun _ =>
      Appends.ite (ih fun q hq => h q (by simp [hq])) (Appends.pure _)

theorem appends_waitForPorts {P : Event → Prop} {ports : List Nat} {n : Nat}
    (h : ∀ p ∈ ports, ∀ b, P (.probe p b)) (hs : P (.sleep 1000)) :
    Appends P (waitForPorts w ports n) := by
  induction n with
  | zero => exact Appends.pure _
  | succ n ih =>
    exact (appends_portsOpen w h).bind fun _ =>
      Appends.ite (Appends.pure _) ((appends_sleep hs).seq ih)

/-- Every action of `start_services` is one of these. -/
def StartupEvent (e : Event) : Prop :=
  e = .enter .startServices ∨ (∃ level msg, e = .log level msg) ∨ e = .removeWorkspace ∨
    (∃ svc pid, e = .launch svc pid) ∨ (∃ b, e = .probe 9090 b ∨ e = .probe 50051 b ∨
      e = .probe 8080 b) ∨ (∃ ms, e = .sleep ms) ∨ e = .query toggleInterceptionOff (.dict [])

theorem appends_startServices : Appends StartupEvent (startServices w) := by
  have hl : ∀ level msg, StartupEvent (.log level msg) := fun l m => .inr (.inl ⟨l, m, rfl⟩)
  have hs : ∀ ms, StartupEvent (.sleep ms) := fun ms => by simp [StartupEvent]
  have hla : ∀ svc, Appends StartupEvent (launch w svc) := fun svc =>
    appends_launch w fun pid => by simp [StartupEvent]
  refine (Appends.emit (.inl rfl)).seq <| (appends_log (hl _ _)).seq <|
    (appends_removeStaleWorkspace w (by simp [StartupEvent])).seq <|
    (appends_log (hl _ _)).seq <| (hla _).seq <|
    (appends_waitForPorts w (by simp [StartupEvent]) (hs _)).bind fun _ => Appends.ite ?_ ?_
  · refine (appends_log (hl _ _)).seq <| (hla _).seq <| (appends_sleep (hs _)).seq <|
      (appends_log (hl _ _)).seq <| (hla _).seq <|
      (appends_waitForPorts w (by simp [StartupEvent]) (hs _)).bind fun _ => Appends.ite ?_ ?_
    · exact (appends_log (hl _ _)).seq <| (appends_graphql w (by simp [StartupEvent])
        fun _ => hl _ _).seq (Appends.pure _)
    · exact (appends_log (hl _ _)).seq (Appends.pure _)
  · exact (appends_log (hl _ _)).seq (Appends.pure _)

/-- Before `start_services` returns `True`, it saw 9090 and 50051 open in one round after the
    orchestrator's launch, and 8080 open after the proxy agent's launch. -/
theorem startServices_ret_true {s s' : Harness} (h : startServices w s = .ret true s') :
    PortsSeenOpen s'.trace := by
  simp only [startServices] at h
  obtain ⟨_, s₁, -, h⟩ := Py.bind_eq_ret h
  obtain ⟨_, s₂, -, h⟩ := Py.bind_eq_ret h
  obtain ⟨_, s₃, -, h⟩ := Py.bind_eq_ret h
  obtain ⟨_, s₄, -, h⟩ := Py.bind_eq_ret h
  obtain ⟨_, s₅, h₅, h⟩ := Py.bind_eq_ret h
  obtain ⟨b, s₆, h₆, h⟩ := Py.bind_eq_ret h
  cases b
  · obtain ⟨_, _, _, h⟩ := Py.bind_eq_ret h; cases h
  obtain ⟨_, s₇, h₇, h⟩ := Py.bind_eq_ret h
  obtain ⟨_, s₈, h₈, h⟩ := Py.bind_eq_ret h
  obtain ⟨_, s₉, h₉, h⟩ := Py.bind_eq_ret h
  obtain ⟨_, s₁₀, h₁₀, h⟩ := Py.bind_eq_ret h
  obtain ⟨_, s₁₁, h₁₁, h⟩ := Py.bind_eq_ret h
  obtain ⟨c, s₁₂, h₁₂, h⟩ := Py.bind_eq_ret h
  cases c
  · obtain ⟨_, _, _, h⟩ := Py.bind_eq_ret h; cases h
  obtain ⟨_, s₁₃, h₁₃, h⟩ := Py.bind_eq_ret h
  obtain ⟨_, s₁₄, h₁₄, h⟩ := Py.bind_eq_ret h
  cases h
  obtain ⟨p, e₅⟩ : ∃ p, s₅.trace = s₄.trace ++ [.launch .orchestrator p] := ⟨_, launch_ret w h₅⟩
  obtain ⟨p', e₈⟩ : ∃ p, s₈.trace = s₇.trace ++ [.launch .testServer p] := ⟨_, launch_ret w h₈⟩
  obtain ⟨q, e₁₁⟩ : ∃ p, s₁₁.trace = s₁₀.trace ++ [.launch .proxyAgent p] := ⟨_, launch_ret w h₁₁⟩
  obtain ⟨A, rfl⟩ := waitForPorts_ret_true w h₆
  obtain ⟨A', rfl⟩ := waitForPorts_ret_true w h₁₂
  obtain ⟨E, e₁₄, -⟩ := ((appends_graphql w (P := fun _ => True) trivial fun _ => trivial)).trace_of_ret h₁₄
  simp only [log_apply, sleep_apply, Result.ret.injEq, true_and] at h₇ h₉ h₁₀ h₁₃
  subst h₇ h₉ h₁₀ h₁₃
  refine ⟨s₄.trace, A, [.log "INFO" "   Starting Test Server..."],
    [.sleep 2000, .log "INFO" "   Starting Proxy Agent..."], A',
    .log "INFO" "   ✅ All Services Ready" :: E, p, p', q, ?_⟩
  rw [e₁₄]
  simp [e₁₁, e₈, e₅]

-- ════════════════════════════════════════════════════════════════════════
-- How long start-up sleeps
-- ════════════════════════════════════════════════════════════════════════

/-- The milliseconds an action keeps the harness in `time.sleep`. -/
def Event.sleepMs : Event → Nat
  | .sleep ms => ms
  | _ => 0

/-- The milliseconds a stretch of the trace spends in `time.sleep`. -/
def sleptMs : List Event → Nat
  | [] => 0
  | e :: tr => e.sleepMs + sleptMs tr

@[simp] theorem sleptMs_nil : sleptMs [] = 0 := rfl

@[simp] theorem sleptMs_append (a b : List Event) : sleptMs (a ++ b) = sleptMs a + sleptMs b := by
  induction a with
  | nil => simp
  | cons e a ih => rw [List.cons_append, sleptMs, sleptMs, ih, Nat.add_assoc]

@[simp] theorem sleptMs_sleep (ms : Nat) : sleptMs [.sleep ms] = ms := rfl

theorem sleptMs_eq_zero {new : List Event} (h : ∀ e ∈ new, e.sleepMs = 0) : sleptMs new = 0 := by
  induction new with
  | nil => rfl
  | cons e new ih => simp [sleptMs, h e (by simp), ih fun e' he' => h e' (by simp [he'])]

/-- `x` only adds actions to the end of the trace, and those sleep `ms` milliseconds at most,
    whether it returns or raises. -/
def SleepsAtMost (ms : Nat) (x : Py Harness α) : Prop :=
  ∀ s, ∃ new, (x s).state.trace = s.trace ++ new ∧ sleptMs new ≤ ms

namespace SleepsAtMost

variable {x : Py Harness α} {k : α → Py Harness β}

theorem mono {m m' : Nat} (h : SleepsAtMost m x) (hm : m ≤ m') : SleepsAtMost m' x := fun s =>
  let ⟨new, he, hb⟩ := h s
  ⟨new, he, hb.trans hm⟩

theorem bind {m m' : Nat} (hx : SleepsAtMost m x) (hk : ∀ a, SleepsAtMost m' (k a)) :
    SleepsAtMost (m + m') (x >>= k) := by
  intro s
  obtain ⟨n₁, h₁, b₁⟩ := hx s
  rw [Py.bind_apply]
  cases h : x s with
  | ret a s' =>
    rw [h] at h₁
    obtain ⟨n₂, h₂, b₂⟩ := hk a s'
    refine ⟨n₁ ++ n₂, ?_, by simp only [sleptMs_append]; omega⟩
    rw [h₂, show s'.trace = _ from h₁, List.append_assoc]
  | raise e s' => rw [h] at h₁; exact ⟨n₁, h₁, by omega⟩

theorem of_appends (hx : Appends (·.sleepMs = 0) x) : SleepsAtMost 0 x := fun s =>
  let ⟨new, he, hz⟩ := hx s
  ⟨new, he, (sleptMs_eq_zero hz).le⟩

/-- A sleepless action before `k` leaves `k` the whole budget. -/
theorem after {m : Nat} (hx : Appends (·.sleepMs = 0) x) (hk : ∀ a, SleepsAtMost m (k a)) :
    SleepsAtMost m (x >>= k) := by
  simpa only [Nat.zero_add] using (of_appends hx).bind hk

/-- After an action that always returns, the budget left may depend on what it returned. -/
theorem bind_dep (f : α → Nat) {total : Nat}
    (hx : ∀ s, ∃ a new, x s = .ret a (s.record new) ∧ sleptMs new + f a ≤ total)
    (hk : ∀ a, SleepsAtMost (f a) (k a)) : SleepsAtMost total (x >>= k) := by
  intro s
  obtain ⟨a, n₁, h₁, b₁⟩ := hx s
  obtain ⟨n₂, h₂, b₂⟩ := hk a (s.record n₁)
  refine ⟨n₁ ++ n₂, ?_, by simp only [sleptMs_append]; omega⟩
  rw [Py.bind_of_ret h₁, h₂, Harness.record_trace, List.append_assoc]

end SleepsAtMost

/-- A port loop of `n` rounds never raises, and sleeps a second after each round that found a
    port closed: `n` seconds when it runs out, at most `n - 1` when it answers true. -/
theorem waitForPorts_sleeps (ports : List Nat) (n : Nat) (s : Harness) :
    ∃ b new, waitForPorts w ports n s = .ret b (s.record new) ∧
      sleptMs new + (if b then 1000 else 0) ≤ n * 1000 := by
  induction n generalizing s with
  | zero => exact ⟨false, [], by simp [waitForPorts], by simp⟩
  | succ n ih =>
    obtain ⟨b, new, hb, -⟩ := portsOpen_spec w ports s
    obtain ⟨new', he, hz⟩ :=
      (appends_portsOpen w (P := (·.sleepMs = 0)) fun _ _ _ => rfl).trace_of_ret hb
    obtain rfl : new = new' := List.append_cancel_left he
    simp only [waitForPorts, Py.bind_of_ret hb]
    cases b
    · obtain ⟨c, new₂, h₂, hc⟩ := ih ((s.record new).record [.sleep 1000])
      refine ⟨c, new ++ [.sleep 1000] ++ new₂, ?_, ?_⟩
      · simpa [Py.bind_apply] using h₂
      · simp only [sleptMs_append, sleptMs_sleep, sleptMs_eq_zero hz]; omega
    · exact ⟨true, new, rfl, by simp only [sleptMs_eq_zero hz, if_true]; omega⟩

/-- `start_services` sleeps 26 seconds at most, in every world and whatever it returns or
    raises. The orchestrator's loop sleeps its fifteenth second only when it gives up, and then
    nothing follows; the 26 are fourteen seconds for an orchestrator that binds at its last
    round, the test server's two, and ten for a proxy agent that never binds. -/
theorem startServices_sleeps_at_most : SleepsAtMost 26000 (startServices w) := by
  have hl : ∀ level msg, Appends (·.sleepMs = 0) (log level msg) := fun _ _ => appends_log rfl
  have hla : ∀ svc, Appends (·.sleepMs = 0) (launch w svc) := fun _ => appends_launch w fun _ => rfl
  have hw : ∀ ports n, SleepsAtMost (n * 1000) (waitForPorts w ports n) := fun ports n s =>
    let ⟨b, new, h, hb⟩ := waitForPorts_sleeps w ports n s
    ⟨new, by rw [h]; rfl, by omega⟩
  have hs : SleepsAtMost 2000 (sleep 2000) := fun s => ⟨[.sleep 2000], rfl, by simp⟩
  refine SleepsAtMost.after (Appends.emit rfl) fun _ => SleepsAtMost.after (hl _ _) fun _ =>
    SleepsAtMost.after (appends_removeStaleWorkspace w rfl) fun _ =>
    SleepsAtMost.after (hl _ _) fun _ => SleepsAtMost.after (hla _) fun _ =>
    SleepsAtMost.bind_dep (fun b => if b then 12000 else 0) (fun s => ?_) fun b => ?_
  · obtain ⟨b, new, h, hb⟩ := waitForPorts_sleeps w [9090, 50051] 15 s
    exact ⟨b, new, h, by cases b <;> simp only [Bool.false_eq_true, if_false, if_true] at hb ⊢ <;> omega⟩
  cases b
  · exact SleepsAtMost.of_appends ((hl _ _).seq (Appends.pure _))
  · refine SleepsAtMost.after (hl _ _) fun _ => SleepsAtMost.after (hla _) fun _ =>
      hs.bind fun _ => SleepsAtMost.after (hl _ _) fun _ => SleepsAtMost.after (hla _) fun _ =>
      (hw [8080] 10).bind fun c => SleepsAtMost.of_appends ?_
    exact Appends.ite ((hl _ _).seq ((appends_graphql w (by rfl) fun _ => by rfl).seq (Appends.pure _)))
      ((hl _ _).seq (Appends.pure _))

end Proxxy.IntegrationTest
import Proxxy.Integration.Harness

/-!
# Scripted traffic

`SCENARIOS` lists the requests of a run, the first four being the ones `verify_capture`
later looks for. `generate_traffic` sends each through the relay, counts those whose call
returned, and logs the others without stopping: its `except:` is bare, so every exception
of a request call is caught.

## Main results

- `generateTraffic_sends_every_scenario` — for every scenario list and every answer of the
  relay, the phase returns, makes one call per scenario in the list's order, and reports as
  sent the number of those calls that returned.
-/

namespace Proxxy.IntegrationTest
open Python

/-- One entry of `SCENARIOS`: method, endpoint path and the JSON body of a POST. -/
structure Scenario where
  method : String
  endpoint : String
  data : Value

/-- `TEST_SERVER_URL`. -/
def testServerUrl : String := "http://127.0.0.1:8000"

/-- `ECHO_PAYLOAD`, whose `test_id` is `random.randint(1000, 9999)` at import time. -/
def echoPayload (testId : Nat) : Value :=
  .dict [("test_id", .int testId), ("data", .str "INTEGRITY_CHECK")]

/-- `SCENARIOS`. -/
def scenarios (testId : Nat) : List Scenario := [
  ⟨"GET", "/api/json", .null⟩,
  ⟨"GET", "/api/xml", .null⟩,
  ⟨"GET", "/api/large", .null⟩,
  ⟨"POST", "/api/echo", echoPayload testId⟩,
  ⟨"GET", "/", .null⟩,
  ⟨"GET", "/robots.txt", .null⟩,
  ⟨"GET", "/.env", .null⟩,
  ⟨"POST", "/login", .dict [("u", .str "admin"), ("p", .str "123")]⟩,
  ⟨"GET", "/vuln/xss?q=script", .null⟩,
  ⟨"POST", "/vuln/xxe", .str "<root>test</root>"⟩,
  ⟨"GET", "/api/admin/users", .null⟩,
  ⟨"GET", "/config.json", .null⟩,
  ⟨"GET", "/vuln/sqli?id=1'", .null⟩,
  ⟨"GET", "/vuln/lfi?file=../../passwd", .null⟩]

variable (w : World)

/-- The body of one iteration of `generate_traffic`'s loop, from the count `success` so far. -/
def sendScenario (sc : Scenario) (success : Nat) : Py Harness Nat :=
  Py.tryCatch
    (do
      request w sc.method (testServerUrl ++ sc.endpoint)
        (if sc.method = "POST" then sc.data else .null)
      sleep 50
      pure (success + 1))
    (fun _ => true)
    (fun _ => do
      log "WARN" ("   ⚠️ Failed to request " ++ sc.endpoint)
      pure success)

/-- `for method, endpoint, data in SCENARIOS: ...`, returning the final `success`. -/
def sendAll : List Scenario → Nat → Py Harness Nat
  | [], success => pure success
  | sc :: rest, success => do
    let success ← sendScenario w sc success
    sendAll rest success

/-- `IntegrationTest.generate_traffic`, over the scenario list it iterates. -/
def generateTraffic (scs : List Scenario) : Py Harness Unit := do
  emit (.enter .generateTraffic)
  log "INFO" ("⚡ PHASE 1: Generating Traffic (" ++ toString scs.length ++ " requests)...")
  let success ← sendAll w scs 0
  log "INFO" ("   Sent " ++ toString success ++ " requests. Waiting 5s for DB Sync...")
  sleep 5000

/-- Every action of `generate_traffic`: its mark, logs, sleeps and relay requests. -/
def TrafficEvent (e : Event) : Prop :=
  e = .enter .generateTraffic ∨ (∃ level msg, e = .log level msg) ∨ (∃ ms, e = .sleep ms) ∨
    ∃ method url body, e = .request method url body

theorem appends_sendAll (scs : List Scenario) (n : Nat) :
    Appends TrafficEvent (sendAll w scs n) := by
  have hl : ∀ level msg, TrafficEvent (.log level msg) := fun l m => .inr (.inl ⟨l, m, rfl⟩)
  induction scs generalizing n with
  | nil => exact Appends.pure _
  | cons sc rest ih =>
    refine (Appends.tryCatch ?_ fun _ => (appends_log (hl _ _)).seq (Appends.pure _)).bind
      fun _ => ih _
    exact (appends_request w (.inr (.inr (.inr ⟨_, _, _, rfl⟩)))).seq <|
      (appends_sleep (.inr (.inr (.inl ⟨_, rfl⟩)))).seq (Appends.pure _)

/-- `generate_traffic` first marks its call; everything after is a log line, a sleep or a
    request. -/
theorem generateTraffic_trace (scs : List Scenario) (s : Harness) :
    ∃ post, (generateTraffic w scs s).state.trace = s.trace ++ .enter .generateTraffic :: post ∧
      ∀ e ∈ post, TrafficEvent e :=
  Appends.emit_bind (fun _ => (appends_log (.inr (.inl ⟨_, _, rfl⟩))).seq <|
    (appends_sendAll w scs 0).bind fun _ => (appends_log (.inr (.inl ⟨_, _, rfl⟩))).seq
      (appends_sleep (.inr (.inr (.inl ⟨_, rfl⟩))))) s

theorem appends_generateTraffic (scs : List Scenario) :
    Appends TrafficEvent (generateTraffic w scs) := fun s =>
  let ⟨post, h, hp⟩ := generateTraffic_trace w scs s
  ⟨_ :: post, h, List.forall_mem_cons.2 ⟨.inl rfl, hp⟩⟩

-- ════════════════════════════════════════════════════════════════════════
-- The calls the traffic phase makes
-- ════════════════════════════════════════════════════════════════════════

/-- The request a scenario makes, as the trace records it: `requests.post(url, json=data)`
    for a POST, `requests.get(url)` otherwise. -/
def Scenario.call (sc : Scenario) : Event :=
  .request sc.method (testServerUrl ++ sc.endpoint) (if sc.method = "POST" then sc.data else .null)

/-- The request calls among the actions from instant `t` on, each with whether it returned:
    an action's instant is its index, and a call returns when the relay raises nothing then. -/
def requestCalls : Nat → List Event → List (Event × Bool)
  | _, [] => []
  | t, e :: more =>
    match e with
    | .request method url _ => (e, (w.relay t method url).isNone) :: requestCalls (t + 1) more
    | _ => requestCalls (t + 1) more

@[simp] theorem requestCalls_append (t : Nat) (a b : List Event) :
    requestCalls w t (a ++ b) = requestCalls w t a ++ requestCalls w (t + a.length) b := by
  induction a generalizing t with
  | nil => rfl
  | cons e a ih =>
    cases e <;> simp [requestCalls, ih, Nat.add_right_comm t 1, Nat.add_assoc]

/-- One turn of the loop makes its scenario's call and counts it iff it returned, whatever
    the relay does: a raised exception is caught by the bare `except:` and logged. -/
theorem sendScenario_calls (sc : Scenario) (n : Nat) (s : Harness) :
    ∃ new, sendScenario w sc n s =
        .ret (n + (requestCalls w s.trace.length new).countP Prod.snd) (s.record new) ∧
      (requestCalls w s.trace.length new).map Prod.fst = [sc.call] := by
  cases hr : w.relay s.trace.length sc.method (testServerUrl ++ sc.endpoint) with
  | none =>
    refine ⟨[sc.call, .sleep 50], ?_, by simp [Scenario.call, requestCalls]⟩
    simp [sendScenario, Py.tryCatch, request, Py.bind_apply, now, hr, Scenario.call,
      requestCalls]
  | some e =>
    refine ⟨[sc.call, .log "WARN" ("   ⚠️ Failed to request " ++ sc.endpoint)], ?_,
      by simp [Scenario.call, requestCalls]⟩
    simp [sendScenario, Py.tryCatch, request, Py.bind_apply, now, hr, Scenario.call,
      requestCalls]

/-- The loop makes every scenario's call, in order, and adds one to its count for each call
    that returned. -/
theorem sendAll_calls : ∀ (scs : List Scenario) (n : Nat) (s : Harness), ∃ new,
    sendAll w scs n s =
        .ret (n + (requestCalls w s.trace.length new).countP Prod.snd) (s.record new) ∧
      (requestCalls w s.trace.length new).map Prod.fst = scs.map Scenario.call
  | [], n, s => ⟨[], by simp [sendAll, requestCalls], rfl⟩
  | sc :: rest, n, s => by
    obtain ⟨new₁, h₁, c₁⟩ := sendScenario_calls w sc n s
    obtain ⟨new₂, h₂, c₂⟩ := sendAll_calls rest _ (s.record new₁)
    refine ⟨new₁ ++ new₂, ?_, by simp [c₁, ← c₂]⟩
    rw [sendAll, Py.bind_of_ret h₁, h₂]
    simp [List.countP_append, Nat.add_assoc]

/-- For every scenario list and every answer of the relay, `generate_traffic` returns; it
    makes one call per scenario, in the list's order, and the count its report line gives is
    the number of those calls that returned. -/
theorem generateTraffic_sends_every_scenario (scs : List Scenario) (s : Harness) :
    ∃ pre k, generateTraffic w scs s = .ret () (s.record (pre ++
        [.log "INFO" ("   Sent " ++ toString k ++ " requests. Waiting 5s for DB Sync..."),
          .sleep 5000])) ∧
      (requestCalls w s.trace.length pre).map Prod.fst = scs.map Scenario.call ∧
      k = (requestCalls w s.trace.length pre).countP Prod.snd := by
  let head : List Event := [.enter .generateTraffic,
    .log "INFO" ("⚡ PHASE 1: Generating Traffic (" ++ toString scs.length ++ " requests)...")]
  obtain ⟨new, h, c⟩ := sendAll_calls w scs 0 (s.record head)
  refine ⟨head ++ new, _, ?_, by simpa [head, requestCalls] using c, rfl⟩
  rw [generateTraffic, Py.bind_of_ret (emit_apply _ s), Py.bind_of_ret (log_apply _ _ _),
    Harness.record_record]
  erw [Py.bind_of_ret h]
  simp [head, requestCalls, Py.bind_apply, Nat.add_assoc]

end Proxxy.IntegrationTest

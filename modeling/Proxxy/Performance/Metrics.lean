import Proxxy.Python.Json
import Proxxy.Python.Exec
import Mathlib.Algebra.Order.Ring.Rat

/-!
# Checking the body-capture metrics

`PerformanceMonitoringTest.verify_performance_metrics` reads the proxy agent's metrics from
its admin API, sends twelve requests through the proxy, waits two seconds, reads the metrics
again, and hands both snapshots to `validate_metrics_changes`. The check asks that the
`body_capture` group's `attempts`, `successes` and `total_bytes_captured` grew, that the final
`success_rate` is at least 50 and that the final `average_latency_ms` is positive.

## Main definitions

- `World` — what the admin API and the proxied requests answer at each instant.
- `validateMetricsChanges`, `verifyPerformanceMetrics` — the two methods, with every line
  they print.
- `MetricsAdvanced` — what the check accepts, said directly over two snapshots.

## Main results

- `validateMetricsChanges_spec` — for every pair of snapshots whose groups hold numbers where
  the check reads them, the check returns, and returns `True` iff `MetricsAdvanced`.
- `generateTestTraffic_gets_every_endpoint` — unless an interrupt comes, the traffic burst
  requests each endpoint three times in order and passes exactly when one request got
  status 200.
- `verifyPerformanceMetrics_true` — a passing run read a snapshot from a status-200 reply,
  then got status 200 on a request to one of the test endpoints, then read a second snapshot
  from a status-200 reply, and the check passed on those two snapshots.
- `validateMetricsChanges_passes_falling_failures` — `failures`, `timeouts` and
  `memory_errors` are never read: a pair in which `failures` fell passes the check, and the
  whole of `verify_performance_metrics`.

## Design notes

An action's instant is the length of the trace before it, and the world answers as a
function of the instant, so every timing of the agent is covered. The printed timestamps
and the proxy settings of the requests are left out.
-/

namespace Proxxy.PerformanceTest
open Python Python.Json

/-- What `requests.get(f"http://localhost:{self.admin_port}/metrics")` and then
    `response.json()` give: the exception `get` raises, or the status and the decoded body. -/
inductive AdminReply where
  | raised (e : PyExc)
  | answered (status : Nat) (json : Except PyExc Value)

/-- What one request through the proxy gives: the exception, or the status and
    `len(response.content)`. -/
inductive TrafficReply where
  | raised (e : PyExc)
  | answered (status : Nat) (bytes : Nat)

/-- How the admin API and the proxied endpoints answer, at each instant. -/
structure World where
  admin : Nat → AdminReply
  traffic : Nat → String → TrafficReply

/-- The binaries `run_test` launches. -/
inductive Service where
  | orchestrator | proxyAgent | testServer
  deriving DecidableEq, Repr

/-- A signal `Popen.terminate()` or `Popen.kill()` sends. -/
inductive Signal where
  | sigterm | sigkill
  deriving DecidableEq, Repr

/-- One action of the test. -/
inductive Event where
  | print (line : String)
  | sleep (ms : Nat)
  | get (url : String)
  | launch (svc : Service) (args : List String)
  | signal (svc : Service) (sig : Signal)

/-- The test object, as far as these methods use it: the trace of its actions. -/
structure Test where
  trace : List Event

variable (w : World)

/-- Record an action. -/
def emit (e : Event) : Py Test Unit := Py.modify fun s => ⟨s.trace ++ [e]⟩

/-- `print(line)`. -/
def print (line : String) : Py Test Unit := emit (.print line)

/-- `time.sleep(ms / 1000)`. -/
def sleep (ms : Nat) : Py Test Unit := emit (.sleep ms)

/-- The current instant. -/
def now : Py Test Nat := fun s => .ret s.trace.length s

/-- `PerformanceMonitoringTest.get_admin_metrics`: the decoded metrics, or `None`. -/
def getAdminMetrics : Py Test Value := do
  let t ← now
  emit (.get "http://localhost:8082/metrics")
  Py.tryCatch
    (match w.admin t with
      | .raised e => Py.raise e
      | .answered status json =>
        if status = 200 then Py.lift json
        else do
          print ("❌ Failed to get metrics: HTTP " ++ toString status)
          pure .null)
    PyExc.isException
    fun e => do
      print ("❌ Failed to get admin metrics: " ++ e.msg)
      pure .null

/-- One line `f"    • {label}: {bc.get(key, 0)...}{suffix}"` of
    `print_body_capture_metrics`, the value written by `fmt`. -/
def showMetric (bc : Value) (label key : String) (fmt : Value → Except PyExc String)
    (suffix : String) : Py Test Unit := do
  let v ← Py.lift (bc.get key (.int 0))
  let text ← Py.lift (fmt v)
  print ("    • " ++ label ++ ": " ++ text ++ suffix)

/-- `PerformanceMonitoringTest.print_body_capture_metrics`. -/
def printBodyCaptureMetrics (metrics : Value) : Py Test Unit := do
  if ← Py.lift (metrics.contains "body_capture") then
    let bc ← Py.lift (metrics.getItem "body_capture")
    print "  📊 Body Capture Metrics:"
    showMetric bc "Attempts" "attempts" (.ok ∘ pyStr) ""
    showMetric bc "Successes" "successes" (.ok ∘ pyStr) ""
    showMetric bc "Failures" "failures" (.ok ∘ pyStr) ""
    showMetric bc "Timeouts" "timeouts" (.ok ∘ pyStr) ""
    showMetric bc "Memory Errors" "memory_errors" (.ok ∘ pyStr) ""
    showMetric bc "Success Rate" "success_rate" (formatFixed 1) "%"
    showMetric bc "Average Latency" "average_latency_ms" (formatFixed 2) "ms"
    showMetric bc "Total Bytes Captured" "total_bytes_captured" (.ok ∘ pyStr) ""
  else print "  ❌ No body_capture metrics found"

/-- The endpoints `generate_test_traffic` requests, three times each. -/
def testEndpoints : List String :=
  ["http://localhost:3000/api/json", "http://localhost:3000/api/xml",
   "http://localhost:3000/api/large", "http://localhost:3000/"]

/-- `len(test_endpoints) * 3`. -/
def totalRequests : Nat := testEndpoints.length * 3

/-- One pass of the inner loop of `generate_test_traffic`, from `success_count = count`. -/
def sendRequest (count : Nat) (endpoint : String) : Py Test Nat :=
  Py.tryCatch
    (do
      print ("  📤 Request " ++ toString (count + 1) ++ "/" ++ toString totalRequests ++ ": " ++
        endpoint)
      let t ← now
      emit (.get endpoint)
      match w.traffic t endpoint with
      | .raised e => Py.raise e
      | .answered status bytes =>
        let count' ← if status = 200 then do
            print ("    ✅ Success: " ++ toString bytes ++ " bytes")
            pure (count + 1)
          else do
            print ("    ❌ Failed: HTTP " ++ toString status)
            pure count
        sleep 500
        pure count')
    PyExc.isException
    fun e => do
      print ("    ❌ Request failed: " ++ e.msg)
      pure count

/-- The two nested loops of `generate_test_traffic`, over the requests in order. -/
def sendAll : List String → Nat → Py Test Nat
  | [], count => pure count
  | endpoint :: more, count => do
    let count ← sendRequest w count endpoint
    sendAll more count

/-- `PerformanceMonitoringTest.generate_test_traffic`. -/
def generateTestTraffic : Py Test Bool := do
  print "📡 Generating test traffic..."
  let count ← sendAll w (testEndpoints.flatMap fun e => [e, e, e]) 0
  print ("📊 Traffic generation complete: " ++ toString count ++ "/" ++
    toString totalRequests ++ " successful")
  pure (decide (0 < count))

/-- `final_bc.get(key, 0) - initial_bc.get(key, 0)`. -/
def delta (initialBc finalBc : Value) (key : String) : Except PyExc PyNum := do
  let b ← finalBc.get key (.int 0)
  let a ← initialBc.get key (.int 0)
  b.sub a

/-- `if failed: print(message); return False`, else the rest of the method: one guard of
    `validate_metrics_changes`. -/
def check (failed : Bool) (message : String) (rest : Py Test Bool) : Py Test Bool :=
  if failed then do
    print message
    pure false
  else rest

/-- The message of the first guard, whichever snapshot lacks the group. -/
def notFound : String := "❌ Body capture metrics not found in initial or final metrics"

/-- `PerformanceMonitoringTest.validate_metrics_changes`. The first guard's
    `"body_capture" not in initial or "body_capture" not in final` is two guards with one
    message, the second reached only when the first passes. -/
def validateMetricsChanges (initial final : Value) : Py Test Bool := do
  print "🔍 Validating metrics changes..."
  let inInitial ← Py.lift (initial.contains "body_capture")
  check (!inInitial) notFound do
  let inFinal ← Py.lift (final.contains "body_capture")
  check (!inFinal) notFound do
  let initialBc ← Py.lift (initial.getItem "body_capture")
  let finalBc ← Py.lift (final.getItem "body_capture")
  let attemptsDiff ← Py.lift (delta initialBc finalBc "attempts")
  check (attemptsDiff.le 0)
    ("❌ Body capture attempts did not increase: " ++ attemptsDiff.str) do
  let successesDiff ← Py.lift (delta initialBc finalBc "successes")
  check (successesDiff.le 0)
    ("❌ Body capture successes did not increase: " ++ successesDiff.str) do
  let bytesDiff ← Py.lift (delta initialBc finalBc "total_bytes_captured")
  check (bytesDiff.le 0) ("❌ No bytes were captured: " ++ bytesDiff.str) do
  let successRate ← Py.lift (finalBc.get "success_rate" (.int 0))
  check (← Py.lift (successRate.cmp true 50))
    ("❌ Success rate too low: " ++ pyStr successRate ++ "%") do
  let avgLatency ← Py.lift (finalBc.get "average_latency_ms" (.int 0))
  check (← Py.lift (avgLatency.cmp false 0))
    ("❌ Average latency not recorded: " ++ pyStr avgLatency ++ "ms") do
  print "✅ All metrics validations passed:"
  print ("  • Attempts increased by: " ++ attemptsDiff.str)
  print ("  • Successes increased by: " ++ successesDiff.str)
  print ("  • Bytes captured: " ++ bytesDiff.str)
  print ("  • Success rate: " ++ (← Py.lift (formatFixed 1 successRate)) ++ "%")
  print ("  • Average latency: " ++ (← Py.lift (formatFixed 2 avgLatency)) ++ "ms")
  return true

/-- `PerformanceMonitoringTest.verify_performance_metrics`. -/
def verifyPerformanceMetrics : Py Test Bool := do
  print "📊 Verifying performance metrics..."
  let initialMetrics ← getAdminMetrics w
  if !initialMetrics.truthy then
    print "❌ Failed to get initial metrics"
    return false
  print "📈 Initial metrics:"
  printBodyCaptureMetrics initialMetrics
  if !(← generateTestTraffic w) then
    print "❌ Failed to generate test traffic"
    return false
  sleep 2000
  let finalMetrics ← getAdminMetrics w
  if !finalMetrics.truthy then
    print "❌ Failed to get final metrics"
    return false
  print "📈 Final metrics:"
  printBodyCaptureMetrics finalMetrics
  validateMetricsChanges initialMetrics finalMetrics

-- ════════════════════════════════════════════════════════════════════════
-- What the check accepts
-- ════════════════════════════════════════════════════════════════════════

/-- What `.get(key, 0)` reads from a group's items. -/
def reading (bc : List (String × Value)) (key : String) : Value :=
  (Value.lookup bc key).getD (.int 0)

/-- The number a group holds under `key`, `0` when it holds none. -/
def metric (bc : List (String × Value)) (key : String) : ℚ := ((reading bc key).num?).getD 0

/-- `final_bc.get(key, 0) - initial_bc.get(key, 0)`, as Python subtracts. -/
def growth (ib fb : List (String × Value)) (key : String) : ℚ :=
  match (reading fb key).sub (reading ib key) with
  | .ok n => n.val?.getD 0
  | .error _ => 0

/-- The counters whose growth the check asks for. -/
def grownKeys : List String := ["attempts", "successes", "total_bytes_captured"]

/-- The items the check reads. -/
def readKeys : List String := grownKeys ++ ["success_rate", "average_latency_ms"]

/-- A snapshot whose `body_capture` group, if it has one, is a dict whose every item the
    check reads is a number that converts to a finite `float`: no infinity, no NaN. -/
def NumericGroup (snapshot : List (String × Value)) : Prop :=
  ∀ bc, Value.lookup snapshot "body_capture" = some bc →
    ∃ kvs, bc = .dict kvs ∧ ∀ k ∈ readKeys, (reading kvs k).toFinite?.isSome

/-- What the check is meant to accept: both snapshots have a `body_capture` group, the three
    counters grew, the final success rate is at least 50 and the final average latency is
    positive. -/
def MetricsAdvanced (initial final : List (String × Value)) : Prop :=
  ∃ ib fb, Value.lookup initial "body_capture" = some (.dict ib) ∧
    Value.lookup final "body_capture" = some (.dict fb) ∧
    (∀ k ∈ grownKeys, 0 < growth ib fb k) ∧ 50 ≤ metric fb "success_rate" ∧
    0 < metric fb "average_latency_ms"

theorem delta_dict {ib fb : List (String × Value)} {k : String}
    (hi : (reading ib k).toFinite?.isSome) (hf : (reading fb k).toFinite?.isSome) :
    ∃ n, delta (.dict ib) (.dict fb) k = .ok n ∧ n.le 0 = decide (growth ib fb k ≤ 0) := by
  obtain ⟨n, x, hn, hx⟩ := Value.sub_isOk hf hi
  refine ⟨n, ?_, by simp only [growth, hn, hx, Option.getD_some, PyNum.le_of_val? hx]⟩
  simp only [delta, Value.get_dict]
  exact hn

theorem cmp_reading {bc : List (String × Value)} {k : String} (strict : Bool) (n : ℚ)
    (h : (reading bc k).toFinite?.isSome) :
    (reading bc k).cmp strict n =
      .ok (if strict then decide (metric bc k < n) else decide (metric bc k ≤ n)) := by
  exact Value.cmp_of_toFinite? strict n h

@[simp] theorem print_apply (line : String) (s : Test) :
    print line s = .ret () ⟨s.trace ++ [.print line]⟩ := rfl

theorem check_apply (failed : Bool) (message : String) (rest : Py Test Bool) (s : Test) :
    check failed message rest s =
      if failed then .ret false ⟨s.trace ++ [.print message]⟩ else rest s := by
  cases failed <;> rfl

theorem metricsAdvanced_iff {initial final ib fb : List (String × Value)}
    (hI : Value.lookup initial "body_capture" = some (.dict ib))
    (hF : Value.lookup final "body_capture" = some (.dict fb)) :
    MetricsAdvanced initial final ↔ 0 < growth ib fb "attempts" ∧ 0 < growth ib fb "successes" ∧
      0 < growth ib fb "total_bytes_captured" ∧ 50 ≤ metric fb "success_rate" ∧
      0 < metric fb "average_latency_ms" := by
  constructor
  · rintro ⟨ib', fb', hI', hF', hg, hr, hl⟩
    rw [hI, Option.some_inj, Value.dict.injEq] at hI'
    rw [hF, Option.some_inj, Value.dict.injEq] at hF'
    subst hI' hF'
    exact ⟨hg _ (by decide), hg _ (by decide), hg _ (by decide), hr, hl⟩
  · rintro ⟨ha, hs, hb, hr, hl⟩
    refine ⟨ib, fb, hI, hF, fun k hk => ?_, hr, hl⟩
    simp only [grownKeys, List.mem_cons, List.mem_singleton, List.not_mem_nil, or_false] at hk
    rcases hk with rfl | rfl | rfl <;> assumption

/-- For every pair of snapshots whose groups hold numbers where the check reads them, the
    check returns without raising, and it returns `True` iff `MetricsAdvanced`. -/
theorem validateMetricsChanges_spec (initial final : List (String × Value))
    (hi : NumericGroup initial) (hf : NumericGroup final) (s : Test) :
    ∃ b s', validateMetricsChanges (.dict initial) (.dict final) s = .ret b s' ∧
      (b = true ↔ MetricsAdvanced initial final) := by
  cases hI : Value.lookup initial "body_capture" with
  | none =>
    exact ⟨false, _, by simp only [validateMetricsChanges, Value.contains_eq_ok_of_lookup, hI,
      Py.lift_ok_bind]; rfl, by simp [MetricsAdvanced, hI]⟩
  | some bci =>
  obtain ⟨ib, rfl, hib⟩ := hi _ hI
  cases hF : Value.lookup final "body_capture" with
  | none =>
    exact ⟨false, _, by simp only [validateMetricsChanges, Value.contains_eq_ok_of_lookup, hI, hF,
      Py.lift_ok_bind]; rfl, by simp [MetricsAdvanced, hF]⟩
  | some bcf =>
  obtain ⟨fb, rfl, hfb⟩ := hf _ hF
  obtain ⟨n₁, hd₁, hv₁⟩ := delta_dict (hib _ (by decide)) (hfb "attempts" (by decide))
  obtain ⟨n₂, hd₂, hv₂⟩ := delta_dict (hib _ (by decide)) (hfb "successes" (by decide))
  obtain ⟨n₃, hd₃, hv₃⟩ :=
    delta_dict (hib _ (by decide)) (hfb "total_bytes_captured" (by decide))
  obtain ⟨t₁, ht₁⟩ := formatFixed_isOk 1 (hfb "success_rate" (by decide))
  obtain ⟨t₂, ht₂⟩ := formatFixed_isOk 2 (hfb "average_latency_ms" (by decide))
  have hc₁ := cmp_reading true 50 (hfb "success_rate" (by decide))
  have hc₂ := cmp_reading false 0 (hfb "average_latency_ms" (by decide))
  simp only [reading, ite_true, Bool.false_eq_true, ite_false] at ht₁ ht₂ hc₁ hc₂
  simp only [metricsAdvanced_iff hI hF, validateMetricsChanges, Value.contains_eq_ok_of_lookup,
    hI, hF, Option.isSome_some, Bool.not_true, Py.lift_ok_bind,
    Value.getItem_dict, hd₁, hd₂, hd₃, Value.get_dict, hc₁, hc₂, ht₁, ht₂]
  rw [Py.bind_of_ret (print_apply _ s)]
  simp only [check_apply, hv₁, hv₂, hv₃, decide_eq_true_eq, Bool.false_eq_true, ↓reduceIte]
  split_ifs with h₁ h₂ h₃ h₄ h₅ <;> refine ⟨_, _, rfl, ?_⟩
  · exact iff_of_false Bool.false_ne_true fun h => absurd h.1 (not_lt.2 h₁)
  · exact iff_of_false Bool.false_ne_true fun h => absurd h.2.1 (not_lt.2 h₂)
  · exact iff_of_false Bool.false_ne_true fun h => absurd h.2.2.1 (not_lt.2 h₃)
  · exact iff_of_false Bool.false_ne_true fun h => absurd h.2.2.2.1 (not_le.2 h₄)
  · exact iff_of_false Bool.false_ne_true fun h => absurd h.2.2.2.2 (not_lt.2 h₅)
  · exact iff_of_true rfl ⟨not_le.1 h₁, not_le.1 h₂, not_le.1 h₃, not_lt.1 h₄, not_le.1 h₅⟩

/-- A `body_capture` group before the traffic burst. -/
def steadyGroup : List (String × Value) :=
  [("attempts", .int 10), ("successes", .int 9), ("failures", .int 5), ("timeouts", .int 2),
   ("memory_errors", .int 1), ("success_rate", .float (.fin 90)),
   ("average_latency_ms", .float (.fin 12)),
   ("total_bytes_captured", .int 4096)]

/-- The group after it, from an agent whose `failures`, `timeouts` and `memory_errors`
    counters went back to zero. -/
def recoveredGroup : List (String × Value) :=
  [("attempts", .int 22), ("successes", .int 21), ("failures", .int 0), ("timeouts", .int 0),
   ("memory_errors", .int 0), ("success_rate", .float (.fin 95)),
   ("average_latency_ms", .float (.fin 11)),
   ("total_bytes_captured", .int 9000)]

/-- The snapshot the admin API serves holding a group. -/
def snapshotOf (group : List (String × Value)) : List (String × Value) :=
  [("body_capture", .dict group)]

theorem numericGroup_snapshotOf {group : List (String × Value)}
    (h : ∀ k ∈ readKeys, (reading group k).toFinite?.isSome) : NumericGroup (snapshotOf group) :=
  fun bc hbc => ⟨group, by simpa [snapshotOf] using hbc.symm, h⟩

/-- A group served as floats, after a burst from an empty group. -/
def grownGroup : List (String × Value) :=
  [("attempts", .float (.fin 3)), ("successes", .float (.fin 3)),
   ("success_rate", .float (.fin 100)), ("average_latency_ms", .float (.fin 2)),
   ("total_bytes_captured", .float (.fin 512))]

theorem validateMetricsChanges_spec_grown :
    NumericGroup (snapshotOf []) ∧ NumericGroup (snapshotOf grownGroup) ∧
      ∃ b s', validateMetricsChanges (.dict (snapshotOf [])) (.dict (snapshotOf grownGroup))
        ⟨[]⟩ = .ret b s' ∧ (b = true ↔ MetricsAdvanced (snapshotOf []) (snapshotOf grownGroup)) :=
  have he := @numericGroup_snapshotOf [] (by decide)
  have hg := @numericGroup_snapshotOf grownGroup (by decide)
  ⟨he, hg, validateMetricsChanges_spec _ _ he hg _⟩

/-- The admin API serves the steady group until the traffic burst and the recovered one after
    it; every proxied request succeeds. -/
def fallingWorld : World where
  admin t :=
    .answered 200 (.ok (.dict (snapshotOf (if t ≤ 1 then steadyGroup else recoveredGroup))))
  traffic _ _ := .answered 200 512

/-- `failures`, `timeouts` and `memory_errors` all went backwards, and still the check passes,
    and so does the whole of `verify_performance_metrics`. -/
theorem validateMetricsChanges_passes_falling_failures :
    (∀ k ∈ ["failures", "timeouts", "memory_errors"],
      metric recoveredGroup k < metric steadyGroup k) ∧
    (∃ s, validateMetricsChanges (.dict (snapshotOf steadyGroup))
      (.dict (snapshotOf recoveredGroup)) ⟨[]⟩ = .ret true s) ∧
    ∃ s, verifyPerformanceMetrics fallingWorld ⟨[]⟩ = .ret true s :=
  ⟨by decide, ⟨_, rfl⟩, ⟨_, rfl⟩⟩

-- ════════════════════════════════════════════════════════════════════════
-- The requests of the traffic phase
-- ════════════════════════════════════════════════════════════════════════

/-- The proxied requests among the actions from instant `t` on, each with whether it got
    status 200: an action's instant is its index. -/
def getCalls : Nat → List Event → List (String × Bool)
  | _, [] => []
  | t, e :: more =>
    match e with
    | .get url =>
      (url, match w.traffic t url with
        | .answered status _ => status == 200
        | .raised _ => false) :: getCalls (t + 1) more
    | _ => getCalls (t + 1) more

@[simp] theorem getCalls_append (t : Nat) (a b : List Event) :
    getCalls w t (a ++ b) = getCalls w t a ++ getCalls w (t + a.length) b := by
  induction a generalizing t with
  | nil => rfl
  | cons e a ih => cases e <;> simp [getCalls, ih, Nat.add_right_comm t 1, Nat.add_assoc]

/-- A proxied request raises nothing but `Exception`s: no `KeyboardInterrupt` comes. -/
def TrafficExceptionsOnly : Prop := ∀ t url e, w.traffic t url = .raised e → e.isException = true

section
variable {w}

/-- One pass of the inner loop makes its request and counts it iff it got status 200. -/
theorem sendRequest_get (hw : TrafficExceptionsOnly w) (count : Nat) (endpoint : String)
    (s : Test) : ∃ new ok, sendRequest w count endpoint s =
      .ret (if ok then count + 1 else count) ⟨s.trace ++ new⟩ ∧
      getCalls w s.trace.length new = [(endpoint, ok)] := by
  let pre : List Event := [.print ("  📤 Request " ++ toString (count + 1) ++ "/" ++
    toString totalRequests ++ ": " ++ endpoint), .get endpoint]
  have hpre : getCalls w s.trace.length pre = [(endpoint, match w.traffic (s.trace.length + 1) endpoint with
      | .answered status _ => status == 200
      | .raised _ => false)] := rfl
  cases hr : w.traffic (s.trace.length + 1) endpoint with
  | answered status bytes =>
    by_cases h200 : status = 200
    · refine ⟨pre ++ [.print ("    ✅ Success: " ++ toString bytes ++ " bytes"), .sleep 500], true,
        ?_, by simp [hpre, hr, h200, getCalls]⟩
      simp [sendRequest, Py.tryCatch, Py.bind_apply, now, sleep, emit, Py.modify, hr, h200, pre]
    · refine ⟨pre ++ [.print ("    ❌ Failed: HTTP " ++ toString status), .sleep 500], false,
        ?_, by simp [hpre, hr, h200, getCalls]⟩
      simp [sendRequest, Py.tryCatch, Py.bind_apply, now, sleep, emit, Py.modify, hr, h200, pre]
  | raised e =>
    refine ⟨pre ++ [.print ("    ❌ Request failed: " ++ e.msg)], false, ?_,
      by simp [hpre, hr, getCalls]⟩
    simp [sendRequest, Py.tryCatch, Py.bind_apply, now, emit, Py.modify, hr, hw _ _ _ hr, pre]

/-- The loops request every endpoint in order, and count the requests that got status 200. -/
theorem sendAll_get (hw : TrafficExceptionsOnly w) : ∀ (endpoints : List String) (count : Nat)
    (s : Test), ∃ new, sendAll w endpoints count s =
      .ret (count + (getCalls w s.trace.length new).countP Prod.snd) ⟨s.trace ++ new⟩ ∧
      (getCalls w s.trace.length new).map Prod.fst = endpoints
  | [], count, s => ⟨[], by simp [sendAll, getCalls], rfl⟩
  | endpoint :: more, count, s => by
    obtain ⟨new₁, ok, h₁, c₁⟩ := sendRequest_get hw count endpoint s
    obtain ⟨new₂, h₂, c₂⟩ := sendAll_get hw more _ ⟨s.trace ++ new₁⟩
    refine ⟨new₁ ++ new₂, ?_, by simp [c₁, ← c₂]⟩
    rw [sendAll, Py.bind_of_ret h₁, h₂]
    cases ok <;> simp [c₁, List.countP_append, Nat.add_assoc, Nat.add_comm 1]

/-- Unless an interrupt comes, `generate_test_traffic` requests each of the four endpoints
    three times, in order, whatever the proxy answers, and passes exactly when one of the
    twelve requests got status 200. -/
theorem generateTestTraffic_gets_every_endpoint (hw : TrafficExceptionsOnly w) (s : Test) :
    ∃ new, generateTestTraffic w s =
        .ret (decide (0 < (getCalls w s.trace.length new).countP Prod.snd)) ⟨s.trace ++ new⟩ ∧
      (getCalls w s.trace.length new).map Prod.fst = testEndpoints.flatMap fun e => [e, e, e] := by
  obtain ⟨new, h, c⟩ := sendAll_get hw (testEndpoints.flatMap fun e => [e, e, e]) 0
    ⟨s.trace ++ [.print "📡 Generating test traffic..."]⟩
  have hc : getCalls w s.trace.length (.print "📡 Generating test traffic..." :: new) =
      getCalls w (s.trace.length + 1) new := rfl
  let k := (getCalls w (s.trace.length + 1) new).countP Prod.snd
  refine ⟨.print "📡 Generating test traffic..." :: new ++
    [.print ("📊 Traffic generation complete: " ++ toString k ++ "/" ++ toString totalRequests ++
      " successful")], ?_, by simpa [hc, getCalls] using c⟩
  rw [generateTestTraffic, Py.bind_of_ret (print_apply _ _), Py.bind_of_ret h]
  simp [Py.bind_apply, getCalls, hc, k]

end

theorem generateTestTraffic_gets_every_endpoint_fallingWorld :
    TrafficExceptionsOnly fallingWorld ∧ ∃ new, generateTestTraffic fallingWorld ⟨[]⟩ =
        .ret (decide (0 < (getCalls fallingWorld 0 new).countP Prod.snd)) ⟨[] ++ new⟩ ∧
      (getCalls fallingWorld 0 new).map Prod.fst = testEndpoints.flatMap fun e => [e, e, e] :=
  have hw : TrafficExceptionsOnly fallingWorld := fun _ _ _ h => nomatch h
  ⟨hw, generateTestTraffic_gets_every_endpoint hw ⟨[]⟩⟩

-- ════════════════════════════════════════════════════════════════════════
-- What a passing verdict means
-- ════════════════════════════════════════════════════════════════════════

section
variable {w}

/-- `get_admin_metrics` makes one request, and returns the decoded body of a status-200 reply
    at that instant, or `None`. -/
theorem getAdminMetrics_ret {s s' : Test} {v : Value} (h : getAdminMetrics w s = .ret v s') :
    ∃ new, s'.trace = s.trace ++ .get "http://localhost:8082/metrics" :: new ∧
      (w.admin s.trace.length = .answered 200 (.ok v) ∨ v = .null) := by
  simp only [getAdminMetrics, Py.bind_apply, now, emit, Py.modify] at h
  cases ha : w.admin s.trace.length with
  | raised e =>
    cases he : e.isException <;> simp [ha, he, Py.tryCatch, Py.bind_apply] at h
    obtain ⟨rfl, rfl⟩ := h
    exact ⟨[.print ("❌ Failed to get admin metrics: " ++ e.msg)], by simp, .inr rfl⟩
  | answered status json =>
    by_cases h200 : status = 200
    · cases hj : json with
      | ok v' =>
        simp [ha, hj, h200, Py.tryCatch] at h
        obtain ⟨rfl, rfl⟩ := h
        exact ⟨[], by simp, .inl (by rw [h200])⟩
      | error e =>
        cases he : e.isException <;> simp [ha, hj, h200, he, Py.tryCatch, Py.bind_apply] at h
        obtain ⟨rfl, rfl⟩ := h
        exact ⟨[.print ("❌ Failed to get admin metrics: " ++ e.msg)], by simp, .inr rfl⟩
    · simp [ha, h200, Py.tryCatch, Py.bind_apply] at h
      obtain ⟨rfl, rfl⟩ := h
      exact ⟨[.print ("❌ Failed to get metrics: HTTP " ++ toString status)], by simp, .inr rfl⟩

theorem extends_print (line : String) : Py.Extends Test.trace (print line) :=
  Py.Extends.modify fun _ => List.prefix_append _ _

theorem extends_showMetric (bc : Value) (label key : String) (fmt : Value → Except PyExc String)
    (suffix : String) : Py.Extends Test.trace (showMetric bc label key fmt suffix) :=
  (Py.Extends.lift _ _).bind fun _ => (Py.Extends.lift _ _).bind fun _ => extends_print _

/-- Printing a snapshot only adds lines. -/
theorem extends_printBodyCaptureMetrics (metrics : Value) :
    Py.Extends Test.trace (printBodyCaptureMetrics metrics) :=
  (Py.Extends.lift _ _).bind fun _ => Py.Extends.ite ((Py.Extends.lift _ _).bind fun _ =>
    (extends_print _).seq <| (extends_showMetric _ _ _ _ _).seq <|
    (extends_showMetric _ _ _ _ _).seq <| (extends_showMetric _ _ _ _ _).seq <|
    (extends_showMetric _ _ _ _ _).seq <| (extends_showMetric _ _ _ _ _).seq <|
    (extends_showMetric _ _ _ _ _).seq <| (extends_showMetric _ _ _ _ _).seq
      (extends_showMetric _ _ _ _ _)) (extends_print _)

/-- A request the count of `getCalls` counts is in the trace, and got status 200 at its
    instant. -/
theorem getCalls_success {t : Nat} {new : List Event} {url : String}
    (h : (url, true) ∈ getCalls w t new) :
    ∃ i bytes, new[i]? = some (.get url) ∧ w.traffic (t + i) url = .answered 200 bytes := by
  induction new generalizing t with
  | nil => cases h
  | cons e new ih =>
    have step : (url, true) ∈ getCalls w (t + 1) new →
        ∃ i bytes, (e :: new)[i]? = some (.get url) ∧ w.traffic (t + i) url = .answered 200 bytes :=
      fun h => let ⟨i, bytes, hi, hb⟩ := ih h
        ⟨i + 1, bytes, by simpa using hi, by rw [← hb, Nat.add_right_comm, Nat.add_assoc]⟩
    cases e with
    | get u =>
      simp only [getCalls, List.mem_cons] at h
      rcases h with h | h
      · obtain ⟨rfl, hm⟩ := Prod.mk.inj h
        cases hr : w.traffic t url with
        | answered status bytes =>
          simp only [hr] at hm
          exact ⟨0, bytes, by simp, by rw [Nat.add_zero, hr, beq_iff_eq.1 hm.symm]⟩
        | raised e => simp [hr] at hm
      · exact step h
    | _ => exact step h

/-- A snapshot that `verify_performance_metrics` accepts came from a status-200 reply to the
    request it made at that instant. -/
theorem getAdminMetrics_truthy {s s' : Test} {v : Value} (h : getAdminMetrics w s = .ret v s')
    (hv : v.truthy = true) : s.trace <+: s'.trace ∧
    s'.trace[s.trace.length]? = some (.get "http://localhost:8082/metrics") ∧
    w.admin s.trace.length = .answered 200 (.ok v) := by
  obtain ⟨new, e, ha⟩ := getAdminMetrics_ret h
  refine ⟨by rw [e]; exact List.prefix_append _ _, ?_, ha.resolve_right ?_⟩
  · rw [e, List.getElem?_append_right le_rfl, Nat.sub_self, List.getElem?_cons_zero]
  · rintro rfl
    cases hv

/-- A traffic burst that passes made, after everything before it, a request to one of the test
    endpoints that got status 200. -/
theorem generateTestTraffic_true (hw : TrafficExceptionsOnly w) {s s' : Test}
    (h : generateTestTraffic w s = .ret true s') : s.trace <+: s'.trace ∧
    ∃ t url bytes, s.trace.length < t ∧ t < s'.trace.length ∧ s'.trace[t]? = some (.get url) ∧
      url ∈ testEndpoints ∧ w.traffic t url = .answered 200 bytes := by
  obtain ⟨new, hs, hmap⟩ := sendAll_get hw (testEndpoints.flatMap fun e => [e, e, e]) 0
    ⟨s.trace ++ [.print "📡 Generating test traffic..."]⟩
  rw [generateTestTraffic, Py.bind_of_ret (print_apply _ _), Py.bind_of_ret hs,
    Py.bind_of_ret (print_apply _ _)] at h
  obtain ⟨hok, rfl⟩ := Result.ret.inj h
  simp only [List.length_append, List.length_singleton] at hok hmap
  obtain ⟨url, hmem⟩ : ∃ url, (url, true) ∈ getCalls w (s.trace.length + 1) new := by
    simpa using hok
  obtain ⟨i, bytes, hget, htr⟩ := getCalls_success hmem
  have hi : i < new.length := (List.getElem?_eq_some_iff.1 hget).1
  refine ⟨(List.prefix_append _ _).trans <| (List.prefix_append _ _).trans (List.prefix_append _ _),
    _, url, bytes, by omega, by simp; omega, ?_, ?_, htr⟩
  · rw [List.getElem?_append_left (by simp; omega), List.getElem?_append_right (by simp)]
    simpa using hget
  · have := List.mem_map_of_mem Prod.fst hmem
    rw [hmap] at this
    simpa using this

/-- Unless an interrupt comes, a run of `verify_performance_metrics` that passes read its first
    snapshot from a status-200 reply, then got status 200 on a request to one of the test
    endpoints, then read its second snapshot from a status-200 reply, and the check passed on
    those two snapshots. -/
theorem verifyPerformanceMetrics_true (hw : TrafficExceptionsOnly w) {s s' : Test}
    (h : verifyPerformanceMetrics w s = .ret true s') :
    ∃ u initial final t₁ t t₂ url bytes, validateMetricsChanges initial final u = .ret true s' ∧
      initial.truthy ∧ final.truthy ∧ t₁ < t ∧ t < t₂ ∧
      u.trace[t₁]? = some (.get "http://localhost:8082/metrics") ∧
        w.admin t₁ = .answered 200 (.ok initial) ∧
      u.trace[t]? = some (.get url) ∧ url ∈ testEndpoints ∧ w.traffic t url = .answered 200 bytes ∧
      u.trace[t₂]? = some (.get "http://localhost:8082/metrics") ∧
        w.admin t₂ = .answered 200 (.ok final) := by
  have hfalse : ∀ line t, (print line >>= fun _ => pure false : Py Test Bool) t ≠ .ret true s' := by
    intro line t h; cases h
  have grow : ∀ {l₁ l₂ : List Event} {i : Nat} {e : Event}, l₁ <+: l₂ → l₁[i]? = some e →
      l₂[i]? = some e := fun ⟨l, hl⟩ he => by
    rw [← hl, List.getElem?_append_left (List.getElem?_eq_some_iff.1 he).1, he]
  -- the steps of the method, up to the check
  obtain ⟨_, s₁, -, h⟩ := Py.bind_eq_ret h
  obtain ⟨initial, s₂, h₂, h⟩ := Py.bind_eq_ret h
  dsimp only at h
  split_ifs at h with hi
  · exact absurd h (hfalse _ _)
  simp only [Py.pure_bind] at h
  obtain ⟨_, s₃, h₃, h⟩ := Py.bind_eq_ret h
  obtain ⟨_, s₄, h₄, h⟩ := Py.bind_eq_ret h
  obtain ⟨ok, s₅, h₅, h⟩ := Py.bind_eq_ret h
  split_ifs at h with hok
  · exact absurd h (hfalse _ _)
  obtain ⟨_, s₆, h₆, h⟩ := Py.bind_eq_ret h
  obtain ⟨final, s₇, h₇, h⟩ := Py.bind_eq_ret h
  split_ifs at h with hf
  · exact absurd h (hfalse _ _)
  obtain ⟨_, s₈, h₈, h⟩ := Py.bind_eq_ret h
  obtain ⟨_, s₉, h₉, hv⟩ := Py.bind_eq_ret h
  rw [print_apply] at h₃ h₈
  cases h₃; cases h₆; cases h₈
  simp only [Bool.not_eq_true', Bool.not_eq_false] at hi hok hf
  subst hok
  -- the two snapshots and the burst between them
  obtain ⟨p₂, i₂, a₂⟩ := getAdminMetrics_truthy h₂ hi
  obtain ⟨p₇, i₇, a₇⟩ := getAdminMetrics_truthy h₇ hf
  obtain ⟨p₅, t, url, bytes, ht₅, ht, i₅, hurl, htr⟩ := generateTestTraffic_true hw h₅
  -- each is still where it was in the trace the check starts from
  have q₇ : s₇.trace <+: s₉.trace :=
    (List.prefix_append _ _).trans (extends_printBodyCaptureMetrics final _ _ _ h₉)
  have q₅ : s₅.trace <+: s₉.trace := ((List.prefix_append _ _).trans p₇).trans q₇
  have q₂ : s₂.trace <+: s₄.trace :=
    (List.prefix_append _ _).trans (extends_printBodyCaptureMetrics initial _ _ _ h₄)
  have hl₂ := (List.getElem?_eq_some_iff.1 i₂).1
  have hl₄ := q₂.length_le
  refine ⟨s₉, initial, final, s₁.trace.length, t, s₅.trace.length + 1, url, bytes, hv, hi, hf,
    by omega, by omega, grow ((q₂.trans p₅).trans q₅) i₂, a₂, grow q₅ i₅, hurl, htr,
    grow q₇ (by simpa using i₇), by simpa using a₇⟩

end

theorem verifyPerformanceMetrics_true_fallingWorld :
    TrafficExceptionsOnly fallingWorld ∧
    ∃ s', verifyPerformanceMetrics fallingWorld ⟨[]⟩ = .ret true s' ∧
    ∃ u initial final t₁ t t₂ url bytes, validateMetricsChanges initial final u = .ret true s' ∧
      initial.truthy ∧ final.truthy ∧ t₁ < t ∧ t < t₂ ∧
      u.trace[t₁]? = some (.get "http://localhost:8082/metrics") ∧
        fallingWorld.admin t₁ = .answered 200 (.ok initial) ∧
      u.trace[t]? = some (.get url) ∧ url ∈ testEndpoints ∧
        fallingWorld.traffic t url = .answered 200 bytes ∧
      u.trace[t₂]? = some (.get "http://localhost:8082/metrics") ∧
        fallingWorld.admin t₂ = .answered 200 (.ok final) :=
  have hw : TrafficExceptionsOnly fallingWorld := fun _ _ _ h => nomatch h
  ⟨hw, _, rfl, @verifyPerformanceMetrics_true fallingWorld hw ⟨[]⟩ _ rfl⟩

end Proxxy.PerformanceTest

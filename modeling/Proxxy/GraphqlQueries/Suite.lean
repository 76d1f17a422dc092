import Proxxy.GraphqlQueries.Execute

/-!
# The GraphQL query suite

The eleven tests of `test_graphql_queries.py` and its `main`, which runs them, prints a
summary and exits 0 when every test passed and 1 otherwise.

`execute_graphql` answers a `bool`, and two tests use that answer as the reply document:
`test_request_detail` asks `"data" in list_result` and `test_response_body_capture_verification`
asks `"errors" in result`. On `True` both raise `TypeError`, which their `except` clauses
catch.

## Main results

- `testRequestDetail_posts` — for every server behaviour, `test_request_detail` posts the
  request list query and then the detail query with `dummy_request_id`, never another id.
- `testResponseBodyCaptureVerification_false` — when the server and the transport raise only
  `Exception`s, the body-capture verification returns `False`.
- `script_exits_one` — and then the script exits with status 1.
- `graphql_suite_ignores_replies` — the three together.
-/

namespace Proxxy.GraphqlQueries
open Python Python.Json

/-- The text of `query` in `test_basic_connectivity`. -/
def helloTestQuery : String :=
  "\n" ++
    "    query HelloTest \x7b\n" ++
    "        hello\n" ++
    "    \x7d\n" ++
    "    "

/-- The text of `query` in `test_project_listing`. -/
def getProjectsQuery : String :=
  "\n" ++
    "    query GetProjects \x7b\n" ++
    "        projects \x7b\n" ++
    "            name\n" ++
    "            isActive\n" ++
    "            path\n" ++
    "        \x7d\n" ++
    "    \x7d\n" ++
    "    "

/-- The text of `query` in `test_project_settings`. -/
def getBasicInfoQuery : String :=
  "\n" ++
    "    query GetBasicInfo \x7b\n" ++
    "        hello\n" ++
    "        projects \x7b\n" ++
    "            name\n" ++
    "            isActive\n" ++
    "        \x7d\n" ++
    "    \x7d\n" ++
    "    "

/-- The text of `query` in `test_agents_listing`. -/
def getAgentsQuery : String :=
  "\n" ++
    "    query GetAgents \x7b\n" ++
    "        agents \x7b\n" ++
    "            id\n" ++
    "            name\n" ++
    "            hostname\n" ++
    "            status\n" ++
    "            version\n" ++
    "            lastHeartbeat\n" ++
    "        \x7d\n" ++
    "    \x7d\n" ++
    "    "

/-- The text of `query` in `test_http_transactions`. -/
def getHttpTransactionsQuery : String :=
  "\n" ++
    "    query GetHttpTransactions \x7b\n" ++
    "        requests(agentId: null) \x7b\n" ++
    "            requestId\n" ++
    "            method\n" ++
    "            url\n" ++
    "            status\n" ++
    "            timestamp\n" ++
    "            agentId\n" ++
    "        \x7d\n" ++
    "    \x7d\n" ++
    "    "

/-- The text of `query` in `test_toggle_interception`. -/
def toggleInterceptionMutation : String :=
  "\n" ++
    "    mutation ToggleInterception($enabled: Boolean!) \x7b\n" ++
    "        toggleInterception(enabled: $enabled) \x7b\n" ++
    "            enabled\n" ++
    "            rules \x7b\n" ++
    "                id\n" ++
    "                name\n" ++
    "                enabled\n" ++
    "                conditionType\n" ++
    "                actionType\n" ++
    "            \x7d\n" ++
    "        \x7d\n" ++
    "    \x7d\n" ++
    "    "

/-- The text of `query` in `test_update_scope`. -/
def getHelloQuery : String :=
  "\n" ++
    "    query GetHello \x7b\n" ++
    "        hello\n" ++
    "    \x7d\n" ++
    "    "

/-- The text of `query` in `test_request_detail`. -/
def getRequestDetailQuery : String :=
  "\n" ++
    "    query GetRequestDetail($id: String!) \x7b\n" ++
    "        request(id: $id) \x7b\n" ++
    "            requestId\n" ++
    "            method\n" ++
    "            url\n" ++
    "            status\n" ++
    "            timestamp\n" ++
    "            agentId\n" ++
    "            requestHeaders\n" ++
    "            requestBody\n" ++
    "            responseHeaders\n" ++
    "            responseBody\n" ++
    "        \x7d\n" ++
    "    \x7d\n" ++
    "    "

/-- The text of `list_query` in `test_request_detail`. -/
def getRequestsQuery : String :=
  "\n" ++
    "    query GetRequests \x7b\n" ++
    "        requests(agentId: null) \x7b\n" ++
    "            requestId\n" ++
    "            method\n" ++
    "            url\n" ++
    "            status\n" ++
    "        \x7d\n" ++
    "    \x7d\n" ++
    "    "

/-- The text of `query` in `test_response_body_capture_verification`. -/
def getRecentRequestsQuery : String :=
  "\n" ++
    "    query GetRecentRequests \x7b\n" ++
    "        requests(agentId: null) \x7b\n" ++
    "            requestId\n" ++
    "            method\n" ++
    "            url\n" ++
    "            status\n" ++
    "            timestamp\n" ++
    "        \x7d\n" ++
    "    \x7d\n" ++
    "    "

/-- The text of `detail_query` in `test_response_body_capture_verification`. -/
def responseDetailQuery : String :=
  "\n" ++
    "            query GetRequestDetail($id: String!) \x7b\n" ++
    "                request(id: $id) \x7b\n" ++
    "                    requestId\n" ++
    "                    responseHeaders\n" ++
    "                    responseBody\n" ++
    "                \x7d\n" ++
    "            \x7d\n" ++
    "            "

/-- The text of `query` in `test_complex_combined_query`. -/
def completeStatusQuery : String :=
  "\n" ++
    "    query CompleteStatus \x7b\n" ++
    "        hello\n" ++
    "        projects \x7b\n" ++
    "            name\n" ++
    "            isActive\n" ++
    "            path\n" ++
    "        \x7d\n" ++
    "        agents \x7b\n" ++
    "            id\n" ++
    "            name\n" ++
    "            status\n" ++
    "            lastHeartbeat\n" ++
    "        \x7d\n" ++
    "        requests(agentId: null) \x7b\n" ++
    "            requestId\n" ++
    "            method\n" ++
    "            url\n" ++
    "            status\n" ++
    "            timestamp\n" ++
    "        \x7d\n" ++
    "    \x7d\n" ++
    "    "

/-- The text of `create_query` in `test_create_and_delete_project`. -/
def createProjectMutation : String :=
  "\n" ++
    "    mutation CreateProject($name: String!) \x7b\n" ++
    "        createProject(name: $name) \x7b\n" ++
    "            success\n" ++
    "            message\n" ++
    "        \x7d\n" ++
    "    \x7d\n" ++
    "    "

/-- The text of `delete_query` in `test_create_and_delete_project`. -/
def deleteProjectMutation : String :=
  "\n" ++
    "    mutation DeleteProject($name: String!) \x7b\n" ++
    "        deleteProject(name: $name) \x7b\n" ++
    "            success\n" ++
    "            message\n" ++
    "        \x7d\n" ++
    "    \x7d\n" ++
    "    "

variable (w : World)

/-- `GRAPHQL_URL`. -/
def graphqlUrl : String := "http://127.0.0.1:9090/graphql"

/-- `test_basic_connectivity`. -/
def testBasicConnectivity : Py Suite Bool :=
  executeGraphql w helloTestQuery .null "Basic Connectivity Test"

/-- `test_project_listing`. -/
def testProjectListing : Py Suite Bool :=
  executeGraphql w getProjectsQuery .null "Project Listing"

/-- `test_project_settings`. -/
def testProjectSettings : Py Suite Bool :=
  executeGraphql w getBasicInfoQuery .null "Basic Project Info (projectSettings not available)"

/-- `test_agents_listing`. -/
def testAgentsListing : Py Suite Bool :=
  executeGraphql w getAgentsQuery .null "Agents Listing"

/-- `test_http_transactions`. -/
def testHttpTransactions : Py Suite Bool :=
  executeGraphql w getHttpTransactionsQuery .null "HTTP Transactions Listing"

/-- `test_toggle_interception`. -/
def testToggleInterception : Py Suite Bool := do
  let success1 ← executeGraphql w toggleInterceptionMutation (.dict [("enabled", .bool false)])
    "Toggle Interception OFF"
  sleep 1000
  let success2 ← executeGraphql w toggleInterceptionMutation (.dict [("enabled", .bool true)])
    "Toggle Interception ON"
  pure (success1 && success2)

/-- `test_update_scope`. -/
def testUpdateScope : Py Suite Bool :=
  executeGraphql w getHelloQuery .null "Scope Update (Skipped - checking mutation signature)"

/-- The variables of the fallback detail query. -/
def dummyVariables : Value := .dict [("id", .str "dummy_request_id")]

/-- The `try` block of `test_request_detail`: the answer of the detail query when it returns
    from inside the block, `none` when it falls through to the dummy id. -/
def requestDetailFromList : Py Suite (Option Bool) := do
  let listResult := Value.bool (← executeGraphql w getRequestsQuery .null
    "Get Request List for Detail Test")
  if listResult.truthy then
    if ← Py.lift (listResult.contains "data") then
      let data ← Py.lift (listResult.getItem "data")
      let requestsList ← Py.lift (data.get "requests" (.list []))
      if requestsList.truthy then
        let first ← Py.lift (requestsList.getIndex 0)
        let testId ← Py.lift (first.getItem "requestId")
        print ("Using real request ID: " ++ pyStr testId)
        let answer ← executeGraphql w getRequestDetailQuery (.dict [("id", testId)])
          ("Request Detail (Real ID: " ++ pyStr testId ++ ")")
        pure (some answer)
      else do
        print "No requests found, using dummy ID"
        pure none
    else pure none
  else pure none

/-- `test_request_detail`. Its bare `except:` catches every exception. -/
def testRequestDetail : Py Suite Bool := do
  let found ← Py.tryCatch (requestDetailFromList w) (fun _ => true) fun _ => do
    print "Failed to get request list, using dummy ID"
    pure none
  match found with
  | some answer => pure answer
  | none => executeGraphql w getRequestDetailQuery dummyVariables "Request Detail (Dummy ID)"

/-- `if text and len(text.strip()) > 0`, for the response body and headers. -/
def hasText (text : Value) : Py Suite Bool :=
  if text.truthy then do
    let stripped ← Py.lift text.strip
    pure (decide (0 < stripped.length))
  else pure false

/-- The response body part of the loop of `test_response_body_capture_verification`:
    whether it counts as captured. -/
def reportBody (responseBody : Value) : Py Suite Bool := do
  if ← hasText responseBody then
    let n ← Py.lift responseBody.len
    print ("  ✅ Response body captured (" ++ toString n ++ " characters)")
    let preview ← if 100 < n then do
        let head ← Py.lift (responseBody.sliceTo 100)
        pure (pyStr head ++ "...")
      else pure (pyStr responseBody)
    print ("  📄 Preview: " ++ preview)
    pure true
  else do
    print "  ❌ Response body is empty or null"
    pure false

/-- The response headers part of the same loop. -/
def reportHeaders (responseHeaders : Value) : Py Suite Unit := do
  if ← hasText responseHeaders then
    let n ← Py.lift responseHeaders.len
    print ("  ✅ Response headers captured (" ++ toString n ++ " characters)")
  else print "  ❌ Response headers are empty or null"

/-- One pass of the loop of `test_response_body_capture_verification`, from
    `tested_count = tested` and `success_count = successes`. -/
def testRequest (req : Value) (tested successes : Nat) : Py Suite (Nat × Nat) := do
  let requestId ← Py.lift (req.getItem "requestId")
  print ("\nTesting request: " ++ pyStr requestId)
  let url ← Py.lift (req.get "url" (.str "N/A"))
  print ("  URL: " ++ pyStr url)
  let status ← Py.lift (req.get "status" (.str "N/A"))
  print ("  Status: " ++ pyStr status)
  let detailResult := Value.bool (← executeGraphql w responseDetailQuery
    (.dict [("id", requestId)]) ("Request Detail for " ++ pyStr requestId))
  if detailResult.truthy then
    if ← Py.lift (detailResult.contains "data") then
      let data ← Py.lift (detailResult.getItem "data")
      let requestDetail ← Py.lift (data.get "request" .null)
      if requestDetail.truthy then
        let responseBody ← Py.lift (requestDetail.get "responseBody" .null)
        let responseHeaders ← Py.lift (requestDetail.get "responseHeaders" .null)
        let captured ← reportBody responseBody
        reportHeaders responseHeaders
        pure (tested + 1, if captured then successes + 1 else successes)
      else pure (tested, successes)
    else pure (tested, successes)
  else pure (tested, successes)

/-- `for req in requests_list[:3]: ...`. -/
def testRequests : List Value → Nat → Nat → Py Suite (Nat × Nat)
  | [], tested, successes => pure (tested, successes)
  | req :: more, tested, successes => do
    let (tested, successes) ← testRequest w req tested successes
    testRequests more tested successes

/-- `(success_count / tested_count) * 100`, each operation rounded to a double. -/
def successRate (successes tested : Nat) : ℚ :=
  ((nearestDouble ((successes : ℚ) / tested)).bind fun q => nearestDouble (q * 100)).getD 0

/-- The `try` block of `test_response_body_capture_verification`. -/
def verifyCaptures : Py Suite Bool := do
  let result := Value.bool (← executeGraphql w getRecentRequestsQuery .null
    "Get Recent Requests")
  let failed ← if !result.truthy then pure true else Py.lift (result.contains "errors")
  if failed then do
    print "❌ Failed to get requests list"
    pure false
  else do
    let data ← Py.lift (result.get "data" (.dict []))
    let requestsList ← Py.lift (data.get "requests" (.list []))
    let count ← Py.lift requestsList.len
    print ("Found " ++ toString count ++ " total requests")
    if !requestsList.truthy then do
      print "⚠️  No requests found - response body capture cannot be tested"
      print "   Please generate some HTTP traffic through the proxy first"
      pure true
    else do
      let firstThree ← Py.lift (requestsList.sliceTo 3)
      let reqs ← Py.lift firstThree.iter
      let (tested, successes) ← testRequests w reqs 0 0
      print "\n📊 Response Body Capture Results:"
      print ("   Tested requests: " ++ toString tested)
      print ("   Successful captures: " ++ toString successes)
      if 0 < tested then do
        print ("   Success rate: " ++ fixedStr 1 (successRate successes tested) ++ "%")
        if 0 < successes then do
          print "✅ Response body capture is working!"
          pure true
        else do
          print "❌ Response body capture is not working"
          pure false
      else do
        print "⚠️  No requests could be tested"
        pure true

/-- `test_response_body_capture_verification`. -/
def testResponseBodyCaptureVerification : Py Suite Bool := do
  print ("\n" ++ rule)
  print "TEST: Response Body Capture Verification"
  print rule
  Py.tryCatch (verifyCaptures w) PyExc.isException fun e => do
    print ("❌ Response body verification failed: " ++ e.msg)
    pure false

/-- `test_complex_combined_query`. -/
def testComplexCombinedQuery : Py Suite Bool :=
  executeGraphql w completeStatusQuery .null "Complex Combined Query (Fixed)"

/-- `test_project_name` of `test_create_and_delete_project`. -/
def testProjectName : String := "graphql_test_project"

/-- `test_create_and_delete_project`. -/
def testCreateAndDeleteProject : Py Suite Bool := do
  let success1 ← executeGraphql w createProjectMutation (.dict [("name", .str testProjectName)])
    ("Create Project '" ++ testProjectName ++ "'")
  sleep 1000
  let success2 ← executeGraphql w deleteProjectMutation (.dict [("name", .str testProjectName)])
    ("Delete Project '" ++ testProjectName ++ "'")
  pure (success1 && success2)

/-- The `tests` list of `main`. -/
def tests : List (String × Py Suite Bool) :=
  [("Basic Connectivity", testBasicConnectivity w),
   ("Project Listing", testProjectListing w),
   ("Project Settings", testProjectSettings w),
   ("Agents Listing", testAgentsListing w),
   ("HTTP Transactions", testHttpTransactions w),
   ("Toggle Interception", testToggleInterception w),
   ("Update Scope", testUpdateScope w),
   ("Request Detail", testRequestDetail w),
   ("Response Body Capture Verification", testResponseBodyCaptureVerification w),
   ("Complex Combined Query", testComplexCombinedQuery w),
   ("Create/Delete Project", testCreateAndDeleteProject w)]

/-- The test loop of `main`, appending to `results`. -/
def runTests : List (String × Py Suite Bool) → List (String × Bool) →
    Py Suite (List (String × Bool))
  | [], results => pure results
  | (testName, test) :: more, results => do
    print ("\n🧪 Running: " ++ testName)
    let success ← Py.tryCatch test PyExc.isException fun e => do
      print ("❌ Test '" ++ testName ++ "' failed with exception: " ++ e.msg)
      pure false
    sleep 500
    runTests more (results ++ [(testName, success)])

/-- The summary `main` prints after the tests, ending with `sys.exit`. -/
def summary (results : List (String × Bool)) : Py Suite Unit := do
  print ("\n" ++ rule)
  print "📊 TEST RESULTS SUMMARY"
  print rule
  Py.forEach results fun r => print ((if r.2 then "✅ PASS" else "❌ FAIL") ++ " - " ++ r.1)
  let passed := results.countP (·.2)
  let failed := results.countP (!·.2)
  print "\n📈 Overall Results:"
  print ("   Passed: " ++ toString passed)
  print ("   Failed: " ++ toString failed)
  print ("   Total:  " ++ toString results.length)
  if failed = 0 then do
    print "\n🎉 ALL TESTS PASSED!"
    print "   GraphQL API is fully functional and accessible!"
    Py.raise ⟨.systemExit 0, "0"⟩
  else do
    print ("\n⚠️  " ++ toString failed ++ " TESTS FAILED")
    print "   Please check the orchestrator logs and GraphQL schema"
    Py.raise ⟨.systemExit 1, "1"⟩

/-- `main()`. -/
def main : Py Suite Unit := do
  print "🚀 Proxxy Orchestrator GraphQL API Test Suite"
  print rule
  print ("Testing GraphQL endpoint: " ++ graphqlUrl)
  print "Make sure the orchestrator is running with a project loaded!"
  print rule
  let results ← runTests (tests w) []
  summary results

/-- The `__main__` block: `main()` under `except KeyboardInterrupt` and `except Exception`,
    each of which prints a line and calls `sys.exit(1)`. -/
def script : Py Suite Unit :=
  Py.tryCatch (main w) (fun e => decide (e.cls = .keyboardInterrupt) || e.isException) fun e =>
    if e.cls = .keyboardInterrupt then do
      print "\n❌ Tests interrupted by user"
      Py.raise ⟨.systemExit 1, "1"⟩
    else do
      print ("\n❌ Unexpected error: " ++ e.msg)
      Py.raise ⟨.systemExit 1, "1"⟩

-- ════════════════════════════════════════════════════════════════════════
-- Which id the detail test asks for
-- ════════════════════════════════════════════════════════════════════════

/-- The queries a trace posts, with their variables, in order. -/
def posts (tr : List Event) : List (String × Value) :=
  tr.filterMap fun e => match e with
    | .post query vars => some (query, vars)
    | _ => none

@[simp] theorem posts_append (a b : List Event) : posts (a ++ b) = posts a ++ posts b :=
  List.filterMap_append _ _ _

@[simp] theorem posts_cons_post (query : String) (vars : Value) (tr : List Event) :
    posts (.post query vars :: tr) = (query, vars) :: posts tr := rfl

@[simp] theorem posts_cons_print (line : String) (tr : List Event) :
    posts (.print line :: tr) = posts tr := rfl

@[simp] theorem posts_cons_sleep (ms : Nat) (tr : List Event) :
    posts (.sleep ms :: tr) = posts tr := rfl

theorem payloadVariables_dummy : payloadVariables dummyVariables = dummyVariables := rfl

theorem posts_of_prints {tr : List Event} (h : ∀ e ∈ tr, e.isPrint = true) : posts tr = [] := by
  refine List.filterMap_eq_nil_iff.2 fun e he => ?_
  have := h e he
  cases e <;> simp_all [Event.isPrint]

/-- The `try` block of `test_request_detail` never returns from the test: `execute_graphql`
    answers a `bool`, and `"data" in True` raises `TypeError`. It posts the list query and
    then only prints. -/
theorem requestDetailFromList_falls_through (s : Suite) :
    (∀ a s', requestDetailFromList w s = .ret a s' → a = none) ∧
    ∃ new, (requestDetailFromList w s).state.trace =
      s.trace ++ .post getRequestsQuery (.dict []) :: new ∧ ∀ e ∈ new, e.isPrint = true := by
  obtain ⟨new, hnew, hp⟩ :=
    executeGraphql_trace w getRequestsQuery .null "Get Request List for Detail Test" s
  unfold requestDetailFromList
  rw [Py.bind_apply]
  cases hx : executeGraphql w getRequestsQuery .null "Get Request List for Detail Test" s with
  | ret b s₁ =>
    rw [hx] at hnew
    cases b
    · refine ⟨fun a s' h => ?_, new, hnew, hp⟩
      cases h
      rfl
    · refine ⟨fun a s' h => ?_, new, hnew, hp⟩
      cases h
  | raise e s₁ =>
    rw [hx] at hnew
    refine ⟨fun a s' h => ?_, new, hnew, hp⟩
    cases h

/-- For every server behaviour, `test_request_detail` posts the request list query and then
    the detail query with `dummy_request_id`: never the id of a listed request. -/
theorem testRequestDetail_posts (s : Suite) :
    ∃ new, (testRequestDetail w s).state.trace = s.trace ++ new ∧
      posts new = [(getRequestsQuery, .dict []), (getRequestDetailQuery, dummyVariables)] := by
  obtain ⟨hnone, n₁, h₁, p₁⟩ := requestDetailFromList_falls_through w s
  unfold testRequestDetail
  rw [Py.bind_apply]
  simp only [Py.tryCatch]
  cases hx : requestDetailFromList w s with
  | ret a s₁ =>
    rw [hx] at h₁
    obtain rfl := hnone a s₁ hx
    obtain ⟨n₂, h₂, p₂⟩ := executeGraphql_trace w getRequestDetailQuery dummyVariables
      "Request Detail (Dummy ID)" s₁
    refine ⟨.post getRequestsQuery (.dict []) :: n₁ ++ .post getRequestDetailQuery dummyVariables :: n₂,
      by rw [h₂, show s₁.trace = _ from h₁, payloadVariables_dummy]; simp, ?_⟩
    simp [posts_of_prints p₁, posts_of_prints p₂]
  | raise e s₁ =>
    rw [hx] at h₁
    obtain ⟨n₂, h₂, p₂⟩ := executeGraphql_trace w getRequestDetailQuery dummyVariables
      "Request Detail (Dummy ID)" ⟨s₁.trace ++ [.print "Failed to get request list, using dummy ID"]⟩
    refine ⟨.post getRequestsQuery (.dict []) :: n₁ ++
      .print "Failed to get request list, using dummy ID" :: .post getRequestDetailQuery dummyVariables :: n₂,
      ?_, ?_⟩
    · simp only [if_true, Py.bind_apply, print_apply, Py.pure_apply]
      rw [h₂, show s₁.trace = _ from h₁, payloadVariables_dummy]
      simp
    · simp [posts_of_prints p₁, posts_of_prints p₂]

-- ════════════════════════════════════════════════════════════════════════
-- The body-capture verification
-- ════════════════════════════════════════════════════════════════════════

/-- The `try` block of the verification answers `False`, or raises an exception its
    `except Exception` catches: on `True`, `"errors" in True` raises `TypeError`. -/
theorem verifyCaptures_false (hw : ExceptionsOnly w) (s : Suite) :
    (∃ s', verifyCaptures w s = .ret false s') ∨
      ∃ e s', verifyCaptures w s = .raise e s' ∧ e.isException = true := by
  obtain ⟨b, s₁, hb⟩ :=
    executeGraphql_returns w hw getRecentRequestsQuery .null "Get Recent Requests" s
  unfold verifyCaptures
  rw [Py.bind_of_ret hb]
  cases b
  · exact Or.inl ⟨_, rfl⟩
  · exact Or.inr ⟨_, _, rfl, rfl⟩

/-- When the server and the transport raise only `Exception`s, the body-capture verification
    returns `False`, whatever the server answers. -/
theorem testResponseBodyCaptureVerification_false (hw : ExceptionsOnly w) (s : Suite) :
    ∃ s', testResponseBodyCaptureVerification w s = .ret false s' := by
  unfold testResponseBodyCaptureVerification
  rw [Py.bind_of_ret (print_apply _ s), Py.bind_of_ret (print_apply _ _),
    Py.bind_of_ret (print_apply _ _)]
  simp only [Py.tryCatch]
  rcases verifyCaptures_false w hw ⟨s.trace ++ [_] ++ [_] ++ [_]⟩ with ⟨s', h⟩ | ⟨e, s', h, he⟩
  · rw [h]
    exact ⟨_, rfl⟩
  · rw [h]
    simp only [he, if_true]
    exact ⟨_, rfl⟩

-- ════════════════════════════════════════════════════════════════════════
-- The exit status
-- ════════════════════════════════════════════════════════════════════════

theorem returns_testToggleInterception (hw : ExceptionsOnly w) :
    Py.Returns (testToggleInterception w) :=
  (executeGraphql_returns w hw _ _ _).bind fun _ => (returns_emit _).seq <|
    (executeGraphql_returns w hw _ _ _).bind fun _ => Py.Returns.pure _

theorem returns_testCreateAndDeleteProject (hw : ExceptionsOnly w) :
    Py.Returns (testCreateAndDeleteProject w) :=
  (executeGraphql_returns w hw _ _ _).bind fun _ => (returns_emit _).seq <|
    (executeGraphql_returns w hw _ _ _).bind fun _ => Py.Returns.pure _

theorem returns_testRequestDetail (hw : ExceptionsOnly w) : Py.Returns (testRequestDetail w) := by
  refine (Py.RaisesOnly.tryCatch_returns (fun _ _ _ _ => rfl)
    fun _ => (returns_print _).seq (Py.Returns.pure _)).bind fun found => ?_
  cases found
  · exact executeGraphql_returns w hw _ _ _
  · exact Py.Returns.pure _

/-- Every test of the suite returns when the server and the transport raise only
    `Exception`s. -/
theorem returns_tests (hw : ExceptionsOnly w) : ∀ p ∈ tests w, Py.Returns p.2 := by
  have he := executeGraphql_returns w hw
  intro p hp
  simp only [tests, List.mem_cons, List.mem_singleton, List.not_mem_nil, or_false] at hp
  rcases hp with rfl | rfl | rfl | rfl | rfl | rfl | rfl | rfl | rfl | rfl | rfl
  all_goals first
    | exact he _ _ _
    | exact returns_testToggleInterception w hw
    | exact returns_testRequestDetail w hw
    | exact returns_testCreateAndDeleteProject w hw
    | exact fun s => ⟨_, testResponseBodyCaptureVerification_false w hw s⟩

/-- The test loop records every test's verdict; a test that always answers `False` is
    recorded as failed. -/
theorem runTests_spec (ts : List (String × Py Suite Bool)) (hr : ∀ p ∈ ts, Py.Returns p.2)
    (results : List (String × Bool)) (s : Suite) :
    ∃ rs s', runTests ts results s = .ret (results ++ rs) s' ∧
      ∀ p ∈ ts, (∀ s, ∃ s', p.2 s = .ret false s') → (p.1, false) ∈ rs := by
  induction ts generalizing results s with
  | nil => exact ⟨[], s, by simp [runTests], by simp⟩
  | cons p ts ih =>
    obtain ⟨testName, test⟩ := p
    obtain ⟨a, s₂, h₂⟩ :=
      hr _ (List.mem_cons_self _ _) ⟨s.trace ++ [.print ("\n🧪 Running: " ++ testName)]⟩
    dsimp only at h₂
    obtain ⟨rs, s', h, hmem⟩ := ih (fun q hq => hr q (List.mem_cons_of_mem _ hq))
      (results ++ [(testName, a)]) ⟨s₂.trace ++ [.sleep 500]⟩
    refine ⟨(testName, a) :: rs, s', ?_, ?_⟩
    · simp only [runTests, Py.bind_apply, print_apply, Py.tryCatch, h₂, emit_apply, sleep]
      rw [h]
      simp
    · intro q hq hfalse
      rcases List.mem_cons.1 hq with rfl | hq
      · obtain ⟨s'', hf⟩ := hfalse ⟨s.trace ++ [.print ("\n🧪 Running: " ++ testName)]⟩
        dsimp only at hf
        rw [hf] at h₂
        cases h₂
        exact List.mem_cons_self _ _
      · exact List.mem_cons_of_mem _ (hmem q hq hfalse)

theorem forEach_print_apply {α : Type} (f : α → String) (xs : List α) (s : Suite) :
    Py.forEach xs (fun x => print (f x)) s = .ret () ⟨s.trace ++ xs.map fun x => .print (f x)⟩ := by
  induction xs generalizing s with
  | nil => simp [Py.forEach]; rfl
  | cons x xs ih => simp [Py.forEach_cons, Py.bind_apply, ih]

/-- The summary ends with `sys.exit(1)` as soon as one test failed. -/
theorem summary_exits_one {results : List (String × Bool)} (h : (results.countP fun r => !r.2) ≠ 0)
    (s : Suite) : ∃ s', summary results s = .raise ⟨.systemExit 1, "1"⟩ s' := by
  simp only [summary, Py.bind_apply, print_apply, forEach_print_apply, h, if_false]
  exact ⟨_, rfl⟩

theorem verification_mem_tests :
    ("Response Body Capture Verification", testResponseBodyCaptureVerification w) ∈ tests w :=
  .tail _ <| .tail _ <| .tail _ <| .tail _ <| .tail _ <| .tail _ <| .tail _ <| .tail _ <| .head _

/-- `main` ends with `sys.exit(1)`: the body-capture verification always fails. -/
theorem main_raises_exit_one (hw : ExceptionsOnly w) (s : Suite) :
    ∃ s', main w s = .raise ⟨.systemExit 1, "1"⟩ s' := by
  unfold main
  rw [Py.bind_of_ret (print_apply _ s), Py.bind_of_ret (print_apply _ _),
    Py.bind_of_ret (print_apply _ _), Py.bind_of_ret (print_apply _ _),
    Py.bind_of_ret (print_apply _ _)]
  obtain ⟨rs, s', hrun, hmem⟩ := runTests_spec (tests w) (returns_tests w hw) [] ⟨_⟩
  rw [Py.bind_of_ret hrun]
  have hv := hmem _ (verification_mem_tests w) (testResponseBodyCaptureVerification_false w hw)
  exact summary_exits_one (List.countP_pos_iff.2 ⟨_, hv, rfl⟩).ne' _

theorem script_exits_one (hw : ExceptionsOnly w) (s : Suite) :
    exitStatus (script w s) = .code 1 := by
  obtain ⟨s', h⟩ := main_raises_exit_one w hw s
  simp only [script, Py.tryCatch, h]
  rfl

/-- For every server behaviour whose failures are `Exception`s: `test_request_detail` asks
    for `dummy_request_id`, the body-capture verification returns `False`, and the suite
    exits with status 1. -/
theorem graphql_suite_ignores_replies (w : World) (hw : ExceptionsOnly w) (s : Suite) :
    (∃ new, (testRequestDetail w s).state.trace = s.trace ++ new ∧
      posts new = [(getRequestsQuery, .dict []), (getRequestDetailQuery, dummyVariables)]) ∧
    (∃ s', testResponseBodyCaptureVerification w s = .ret false s') ∧
    exitStatus (script w s) = .code 1 :=
  ⟨testRequestDetail_posts w s, testResponseBodyCaptureVerification_false w hw s,
    script_exits_one w hw s⟩

/-- A request the proxy captured. -/
def capturedRequest : Value :=
  .dict [("requestId", .str "r1"), ("method", .str "GET"),
    ("url", .str "http://127.0.0.1:8000/api/json"), ("status", .int 200)]

/-- A server that answers every query and mutation without errors: the request lists hold
    `capturedRequest`, and its detail holds a captured body and headers. -/
def capturedWorld : World where
  post _ query _ :=
    if query = getRequestsQuery ∨ query = getRecentRequestsQuery ∨
        query = getHttpTransactionsQuery then
      .ok (.dict [("data", .dict [("requests", .list [capturedRequest])])])
    else if query = getRequestDetailQuery ∨ query = responseDetailQuery then
      .ok (.dict [("data", .dict [("request", .dict [("requestId", .str "r1"),
        ("responseHeaders", .str "content-type: application/json"),
        ("responseBody", .str "captured body")])])])
    else .ok (.dict [("data", .dict [])])

theorem exceptionsOnly_capturedWorld : ExceptionsOnly capturedWorld := by
  intro t q v e he
  simp only [capturedWorld] at he
  split_ifs at he

theorem graphql_suite_ignores_replies_captured :
    ExceptionsOnly capturedWorld ∧
    ((∃ new, (testRequestDetail capturedWorld ⟨[]⟩).state.trace = [] ++ new ∧
      posts new = [(getRequestsQuery, .dict []), (getRequestDetailQuery, dummyVariables)]) ∧
    (∃ s', testResponseBodyCaptureVerification capturedWorld ⟨[]⟩ = .ret false s') ∧
    exitStatus (script capturedWorld ⟨[]⟩) = .code 1) :=
  ⟨exceptionsOnly_capturedWorld,
    graphql_suite_ignores_replies capturedWorld exceptionsOnly_capturedWorld ⟨[]⟩⟩

end Proxxy.GraphqlQueries

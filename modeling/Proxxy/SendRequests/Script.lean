import Proxxy.Python.Exec

/-!
# Sending the test requests

`send_test_requests.py` sends twelve requests through the proxy to the test site, one after
the other with a one-second pause between them. Each request carries six default headers,
updated by the request's own. A request that fails is reported and skipped: `send_request`
catches every `Exception`.

## Main results

- `main_sends_every_request` — when the proxy fails only with ordinary exceptions, `main`
  returns, and the requests it sends are the twelve of the list, in order, each with the
  default headers updated by its own, whichever of them fail.
-/

namespace Proxxy.SendRequests
open Python

/-- The arguments of `requests.request` that vary. -/
structure Request where
  method : String
  url : String
  headers : List (String × String)
  data : Option String
  deriving DecidableEq, Repr

/-- How the proxy answers a request at each instant: the status and `len(response.content)`,
    or the exception `requests.request` raises. -/
structure World where
  request : Nat → Request → Except PyExc (Nat × Nat)

/-- One action of the script. -/
inductive Event where
  /-- Text written to stdout. -/
  | out (text : String)
  | sleep (ms : Nat)
  | request (r : Request)
  deriving DecidableEq, Repr

/-- The script's state: the trace of its actions. -/
structure Script where
  trace : List Event

variable (w : World)

/-- Record an action. -/
def emit (e : Event) : Py Script Unit := Py.modify fun s => ⟨s.trace ++ [e]⟩

/-- `print(line)`. -/
def print (line : String) : Py Script Unit := emit (.out (line ++ "\n"))

/-- The current instant. -/
def now : Py Script Nat := fun s => .ret s.trace.length s

/-- `TARGET_BASE`. -/
def targetBase : String := "http://testphp.vulnweb.com"

/-- The `default_headers` of `send_request`. -/
def defaultHeaders : List (String × String) :=
  [("User-Agent", "Proxxy-Test-Client/1.0"),
   ("Accept", "text/html,application/xhtml+xml,application/xml;q=0.9,*/*;q=0.8"),
   ("Accept-Language", "en-US,en;q=0.5"), ("Accept-Encoding", "gzip, deflate"),
   ("Connection", "keep-alive"), ("Upgrade-Insecure-Requests", "1")]

/-- What `send_request(method, path, data, headers)` passes to `requests.request`: `if
    headers: default_headers.update(headers)`. -/
def requestOf (method path : String) (data : Option String)
    (headers : Option (List (String × String))) : Request where
  method := method
  url := targetBase ++ path
  headers := match headers with
    | some h => if h.isEmpty then defaultHeaders else updateItems defaultHeaders h
    | none => defaultHeaders
  data := data

/-- `send_request`: the status and length of the response, or `None` after an exception other
    than `KeyboardInterrupt` and `SystemExit`. -/
def sendRequest (method path : String) (data : Option String)
    (headers : Option (List (String × String))) : Py Script (Option (Nat × Nat)) := do
  let req := requestOf method path data headers
  Py.tryCatch (do
      print ("🚀 Gönderiliyor: " ++ method ++ " " ++ req.url)
      let t ← now
      emit (.request req)
      let answer ← Py.lift (w.request t req)
      print ("✅ Yanıt: " ++ toString answer.1 ++ " - " ++ toString answer.2 ++ " bytes")
      pure (some answer))
    PyExc.isException
    fun e => do
      print ("❌ Hata: " ++ e.msg)
      pure none

/-- One entry of `test_requests`: method, path, data and headers. -/
abbrev Entry := String × String × Option String × Option (List (String × String))

/-- `test_requests` of `main`. -/
def testRequests : List Entry :=
  [("GET", "/", none, none), ("GET", "/artists.php", none, none),
   ("GET", "/categories.php", none, none), ("GET", "/pictures/", none, none),
   ("GET", "/login.php", none, none),
   ("POST", "/login.php", some "uname=test&pass=test123",
     some [("Content-Type", "application/x-www-form-urlencoded")]),
   ("POST", "/search.php", some "searchFor=test",
     some [("Content-Type", "application/x-www-form-urlencoded")]),
   ("PUT", "/test-endpoint", some "\x7b\"test\": \"data\"\x7d",
     some [("Content-Type", "application/json")]),
   ("DELETE", "/test-resource", none, none), ("OPTIONS", "/", none, none),
   ("HEAD", "/", none, none),
   ("PATCH", "/test-resource", some "\x7b\"update\": \"value\"\x7d",
     some [("Content-Type", "application/json")])]

/-- The request an entry of `test_requests` makes. -/
def Entry.request (entry : Entry) : Request :=
  requestOf entry.1 entry.2.1 entry.2.2.1 entry.2.2.2

/-- The loop of `main` from its `i`-th turn on, over `total` requests. -/
def sendAll (total : Nat) : Nat → List Entry → Py Script Unit
  | _, [] => pure ()
  | i, (method, path, data, headers) :: more => do
    emit (.out ("\n[" ++ toString i ++ "/" ++ toString total ++ "] "))
    let _ ← sendRequest w method path data headers
    emit (.sleep 1000)
    sendAll total (i + 1) more

/-- `"=" * 60`. -/
def rule : String := String.mk (List.replicate 60 '=')

/-- `main()`. -/
def main : Py Script Unit := do
  print "🎯 testphp.vulnweb.com'a test istekleri gönderiliyor..."
  print rule
  sendAll w testRequests.length 1 testRequests
  print ("\n" ++ rule)
  print "✅ Tüm test istekleri gönderildi!"
  print "📊 GraphQL ile logları kontrol edebilirsiniz:"
  print "   curl -X POST http://127.0.0.1:9090/graphql \\"
  print "     -H \"Content-Type: application/json\" \\"
  print "     -d '\x7b\"query\": \"query \x7b requests(agentId: null) \x7b requestId method url status timestamp \x7d \x7d\"\x7d'"

-- ════════════════════════════════════════════════════════════════════════
-- The requests sent
-- ════════════════════════════════════════════════════════════════════════

/-- The requests among a script's actions, in order. -/
def requestsIn : List Event → List Request
  | [] => []
  | .request r :: more => r :: requestsIn more
  | _ :: more => requestsIn more

@[simp] theorem requestsIn_append (xs ys : List Event) :
    requestsIn (xs ++ ys) = requestsIn xs ++ requestsIn ys := by
  induction xs with
  | nil => rfl
  | cons e xs ih => cases e <;> simp [requestsIn, ih]

/-- The proxy fails only with exceptions `except Exception` catches. -/
def OrdinaryFailures : Prop := ∀ t r e, w.request t r = .error e → e.isException = true

@[simp] theorem emit_apply (e : Event) (s : Script) : emit e s = .ret () ⟨s.trace ++ [e]⟩ := rfl

@[simp] theorem print_apply (line : String) (s : Script) :
    print line s = .ret () ⟨s.trace ++ [.out (line ++ "\n")]⟩ := rfl

/-- One request: it returns and sends exactly its request, whether it fails or not. -/
theorem sendRequest_spec (hw : OrdinaryFailures w) (method path : String) (data : Option String)
    (headers : Option (List (String × String))) (s : Script) :
    ∃ a new, sendRequest w method path data headers s = .ret a ⟨s.trace ++ new⟩ ∧
      requestsIn new = [requestOf method path data headers] := by
  unfold sendRequest
  cases hr : w.request (s.trace.length + 1) (requestOf method path data headers) with
  | ok answer =>
    simp only [Py.tryCatch, Py.bind_apply, print_apply, now, emit_apply, Py.lift,
      Py.pure_apply, List.append_assoc, List.singleton_append, List.length_append,
      List.length_singleton, hr]
    exact ⟨_, _, rfl, by simp [requestsIn]⟩
  | error e =>
    simp only [Py.tryCatch, Py.bind_apply, print_apply, now, emit_apply, Py.lift,
      Py.pure_apply, List.append_assoc, List.singleton_append, List.length_append,
      List.length_singleton, hr, hw _ _ _ hr]
    exact ⟨_, _, rfl, by simp [requestsIn]⟩

theorem sendAll_spec (hw : OrdinaryFailures w) (total : Nat) :
    ∀ (entries : List Entry) (i : Nat) (s : Script), ∃ new,
      sendAll w total i entries s = .ret () ⟨s.trace ++ new⟩ ∧
        requestsIn new = entries.map Entry.request
  | [], _, s => ⟨[], by simp [sendAll], rfl⟩
  | (method, path, data, headers) :: more, i, s => by
    let turn : Event := .out ("\n[" ++ toString i ++ "/" ++ toString total ++ "] ")
    obtain ⟨_, new₁, h₁, r₁⟩ := sendRequest_spec w hw method path data headers
      ⟨s.trace ++ [turn]⟩
    obtain ⟨new₂, h₂, r₂⟩ := sendAll_spec hw total more (i + 1)
      ⟨s.trace ++ [turn] ++ new₁ ++ [.sleep 1000]⟩
    refine ⟨[turn] ++ new₁ ++ [.sleep 1000] ++ new₂, ?_, ?_⟩
    · rw [sendAll, Py.bind_of_ret (emit_apply _ s), Py.bind_of_ret h₁,
        Py.bind_of_ret (emit_apply _ _)]
      exact h₂.trans (by simp)
    · simp [requestsIn, r₁, r₂, Entry.request, turn]

/-- When the proxy fails only with ordinary exceptions, `main` returns, and the requests it
    sends are the twelve of `test_requests`, in order, each to the test site with the default
    headers updated by its own, whichever of them fail. -/
theorem main_sends_every_request (hw : OrdinaryFailures w) (s : Script) :
    ∃ new, main w s = .ret () ⟨s.trace ++ new⟩ ∧
      requestsIn new = testRequests.map Entry.request := by
  let s₁ := (print "🎯 testphp.vulnweb.com'a test istekleri gönderiliyor..." s).state
  obtain ⟨new, h, r⟩ := sendAll_spec w hw testRequests.length testRequests 1
    (print rule s₁).state
  rw [main, Py.bind_of_ret (print_apply _ s), Py.bind_of_ret (print_apply _ _)]
  erw [Py.bind_of_ret h]
  simp [s₁, Result.state, Py.bind_apply, requestsIn, r]

/-- A proxy that refuses every connection. -/
def unreachableProxy : World := ⟨fun _ _ => .error ⟨.requestException, "Connection refused"⟩⟩

theorem main_sends_every_request_unreachable :
    OrdinaryFailures unreachableProxy ∧ ∃ new, main unreachableProxy ⟨[]⟩ = .ret () ⟨[] ++ new⟩ ∧
      requestsIn new = testRequests.map Entry.request :=
  ⟨fun _ _ _ h => by cases h; rfl,
    main_sends_every_request unreachableProxy (fun _ _ _ h => by cases h; rfl) ⟨[]⟩⟩

end Proxxy.SendRequests
